import Playback.Coding.Inflate

/-!
# Gzip

A header, deflated data, and a check of the bytes by a cyclic redundancy code and their number.
-/

namespace Playback.Gzip

open Deflate

/-- One bit of the cyclic redundancy code. -/
def crcBit (c : UInt32) : UInt32 :=
  if c &&& 1 = 1 then (c >>> 1) ^^^ 0xEDB88320 else c >>> 1

/-- The code after one more byte. -/
def crcByte (c : UInt32) (b : UInt8) : UInt32 :=
  crcBit (crcBit (crcBit (crcBit (crcBit (crcBit (crcBit (crcBit (c ^^^ b.toUInt32))))))))

/-- The cyclic redundancy code of bytes. -/
def crc (data : Bytes) : UInt32 :=
  data.foldl crcByte 0xFFFFFFFF ^^^ 0xFFFFFFFF

/-- The two bytes that a stream starts with. -/
def marker : Bytes := [0x1F, 0x8B]

/-- The method number of deflated data. -/
def deflated : UInt8 := 8

/-- What follows the next zero byte. -/
def afterZero? : Bytes → Option Bytes
  | [] => none
  | b :: rest => if b = 0 then some rest else afterZero? rest

/-- The data after a header. Bits of `flags` announce an extra field, a name, a comment and a check
of the header itself; the three highest bits must be clear. -/
def afterHeader? (data : Bytes) : Option Bytes := do
  let flags := data.getD 3 0
  let has (bit : Nat) : Bool := flags.toNat.testBit bit
  if data.length < 10 ∨ data.take 2 ≠ marker ∨ data.getD 2 0 ≠ deflated ∨ 32 ≤ flags.toNat then none
  else
    let rest := data.drop 10
    let rest ←
      if has 2 then
        let length := numberOf (rest.take 2)
        if rest.length < 2 + length then none else some (rest.drop (2 + length))
      else some rest
    let rest ← if has 3 then afterZero? rest else some rest
    let rest ← if has 4 then afterZero? rest else some rest
    if has 1 then
      let header := data.take (data.length - rest.length)
      if 2 ≤ rest.length ∧ numberOf (rest.take 2) = (crc header).toNat % 65536 then
        some (rest.drop 2)
      else none
    else some rest

/-- Unpacks the first member of a stream. -/
def decode (data : Bytes) : Option Bytes := do
  let (bytes, rest) ← inflate (← afterHeader? data)
  if 8 ≤ rest.length ∧ numberOf (rest.take 4) = (crc bytes).toNat ∧
      numberOf ((rest.drop 4).take 4) = bytes.length % 2 ^ 32 then
    some bytes
  else none

/-- The header of a stream without name and time. -/
def header : Bytes :=
  marker ++ [deflated, 0, 0, 0, 0, 0, 0, 255]

def encode (data : Bytes) : Bytes :=
  header ++ store data ++ littleEndian 4 (crc data).toNat ++ littleEndian 4 data.length

end Playback.Gzip
