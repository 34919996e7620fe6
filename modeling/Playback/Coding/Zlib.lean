import Playback.Coding.Inflate

/-!
# Zlib

A header of two bytes, deflated data, and a checksum. As a content coding it is called `deflate`,
and deflated data without the wrapping passes too.
-/

namespace Playback.Zlib

open Deflate

/-- The modulus of the checksum. -/
def modulus : Nat := 65521

/-- The checksum of bytes: the sum of the bytes and the sum of those sums. -/
def checksum (data : Bytes) : Nat :=
  let (a, b) := data.foldl
    (fun (a, b) x =>
      let a := (a + x.toNat) % modulus
      (a, (b + a) % modulus)) (1, 0)
  65536 * b + a

/-- A number in four bytes, the highest first. -/
def bigEndian (value : Nat) : Bytes :=
  (littleEndian 4 value).reverse

/-- Unpacks a stream with header and checksum. -/
def decodeWrapped (data : Bytes) : Option Bytes := do
  match data with
  | method :: flags :: rest =>
    if method.toNat % 16 = 8 ∧ method.toNat / 16 ≤ 7 ∧ ¬ flags.toNat.testBit 5 ∧
        (256 * method.toNat + flags.toNat) % 31 = 0 then
      let (bytes, rest) ← inflate rest
      if 4 ≤ rest.length ∧ numberOf (rest.take 4).reverse = checksum bytes then some bytes else none
    else none
  | _ => none

/-- Unpacks a stream, wrapped or bare. -/
def decode (data : Bytes) : Option Bytes :=
  (decodeWrapped data).or ((inflate data).map Prod.fst)

def encode (data : Bytes) : Bytes :=
  [0x78, 0x9C] ++ store data ++ bigEndian (checksum data)

end Playback.Zlib
