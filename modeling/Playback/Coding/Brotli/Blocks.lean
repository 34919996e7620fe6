import Playback.Coding.Brotli.Alphabet

/-!
# Block types and contexts

Literals, commands and distances each come in blocks of several types. The type of the block and the
context of a symbol together choose the prefix code that the symbol is read with.
-/

namespace Playback.Brotli

open BitReading

/-- A number from 1 to 256. -/
def readCount : BitReading Nat := do
  if ← bit then
    let n ← number 3
    pure (1 + 2 ^ n + (← number n))
  else pure 1

/-- Base and number of extra bits of each symbol for a block length. -/
def blockLengths : List (Nat × Nat) := [
  (1, 2), (5, 2), (9, 2), (13, 2), (17, 3), (25, 3), (33, 3), (41, 3), (49, 4), (65, 4), (81, 4),
  (97, 4), (113, 5), (145, 5), (177, 5), (209, 5), (241, 6), (305, 6), (369, 7), (497, 8),
  (753, 9), (1265, 10), (2289, 11), (4337, 12), (8433, 13), (16625, 24)]

/-- A value with a base and extra bits, chosen by a symbol. -/
def extended (codes : List (Nat × Nat)) (symbol : Nat) : BitReading Nat := do
  match codes[symbol]? with
  | none => fail
  | some (base, extra) => pure (base + (← number extra))

/-- The blocks of one kind of symbol: how many types there are, the codes for types and lengths, the
current and the previous type, and the number of symbols left in the current block. -/
structure Blocks where
  types : Nat
  typeCode : PrefixCode
  lengthCode : PrefixCode
  current : Nat
  previous : Nat
  left : Nat

namespace Blocks

/-- Reads the description of the blocks of one kind. -/
def read : BitReading Blocks := do
  let types ← readCount
  if types = 1 then pure ⟨1, .single 0, .single 0, 0, 1, 2 ^ 24⟩
  else
    let typeCode ← readCode (types + 2)
    let lengthCode ← readCode 26
    let left ← extended blockLengths (← lengthCode.read)
    pure ⟨types, typeCode, lengthCode, 0, 1, left⟩

/-- Accounts for one more symbol; at the end of a block the next one begins. -/
def advance (b : Blocks) : BitReading Blocks := do
  if 0 < b.left then pure { b with left := b.left - 1 }
  else
    check (2 ≤ b.types)
    let symbol ← b.typeCode.read
    let type :=
      if symbol = 0 then b.previous else if symbol = 1 then b.current + 1 else symbol - 2
    let type := if b.types ≤ type then type - b.types else type
    let left ← extended blockLengths (← b.lengthCode.read)
    pure { b with current := type, previous := b.current, left := left - 1 }

end Blocks

/-- Reads the entries of a context map, in which runs of zeros are shortened. -/
def readEntries (code : PrefixCode) (longest size : Nat) :
    Nat → Array Nat → BitReading (Array Nat)
  | 0, _ => fail
  | fuel + 1, entries => do
    if entries.size = size then pure entries
    else
      let symbol ← code.read
      if symbol = 0 then readEntries code longest size fuel (entries.push 0)
      else if symbol ≤ longest then
        let n := 2 ^ symbol + (← number symbol)
        check (entries.size + n ≤ size)
        readEntries code longest size fuel (entries ++ Array.replicate n 0)
      else readEntries code longest size fuel (entries.push (symbol - longest))

/-- Replaces places in a list that is rearranged by moving each entry used to the front by the
entries themselves. -/
def moveToFront (places : List Nat) : List Nat :=
  (places.foldl
    (fun (front, out) place =>
      let entry := front.getD place 0
      (entry :: front.eraseIdx place, out.push entry))
    (List.range 256, (#[] : Array Nat))).2.toList

/-- Reads a context map of the size given, with the number of prefix codes it refers to. -/
def readMap (size : Nat) : BitReading (Nat × Array Nat) := do
  let trees ← readCount
  if trees = 1 then pure (1, Array.replicate size 0)
  else
    let longest ← if ← bit then (1 + ·) <$> number 4 else pure 0
    let code ← readCode (trees + longest)
    let entries ← readEntries code longest size (size + 1) #[]
    let entries := if ← bit then (moveToFront entries.toList).toArray else entries
    pure (trees, entries)

/-- The part of a text context that the last byte decides. -/
def textContext (b : UInt8) : Nat :=
  let c := Char.ofNat b.toNat
  if b ≥ 0xC0 then 2 + b.toNat % 2
  else if b ≥ 0x80 then b.toNat % 2
  else if c = '\t' || c = '\n' || c = '\r' then 4
  else if b < 0x20 || b = 0x7F then 0
  else if c = ' ' then 8
  else if c = '"' || c = '\'' then 16
  else if c = '%' then 20
  else if c = '(' then 24
  else if c = ')' then 28
  else if c = ',' then 32
  else if c = '.' then 36
  else if c.isDigit then 44
  else if c = ':' || c = ';' then 32
  else if c = '<' || c = '[' || c = '\x7b' then 24
  else if c = '=' then 40
  else if c = '>' || c = ']' || c = '\x7d' then 28
  else if ['A', 'E', 'I', 'O', 'U'].contains c then 48
  else if c.isUpper then 52
  else if ['a', 'e', 'i', 'o', 'u'].contains c then 56
  else if c.isLower then 60
  else 12

/-- The part of a text context that the byte before the last one decides. -/
def earlierTextContext (b : UInt8) : Nat :=
  let c := Char.ofNat b.toNat
  if b ≥ 0xE0 then 2
  else if b ≥ 0x80 || b ≤ 0x20 || b = 0x7F then 0
  else if c.isDigit || c.isUpper then 2
  else if c.isLower then 3
  else 1

/-- The magnitude class of a byte taken as a signed number. -/
def signedContext (b : UInt8) : Nat :=
  if b = 0 then 0
  else if b < 16 then 1
  else if b < 64 then 2
  else if b < 128 then 3
  else if b < 192 then 4
  else if b < 240 then 5
  else if b < 255 then 6
  else 7

/-- The context of a literal after two bytes, in one of four modes. -/
def literalContext (mode : Nat) (last earlier : UInt8) : Nat :=
  match mode with
  | 0 => last.toNat % 64
  | 1 => last.toNat / 4
  | 2 => textContext last ||| earlierTextContext earlier
  | _ => 8 * signedContext last + signedContext earlier

/-- The context of a distance after a copy length. -/
def distanceContext (length : Nat) : Nat :=
  min (length - 2) 3

end Playback.Brotli
