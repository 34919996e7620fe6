import Playback.Coding.PrefixCode

/-!
# Prefix codes of brotli data

How a stream sends a prefix code: simply, as up to four symbols, or as the word lengths of all
symbols, which are prefix-coded themselves.
-/

namespace Playback.Brotli

open BitReading

/-- The number of bits that tell apart `n` values. -/
def bitsFor (n : Nat) : Nat :=
  if n ≤ 1 then 0 else Nat.log2 (n - 1) + 1

/-- The word lengths of symbols that are listed with their lengths. -/
def lengthsOf (alphabet : Nat) (words : List (Nat × Nat)) : List Nat :=
  (List.range alphabet).map fun symbol => (words.lookup symbol).getD 0

/-- Reads a code of up to four symbols. -/
def readSimple (alphabet : Nat) : BitReading PrefixCode := do
  let count := 1 + (← number 2)
  let symbols ← (List.range count).mapM fun _ => number (bitsFor alphabet)
  check (symbols.all (· < alphabet) && symbols.eraseDups.length == count)
  match symbols with
  | [a] => pure (.single a)
  | [a, b] => pure (.ofLengths (lengthsOf alphabet [(a, 1), (b, 1)]))
  | [a, b, c] => pure (.ofLengths (lengthsOf alphabet [(a, 1), (b, 2), (c, 2)]))
  | [a, b, c, d] =>
    if ← bit then pure (.ofLengths (lengthsOf alphabet [(a, 1), (b, 2), (c, 3), (d, 3)]))
    else pure (.ofLengths (lengthsOf alphabet [(a, 2), (b, 2), (c, 2), (d, 2)]))
  | _ => fail

/-- The order in which the lengths of the code for word lengths are sent. -/
def lengthOrder : List Nat :=
  [1, 2, 3, 4, 0, 5, 17, 6, 16, 7, 8, 9, 10, 11, 12, 13, 14, 15]

/-- A word length of the code for word lengths. -/
def readLengthLength : BitReading Nat := do
  match ← number 2 with
  | 0 => pure 0
  | 1 => pure 4
  | 2 => pure 3
  | _ => if ← bit then (if ← bit then pure 5 else pure 1) else pure 2

/-- Reads word lengths for the symbols given while there is room for words, and gives the room that
is left; it counts in words of five bits. -/
def readLengthLengths : List Nat → Nat → BitReading (List (Nat × Nat) × Nat)
  | [], room => pure ([], room)
  | symbol :: symbols, room => do
    if room = 0 then pure ([], 0)
    else
      let n ← readLengthLength
      let used := if n = 0 then 0 else 32 / 2 ^ n
      check (used ≤ room)
      let (words, room) ← readLengthLengths symbols (room - used)
      pure ((symbol, n) :: words, room)

/-- The code for word lengths; the first `skip` lengths are zero. A code of one symbol may leave
room, and then its word is empty. -/
def readLengthCode (skip : Nat) : BitReading PrefixCode := do
  let (words, room) ← readLengthLengths (lengthOrder.drop skip) 32
  match words.filter fun word => word.2 != 0 with
  | [(symbol, _)] => pure (.single symbol)
  | _ =>
    check (room == 0)
    pure (.ofLengths (lengthsOf 18 words))

/-- Where the reading of word lengths stands: the lengths so far, the room left, the last length
that is not zero, and the length and number of the current repeat. -/
structure Lengths where
  lengths : Array Nat
  room : Nat
  last : Nat
  repeated : Nat
  count : Nat

/-- Reads word lengths up to the end of the alphabet or of the room. -/
def readLengths (code : PrefixCode) (alphabet : Nat) : Nat → Lengths → BitReading (List Nat)
  | 0, _ => fail
  | fuel + 1, s => do
    if s.room = 0 then pure s.lengths.toList
    else if alphabet ≤ s.lengths.size then fail
    else
      let symbol ← code.read
      if symbol < 16 then
        let used := if symbol = 0 then 0 else 32768 / 2 ^ symbol
        check (used ≤ s.room)
        readLengths code alphabet fuel
          { s with
            lengths := s.lengths.push symbol
            room := s.room - used
            last := if symbol = 0 then s.last else symbol
            count := 0 }
      else
        let extra := symbol - 14
        let length := if symbol = 16 then s.last else 0
        let before := if s.repeated = length then s.count else 0
        let total := (if before = 0 then 0 else (before - 2) * 2 ^ extra) + 3 + (← number extra)
        let n := total - before
        let used := if length = 0 then 0 else n * (32768 / 2 ^ length)
        check (s.lengths.size + n ≤ alphabet && used ≤ s.room)
        readLengths code alphabet fuel
          { s with
            lengths := s.lengths ++ Array.replicate n length
            room := s.room - used
            repeated := length
            count := total }

/-- Reads a prefix code for an alphabet of the size given. -/
def readCode (alphabet : Nat) : BitReading PrefixCode := do
  let kind ← number 2
  if kind = 1 then readSimple alphabet
  else
    let code ← readLengthCode kind
    let lengths ← readLengths code alphabet (alphabet + 1) ⟨#[], 32768, 8, 0, 0⟩
    pure (.ofLengths lengths)

end Playback.Brotli
