import Playback.Coding.BitSource

/-!
# Canonical prefix codes

A prefix code is given by the length of each symbol's code word: shorter words come first, and words
of one length are in the order of their symbols.
-/

namespace Playback

/-- The number of code words of each length from one on, and the symbols in the order of their
words; or one symbol whose word is empty. -/
inductive PrefixCode where
  | single (symbol : Nat)
  | canonical (counts : List Nat) (symbols : Array Nat)

namespace PrefixCode

/-- The length of the longest code words. -/
def maxLength : Nat := 15

/-- The code with the given word lengths; symbols of length zero have no word. -/
def ofLengths (lengths : List Nat) : PrefixCode :=
  let indexed := lengths.zipIdx
  let words := (List.range' 1 maxLength).map fun n =>
    (indexed.filter fun (length, _) => length == n).map Prod.snd
  canonical (words.map List.length) words.flatten.toArray

/-- How much of the space of words of length `2 ^ maxLength` the lengths use up. -/
def space (lengths : List Nat) : Nat :=
  (lengths.map fun n => if n = 0 then 0 else 2 ^ (maxLength - n)).foldr (· + ·) 0

/-- Whether the words use up all of the space and no more. -/
def isComplete (lengths : List Nat) : Bool :=
  space lengths == 2 ^ maxLength

/-- Reads on in a word: `code` is its value so far, `first` the value of the first word of the
current length, and `index` the place of that word's symbol. -/
def readFrom (symbols : Array Nat) (code first index : Nat) : List Nat → BitReading Nat
  | [] => BitReading.fail
  | count :: counts => do
    let code := 2 * code + (← BitReading.bit).toNat
    if code < first + count then
      match symbols[index + (code - first)]? with
      | some symbol => pure symbol
      | none => BitReading.fail
    else readFrom symbols code (2 * (first + count)) (index + count) counts

/-- Reads a word and gives its symbol. -/
def read : PrefixCode → BitReading Nat
  | single symbol => pure symbol
  | canonical counts symbols => readFrom symbols 0 0 0 counts

end PrefixCode

end Playback
