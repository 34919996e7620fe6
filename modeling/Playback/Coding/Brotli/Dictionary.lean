import Playback.Coding.Brotli.Words
import Playback.Coding.Zlib
import Playback.Text.Base64

/-!
# Words that brotli data may refer to

A distance beyond the data produced so far refers to a word of a fixed list, taken as it is or
altered: shortened at an end, capitalised, and put between two short texts.
-/

namespace Playback.Brotli

/-- How the letters of a word are altered. -/
inductive Alteration where
  | keep
  | dropFirst (n : Nat)
  | dropLast (n : Nat)
  | capitalFirst
  | capitalAll
deriving DecidableEq, Repr

/-- The text in front, the alteration and the text behind of every form of a word. -/
def forms : List (String × Alteration × String) := [
  ("", .keep, ""),
  ("", .keep, " "),
  (" ", .keep, " "),
  ("", .dropFirst 1, ""),
  ("", .capitalFirst, " "),
  ("", .keep, " the "),
  (" ", .keep, ""),
  ("s ", .keep, " "),
  ("", .keep, " of "),
  ("", .capitalFirst, ""),
  ("", .keep, " and "),
  ("", .dropFirst 2, ""),
  ("", .dropLast 1, ""),
  (", ", .keep, " "),
  ("", .keep, ", "),
  (" ", .capitalFirst, " "),
  ("", .keep, " in "),
  ("", .keep, " to "),
  ("e ", .keep, " "),
  ("", .keep, "\""),
  ("", .keep, "."),
  ("", .keep, "\">"),
  ("", .keep, "\n"),
  ("", .dropLast 3, ""),
  ("", .keep, "]"),
  ("", .keep, " for "),
  ("", .dropFirst 3, ""),
  ("", .dropLast 2, ""),
  ("", .keep, " a "),
  ("", .keep, " that "),
  (" ", .capitalFirst, ""),
  ("", .keep, ". "),
  (".", .keep, ""),
  (" ", .keep, ", "),
  ("", .dropFirst 4, ""),
  ("", .keep, " with "),
  ("", .keep, "'"),
  ("", .keep, " from "),
  ("", .keep, " by "),
  ("", .dropFirst 5, ""),
  ("", .dropFirst 6, ""),
  (" the ", .keep, ""),
  ("", .dropLast 4, ""),
  ("", .keep, ". The "),
  ("", .capitalAll, ""),
  ("", .keep, " on "),
  ("", .keep, " as "),
  ("", .keep, " is "),
  ("", .dropLast 7, ""),
  ("", .dropLast 1, "ing "),
  ("", .keep, "\n\t"),
  ("", .keep, ":"),
  (" ", .keep, ". "),
  ("", .keep, "ed "),
  ("", .dropFirst 9, ""),
  ("", .dropFirst 7, ""),
  ("", .dropLast 6, ""),
  ("", .keep, "("),
  ("", .capitalFirst, ", "),
  ("", .dropLast 8, ""),
  ("", .keep, " at "),
  ("", .keep, "ly "),
  (" the ", .keep, " of "),
  ("", .dropLast 5, ""),
  ("", .dropLast 9, ""),
  (" ", .capitalFirst, ", "),
  ("", .capitalFirst, "\""),
  (".", .keep, "("),
  ("", .capitalAll, " "),
  ("", .capitalFirst, "\">"),
  ("", .keep, "=\""),
  (" ", .keep, "."),
  (".com/", .keep, ""),
  (" the ", .keep, " of the "),
  ("", .capitalFirst, "'"),
  ("", .keep, ". This "),
  ("", .keep, ","),
  (".", .keep, " "),
  ("", .capitalFirst, "("),
  ("", .capitalFirst, "."),
  ("", .keep, " not "),
  (" ", .keep, "=\""),
  ("", .keep, "er "),
  (" ", .capitalAll, " "),
  ("", .keep, "al "),
  (" ", .capitalAll, ""),
  ("", .keep, "='"),
  ("", .capitalAll, "\""),
  ("", .capitalFirst, ". "),
  (" ", .keep, "("),
  ("", .keep, "ful "),
  (" ", .capitalFirst, ". "),
  ("", .keep, "ive "),
  ("", .keep, "less "),
  ("", .capitalAll, "'"),
  ("", .keep, "est "),
  (" ", .capitalFirst, "."),
  ("", .capitalAll, "\">"),
  (" ", .keep, "='"),
  ("", .capitalFirst, ","),
  ("", .keep, "ize "),
  ("", .capitalAll, "."),
  ("\u00a0", .keep, ""),
  (" ", .keep, ","),
  ("", .capitalFirst, "=\""),
  ("", .capitalAll, "=\""),
  ("", .keep, "ous "),
  ("", .capitalAll, ", "),
  ("", .capitalFirst, "='"),
  (" ", .capitalFirst, ","),
  (" ", .capitalAll, "=\""),
  (" ", .capitalAll, ", "),
  ("", .capitalAll, ","),
  ("", .capitalAll, "("),
  ("", .capitalAll, ". "),
  (" ", .capitalAll, "."),
  ("", .capitalAll, "='"),
  (" ", .capitalAll, ". "),
  (" ", .capitalFirst, "=\""),
  (" ", .capitalAll, "='"),
  (" ", .capitalFirst, "='")]

/-- For each word length the logarithm of the number of words, if there are any. -/
def wordBits : List (Option Nat) :=
  [none, none, none, none, some 10, some 10, some 11, some 11, some 10, some 10, some 10, some 10,
    some 10, some 9, some 9, some 8, some 7, some 7, some 8, some 7, some 7, some 6, some 6, some 5,
    some 5]

/-- The bytes of all words, in the order of their lengths. -/
def words : Thunk ByteArray :=
  .mk fun _ =>
    match Text.Base64.decode (packedWords.flatMap Bytes.ofText) with
    | .ok packed => ⟨((Zlib.decodeWrapped packed).getD []).toArray⟩
    | .error _ => .empty

def wordsStart (length : Nat) : Nat :=
  ((wordBits.take length).zipIdx.map fun (bits, n) =>
    match bits with
    | some bits => n * 2 ^ bits
    | none => 0).foldr (· + ·) 0

/-- Capitalises the letter that starts a text, of one to three bytes, and gives it and the rest. -/
def capitalize : Bytes → Bytes × Bytes
  | [] => ([], [])
  | a :: rest =>
    if a < 0xC0 then ([if 0x61 ≤ a && a ≤ 0x7A then a ^^^ 32 else a], rest)
    else if a < 0xE0 then
      match rest with
      | b :: rest => ([a, b ^^^ 32], rest)
      | [] => ([a], [])
    else
      match rest with
      | b :: c :: rest => ([a, b, c ^^^ 5], rest)
      | rest => (a :: rest, [])

/-- Capitalises all letters of a text of at most as many bytes as the first argument says. -/
def capitalizeAll : Nat → Bytes → Bytes
  | 0, b => b
  | n + 1, b =>
    if b.isEmpty then []
    else
      let (letter, rest) := capitalize b
      letter ++ capitalizeAll n rest

namespace Alteration

def apply (word : Bytes) : Alteration → Bytes
  | keep => word
  | dropFirst n => word.drop n
  | dropLast n => word.take (word.length - n)
  | capitalFirst =>
    let (letter, rest) := capitalize word
    letter ++ rest
  | capitalAll => capitalizeAll word.length word

end Alteration

/-- The form of a word of the length given that a number refers to. -/
def word? (length number : Nat) : Option Bytes := do
  let bits ← (← wordBits[length]?)
  let (before, alteration, behind) ← forms[number / 2 ^ bits]?
  let start := wordsStart length + length * (number % 2 ^ bits)
  let word := (words.get.extract start (start + length)).data.toList
  some (Bytes.ofText before ++ alteration.apply word ++ Bytes.ofText behind)

end Playback.Brotli
