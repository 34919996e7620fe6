import Playback.Json.Basic
import Playback.Text.Decimal

/-!
# Reading JSON

The strict grammar: no characters after the value, no control characters in strings, surrogates only
in pairs, numbers within the range of binary floating point, and fewer than 128 levels of nesting.
-/

namespace Playback.Json

open Text

def skipBlanks (cs : List Char) : List Char :=
  cs.dropWhile fun c => c = ' ' || c = '\n' || c = '\t' || c = '\r'

/-- The number of four hexadecimal digits. -/
def unit? : List Char → Option (Nat × List Char)
  | a :: b :: c :: d :: rest => do
    let a ← hexDigit? a
    let b ← hexDigit? b
    let c ← hexDigit? c
    let d ← hexDigit? d
    some (4096 * a + 256 * b + 16 * c + d, rest)
  | _ => none

/-- The character of an escape whose `\u` has been read, with the second half of a pair if the first
unit needs one. -/
def escapedChar? (cs : List Char) : Option (Char × List Char) := do
  let (n, rest) ← unit? cs
  if 0xD800 ≤ n ∧ n < 0xDC00 then
    match rest with
    | '\\' :: 'u' :: rest =>
      let (m, rest) ← unit? rest
      if 0xDC00 ≤ m ∧ m < 0xE000 then
        some (Char.ofNat (0x10000 + (n - 0xD800) * 1024 + (m - 0xDC00)), rest)
      else none
    | _ => none
  else if 0xDC00 ≤ n ∧ n < 0xE000 then none
  else some (Char.ofNat n, rest)

def shortEscape? (c : Char) : Option Char :=
  [('"', '"'), ('\\', '\\'), ('/', '/'), ('b', '\x08'), ('f', '\x0c'), ('n', '\n'), ('r', '\r'),
    ('t', '\t')].lookup c

/-- Reads a string whose opening quote has been read; `read` holds its characters in reverse. -/
def stringTail? : Nat → List Char → List Char → Option (String × List Char)
  | 0, _, _ => none
  | fuel + 1, read, cs =>
    match cs with
    | [] => none
    | '"' :: rest => some (String.ofList read.reverse, rest)
    | '\\' :: 'u' :: rest => do
      let (c, rest) ← escapedChar? rest
      stringTail? fuel (c :: read) rest
    | '\\' :: c :: rest => do
      let c ← shortEscape? c
      stringTail? fuel (c :: read) rest
    | c :: rest => if c < ' ' then none else stringTail? fuel (c :: read) rest

/-- The number of a literal. Whole numbers that no 64-bit integer can hold, and minus zero, are
real numbers. -/
def ofLiteral? (negative : Bool) (whole rest : List Char) : Option (Json × List Char) := do
  let (part, hasPart, rest) ←
    match rest with
    | '.' :: rest =>
      let part := rest.takeWhile Char.isDigit
      if part.isEmpty then none else some (part, true, rest.dropWhile Char.isDigit)
    | _ => some ([], false, rest)
  let hasExponent := rest.head? == some 'e' || rest.head? == some 'E'
  let (e, rest) ← Decimal.exponent? rest
  let n := digitsValue 0 (whole ++ part)
  let d : Decimal := ⟨n, e - part.length⟩
  let signed : Int := if negative then -n else n
  if !hasPart && !hasExponent && (if negative then 0 < n && n ≤ 2 ^ 63 else n < 2 ^ 64) then
    some (int signed, rest)
  else if d.toBits Decimal.double = Decimal.double.infinity then none
  else some (real signed d.exponent, rest)

/-- Reads a number; zeros lead only a number that starts with one digit. -/
def number? (cs : List Char) : Option (Json × List Char) :=
  let (negative, cs) :=
    match cs with
    | '-' :: rest => (true, rest)
    | _ => (false, cs)
  match cs with
  | '0' :: rest =>
    match rest with
    | c :: _ => if c.isDigit then none else ofLiteral? negative ['0'] rest
    | [] => ofLiteral? negative ['0'] rest
  | _ =>
    let whole := cs.takeWhile Char.isDigit
    if whole.isEmpty then none else ofLiteral? negative whole (cs.dropWhile Char.isDigit)

mutual

/-- Reads a value after blanks; `depth` levels of nesting are left. -/
def value? : Nat → Nat → List Char → Option (Json × List Char)
  | 0, _, _ => none
  | fuel + 1, depth, cs =>
    match skipBlanks cs with
    | [] => none
    | 'n' :: 'u' :: 'l' :: 'l' :: rest => some (null, rest)
    | 't' :: 'r' :: 'u' :: 'e' :: rest => some (bool true, rest)
    | 'f' :: 'a' :: 'l' :: 's' :: 'e' :: rest => some (bool false, rest)
    | '"' :: rest => (stringTail? (rest.length + 1) [] rest).map fun (s, rest) => (string s, rest)
    | '[' :: rest =>
      if depth ≤ 1 then none
      else
        match skipBlanks rest with
        | ']' :: rest => some (array [], rest)
        | rest => (items? fuel (depth - 1) [] rest).map fun (items, rest) => (array items, rest)
    | '\x7b' :: rest =>
      if depth ≤ 1 then none
      else
        match skipBlanks rest with
        | '\x7d' :: rest => some (object [], rest)
        | rest =>
          (members? fuel (depth - 1) [] rest).map fun (members, rest) => (object members, rest)
    | cs => number? cs

/-- Reads the items of a list up to its end; `read` holds those before in reverse. -/
def items? : Nat → Nat → List Json → List Char → Option (List Json × List Char)
  | 0, _, _, _ => none
  | fuel + 1, depth, read, cs => do
    let (item, rest) ← value? fuel depth cs
    match skipBlanks rest with
    | ',' :: rest => items? fuel depth (item :: read) rest
    | ']' :: rest => some ((item :: read).reverse, rest)
    | _ => none

/-- Reads named members up to the end; `read` holds those before in reverse. -/
def members? :
    Nat → Nat → List (String × Json) → List Char → Option (List (String × Json) × List Char)
  | 0, _, _, _ => none
  | fuel + 1, depth, read, cs => do
    match skipBlanks cs with
    | '"' :: rest =>
      let (name, rest) ← stringTail? (rest.length + 1) [] rest
      match skipBlanks rest with
      | ':' :: rest =>
        let (item, rest) ← value? fuel depth rest
        match skipBlanks rest with
        | ',' :: rest => members? fuel depth ((name, item) :: read) rest
        | '\x7d' :: rest => some (((name, item) :: read).reverse, rest)
        | _ => none
      | _ => none
    | _ => none

end

/-- The number of levels that values may be nested, and one. -/
def maxDepth : Nat := 128

/-- Reads a text that holds one value. -/
def parse? (s : String) : Option Json := do
  let cs := s.toList
  let (v, rest) ← value? (2 * cs.length + 2) maxDepth cs
  if (skipBlanks rest).isEmpty then some v else none

end Playback.Json
