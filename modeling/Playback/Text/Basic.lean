/-!
# Text

The string operations that messages and headers are read with: blanks and trimming, ASCII letter
case, cutting at a separator, and decimal numbers.
-/

namespace Playback.Text

/-- The characters with the Unicode property `White_Space`. -/
def isBlank (c : Char) : Bool :=
  let n := c.toNat
  (9 ≤ n && n ≤ 13) || n == 0x20 || n == 0x85 || n == 0xA0 || n == 0x1680 ||
    (0x2000 ≤ n && n ≤ 0x200A) || n == 0x2028 || n == 0x2029 || n == 0x202F || n == 0x205F ||
    n == 0x3000

/-- Drops characters satisfying `p` from both ends. -/
def stripEnds (p : Char → Bool) (cs : List Char) : List Char :=
  ((cs.dropWhile p).reverse.dropWhile p).reverse

/-- Removes blanks from both ends. -/
def trimmed (cs : List Char) : List Char :=
  stripEnds isBlank cs

def trim (s : String) : String :=
  String.ofList (trimmed s.toList)

/-- Replaces the ASCII capital letters by small ones. -/
def lowerAscii (s : String) : String :=
  String.ofList (s.toList.map Char.toLower)

/-- Replaces the ASCII small letters by capital ones. -/
def upperAscii (s : String) : String :=
  String.ofList (s.toList.map Char.toUpper)

/-- Equality up to the case of ASCII letters. -/
def equalsIgnoringCase (s t : String) : Bool :=
  lowerAscii s == lowerAscii t

/-- The text before and after the first `sep`, or `none` if it does not occur. -/
def cutAt (sep : Char) : List Char → Option (List Char × List Char)
  | [] => none
  | c :: cs =>
    if c = sep then some ([], cs)
    else (cutAt sep cs).map fun (before, after) => (c :: before, after)

/-- The text before and after the last `sep`, or `none` if it does not occur. -/
def cutAtLast (sep : Char) (cs : List Char) : Option (List Char × List Char) :=
  (cutAt sep cs.reverse).map fun (after, before) => (before.reverse, after.reverse)

/-- The pieces of a text between separators: one more than there are separators. -/
def pieces (sep : Char) (s : String) : List String :=
  (s.toList.splitOn sep).map String.ofList

/-- The rest of a text after a leading `start`, if it begins with it. -/
def dropLeading? (start : List Char) (cs : List Char) : Option (List Char) :=
  if start.isPrefixOf cs then some (cs.drop start.length) else none

/-- Takes one pair of surrounding quotes off a text. -/
def unquoted (cs : List Char) : List Char :=
  match cs with
  | '"' :: rest => if rest.getLast? = some '"' then rest.dropLast else cs
  | _ => cs

/-- The value of a run of decimal digits, read on from `acc`. -/
def digitsValue (acc : Nat) (digits : List Char) : Nat :=
  digits.foldl (fun n d => 10 * n + (d.toNat - '0'.toNat)) acc

/-- The value of a hexadecimal digit of either case. -/
def hexDigit? (c : Char) : Option Nat :=
  if '0' ≤ c ∧ c ≤ '9' then some (c.toNat - '0'.toNat)
  else if 'a' ≤ c ∧ c ≤ 'f' then some (c.toNat - 'a'.toNat + 10)
  else if 'A' ≤ c ∧ c ≤ 'F' then some (c.toNat - 'A'.toNat + 10)
  else none

/-- Joins texts, putting `sep` between them. -/
def join (sep : String) (parts : List String) : String :=
  String.intercalate sep parts

/-- Whether `needle` begins somewhere in a text. -/
def occursIn (needle : List Char) : List Char → Bool
  | [] => needle.isEmpty
  | c :: cs => needle.isPrefixOf (c :: cs) || occursIn needle cs

end Playback.Text
