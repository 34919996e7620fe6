import Playback.Text.Basic
import Playback.Text.Fold
import Playback.Text.Word

/-!
# Sets of characters

The sets that a pattern names by characters, ranges and classes, and how they are combined.
-/

namespace Playback.Regex

/-- How two sets in brackets are combined. -/
inductive SetOp where
  | intersection
  | difference
  | symmetricDifference
deriving DecidableEq, Repr

/-- A set of characters. `folded` adds all case variants. -/
inductive CharSet where
  | empty
  | range (first last : Nat)
  | word
  | digit
  | blank
  | union (a b : CharSet)
  | complement (a : CharSet)
  | combined (op : SetOp) (a b : CharSet)
  | folded (a : CharSet)
deriving Repr

namespace CharSet

/-- Whether a code point belongs to a set. -/
def covers : CharSet → Nat → Bool
  | empty, _ => false
  | range first last, n => first ≤ n && n ≤ last
  | word, n => Text.wordCharacters.covers n
  | digit, n => Text.digits.covers n
  | blank, n => Text.isBlank (Char.ofNat n)
  | union a b, n => a.covers n || b.covers n
  | complement a, n => !a.covers n
  | combined .intersection a b, n => a.covers n && b.covers n
  | combined .difference a b, n => a.covers n && !b.covers n
  | combined .symmetricDifference a b, n => a.covers n != b.covers n
  | folded a, n => (n :: Text.Fold.variants n).any fun m => a.covers m

/-- A measure of the number of ranges in a set. -/
def cost : CharSet → Nat
  | empty | range _ _ | blank => 1
  | word => 385
  | digit => 36
  | union a b => max a.cost b.cost
  | complement a => a.cost
  | combined _ a b => max a.cost b.cost
  | folded a => a.cost

def single (c : Char) : CharSet :=
  range c.toNat c.toNat

def any : CharSet :=
  range 0 0x10FFFF

def ofRanges (ranges : List (Char × Char)) : CharSet :=
  ranges.foldl (fun s r => s.union (range r.1.toNat r.2.toNat)) empty

/-- The classes of ASCII characters by their names. -/
def named? (name : String) : Option CharSet :=
  ([("alnum", [('0', '9'), ('A', 'Z'), ('a', 'z')]), ("alpha", [('A', 'Z'), ('a', 'z')]),
    ("ascii", [('\x00', '\x7F')]), ("blank", [('\t', '\t'), (' ', ' ')]),
    ("cntrl", [('\x00', '\x1F'), ('\x7F', '\x7F')]), ("digit", [('0', '9')]),
    ("graph", [('!', '~')]), ("lower", [('a', 'z')]), ("print", [(' ', '~')]),
    ("punct", [('!', '/'), (':', '@'), ('[', '\x60'), ('\x7b', '~')]),
    ("space", [('\t', '\r'), (' ', ' ')]), ("upper", [('A', 'Z')]),
    ("word", [('0', '9'), ('A', 'Z'), ('_', '_'), ('a', 'z')]),
    ("xdigit", [('0', '9'), ('A', 'F'), ('a', 'f')])].lookup name).map ofRanges

end CharSet

end Playback.Regex
