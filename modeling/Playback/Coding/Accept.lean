import Playback.Text.Decimal

/-!
# Accepted codings

The codings that a client lists with their weights, and whether a body may be served in the codings
it was recorded with.
-/

namespace Playback

/-- A weight as a binary number of 32 bits: a sign and the pattern of the magnitude, or no number. -/
inductive Weight where
  | nan
  | number (negative : Bool) (magnitude : Nat)
deriving DecidableEq, Repr

namespace Weight

/-- The weight one, which is used when none is given. -/
def one : Weight := number false 0x3F800000

def zero : Weight := number false 0

/-- Reads a weight: a decimal number, `inf`, `infinity` or `nan` in any letter case, each perhaps
after a sign. -/
def parse? (cs : List Char) : Option Weight :=
  let (negative, cs) :=
    match cs with
    | '-' :: rest => (true, rest)
    | '+' :: rest => (false, rest)
    | _ => (false, cs)
  let word := String.ofList (cs.map Char.toLower)
  if word == "nan" then some nan
  else if word == "inf" || word == "infinity" then
    some (number negative Text.Decimal.single.infinity)
  else (Text.Decimal.parse? cs).map fun d => number negative (d.toBits Text.Decimal.single)

/-- The bit pattern, with the sign in the highest bit. -/
def pattern? : Weight → Option Nat
  | nan => none
  | number negative magnitude => some (if negative then 2 ^ 31 + magnitude else magnitude)

/-- Whether the weight is greater than zero. -/
def isPositive : Weight → Bool
  | nan => false
  | number negative magnitude => !negative && magnitude != 0

/-- Whether the weight is at most zero. -/
def isNonPositive : Weight → Bool
  | nan => false
  | number negative magnitude => negative || magnitude == 0

end Weight

/-- A coding that a client lists: its lower-case name or `*`, its weight, and whether a weight that
is not positive was given. -/
structure AcceptedCoding where
  name : String
  weight : Weight
  refused : Bool
deriving DecidableEq, Repr

namespace AcceptedCoding

open Text

/-- Whether the client takes the coding. -/
def isAcceptable (a : AcceptedCoding) : Bool :=
  !a.refused && a.weight.isPositive

/-- The weight that a parameter gives; one that cannot be read is zero. -/
def weightOf? (parameter : List Char) : Option Weight :=
  match cutAt '=' parameter with
  | none => none
  | some (name, value) =>
    if equalsIgnoringCase (String.ofList (trimmed name)) "q" then
      some ((Weight.parse? (trimmed value)).getD Weight.zero)
    else none

/-- Reads an item of the list; the last weight counts. -/
def ofItem? (item : List Char) : Option AcceptedCoding :=
  match item.splitOn ';' with
  | [] => none
  | name :: parameters =>
    let name := lowerAscii (String.ofList (trimmed name))
    if name.isEmpty then none
    else
      match (parameters.filterMap weightOf?).getLast? with
      | none => some ⟨name, Weight.one, false⟩
      | some w => some ⟨name, w, w.isNonPositive⟩

def parse (header : String) : List AcceptedCoding :=
  (header.toList.splitOn ',').filterMap ofItem?

def parse? (header : Option String) : List AcceptedCoding :=
  match header with
  | some header => parse header
  | none => []

/-- The entry that decides on a coding: its own, or else that for all others. -/
def deciding? (accepted : List AcceptedCoding) (name : String) : Option AcceptedCoding :=
  (accepted.find? fun a => a.name == name).or (accepted.find? fun a => a.name == "*")

/-- Whether a client takes a coding. -/
def accepts (accepted : List AcceptedCoding) (name : String) : Bool :=
  match deciding? accepted name with
  | some a => a.isAcceptable
  | none => false

end AcceptedCoding

/-- The codings among names that need a client's consent. -/
def requiredCodings (codings : List String) : List String :=
  (codings.map fun c => Text.lowerAscii (Text.trim c)).filter fun c => !c.isEmpty && c != "identity"

/-- Whether a body may be served in the codings given to a client that sent the header given. -/
def canServe (codings : List String) (accept : Option String) : Bool :=
  (requiredCodings codings).all (AcceptedCoding.accepts (AcceptedCoding.parse? accept))

end Playback
