import Playback.Text.Basic

/-!
# Sameness of values

Repeated values count as the same on both sides when they are equal once they are sorted, after the
leading protocol of each has been dropped.
-/

namespace Playback.Rating

open Text

/-- A value without a leading `https` or `http`. -/
def withoutProtocol (cs : List Char) : List Char :=
  ((dropLeading? "https".toList cs).or (dropLeading? "http".toList cs)).getD cs

/-- The values that are compared; a missing value stays missing. -/
def comparable (values : List (Option String)) : List (Option String) :=
  values.map (Option.map fun v => String.ofList (withoutProtocol v.toList))

/-- Puts a value before the first that is not less. -/
def place (value : Option String) : List (Option String) → List (Option String)
  | [] => [value]
  | first :: rest =>
    if (compare value first).isLE then value :: first :: rest else first :: place value rest

/-- The values in ascending order, the missing ones first. -/
def sorted (values : List (Option String)) : List (Option String) :=
  values.foldr place []

/-- Whether two lists hold the same values, in any order. -/
def sameValues (left right : List (Option String)) : Bool :=
  sorted (comparable left) == sorted (comparable right)

end Playback.Rating
