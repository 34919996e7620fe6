import Playback.Selection.Tally

/-!
# Positions in sequences

Equal things in a list are numbered from zero in the order they stand in.
-/

namespace Playback.Position

variable {α : Type} [BEq α]

/-- The numbers of the things in a list, after those in a tally. -/
def numbersFrom (seen : Tally α) : List α → List Nat
  | [] => []
  | a :: rest => seen.count a :: numbersFrom (seen.add a) rest

/-- For every thing in a list, the number of equal things before it. -/
def numbers (l : List α) : List Nat :=
  numbersFrom Tally.empty l

end Playback.Position
