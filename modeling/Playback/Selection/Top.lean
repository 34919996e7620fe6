/-!
# The best rating
-/

namespace Playback

/-- Something with its rating. -/
structure Rated (α : Type) where
  item : α
  rating : Int
deriving DecidableEq, Repr

namespace Rated

variable {α : Type}

/-- The better of the best so far and a new candidate; the earlier one stays if they are equal. -/
def better (best : Option (Rated α)) (candidate : Rated α) : Option (Rated α) :=
  match best with
  | some b => if candidate.rating ≤ b.rating then some b else some candidate
  | none => some candidate

/-- The first of the best rated, among those rated above the threshold. -/
def top (threshold : Int) (rated : List (Rated α)) : Option (Rated α) :=
  (rated.filter fun r => threshold < r.rating).foldl better none

end Rated

end Playback
