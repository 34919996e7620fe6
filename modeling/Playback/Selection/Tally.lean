/-!
# Tallies
-/

namespace Playback

/-- How often each of several things was counted, in the order of their first counts. -/
structure Tally (α : Type) where
  counts : List (α × Nat)
deriving DecidableEq, Repr

namespace Tally

variable {α : Type} [BEq α]

def empty : Tally α := ⟨[]⟩

/-- Counts a thing in a list of counts. -/
def addTo (a : α) : List (α × Nat) → List (α × Nat)
  | [] => [(a, 1)]
  | (b, n) :: counts => if b == a then (b, n + 1) :: counts else (b, n) :: addTo a counts

def add (t : Tally α) (a : α) : Tally α :=
  ⟨addTo a t.counts⟩

def count (t : Tally α) (a : α) : Nat :=
  (t.counts.lookup a).getD 0

/-- The number of different things counted. -/
def size (t : Tally α) : Nat :=
  t.counts.length

end Tally

end Playback
