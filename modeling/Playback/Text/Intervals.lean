/-!
# Character sets as sorted intervals

A set of characters is kept as a list of closed code point intervals in increasing order.
-/

namespace Playback.Text

/-- The set of code points covered by closed intervals, sorted and disjoint. -/
abbrev Intervals := List (Nat × Nat)

namespace Intervals

/-- Whether a code point lies in one of the intervals; the scan stops at the first one past it. -/
def covers : Intervals → Nat → Bool
  | [], _ => false
  | (first, last) :: rest, n =>
    if n < first then false
    else if n ≤ last then true
    else covers rest n

end Intervals

/-- A run of characters that are all mapped by one shift: `first`, `first + stride`, … , `last`. -/
structure ShiftRun where
  first : Nat
  last : Nat
  stride : Nat
  shift : Int

namespace ShiftRun

/-- Whether a code point belongs to the run. -/
def covers (r : ShiftRun) (n : Nat) : Bool :=
  r.first ≤ n && n ≤ r.last && (n - r.first) % r.stride == 0

/-- The image of a code point of the run. -/
def image (r : ShiftRun) (n : Nat) : Nat :=
  (Int.ofNat n + r.shift).toNat

/-- The code point of the run whose image is `n`, if there is one. -/
def preimage? (r : ShiftRun) (n : Nat) : Option Nat :=
  let m := Int.ofNat n - r.shift
  if m < 0 then none else if r.covers m.toNat then some m.toNat else none

end ShiftRun

/-- The shifted code point, found in the first run that covers it. -/
def shifted? : List ShiftRun → Nat → Option Nat
  | [], _ => none
  | r :: rest, n => if r.covers n then some (r.image n) else shifted? rest n

end Playback.Text
