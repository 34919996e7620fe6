import Playback.Proofs.Selection.Tally
import Playback.Selection.Matcher

/-! # Positions of recordings -/

namespace Playback

namespace Position

variable {α : Type} [BEq α] [LawfulBEq α]

/-- Equal things are numbered in a row, from the count of a tally on. The tally goes on with every thing
that is passed, and only one of those equal to `a` moves the count of `a`. -/
theorem numbersFrom_of (seen : Tally α) (l : List α) (a : α) :
    ((l.zip (numbersFrom seen l)).filter fun numbered => numbered.1 == a).map Prod.snd =
      List.range' (seen.count a) (l.count a) := by
  induction l generalizing seen with
  | nil => rfl
  | cons b l ih =>
      rw [numbersFrom, List.zip_cons_cons, List.filter_cons, List.count_cons]
      by_cases same : b = a
      · subst same
        simp [ih, List.range'_succ]
      · simp [same, ih]

theorem numbers_of (l : List α) (a : α) :
    ((l.zip (numbers l)).filter fun numbered => numbered.1 == a).map Prod.snd =
      List.range (l.count a) := by
  rw [numbers, numbersFrom_of, Tally.count_empty, List.range_eq_range']

end Position

namespace Matcher

/-- The positions of the recordings of a signature, in order. -/
def positionsOf (m : Matcher) (s : Signature) : List Nat :=
  ((m.recordings.zip m.positions).filter fun numbered => numbered.1.request.signature == s).map
    Prod.snd

theorem getElem?_positions (m : Matcher) (i : Nat) :
    m.positions[i]? = m.recordings[i]?.map fun r =>
      (m.recordings.take i).countP fun earlier => earlier.request.signature == r.request.signature := by
  rw [positions, Position.getElem?_numbers, List.getElem?_map, Option.map_map]
  congr 1
  funext r
  rw [Function.comp_apply, ← List.map_take, List.count_eq_countP, List.countP_map]
  rfl

theorem positionsOf_eq (m : Matcher) (s : Signature) :
    m.positionsOf s = List.range (m.recordings.countP fun r => r.request.signature == s) := by
  have numbered := Position.numbers_of (m.recordings.map fun r => r.request.signature) s
  rw [List.zip_map_left, List.filter_map, List.map_map, List.count_eq_countP, List.countP_map]
    at numbered
  exact numbered

/-- Every recording stands at the position that counts the earlier recordings of its signature, and the
recordings of one signature stand at the positions from zero up to their number, in their order and each
at one of its own. -/
theorem positions_in_order (m : Matcher) :
    m.positions.length = m.recordings.length ∧
      (∀ i : Nat, m.positions[i]? = m.recordings[i]?.map fun r =>
        (m.recordings.take i).countP fun earlier =>
          earlier.request.signature == r.request.signature) ∧
      ∀ s : Signature, m.positionsOf s =
        List.range (m.recordings.countP fun r => r.request.signature == s) := by
  refine ⟨?_, m.getElem?_positions, m.positionsOf_eq⟩
  rw [positions, Position.length_numbers, List.length_map]

end Matcher

end Playback
