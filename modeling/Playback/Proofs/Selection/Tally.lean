import Playback.Selection.Position

/-! # Counting and numbering -/

namespace Playback

variable {α : Type} [BEq α]

namespace Tally

@[simp] theorem count_empty (a : α) : (empty : Tally α).count a = 0 := rfl

/-- A tally of the things in a list, whatever their order: each of them has one count, and it is how
often the thing stands in the list. -/
structure Counts (t : Tally α) (l : List α) : Prop where
  nodup : (t.counts.map Prod.fst).Nodup
  mem_iff : ∀ a, a ∈ t.counts.map Prod.fst ↔ a ∈ l
  count_eq : ∀ a, t.count a = l.count a

theorem counts_empty : (empty : Tally α).Counts [] :=
  ⟨.nil, fun _ => .rfl, fun _ => rfl⟩

variable [LawfulBEq α]

theorem lookup_addTo (a b : α) (counts : List (α × Nat)) :
    ((addTo a counts).lookup b).getD 0 =
      (counts.lookup b).getD 0 + if a == b then 1 else 0 := by
  induction counts with
  | nil =>
      by_cases same : b = a
      · simp [addTo, same]
      · have other : (b == a) = false := by simpa using same
        have other' : (a == b) = false := by simpa using Ne.symm same
        simp [addTo, List.lookup_cons, other, other']
  | cons entry counts ih =>
      obtain ⟨c, n⟩ := entry
      by_cases found : c = a
      · subst found
        by_cases same : b = c
        · simp [addTo, same]
        · have other : (b == c) = false := by simpa using same
          have other' : (c == b) = false := by simpa using Ne.symm same
          simp [addTo, List.lookup_cons, other, other']
      · have here : (c == a) = false := by simpa using found
        simp only [addTo, here, Bool.false_eq_true, if_false, List.lookup_cons]
        by_cases same : b = c
        · subst same
          have other : (a == b) = false := by simpa using Ne.symm found
          simp [other]
        · have other : (b == c) = false := by simpa using same
          simpa only [other] using ih

@[simp] theorem count_add (t : Tally α) (a b : α) :
    (t.add a).count b = t.count b + if a == b then 1 else 0 :=
  lookup_addTo a b t.counts

theorem count_add_self (t : Tally α) (a : α) : (t.add a).count a = t.count a + 1 := by
  simp

theorem count_add_of_ne (t : Tally α) {a b : α} (h : a ≠ b) : (t.add a).count b = t.count b := by
  simp [h]

/-- A thing that was counted before keeps its place, and a new one comes last. -/
theorem map_fst_addTo (a : α) (counts : List (α × Nat)) :
    (addTo a counts).map Prod.fst =
      if a ∈ counts.map Prod.fst then counts.map Prod.fst else counts.map Prod.fst ++ [a] := by
  induction counts with
  | nil => rfl
  | cons entry counts ih =>
      obtain ⟨b, n⟩ := entry
      by_cases found : b = a
      · simp [addTo, found]
      · have other : (b == a) = false := by simpa using found
        simp only [addTo, other, Bool.false_eq_true, if_false, List.map_cons, ih, List.mem_cons,
          Ne.symm found, false_or]
        split <;> rfl

theorem Counts.add {t : Tally α} {l : List α} (h : t.Counts l) (a : α) :
    (t.add a).Counts (a :: l) := by
  have things := map_fst_addTo a t.counts
  refine ⟨?_, fun b => ?_, fun b => ?_⟩
  · rw [Tally.add, things]
    split
    case isTrue => exact h.nodup
    case isFalse new =>
      rw [List.nodup_append]
      refine ⟨h.nodup, by simp, fun b old c hc => ?_⟩
      rw [List.mem_singleton.mp hc]
      exact fun same => new (same ▸ old)
  · rw [Tally.add, things, List.mem_cons, ← h.mem_iff]
    split
    case isTrue old =>
      refine ⟨.inr, ?_⟩
      rintro (rfl | counted)
      · exact old
      · exact counted
    case isFalse => rw [List.mem_append, List.mem_singleton, or_comm]
  · rw [count_add, h.count_eq, List.count_cons]

theorem count_foldl_add (l : List α) (t : Tally α) (a : α) :
    (l.foldl add t).count a = t.count a + l.count a := by
  induction l generalizing t with
  | nil => simp
  | cons b l ih =>
      rw [List.foldl_cons, ih, count_add, List.count_cons]
      omega

end Tally

namespace Position

@[simp] theorem length_numbersFrom (seen : Tally α) (l : List α) :
    (numbersFrom seen l).length = l.length := by
  induction l generalizing seen with
  | nil => rfl
  | cons a l ih => simp [numbersFrom, ih]

@[simp] theorem length_numbers (l : List α) : (numbers l).length = l.length :=
  length_numbersFrom Tally.empty l

variable [LawfulBEq α]

theorem getElem?_numbersFrom (seen : Tally α) (l : List α) (i : Nat) :
    (numbersFrom seen l)[i]? = l[i]?.map fun a => seen.count a + (l.take i).count a := by
  induction l generalizing seen i with
  | nil => simp [numbersFrom]
  | cons b l ih =>
      cases i with
      | zero => simp [numbersFrom]
      | succ i =>
          simp only [numbersFrom, List.getElem?_cons_succ, ih, List.take_succ_cons,
            List.count_cons, Tally.count_add]
          congr 1
          funext a
          omega

/-- The number of a thing is how often it stands before its place. -/
theorem getElem?_numbers (l : List α) (i : Nat) :
    (numbers l)[i]? = l[i]?.map fun a => (l.take i).count a := by
  simp [numbers, getElem?_numbersFrom]

end Position

end Playback
