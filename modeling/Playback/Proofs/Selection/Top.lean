import Playback.Selection.Top

/-! # The first of the best -/

namespace Playback.Rated

variable {α : Type}

/-- A rated thing that no other of a list beats, and that none before it equals. -/
structure FirstBest (b : Rated α) (l front back : List (Rated α)) : Prop where
  split : l = front ++ b :: back
  above : ∀ c ∈ front, c.rating < b.rating
  notBelow : ∀ c ∈ back, c.rating ≤ b.rating

namespace FirstBest

variable {b c : Rated α} {l front back : List (Rated α)}

theorem mem (h : FirstBest b l front back) : b ∈ l := by
  simp [h.split]

theorem rating_le (h : FirstBest b l front back) (hc : c ∈ l) : c.rating ≤ b.rating := by
  rw [h.split, List.mem_append, List.mem_cons] at hc
  rcases hc with hc | rfl | hc
  · exact Int.le_of_lt (h.above c hc)
  · exact Int.le_refl _
  · exact h.notBelow c hc

theorem concat_of_le (h : FirstBest b l front back) (hc : c.rating ≤ b.rating) :
    FirstBest b (l ++ [c]) front (back ++ [c]) := by
  refine ⟨by simp [h.split], h.above, ?_⟩
  intro d hd
  rw [List.mem_append, List.mem_singleton] at hd
  rcases hd with hd | rfl
  · exact h.notBelow d hd
  · exact hc

theorem concat_of_gt (h : FirstBest b l front back) (hc : b.rating < c.rating) :
    FirstBest c (l ++ [c]) l [] :=
  ⟨rfl, fun _ hd => Int.lt_of_le_of_lt (h.rating_le hd) hc, by simp⟩

end FirstBest

theorem firstBest_singleton (c : Rated α) : FirstBest c [c] [] [] :=
  ⟨rfl, by simp, by simp⟩

theorem FirstBest.better {b : Rated α} {l front back : List (Rated α)}
    (h : FirstBest b l front back) (c : Rated α) :
    ∃ best front back, better (some b) c = some best ∧ FirstBest best (l ++ [c]) front back := by
  by_cases hc : c.rating ≤ b.rating
  · exact ⟨b, front, back ++ [c], by simp [Rated.better, hc], h.concat_of_le hc⟩
  · exact ⟨c, l, [], by simp [Rated.better, hc], h.concat_of_gt (Int.not_le.mp hc)⟩

/-- All steps end at the first of the best of all candidates. -/
theorem FirstBest.foldl {b : Rated α} {l front back : List (Rated α)}
    (h : FirstBest b l front back) (cs : List (Rated α)) :
    ∃ best front back, cs.foldl Rated.better (some b) = some best ∧
      FirstBest best (l ++ cs) front back := by
  induction cs generalizing b l front back with
  | nil => exact ⟨b, front, back, rfl, by simpa using h⟩
  | cons c cs ih =>
      obtain ⟨best, front, back, hstep, hbest⟩ := h.better c
      obtain ⟨last, front, back, hrun, hlast⟩ := ih hbest
      refine ⟨last, front, back, ?_, by simpa using hlast⟩
      rw [List.foldl_cons, hstep, hrun]

theorem FirstBest.unique {b c : Rated α} {l front back front' back' : List (Rated α)}
    (hb : FirstBest b l front back) (hc : FirstBest c l front' back') : b = c := by
  have same : front ++ b :: back = front' ++ c :: back' := hb.split.symm.trans hc.split
  have equal : c.rating = b.rating := Int.le_antisymm (hb.rating_le hc.mem) (hc.rating_le hb.mem)
  rcases List.append_eq_append_iff.mp same with ⟨as, rfl, h⟩ | ⟨as, rfl, h⟩
  · cases as with
    | nil => exact (List.cons.inj h).1
    | cons a as =>
        have ha : b = a := (List.cons.inj h).1
        have := hc.above b (by simp [ha])
        omega
  · cases as with
    | nil => exact (List.cons.inj h).1.symm
    | cons a as =>
        have ha : c = a := (List.cons.inj h).1
        have := hb.above c (by simp [ha])
        omega

theorem exists_firstBest {l : List (Rated α)} (h : l ≠ []) :
    ∃ best front back, l.foldl better none = some best ∧ FirstBest best l front back := by
  cases l with
  | nil => exact absurd rfl h
  | cons c cs => exact (firstBest_singleton c).foldl cs

/-- The fold over better candidates finds the first of the best, and nothing else. -/
theorem foldl_better_eq_some_iff {l : List (Rated α)} {b : Rated α} :
    l.foldl better none = some b ↔ ∃ front back, FirstBest b l front back := by
  constructor
  · intro h
    have hl : l ≠ [] := by
      rintro rfl
      simp at h
    obtain ⟨best, front, back, hfold, hbest⟩ := exists_firstBest hl
    obtain rfl : best = b := by simpa [hfold] using h
    exact ⟨front, back, hbest⟩
  · rintro ⟨front, back, hb⟩
    have hl : l ≠ [] := List.ne_nil_of_mem hb.mem
    obtain ⟨best, front', back', hfold, hbest⟩ := exists_firstBest hl
    rw [hfold, hbest.unique hb]

/-- The threshold only decides whether the first of the best is good enough. -/
theorem top_eq_some_iff {threshold : Int} {l : List (Rated α)} {b : Rated α} :
    top threshold l = some b ↔
      threshold < b.rating ∧ ∃ front back, FirstBest b l front back := by
  rw [top, foldl_better_eq_some_iff]
  constructor
  · rintro ⟨front, back, split, above, notBelow⟩
    obtain ⟨l₁, rest, rfl, rfl, hrest⟩ := List.filter_eq_append_iff.mp split
    obtain ⟨l₂, l₃, rfl, refused, passes, rfl⟩ := List.filter_eq_cons_iff.mp hrest
    have hb : threshold < b.rating := by simpa using passes
    refine ⟨hb, l₁ ++ l₂, l₃, by simp, fun c hc => ?_, fun c hc => ?_⟩
    · by_cases good : threshold < c.rating
      · rcases List.mem_append.mp hc with hc | hc
        · exact above c (List.mem_filter.mpr ⟨hc, by simpa using good⟩)
        · exact absurd (by simpa using good) (refused c hc)
      · exact Int.lt_of_le_of_lt (Int.not_lt.mp good) hb
    · by_cases good : threshold < c.rating
      · exact notBelow c (List.mem_filter.mpr ⟨hc, by simpa using good⟩)
      · exact Int.le_of_lt (Int.lt_of_le_of_lt (Int.not_lt.mp good) hb)
  · rintro ⟨hb, front, back, rfl, above, notBelow⟩
    refine ⟨front.filter fun r => threshold < r.rating, back.filter fun r => threshold < r.rating,
      by simp [hb], fun c hc => above c (List.mem_filter.mp hc).1,
      fun c hc => notBelow c (List.mem_filter.mp hc).1⟩

theorem top_eq_none {threshold : Int} {l : List (Rated α)}
    (h : top threshold l = none) : ∀ c ∈ l, c.rating ≤ threshold := by
  intro c hc
  by_cases good : threshold < c.rating
  · have hmem : c ∈ l.filter fun r => threshold < r.rating :=
      List.mem_filter.mpr ⟨hc, by simpa using good⟩
    obtain ⟨best, front, back, hfold, -⟩ := exists_firstBest (List.ne_nil_of_mem hmem)
    rw [top, hfold] at h
    cases h
  · exact Int.not_lt.mp good

theorem exists_top_iff {threshold : Int} {l : List (Rated α)} :
    (∃ b, top threshold l = some b) ↔ ∃ c ∈ l, threshold < c.rating := by
  constructor
  · rintro ⟨b, hb⟩
    obtain ⟨good, front, back, best⟩ := top_eq_some_iff.mp hb
    exact ⟨b, best.mem, good⟩
  · rintro ⟨c, hc, good⟩
    cases h : top threshold l with
    | none => exact absurd good (Int.not_lt.mpr (top_eq_none h c hc))
    | some b => exact ⟨b, rfl⟩

end Playback.Rated
