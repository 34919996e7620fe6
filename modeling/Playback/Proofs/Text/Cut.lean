import Playback.Text.Basic

/-! # Cut texts -/

namespace Playback.Text

variable {sep c : Char} {cs before after : List Char}

theorem cutAt_append (h : sep ∉ before) :
    cutAt sep (before ++ sep :: after) = some (before, after) := by
  induction before with
  | nil => simp [cutAt]
  | cons c before ih =>
      rw [List.mem_cons, not_or] at h
      rw [List.cons_append, cutAt, if_neg (Ne.symm h.1), ih h.2]
      rfl

theorem cutAt_cons_append (hc : c ≠ sep) (h : sep ∉ before) :
    cutAt sep (c :: (before ++ sep :: after)) = some (c :: before, after) := by
  rw [cutAt, if_neg hc, cutAt_append h]
  rfl

theorem cutAt_eq_none_iff : cutAt sep cs = none ↔ sep ∉ cs := by
  induction cs with
  | nil => simp [cutAt]
  | cons c cs ih =>
      rw [cutAt, List.mem_cons, not_or, ← ih]
      by_cases first : c = sep
      · simp [first]
      · simp [first, Ne.symm first]

theorem cutAt_eq_some_iff :
    cutAt sep cs = some (before, after) ↔ sep ∉ before ∧ cs = before ++ sep :: after := by
  constructor
  · intro h
    have hsep : sep ∈ cs := by
      refine Decidable.byContradiction fun absent => ?_
      rw [cutAt_eq_none_iff.mpr absent] at h
      cases h
    obtain ⟨front, rest, rfl, without⟩ := List.eq_append_cons_of_mem hsep
    rw [cutAt_append without] at h
    cases h
    exact ⟨without, rfl⟩
  · rintro ⟨without, rfl⟩
    exact cutAt_append without

theorem mem_of_cutAt (h : cutAt sep cs = some (before, after)) (hc : c ∈ after) : c ∈ cs := by
  obtain ⟨-, rfl⟩ := cutAt_eq_some_iff.mp h
  exact List.mem_append_right before (List.mem_cons_of_mem sep hc)

theorem cutAtLast_eq_none (h : cutAtLast sep cs = none) : sep ∉ cs := by
  intro hc
  exact cutAt_eq_none_iff.mp (Option.map_eq_none_iff.mp h) (List.mem_reverse.mpr hc)

theorem mem_of_cutAtLast (h : cutAtLast sep cs = some (before, after)) (hc : c ∈ before) :
    c ∈ cs := by
  obtain ⟨⟨rest, front⟩, hcut, same⟩ := Option.map_eq_some_iff.mp h
  cases same
  exact List.mem_reverse.mp (mem_of_cutAt hcut (List.mem_reverse.mp hc))

end Playback.Text
