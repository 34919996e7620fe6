import Mathlib.Data.List.Sort
import Playback.Proofs.Bytes.Search

/-! # Searches from left to right -/

namespace Playback.Bytes

variable {needle b : Bytes} {together : Nat → Nat → Prop} {places places' : List Nat}
  {place skip p q : Nat}

/-- What a search finds that starts anew between places that are not together. -/
structure IsScan (together : Nat → Nat → Prop) (needle b : Bytes) (places : List Nat) : Prop where
  begins : ∀ p ∈ places, needle <+: b.drop p
  apart : places.Pairwise fun p q => p < q ∧ (together p q → p + needle.length ≤ q)
  reached : ∀ q, needle <+: b.drop q →
    ∃ p ∈ places, p ≤ q ∧ q < p + needle.length ∧ together p q

namespace IsScan

theorem le_of_lt (h : IsScan together needle b places) (hp : p ∈ places) (hq : q ∈ places)
    (before : p < q) (same : together p q) : p + needle.length ≤ q := by
  obtain ⟨i, hi, rfl⟩ := List.getElem_of_mem hp
  obtain ⟨j, hj, rfl⟩ := List.getElem_of_mem hq
  rcases Nat.lt_trichotomy i j with order | rfl | order
  · exact (List.pairwise_iff_getElem.mp h.apart i j hi hj order).2 same
  · exact absurd before (Nat.lt_irrefl _)
  · have := (List.pairwise_iff_getElem.mp h.apart j i hj hi order).1
    omega

theorem mem_of_earlier (h : IsScan together needle b places)
    (h' : IsScan together needle b places') (earlier : ∀ p < q, p ∈ places' → p ∈ places)
    (hq : q ∈ places) : q ∈ places' := by
  obtain ⟨p, hp, le, reach, same⟩ := h'.reached q (h.begins q hq)
  rcases Nat.lt_or_eq_of_le le with before | rfl
  · have := h.le_of_lt (earlier p before hp) hq before same
    omega
  · exact hp

/-- Two searches that start anew between the same places find the same. -/
theorem eq (h : IsScan together needle b places) (h' : IsScan together needle b places') :
    places = places' := by
  refine (h.apart.imp And.left).eq_of_mem_iff (h'.apart.imp And.left) fun q => ?_
  induction q using Nat.strong_induction_on with
  | h q ih =>
      exact ⟨h.mem_of_earlier h' fun p hp => (ih p hp).mpr,
        h'.mem_of_earlier h fun p hp => (ih p hp).mp⟩

end IsScan

/-! ## One search over the whole -/

/-- The search goes on where it has not skipped, and stops where the needle begins. -/
theorem mem_occurrencesFrom (h : p ∈ occurrencesFrom needle place skip b) :
    place + skip ≤ p ∧ needle <+: b.drop (p - place) := by
  induction b generalizing place skip with
  | nil => cases h
  | cons x b ih =>
      have later {skip : Nat} (h : p ∈ occurrencesFrom needle (place + 1) skip b) :
          place + 1 + skip ≤ p ∧ needle <+: (x :: b).drop (p - place) := by
        obtain ⟨low, begins⟩ := ih h
        rw [show p - place = p - (place + 1) + 1 by omega]
        exact ⟨low, begins⟩
      cases skip with
      | succ skip =>
          obtain ⟨low, begins⟩ := later h
          exact ⟨by omega, begins⟩
      | zero =>
          rw [occurrencesFrom] at h
          split at h
          case isTrue found =>
            rcases List.mem_cons.mp h with rfl | h
            · exact ⟨Nat.le_refl _, by simpa using List.isPrefixOf_iff_prefix.mp found⟩
            · obtain ⟨low, begins⟩ := later h
              exact ⟨by omega, begins⟩
          case isFalse =>
            obtain ⟨low, begins⟩ := later h
            exact ⟨by omega, begins⟩

theorem pairwise_occurrencesFrom (nonempty : needle ≠ []) :
    (occurrencesFrom needle place skip b).Pairwise fun p q => p + needle.length ≤ q := by
  have pos := List.length_pos_iff.mpr nonempty
  induction b generalizing place skip with
  | nil => exact List.Pairwise.nil
  | cons x b ih =>
      cases skip with
      | succ skip => exact ih
      | zero =>
          rw [occurrencesFrom]
          split
          case isTrue =>
            refine List.pairwise_cons.mpr ⟨fun q hq => ?_, ih⟩
            have := (mem_occurrencesFrom hq).1
            omega
          case isFalse => exact ih

/-- A place of the needle that is not skipped lies within an occurrence that is found. -/
theorem exists_mem_occurrencesFrom (nonempty : needle ≠ []) (h : needle <+: b.drop q)
    (skipped : skip ≤ q) :
    ∃ p ∈ occurrencesFrom needle place skip b, p ≤ place + q ∧ place + q < p + needle.length := by
  have length := List.length_pos_iff.mpr nonempty
  induction b generalizing place skip q with
  | nil =>
      rw [List.drop_nil, List.prefix_nil] at h
      exact absurd h nonempty
  | cons x b ih =>
      have later (skip : Nat) (skipped : skip + 1 ≤ q) :
          ∃ p ∈ occurrencesFrom needle (place + 1) skip b,
            p ≤ place + q ∧ place + q < p + needle.length := by
        obtain ⟨q, rfl⟩ : ∃ r, q = r + 1 := ⟨q - 1, by omega⟩
        have found : ∃ p ∈ occurrencesFrom needle (place + 1) skip b,
            p ≤ place + 1 + q ∧ place + 1 + q < p + needle.length :=
          ih h (Nat.le_of_succ_le_succ skipped)
        simpa only [Nat.add_assoc, Nat.add_comm 1] using found
      cases skip with
      | succ skip => exact later skip skipped
      | zero =>
          rw [occurrencesFrom]
          split
          case isTrue found =>
            by_cases inside : q < needle.length
            · exact ⟨place, List.mem_cons_self, by omega, by omega⟩
            · obtain ⟨p, hp, bounds⟩ := later (needle.length - 1) (by omega)
              exact ⟨p, List.mem_cons_of_mem _ hp, bounds⟩
          case isFalse missed =>
            refine later 0 ?_
            rcases Nat.eq_zero_or_pos q with rfl | pos
            · exact absurd (List.isPrefixOf_iff_prefix.mpr h) missed
            · omega

theorem isScan_occurrences (nonempty : needle ≠ []) (b : Bytes) :
    IsScan (fun _ _ => True) needle b (occurrences needle b) where
  begins p hp := (mem_occurrencesFrom hp).2
  apart := (pairwise_occurrencesFrom nonempty).imp fun {p q} apart => by
    have := List.length_pos_iff.mpr nonempty
    exact ⟨by omega, fun _ => apart⟩
  reached q h := by
    obtain ⟨p, hp, low, high⟩ := exists_mem_occurrencesFrom nonempty h (Nat.zero_le q)
    exact ⟨p, hp, by omega, by omega, trivial⟩

end Playback.Bytes
