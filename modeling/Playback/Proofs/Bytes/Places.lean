import Mathlib.Data.List.Range
import Playback.Proofs.Bytes.Search

/-! # Slices and places -/

namespace Playback.Bytes

variable {needle b : Bytes} {start stop p q : Nat}

/-! ## Slices -/

theorem length_extract (inside : stop ≤ b.length) : (b.extract start stop).length = stop - start := by
  rw [List.extract_eq_take_drop, List.length_take, List.length_drop]
  omega

theorem drop_extract (n : Nat) : (b.extract start stop).drop n = b.extract (start + n) stop := by
  rw [List.extract_eq_take_drop, List.drop_take, List.drop_drop, Nat.sub_sub,
    List.extract_eq_take_drop]

theorem dropLast_extract (inside : stop ≤ b.length) :
    (b.extract start stop).dropLast = b.extract start (stop - 1) := by
  rw [List.dropLast_eq_take, length_extract inside, List.extract_eq_take_drop, List.take_take,
    Nat.min_eq_left (Nat.sub_le _ 1), List.extract_eq_take_drop, Nat.sub_right_comm]

theorem getLast?_extract (order : start < stop) (inside : stop ≤ b.length) :
    (b.extract start stop).getLast? = b[stop - 1]? := by
  rw [List.getLast?_eq_getElem?, length_extract inside, List.extract_eq_take_drop,
    List.getElem?_take_of_lt (by omega), List.getElem?_drop]
  congr 1
  omega

/-- What stands in a slice stands behind its start in the whole. -/
theorem exists_drop_of_extract {before middle after : Bytes}
    (h : before ++ middle ++ after = b.extract start stop) :
    ∃ rest, b.drop (start + before.length) = middle ++ rest := by
  rw [List.extract_eq_take_drop] at h
  have whole : b.drop start =
      before ++ (middle ++ (after ++ (b.drop start).drop (stop - start))) := by
    conv_lhs => rw [← List.take_append_drop (stop - start) (b.drop start), ← h]
    simp
  exact ⟨_, by rw [← List.drop_drop, whole, List.drop_left]⟩

/-! ## Places -/

/-- All places where a needle begins, whether its occurrences overlap or not. -/
def placesOf (needle b : Bytes) : List Nat :=
  (List.range b.length).filter fun place => needle.isPrefixOf (b.drop place)

theorem mem_placesOf : p ∈ placesOf needle b ↔ p < b.length ∧ needle <+: b.drop p := by
  rw [placesOf, List.mem_filter, List.mem_range, List.isPrefixOf_iff_prefix]

theorem mem_placesOf_of_begins (nonempty : needle ≠ []) (h : needle <+: b.drop p) :
    p ∈ placesOf needle b := by
  refine mem_placesOf.mpr ⟨Nat.not_le.mp fun beyond => ?_, h⟩
  rw [List.drop_eq_nil_of_le beyond, List.prefix_nil] at h
  exact nonempty h

/-- The beginning of a text shows the occurrences that end in it. -/
theorem begins_take_iff (nonempty : needle ≠ []) {limit : Nat} :
    needle <+: (b.take limit).drop p ↔ needle <+: b.drop p ∧ p + needle.length ≤ limit := by
  have := List.length_pos_iff.mpr nonempty
  rw [List.drop_take, List.prefix_take_iff]
  exact and_congr_right fun _ => by omega

theorem placesOf_cons (x : UInt8) (b : Bytes) : placesOf needle (x :: b) =
    (if needle.isPrefixOf (x :: b) then [0] else []) ++ (placesOf needle b).map (· + 1) := by
  rw [placesOf, List.length_cons, List.range_succ_eq_map, List.filter_cons, List.filter_map,
    List.drop_zero]
  by_cases first : needle.isPrefixOf (x :: b)
  · rw [if_pos first, if_pos first]
    rfl
  · rw [if_neg first, if_neg first]
    rfl

theorem startsIn_eq_placesOf (place : Nat) :
    startsIn needle place b [] = (placesOf needle b).map (place + ·) := by
  induction b generalizing place with
  | nil => rfl
  | cons x b ih =>
      have shift : (place + ·) ∘ (· + 1) = (place + 1 + ·) := by
        funext n
        simp only [Function.comp_apply]
        omega
      rw [startsIn, List.append_nil, ih, placesOf_cons, List.map_append, List.map_map, shift]
      split <;> rfl

theorem place_lt_place {i j : Nat} (hp : (placesOf needle b)[i]? = some p)
    (hq : (placesOf needle b)[j]? = some q) (before : i < j) : p < q := by
  have sorted : (placesOf needle b).Pairwise (· < ·) := List.pairwise_lt_range.filter _
  obtain ⟨hi, rfl⟩ := List.getElem?_eq_some_iff.mp hp
  obtain ⟨hj, rfl⟩ := List.getElem?_eq_some_iff.mp hq
  exact List.pairwise_iff_getElem.mp sorted i j hi hj before

theorem next_le_of_lt {i first next : Nat} (hfirst : (placesOf needle b)[i]? = some first)
    (hnext : (placesOf needle b)[i + 1]? = some next) (hp : p ∈ placesOf needle b)
    (after : first < p) : next ≤ p := by
  obtain ⟨k, hk⟩ := List.getElem?_of_mem hp
  rcases Nat.lt_trichotomy k (i + 1) with before | rfl | behind
  · rcases Nat.lt_or_eq_of_le (Nat.le_of_lt_succ before) with earlier | rfl
    · have := place_lt_place hk hfirst earlier
      omega
    · rw [hk] at hfirst
      cases hfirst
      omega
  · rw [hk] at hnext
    cases hnext
    exact Nat.le_refl p
  · exact Nat.le_of_lt (place_lt_place hnext hk behind)

/-- Of two occurrences without a border, the later one begins behind the earlier one. -/
theorem BorderFree.le_of_lt (h : BorderFree needle) (hp : p ∈ placesOf needle b)
    (hq : q ∈ placesOf needle b) (before : p < q) : p + needle.length ≤ q := by
  obtain ⟨-, tail, same⟩ := mem_placesOf.mp hp
  obtain ⟨-, later⟩ := mem_placesOf.mp hq
  by_contra overlap
  have inside : b.drop q = needle.drop (q - p) ++ tail := by
    rw [← List.drop_append_of_le_length (by omega), same, List.drop_drop]
    congr 1
    omega
  rw [inside] at later
  exact h.not_prefix_drop (by omega) (by omega) later

theorem exists_place_of_infix_extract (nonempty : needle ≠ [])
    (inside : stop ≤ b.length) (h : needle <:+: b.extract start stop) :
    ∃ p ∈ placesOf needle b, start ≤ p ∧ p + needle.length ≤ stop := by
  obtain ⟨before, after, same⟩ := h
  obtain ⟨rest, found⟩ := exists_drop_of_extract same
  have pos := List.length_pos_iff.mpr nonempty
  have size := congrArg List.length same
  rw [length_extract inside, List.length_append, List.length_append] at size
  exact ⟨start + before.length, mem_placesOf.mpr ⟨by omega, found ▸ List.prefix_append _ _⟩,
    by omega, by omega⟩

end Playback.Bytes
