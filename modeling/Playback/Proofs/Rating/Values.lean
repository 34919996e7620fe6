import Mathlib.Data.List.Forall2
import Playback.Rating.Values

/-! # Sameness of values -/

namespace Playback

namespace Text

theorem dropLeading?_append (start rest : List Char) :
    dropLeading? start (start ++ rest) = some rest := by
  simp [dropLeading?]

theorem dropLeading?_eq_none {start cs : List Char} (h : ¬start <+: cs) :
    dropLeading? start cs = none := by
  simp [dropLeading?, h]

theorem isPrefix_toList_iff {start text : String} :
    start.toList <+: text.toList ↔ ∃ rest, text = start ++ rest := by
  constructor
  · rintro ⟨rest, hrest⟩
    exact ⟨String.ofList rest, String.toList_injective (by simp [hrest])⟩
  · rintro ⟨rest, rfl⟩
    exact ⟨rest.toList, String.toList_append.symm⟩

end Text

namespace Rating

open Text

/-! ## Values without their protocols -/

/-- A value and what is compared of it. -/
inductive Compared : Option String → Option String → Prop
  | missing : Compared none none
  | https (rest : String) : Compared (some ("https" ++ rest)) (some rest)
  | http {rest : String} (notHttps : ∀ other, "http" ++ rest ≠ "https" ++ other) :
      Compared (some ("http" ++ rest)) (some rest)
  | other {value : String} (neither : ∀ rest, value ≠ "http" ++ rest) :
      Compared (some value) (some value)

/-- A value without its protocol; a missing value stays missing. -/
def stripped (value : Option String) : Option String :=
  value.map fun v => String.ofList (withoutProtocol v.toList)

theorem Compared.stripped_eq {value left : Option String} (h : Compared value left) :
    stripped value = left := by
  cases h with
  | missing => rfl
  | https rest =>
      rw [stripped, Option.map_some, String.toList_append, withoutProtocol, dropLeading?_append]
      simp
  | @http rest notHttps =>
      have without : ¬"https".toList <+: ("http" ++ rest).toList := by
        rw [isPrefix_toList_iff]
        rintro ⟨other, same⟩
        exact notHttps other same
      rw [stripped, Option.map_some, withoutProtocol, dropLeading?_eq_none without,
        String.toList_append, dropLeading?_append]
      simp
  | @other value neither =>
      have without : ¬"http".toList <+: value.toList := by
        rw [isPrefix_toList_iff]
        rintro ⟨rest, same⟩
        exact neither rest same
      have without' : ¬"https".toList <+: value.toList := fun longer =>
        without (List.IsPrefix.trans (by decide) longer)
      rw [stripped, Option.map_some, withoutProtocol, dropLeading?_eq_none without',
        dropLeading?_eq_none without]
      simp

theorem exists_compared (value : Option String) : ∃ left, Compared value left := by
  cases value with
  | none => exact ⟨none, .missing⟩
  | some value =>
      by_cases https : ∃ rest, value = "https" ++ rest
      · obtain ⟨rest, rfl⟩ := https
        exact ⟨some rest, .https rest⟩
      · by_cases http : ∃ rest, value = "http" ++ rest
        · obtain ⟨rest, rfl⟩ := http
          exact ⟨some rest, .http fun other same => https ⟨other, same⟩⟩
        · exact ⟨some value, .other fun rest same => http ⟨rest, same⟩⟩

theorem compared_iff {value left : Option String} :
    Compared value left ↔ stripped value = left := by
  refine ⟨Compared.stripped_eq, ?_⟩
  rintro rfl
  obtain ⟨left, h⟩ := exists_compared value
  rwa [h.stripped_eq]

/-- What is compared of a list of values is one list, and each of its values is compared of one. -/
theorem forall₂_compared_iff {values left : List (Option String)} :
    List.Forall₂ Compared values left ↔ comparable values = left := by
  have eq : Compared = fun value left => stripped value = left :=
    funext fun value => funext fun left => propext compared_iff
  rw [eq, ← List.forall₂_map_left_iff, List.forall₂_eq_eq_eq]
  rfl

/-! ## Sorted values -/

/-- Whether a function puts values in ascending order, the missing ones first. It may leave equal values
in any order. -/
structure Sorts (sort : List (Option String) → List (Option String)) : Prop where
  perm : ∀ values, (sort values).Perm values
  ascending : ∀ values, (sort values).Pairwise fun a b => (compare a b).isLE

theorem isLE_compare_total (a b : Option String) :
    ((compare a b).isLE || (compare b a).isLE) = true := by
  have swapped : compare a b = (compare b a).swap := Std.OrientedCmp.eq_swap
  rw [swapped]
  cases compare b a <;> rfl

theorem isLE_compare_of_not {a b : Option String} (h : ¬(compare a b).isLE) : (compare b a).isLE := by
  simpa [h] using isLE_compare_total a b

theorem eq_of_isLE_compare {a b : Option String} (h : (compare a b).isLE) (h' : (compare b a).isLE) :
    a = b :=
  Std.LawfulEqCmp.eq_of_compare (Std.OrientedCmp.isLE_antisymm h h')

theorem perm_place (value : Option String) (values : List (Option String)) :
    (place value values).Perm (value :: values) := by
  induction values with
  | nil => exact .refl _
  | cons first rest ih =>
      rw [place]
      split
      · exact .refl _
      · exact (ih.cons first).trans (.swap value first rest)

theorem ascending_place {value : Option String} {values : List (Option String)}
    (ascending : values.Pairwise fun a b => (compare a b).isLE) :
    (place value values).Pairwise fun a b => (compare a b).isLE := by
  induction values with
  | nil => exact List.pairwise_singleton _ value
  | cons first rest ih =>
      obtain ⟨least, ordered⟩ := List.pairwise_cons.mp ascending
      rw [place]
      split
      case isTrue before =>
        refine List.pairwise_cons.mpr ⟨fun other hother => ?_, ascending⟩
        rcases List.mem_cons.mp hother with rfl | hother
        · exact before
        · exact Std.TransCmp.isLE_trans before (least other hother)
      case isFalse behind =>
        refine List.pairwise_cons.mpr ⟨fun other hother => ?_, ih ordered⟩
        rcases List.mem_cons.mp ((perm_place value rest).mem_iff.mp hother) with rfl | hother
        · exact isLE_compare_of_not behind
        · exact least other hother

theorem sorts_sorted : Sorts sorted where
  perm values := by
    induction values with
    | nil => exact .refl _
    | cons value values ih => exact (perm_place value (sorted values)).trans (ih.cons value)
  ascending values := by
    induction values with
    | nil => exact .nil
    | cons value values ih => exact ascending_place ih

theorem sorts_mergeSort : Sorts fun values => values.mergeSort fun a b => (compare a b).isLE :=
  ⟨fun values => List.mergeSort_perm values _,
    List.pairwise_mergeSort (fun _ _ _ => Std.TransCmp.isLE_trans) isLE_compare_total⟩

theorem Sorts.eq_iff_perm {sort : List (Option String) → List (Option String)} (h : Sorts sort)
    {left right : List (Option String)} : sort left = sort right ↔ left.Perm right := by
  constructor
  · intro same
    exact (h.perm left).symm.trans (same ▸ h.perm right)
  · intro same
    have both := (h.perm left).trans (same.trans (h.perm right).symm)
    exact both.eq_of_pairwise (fun a b _ _ le ge => eq_of_isLE_compare le ge) (h.ascending left)
      (h.ascending right)

/-! ## The same values -/

/-- Whether values are the same as multisets, their leading protocols apart. -/
def SameValues (left right : List (Option String)) : Prop :=
  (comparable left).Perm (comparable right)

theorem sameValues_iff {left right : List (Option String)} :
    sameValues left right = true ↔ SameValues left right := by
  rw [sameValues, beq_iff_eq, sorts_sorted.eq_iff_perm, SameValues]

namespace SameValues

variable {left right : List (Option String)}

theorem refl (values : List (Option String)) : SameValues values values :=
  List.Perm.refl _

theorem eq_nil_iff (h : SameValues left right) : left = [] ↔ right = [] := by
  have same := List.Perm.length_eq h
  rw [comparable, comparable, List.length_map, List.length_map] at same
  rw [← List.length_eq_zero_iff, ← List.length_eq_zero_iff, same]

end SameValues

theorem sameValues_comm (left right : List (Option String)) :
    sameValues left right = sameValues right left := by
  rw [Bool.eq_iff_iff, sameValues_iff, sameValues_iff]
  exact List.perm_comm

theorem sameValues_of_perm {left left' right right' : List (Option String)}
    (hleft : left.Perm left') (hright : right.Perm right') :
    sameValues left right = sameValues left' right' := by
  have comparable_perm {values values' : List (Option String)} (same : values.Perm values') :
      (comparable values).Perm (comparable values') := same.map _
  rw [Bool.eq_iff_iff, sameValues_iff, sameValues_iff, SameValues, SameValues,
    (comparable_perm hleft).congr_left, (comparable_perm hright).congr_right]

theorem sameValues_equivalence : Equivalence fun left right => sameValues left right = true := by
  refine ⟨fun values => ?_, fun {left right} same => ?_, fun {left middle right} same others => ?_⟩
  · exact sameValues_iff.mpr (SameValues.refl values)
  · rwa [sameValues_comm]
  · exact sameValues_iff.mpr ((sameValues_iff.mp same).trans (sameValues_iff.mp others))

/-- Two lists hold the same values just if each value that is compared occurs equally often in both, or
else just if what is compared of them is one list when it is sorted, however that is done. So this is an
equivalence, and it does not depend on the order of values. -/
theorem sameValues_multiset :
    (∀ left right, sameValues left right = true ↔
      ∃ left' right', List.Forall₂ Compared left left' ∧ List.Forall₂ Compared right right' ∧
        ∀ value, left'.count value = right'.count value) ∧
      (∀ value, ∃! left, Compared value left) ∧
      (∀ sort, Sorts sort → ∀ left right,
        sameValues left right = true ↔ sort (comparable left) = sort (comparable right)) ∧
      (Equivalence fun left right => sameValues left right = true) ∧
      ∀ left left' right right', left.Perm left' → right.Perm right' →
        sameValues left right = sameValues left' right' := by
  refine ⟨fun left right => ?_, fun value => ?_, fun sort sorts left right => ?_,
    sameValues_equivalence, fun left left' right right' => sameValues_of_perm⟩
  · simp only [sameValues_iff, SameValues, List.perm_iff_count, forall₂_compared_iff]
    simp
  · exact ⟨stripped value, compared_iff.mpr rfl, fun left h => h.stripped_eq.symm⟩
  · rw [sameValues_iff, SameValues, sorts.eq_iff_perm]

/-- Addresses of two schemes, a value that is missing and one that is there twice. -/
def someValues : List (Option String) :=
  [some "https://a", none, some "b", some "http://c", some "b"]

/-- Such values with the schemes exchanged. -/
def otherValues : List (Option String) :=
  [some "b", some "https://c", some "b", some "http://a", none]

theorem sameValues_multiset_protocols :
    ((comparable someValues).mergeSort fun a b => (compare a b).isLE) =
        (comparable otherValues).mergeSort (fun a b => (compare a b).isLE) ∧
      sameValues someValues.reverse otherValues = true := by
  have same : sameValues someValues otherValues = true := by
    decide +kernel
  obtain ⟨-, -, sorted, -, reordered⟩ := sameValues_multiset
  refine ⟨(sorted _ sorts_mergeSort _ _).mp same, ?_⟩
  rw [reordered _ someValues _ otherValues (List.reverse_perm someValues) (.refl _)]
  exact same

/-- A missing value is not the empty one, and only one protocol is dropped. -/
example : sameValues [none] [some ""] = false ∧
    sameValues [some "httphttps"] [some "https"] = false := by
  decide +kernel

end Rating

end Playback
