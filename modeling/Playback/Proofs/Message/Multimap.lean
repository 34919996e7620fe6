import Mathlib.Data.List.Nodup
import Playback.Message.Multimap

/-! # Keys of multimaps -/

namespace Playback

theorem nodup_eraseDups {α : Type} [BEq α] [LawfulBEq α] (l : List α) : l.eraseDups.Nodup := by
  match l with
  | [] => exact List.nodup_nil
  | a :: l =>
      rw [List.eraseDups_cons, List.nodup_cons]
      exact ⟨by simp [List.mem_eraseDups], nodup_eraseDups (l.filter fun b => !b == a)⟩
termination_by l.length
decreasing_by exact Nat.lt_succ_of_le (List.length_filter_le _ _)

namespace Multimap

variable {α : Type} {m m' : Multimap α} {key : String}

theorem mem_keys_iff : key ∈ m.keys ↔ ∃ e ∈ m.entries, e.1 = key := by
  rw [keys, List.mem_eraseDups, List.mem_map]

theorem lower_of_mem_keys (h : key ∈ m.keys) : Text.lower key = key := by
  obtain ⟨e, he, rfl⟩ := mem_keys_iff.mp h
  exact m.lowered e he

theorem getAll_ne_nil_iff : m.getAll key ≠ [] ↔ Text.lower key ∈ m.keys := by
  rw [getAll, mem_keys_iff, Ne, List.map_eq_nil_iff, List.filter_eq_nil_iff]
  simp

theorem contains_iff_getAll : m.contains key = true ↔ m.getAll key ≠ [] := by
  rw [contains, first?, List.isSome_head?]

theorem contains_iff : m.contains key = true ↔ Text.lower key ∈ m.keys :=
  contains_iff_getAll.trans getAll_ne_nil_iff

theorem contains_of_mem_keys (h : key ∈ m.keys) : m.contains key = true := by
  rw [contains_iff, lower_of_mem_keys h]
  exact h

theorem keys_eq_nil_iff : m.keys = [] ↔ m.isEmpty = true := by
  rw [List.eq_nil_iff_forall_not_mem, isEmpty, List.isEmpty_iff, List.eq_nil_iff_forall_not_mem]
  constructor
  · intro h e he
    exact h e.1 (mem_keys_iff.mpr ⟨e, he, rfl⟩)
  · intro h key hkey
    obtain ⟨e, he, -⟩ := mem_keys_iff.mp hkey
    exact h e he

theorem nodup_keys (m : Multimap α) : m.keys.Nodup :=
  nodup_eraseDups _

theorem contains_iff_of_mem_keys (h : key ∈ m.keys) : m'.contains key = true ↔ key ∈ m'.keys := by
  rw [contains_iff, lower_of_mem_keys h]

theorem filter_keys_perm (m m' : Multimap α) (p : String → Bool) :
    (m.keys.filter fun key => m'.contains key && p key).Perm
      (m'.keys.filter fun key => m.contains key && p key) := by
  rw [List.perm_ext_iff_of_nodup (m.nodup_keys.filter _) (m'.nodup_keys.filter _)]
  intro key
  simp only [List.mem_filter, Bool.and_eq_true]
  constructor
  · rintro ⟨own, other, holds⟩
    have listed := (contains_iff_of_mem_keys own).mp other
    exact ⟨listed, contains_of_mem_keys own, holds⟩
  · rintro ⟨own, other, holds⟩
    have listed := (contains_iff_of_mem_keys own).mp other
    exact ⟨listed, contains_of_mem_keys own, holds⟩

/-! ## Entries that are added -/

/-- A value that is added comes after the others of its key. -/
theorem getAll_insert (m : Multimap α) (key other : String) (value : α) :
    (m.insert key value).getAll other =
      m.getAll other ++ if Text.lower key = Text.lower other then [value] else [] := by
  simp only [getAll, insert, List.filter_append, List.map_append, List.filter_cons, beq_iff_eq]
  split <;> rfl

/-- A key that is new comes after the others. -/
theorem keys_insert (m : Multimap α) (key : String) (value : α) :
    (m.insert key value).keys =
      m.keys ++ if Text.lower key ∈ m.keys then [] else [Text.lower key] := by
  have listed : Text.lower key ∈ m.keys ↔ Text.lower key ∈ m.entries.map Prod.fst :=
    List.mem_eraseDups
  rw [keys, insert, List.map_append, List.eraseDups_append]
  by_cases known : Text.lower key ∈ m.keys
  · simp [List.removeAll, listed.mp known, keys]
  · rw [if_neg known]
    simp [List.removeAll, mt listed.mpr known, keys]
    rfl

/-! ## Entries in another order -/

section

variable (same : m.entries.Perm m'.entries)

include same

theorem isEmpty_of_perm : m.isEmpty = m'.isEmpty :=
  same.isEmpty_eq

theorem getAll_perm (key : String) : (m.getAll key).Perm (m'.getAll key) :=
  (same.filter _).map _

theorem contains_of_perm (key : String) : m.contains key = m'.contains key := by
  rw [Bool.eq_iff_iff, contains_iff_getAll, contains_iff_getAll, Ne, Ne,
    ← List.isEmpty_iff, ← List.isEmpty_iff, (getAll_perm same key).isEmpty_eq]

theorem keys_perm : m.keys.Perm m'.keys := by
  rw [List.perm_ext_iff_of_nodup m.nodup_keys m'.nodup_keys]
  intro key
  simp only [mem_keys_iff, same.mem_iff]

end

end Multimap

end Playback
