import Playback.Json.Record
import Playback.Proofs.Outcome

/-! # Records read back -/

namespace Playback.Json

variable {α : Type}

/-! ## Numbers -/

@[simp] theorem uint16?_toNat (n : UInt16) : uint16? (int n.toNat) = some n := by
  have := n.toNat_lt
  rw [uint16?, if_pos (by omega), Int.toNat_natCast, UInt16.ofNat_toNat]

@[simp] theorem int64?_toInt (n : Int64) : int64? (int n.toInt) = some n := by
  rw [int64?, if_pos ⟨n.le_toInt, n.toInt_lt⟩, Int64.ofInt_toInt]

/-! ## Lists and values that may be missing -/

section

variable {read : Json → Option α} {write : α → Json}

theorem list?_array_map (h : ∀ a, read (write a) = some a) (items : List α) :
    list? read (array (items.map write)) = some items := by
  have each : ∀ a ∈ items, (read ∘ write) a = pure (id a) := fun a _ => h a
  rw [list?, List.mapM_map, mapM_eq_pure each, List.map_id]
  rfl

/-- A value that is never written as a blank or as null is found where it was written. -/
theorem optional?_map (h : ∀ a, nullable? read (write a) = some (some a)) (value : Option α) :
    optional? read (value.map write) = some value := by
  cases value with
  | none => rfl
  | some a => exact h a

end

/-! ## Fields -/

@[simp] theorem memberOf_none (name : String) (write : α → Json) :
    memberOf name write none = [] := rfl

@[simp] theorem memberOf_some (name : String) (write : α → Json) (a : α) :
    memberOf name write (some a) = [(name, write a)] := rfl

@[simp] theorem memberOf_id_map (name : String) (write : α → Json) (value : Option α) :
    memberOf name id (value.map write) = memberOf name write value := by
  cases value <;> rfl

/-- The members of those fields that have a value. -/
def present (fields : List (String × Option Json)) : List (String × Json) :=
  fields.flatMap fun field => memberOf field.1 id field.2

@[simp] theorem present_nil : present [] = [] := rfl

@[simp] theorem present_cons (field : String × Option Json)
    (fields : List (String × Option Json)) :
    present (field :: fields) = memberOf field.1 id field.2 ++ present fields :=
  List.flatMap_cons

theorem filter_present_of_notMem {fields : List (String × Option Json)} {name : String}
    (h : name ∉ fields.map Prod.fst) : ((present fields).filter fun m => m.1 == name) = [] := by
  induction fields with
  | nil => rfl
  | cons field fields ih =>
      rw [List.map_cons, List.mem_cons, not_or] at h
      rw [present_cons, List.filter_append, ih h.2, List.append_nil]
      cases field.2 with
      | none => rfl
      | some v => simp [Ne.symm h.1]

theorem filter_present {fields : List (String × Option Json)}
    (distinct : (fields.map Prod.fst).Nodup) {field : String × Option Json}
    (hfield : field ∈ fields) :
    ((present fields).filter fun m => m.1 == field.1) = memberOf field.1 id field.2 := by
  induction fields with
  | nil => cases hfield
  | cons first fields ih =>
      rw [List.map_cons, List.nodup_cons] at distinct
      rw [present_cons, List.filter_append]
      rcases List.mem_cons.mp hfield with rfl | hfield
      · rw [filter_present_of_notMem distinct.1, List.append_nil]
        cases field.2 <;> simp
      · have other : first.1 ≠ field.1 := by
          intro same
          exact distinct.1 (same ▸ List.mem_map_of_mem hfield)
        rw [ih distinct.2 hfield]
        cases first.2 <;> simp [other]

theorem memberOnce?_present {fields : List (String × Option Json)}
    (distinct : (fields.map Prod.fst).Nodup) {field : String × Option Json}
    (hfield : field ∈ fields) : memberOnce? (present fields) field.1 = some field.2 := by
  rw [memberOnce?, filter_present distinct hfield]
  cases field.2 <;> rfl

/-- A record of these fields, without those that have no value. -/
def ofFields (names : List String) (values : List (Option Json)) : Json :=
  object (present (names.zip values))

/-- A record of distinct names is read back field by field. -/
theorem record?_ofFields {names : List String} (distinct : names.Nodup)
    {values : List (Option Json)} (all : names.length = values.length) :
    record? names (ofFields names values) = some values := by
  have fst_zip := List.map_fst_zip (Nat.le_of_eq all)
  have each : ∀ field ∈ names.zip values,
      (memberOnce? (present (names.zip values)) ∘ Prod.fst) field = pure field.2 :=
    fun _ hfield => memberOnce?_present (fst_zip.symm ▸ distinct) hfield
  have read := mapM_eq_pure each
  rwa [← List.mapM_map, fst_zip, List.map_snd_zip (Nat.le_of_eq all.symm)] at read

end Playback.Json
