import Mathlib.Algebra.GroupWithZero.Nat
import Playback.Proofs.Message.Multimap

/-! # Entries in groups -/

namespace Playback

namespace Multimap

variable {α : Type} {given : List (String × α)} {m : Multimap α} {key other : String}

/-! ## Places of a key -/

/-- Whether the entry belongs to a key in lower case. -/
def isUnder (key : String) (entry : String × α) : Bool :=
  Text.lower entry.1 == key

theorem isUnder_iff {entry : String × α} : isUnder key entry = true ↔ Text.lower entry.1 = key :=
  beq_iff_eq

/-- The places of the entries of a key, in order. -/
def placesOf (given : List (String × α)) (key : String) : List Nat :=
  given.findIdxs (isUnder key)

/-- The place of the first entry of a key, behind all entries if there is none. -/
def firstPlace (given : List (String × α)) (key : String) : Nat :=
  given.findIdx (isUnder key)

/-- Whether the entry at a place has the value. -/
def StandsAt (given : List (String × α)) (place : Nat) (value : α) : Prop :=
  ∃ spelling, given[place]? = some (spelling, value)

theorem mem_placesOf {place : Nat} : place ∈ placesOf given key ↔
    ∃ entry, given[place]? = some entry ∧ Text.lower entry.1 = key := by
  rw [placesOf, List.mem_findIdxs_iff_exists_getElem_pos]
  simp [List.getElem?_eq_some_iff, isUnder_iff]

theorem disjoint_placesOf (differ : key ≠ other) :
    (placesOf given key).Disjoint (placesOf given other) := by
  intro place own others
  obtain ⟨entry, there, rfl⟩ := mem_placesOf.mp own
  obtain ⟨entry', there', rfl⟩ := mem_placesOf.mp others
  rw [there, Option.some.injEq] at there'
  exact differ (there' ▸ rfl)

theorem placesOf_push (given : List (String × α)) (entry : String × α) (key : String) :
    placesOf (given ++ [entry]) key =
      placesOf given key ++ if Text.lower entry.1 = key then [given.length] else [] := by
  rw [placesOf, placesOf, List.findIdxs_append, List.findIdxs_singleton, Nat.zero_add]
  simp only [isUnder_iff]

theorem firstPlace_lt_iff :
    firstPlace given key < given.length ↔ ∃ entry ∈ given, Text.lower entry.1 = key := by
  rw [firstPlace, List.findIdx_lt_length]
  simp only [isUnder_iff]

theorem firstPlace_push_of_known (known : firstPlace given key < given.length)
    (entry : String × α) : firstPlace (given ++ [entry]) key = firstPlace given key := by
  rw [firstPlace] at known
  rw [firstPlace, List.findIdx_append, if_pos known, firstPlace]

theorem firstPlace_push_of_new {entry : String × α}
    (new : ¬firstPlace given (Text.lower entry.1) < given.length) :
    firstPlace (given ++ [entry]) (Text.lower entry.1) = given.length := by
  rw [firstPlace] at new
  rw [firstPlace, List.findIdx_append, if_neg new, List.findIdx_cons, isUnder_iff.mpr rfl]
  exact Nat.zero_add _

/-- Whether the first entry of a key comes before the first entry of another. -/
def Precedes (given : List (String × α)) (key other : String) : Prop :=
  firstPlace given key < firstPlace given other

theorem Precedes.push (h : Precedes given key other) (known : firstPlace given other < given.length)
    (entry : String × α) : Precedes (given ++ [entry]) key other := by
  rw [Precedes] at h
  rwa [Precedes, firstPlace_push_of_known (Nat.lt_trans h known), firstPlace_push_of_known known]

/-- A new key has its first place behind the known ones. -/
theorem precedes_push_of_new (known : firstPlace given key < given.length) {entry : String × α}
    (new : ¬firstPlace given (Text.lower entry.1) < given.length) :
    Precedes (given ++ [entry]) key (Text.lower entry.1) := by
  rwa [Precedes, firstPlace_push_of_known known, firstPlace_push_of_new new]

theorem StandsAt.push {place : Nat} {value : α} (h : StandsAt given place value)
    (entry : String × α) : StandsAt (given ++ [entry]) place value := by
  obtain ⟨spelling, there⟩ := h
  have inside := (List.getElem?_eq_some_iff.mp there).1
  exact ⟨spelling, by rw [List.getElem?_append_left inside, there]⟩

theorem standsAt_length (given : List (String × α)) (key : String) (value : α) :
    StandsAt (given ++ [(key, value)]) given.length value :=
  ⟨key, List.getElem?_concat_length⟩

/-! ## Entries held at their places -/

/-- What a multimap shows of the entries it was given. -/
structure Holds (given : List (String × α)) (m : Multimap α) : Prop where
  stored : m.toList = given.map fun entry => (Text.lower entry.1, entry.2)
  listed : ∀ key, key ∈ m.keys ↔ ∃ entry ∈ given, Text.lower entry.1 = key
  /-- The keys are listed in the order of their first entries, and so each of them once. -/
  in_order : m.keys.Pairwise (Precedes given)
  /-- A spelling of a key leads to the values at the places of the key, in order. -/
  found : ∀ spelling, List.Forall₂ (StandsAt given) (placesOf given (Text.lower spelling))
    (m.getAll spelling)

theorem holds_empty : Holds [] (empty : Multimap α) where
  stored := rfl
  listed := by simp [keys, empty]
  in_order := .nil
  found _ := .nil

theorem mem_keys_insert {value : α} :
    other ∈ (m.insert key value).keys ↔ other ∈ m.keys ∨ Text.lower key = other := by
  simp only [mem_keys_iff, insert, List.mem_append, List.mem_singleton, or_and_right, exists_or,
    exists_eq_left]

namespace Holds

theorem known_iff (h : Holds given m) : key ∈ m.keys ↔ firstPlace given key < given.length :=
  (h.listed key).trans firstPlace_lt_iff.symm

-- The keys that were known keep their first places; a key that is new comes behind all of them.
theorem in_order_insert (h : Holds given m) (key : String) (value : α) :
    (m.insert key value).keys.Pairwise (Precedes (given ++ [(key, value)])) := by
  have kept : m.keys.Pairwise (Precedes (given ++ [(key, value)])) :=
    h.in_order.imp_of_mem fun _ listed before => before.push (h.known_iff.mp listed) (key, value)
  rw [keys_insert]
  split
  case isTrue => rwa [List.append_nil]
  case isFalse new =>
    refine List.pairwise_append.mpr ⟨kept, List.pairwise_singleton _ _, ?_⟩
    intro earlier listed last hlast
    rw [List.mem_singleton.mp hlast]
    exact precedes_push_of_new (h.known_iff.mp listed) (mt h.known_iff.mpr new)

theorem found_insert (h : Holds given m) (key : String) (value : α) (spelling : String) :
    List.Forall₂ (StandsAt (given ++ [(key, value)]))
      (placesOf (given ++ [(key, value)]) (Text.lower spelling))
      ((m.insert key value).getAll spelling) := by
  have kept := (h.found spelling).imp fun _ _ there => there.push (key, value)
  rw [placesOf_push, getAll_insert]
  refine List.rel_append kept ?_
  split
  case isTrue => exact .cons (standsAt_length given key value) .nil
  case isFalse => exact .nil

/-- An entry that is added is held behind the others. -/
theorem insert (h : Holds given m) (key : String) (value : α) :
    Holds (given ++ [(key, value)]) (m.insert key value) where
  stored := by rw [toList_insert, h.stored, List.map_append, List.map_singleton]
  listed other := by
    rw [mem_keys_insert, h.listed]
    simp only [List.mem_append, List.mem_singleton, or_and_right, exists_or, exists_eq_left]
  in_order := h.in_order_insert key value
  found := h.found_insert key value

theorem foldl_insert (h : Holds given m) (added : List (String × α)) :
    Holds (given ++ added) (added.foldl (fun m p => m.insert p.1 p.2) m) := by
  induction added generalizing given m with
  | nil => rwa [List.append_nil]
  | cons p added ih =>
      rw [List.foldl_cons, List.append_cons]
      exact ih (h.insert p.1 p.2)

end Holds

theorem toList_injective : Function.Injective (toList : Multimap α → List (String × α)) := by
  rintro ⟨entries, _⟩ ⟨entries', _⟩ (rfl : entries = entries')
  rfl

theorem foldl_insert_empty (pairs : List (String × α)) :
    pairs.foldl (fun m p => m.insert p.1 p.2) empty = ofList pairs :=
  toList_injective (foldl_insert pairs empty)

theorem ofList_toList (m : Multimap α) : ofList m.toList = m := by
  have lowered : m.toList.map (fun e => (Text.lower e.1, e.2)) = m.toList.map id :=
    List.map_congr_left fun e he => Prod.ext (m.lowered e he) rfl
  exact toList_injective (lowered.trans (List.map_id _))

theorem holds_toList (m : Multimap α) : Holds m.toList m := by
  have built := holds_empty.foldl_insert m.toList
  rwa [foldl_insert_empty, ofList_toList, List.nil_append] at built

/-! ## Groups -/

/-- The values of a multimap, divided among its keys. -/
structure Grouped (given : List (String × α)) (m : Multimap α) : Prop extends Holds given m where
  lowered : ∀ key ∈ m.keys, Text.lower key = key
  /-- The places of the listed keys are all places, and each of them once. -/
  divided : (m.keys.flatMap (placesOf given)).Perm (List.range given.length)
  lengths : (m.keys.map fun key => (m.getAll key).length).sum = m.size
  caseless : ∀ key ∈ m.keys, ∀ spelling, Text.lower spelling = key →
    m.contains spelling = true ∧ m.getAll spelling = m.getAll key

namespace Holds

theorem size_eq (h : Holds given m) : m.size = given.length := by
  have same := congrArg List.length h.stored
  rwa [List.length_map] at same

theorem divided (h : Holds given m) :
    (m.keys.flatMap (placesOf given)).Perm (List.range given.length) := by
  have once : (m.keys.flatMap (placesOf given)).Nodup :=
    List.nodup_flatMap.mpr ⟨fun _ _ => List.nodup_findIdxs, m.nodup_keys.imp disjoint_placesOf⟩
  rw [List.perm_ext_iff_of_nodup once List.nodup_range]
  intro place
  rw [List.mem_flatMap, List.mem_range]
  constructor
  · rintro ⟨key, -, own⟩
    obtain ⟨entry, there, -⟩ := mem_placesOf.mp own
    exact (List.getElem?_eq_some_iff.mp there).1
  · intro inside
    have there := List.getElem?_eq_getElem inside
    have listed := (h.listed _).mpr ⟨given[place], List.getElem_mem inside, rfl⟩
    exact ⟨_, listed, mem_placesOf.mpr ⟨_, there, rfl⟩⟩

theorem length_getAll (h : Holds given m) (listed : key ∈ m.keys) :
    (m.getAll key).length = (placesOf given key).length := by
  have paired := (h.found key).length_eq
  rw [lower_of_mem_keys listed] at paired
  exact paired.symm

theorem sum_length_getAll (h : Holds given m) :
    (m.keys.map fun key => (m.getAll key).length).sum = m.size := by
  calc (m.keys.map fun key => (m.getAll key).length).sum
      = (m.keys.map fun key => (placesOf given key).length).sum :=
        congrArg List.sum (List.map_congr_left fun _ => h.length_getAll)
    _ = (m.keys.flatMap (placesOf given)).length := List.length_flatMap.symm
    _ = given.length := by rw [h.divided.length_eq, List.length_range]
    _ = m.size := h.size_eq.symm

end Holds

theorem getAll_eq_of_lower_eq {spelling : String} (same : Text.lower spelling = Text.lower key) :
    m.getAll spelling = m.getAll key := by
  rw [getAll, getAll, same]

theorem Holds.grouped (h : Holds given m) : Grouped given m where
  toHolds := h
  lowered _ := lower_of_mem_keys
  divided := h.divided
  lengths := h.sum_length_getAll
  caseless key listed spelling same := by
    have lowered : Text.lower spelling = Text.lower key := by
      rw [same, lower_of_mem_keys listed]
    exact ⟨contains_iff.mpr (same ▸ listed), getAll_eq_of_lower_eq lowered⟩

/-- Whatever entries are added to a multimap, its keys stand in the order of their first entries and
divide all entries among them, and each key leads to its values in order, however it is spelt. -/
theorem inserts_grouped (m : Multimap α) (added : List (String × α)) :
    Grouped (m.toList ++ added) (added.foldl (fun m p => m.insert p.1 p.2) m) := by
  have held : Holds (m.toList ++ added) (added.foldl (fun m p => m.insert p.1 p.2) m) :=
    m.holds_toList.foldl_insert added
  exact held.grouped

-- A capital sigma at the end of a word becomes the final one, and a dotted capital two characters.
example :
    let m := [("ΟΔΟΣ", 1), ("\u0130", 2), ("οδος", 3)].foldl (fun m p => m.insert p.1 p.2) empty
    m.keys = ["οδος", "i\u0307"] ∧ m.getAll "Οδος" = [1, 3] ∧ m.getAll "\u0130" = [2] := by
  decide +kernel

end Multimap

end Playback
