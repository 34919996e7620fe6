import Mathlib.Data.List.Nodup
import Mathlib.Data.List.Perm.Basic
import Playback.Coding.Accept
import Playback.Proofs.Text.Pieces

/-! # Codings that a client accepts -/

namespace Playback

namespace AcceptedCoding

open Text

variable {l l' : List AcceptedCoding} {a : AcceptedCoding} {item header name : String}
  {items : List String}

/-! ## Items of a list -/

/-- The coding that an item names before its first semicolon, or nothing. -/
def nameOf (item : String) : String :=
  lowerAscii (String.ofList (trimmed ((item.toList.splitOn ';').headD [])))

/-- What a parameter says of the weight, if it is about the weight: `none` where that cannot be
read. -/
def statedWeight? (parameter : List Char) : Option (Option Weight) :=
  match cutAt '=' parameter with
  | none => none
  | some (name, value) =>
    if lowerAscii (String.ofList (trimmed name)) = "q" then some (Weight.parse? (trimmed value))
    else none

/-- What the parameters of an item say of its weight, one after the other. -/
def weightsOf (item : String) : List (Option Weight) :=
  (item.toList.splitOn ';').tail.filterMap statedWeight?

/-- The entry that an item makes. -/
def listed? (item : String) : Option AcceptedCoding :=
  ofItem? item.toList

/-- Whether a weight refuses a coding: it cannot be read, is no number, or is zero or negative. -/
def Refuses : Option Weight → Prop
  | none => True
  | some .nan => True
  | some (.number negative magnitude) => negative = true ∨ magnitude = 0

/-- Whether no two items name the same coding. -/
def NamesApart (items : List String) : Prop :=
  ((items.map nameOf).filter fun name => name ≠ "").Nodup

instance : Decidable (NamesApart items) :=
  inferInstanceAs (Decidable (List.Nodup _))

theorem weightOf?_eq (parameter : List Char) :
    weightOf? parameter = (statedWeight? parameter).map (·.getD Weight.zero) := by
  rw [weightOf?, statedWeight?]
  cases cutAt '=' parameter with
  | none => rfl
  | some cut =>
      have small : lowerAscii "q" = "q" := by decide
      simp only [equalsIgnoringCase, small, beq_iff_eq]
      split <;> rfl

/-- An item without a name is left out. Otherwise its last weight decides, and a coding without a weight
is taken. -/
theorem listed?_eq (item : String) : listed? item =
    if nameOf item = "" then none
    else some (match (weightsOf item).getLast? with
      | none => ⟨nameOf item, Weight.one, false⟩
      | some w => ⟨nameOf item, w.getD Weight.zero, (w.getD Weight.zero).isNonPositive⟩) := by
  obtain ⟨first, parameters, cut⟩ := List.exists_cons_of_ne_nil (List.splitOn_ne_nil ';' item.toList)
  have weights : parameters.filterMap weightOf? =
      (parameters.filterMap statedWeight?).map (·.getD Weight.zero) := by
    rw [List.map_filterMap]
    exact List.filterMap_congr fun parameter _ => weightOf?_eq parameter
  simp only [listed?, ofItem?, nameOf, weightsOf, cut, List.headD_cons, List.tail_cons, weights,
    List.getLast?_map, String.isEmpty_iff]
  split
  · rfl
  · cases (parameters.filterMap statedWeight?).getLast? <;> rfl

theorem listed?_eq_none (unnamed : nameOf item = "") : listed? item = none := by
  rw [listed?_eq, if_pos unnamed]

theorem exists_listed? (named : nameOf item ≠ "") :
    ∃ a, listed? item = some a ∧ a.name = nameOf item := by
  rw [listed?_eq, if_neg named]
  cases (weightsOf item).getLast? with
  | none => exact ⟨_, rfl, rfl⟩
  | some w => exact ⟨_, rfl, rfl⟩

theorem isAcceptable_eq_false {w : Option Weight} (h : Refuses w) :
    (⟨name, w.getD Weight.zero, (w.getD Weight.zero).isNonPositive⟩ : AcceptedCoding).isAcceptable =
      false := by
  match w, h with
  | none, _ => rfl
  | some .nan, _ => rfl
  | some (.number negative magnitude), h =>
      rcases h with rfl | rfl <;> simp [isAcceptable, Weight.isPositive, Weight.isNonPositive]

/-! ## Lists -/

theorem parse_eq (header : String) :
    parse header = (pieces ',' header).filterMap listed? := by
  rw [parse, pieces, List.filterMap_map]
  refine List.filterMap_congr fun item _ => ?_
  rw [Function.comp_apply, listed?, String.toList_ofList]

theorem parse_join (commas : ∀ item ∈ items, ',' ∉ item.toList) :
    parse (join "," items) = items.filterMap listed? := by
  by_cases empty : items = []
  · rw [empty]
    decide
  · rw [parse_eq, pieces_join rfl commas empty]

theorem parse_join_eq_flatMap (lines : List String) : parse (join "," lines) = lines.flatMap parse := by
  by_cases empty : lines = []
  · rw [empty]
    decide
  · rw [parse_eq, pieces_join_eq_flatMap rfl empty, List.filterMap_flatMap]
    exact List.flatMap_congr fun line _ => (parse_eq line).symm

theorem map_name_filterMap (items : List String) :
    (items.filterMap listed?).map AcceptedCoding.name =
      (items.map nameOf).filter fun name => name ≠ "" := by
  induction items with
  | nil => rfl
  | cons item items ih =>
      by_cases unnamed : nameOf item = ""
      · rw [List.filterMap_cons_none (listed?_eq_none unnamed), ih, List.map_cons,
          List.filter_cons_of_neg (by simpa using unnamed)]
      · obtain ⟨a, read, named⟩ := exists_listed? unnamed
        rw [List.filterMap_cons_some read, List.map_cons, ih, named, List.map_cons,
          List.filter_cons_of_pos (by simpa using unnamed)]

theorem find?_name_eq_some_iff (distinct : (l.map AcceptedCoding.name).Nodup) :
    l.find? (fun a => a.name == name) = some a ↔ a ∈ l ∧ a.name = name := by
  constructor
  · intro found
    exact ⟨List.mem_of_find?_eq_some found, by simpa using List.find?_some found⟩
  · rintro ⟨ha, rfl⟩
    cases found : l.find? (fun b => b.name == a.name) with
    | none =>
        have := List.find?_eq_none.mp found a ha
        simp at this
    | some b =>
        have same : b.name = a.name := by simpa using List.find?_some found
        rw [List.inj_on_of_nodup_map distinct (List.mem_of_find?_eq_some found) ha same]

theorem deciding?_perm (same : l.Perm l') (distinct : (l.map AcceptedCoding.name).Nodup) :
    deciding? l name = deciding? l' name := by
  have find (name : String) :
      l.find? (fun a => a.name == name) = l'.find? (fun a => a.name == name) := by
    refine Option.ext fun a => ?_
    rw [find?_name_eq_some_iff distinct,
      find?_name_eq_some_iff ((same.map AcceptedCoding.name).nodup_iff.mp distinct), same.mem_iff]
  rw [deciding?, deciding?, find, find]

theorem deciding?_append_cons (other : a.name ≠ name) (star : a.name ≠ "*") :
    deciding? (l ++ a :: l') name = deciding? (l ++ l') name := by
  simp [deciding?, List.find?_append, other, star]

/-- A coding that a list accepts is refused by a longer one if the longer one goes on with an item of
its name that refuses it, and it was accepted without one. -/
theorem accepts_append_eq_false_iff (accepted : accepts l name = true) :
    accepts (l ++ l') name = false ↔ (∀ a ∈ l, a.name ≠ name) ∧
      ∃ a, l'.find? (fun a => a.name == name) = some a ∧ a.isAcceptable = false := by
  have unnamed : (∀ a ∈ l, a.name ≠ name) ↔ l.find? (fun a => a.name == name) = none := by
    simp
  rw [unnamed]
  rw [accepts, deciding?] at accepted ⊢
  rw [List.find?_append, List.find?_append]
  cases own : l.find? (fun a => a.name == name) with
  | some a =>
      rw [own] at accepted
      simpa using accepted
  | none =>
      rw [own] at accepted
      cases l'.find? (fun a => a.name == name) with
      | some a => simp
      | none =>
          cases star : l.find? (fun a => a.name == "*") with
          | none =>
              rw [star] at accepted
              cases accepted
          | some a =>
              rw [star] at accepted
              simpa using accepted

theorem exists_refused (named : nameOf item ≠ "") {w : Option Weight}
    (last : (weightsOf item).getLast? = some w) (refuses : Refuses w) :
    ∃ a, listed? item = some a ∧ a.name = nameOf item ∧ a.isAcceptable = false := by
  rw [listed?_eq, if_neg named, last]
  exact ⟨_, rfl, rfl, isAcceptable_eq_false refuses⟩

theorem accepts_eq_false (distinct : (l.map AcceptedCoding.name).Nodup) (ha : a ∈ l)
    (refused : a.isAcceptable = false) : accepts l a.name = false := by
  rw [accepts, deciding?, (find?_name_eq_some_iff distinct).mpr ⟨ha, rfl⟩]
  exact refused

end AcceptedCoding

open AcceptedCoding Text

theorem canServe_congr {codings : List String} {header header' : String}
    (h : ∀ name ∈ requiredCodings codings,
      deciding? (parse header) name = deciding? (parse header') name) :
    canServe codings (some header) = canServe codings (some header') := by
  rw [canServe, canServe, Bool.eq_iff_iff, List.all_eq_true, List.all_eq_true]
  refine forall₂_congr fun name required => ?_
  rw [parse?, parse?, accepts, accepts, h name required]

section

variable {codings items before after : List String} {header item : String}
  (apart : NamesApart (pieces ',' header))

include apart

theorem nodup_names_parse : ((parse header).map AcceptedCoding.name).Nodup := by
  rw [parse_eq, map_name_filterMap]
  exact apart

theorem canServe_perm (same : items.Perm (pieces ',' header)) :
    canServe codings (some (join "," items)) = canServe codings (some header) := by
  have commas : ∀ item ∈ items, ',' ∉ item.toList := fun item h =>
    notMem_of_mem_pieces (same.mem_iff.mp h)
  have entries : (parse header).Perm (parse (join "," items)) := by
    rw [parse_join commas, parse_eq]
    exact (same.filterMap _).symm
  exact canServe_congr fun name _ => (deciding?_perm entries (nodup_names_parse apart)).symm

theorem canServe_of_refuses (mem : item ∈ pieces ',' header)
    (required : nameOf item ∈ requiredCodings codings) {w : Option Weight}
    (last : (weightsOf item).getLast? = some w) (refuses : Refuses w) :
    canServe codings (some header) = false := by
  have named : nameOf item ≠ "" := by
    intro e
    rw [e, requiredCodings, List.mem_filter] at required
    simp at required
  obtain ⟨a, read, same, refused⟩ := exists_refused named last refuses
  have ha : a ∈ parse header := by
    rw [parse_eq]
    exact List.mem_filterMap.mpr ⟨item, mem, read⟩
  rw [canServe, List.all_eq_false]
  refine ⟨nameOf item, required, ?_⟩
  rw [← same]
  simpa [parse?] using accepts_eq_false (nodup_names_parse apart) ha refused

omit apart

/-- An item counts for the coding that it names only, if it does not name all of them. -/
theorem canServe_without (cut : pieces ',' header = before ++ item :: after)
    (unneeded : nameOf item ∉ requiredCodings codings) (star : nameOf item ≠ "*") :
    canServe codings (some (join "," (before ++ after))) = canServe codings (some header) := by
  have commas : ∀ other ∈ before ++ after, ',' ∉ other.toList := by
    intro other h
    have kept : other ∈ before ++ item :: after :=
      ((List.sublist_cons_self item after).append_left before).subset h
    rw [← cut] at kept
    exact notMem_of_mem_pieces kept
  refine canServe_congr fun name required => ?_
  rw [parse_join commas, parse_eq, cut, List.filterMap_append, List.filterMap_append]
  by_cases unnamed : nameOf item = ""
  · rw [List.filterMap_cons_none (listed?_eq_none unnamed)]
  · obtain ⟨a, read, named⟩ := exists_listed? unnamed
    rw [List.filterMap_cons_some read, deciding?_append_cons]
    · rw [named]
      exact fun e => unneeded (e ▸ required)
    · rwa [named]

end

/-- Where the items of a header name different codings, their order does not count, nor does an item
that names neither a coding of the body nor all codings. A coding of the body whose own item gives it
a weight last that cannot be read, is no number, or is not positive is refused, whatever the other
items say. -/
theorem canServe_by_names (codings : List String) (header : String)
    (apart : NamesApart (pieces ',' header)) :
    (∀ items, items.Perm (pieces ',' header) →
      canServe codings (some (join "," items)) = canServe codings (some header)) ∧
    (∀ before item after, pieces ',' header = before ++ item :: after →
      nameOf item ∉ requiredCodings codings → nameOf item ≠ "*" →
        canServe codings (some (join "," (before ++ after))) = canServe codings (some header)) ∧
    ∀ item ∈ pieces ',' header, nameOf item ∈ requiredCodings codings →
      ∀ w, (weightsOf item).getLast? = some w → Refuses w →
        canServe codings (some header) = false :=
  ⟨fun _ same => canServe_perm apart same,
    fun _ _ _ cut unneeded star => canServe_without cut unneeded star,
    fun _ mem required _ last refuses => canServe_of_refuses apart mem required last refuses⟩

/-- A header with blanks, capital letters, an item without a name, and two weights for one coding. -/
def mixedHeader : String :=
  " GZIP ;q=0.5, *;q=0,,br;q=1;q=nan"

/-- The order of the items does not count, and the last weight of an item does. -/
theorem canServe_by_names_mixed :
    NamesApart (pieces ',' mixedHeader) ∧
      canServe ["gzip"] (some "br;q=1;q=nan,, *;q=0, GZIP ;q=0.5") = true ∧
      canServe ["gzip"] (some " GZIP ;q=0.5, *;q=0,") = true ∧
      canServe ["gzip", "Br"] (some mixedHeader) = false := by
  have items : pieces ',' mixedHeader = [" GZIP ;q=0.5", " *;q=0", "", "br;q=1;q=nan"] := by
    decide +kernel
  have apart : NamesApart (pieces ',' mixedHeader) := by
    decide +kernel
  have served : canServe ["gzip"] (some mixedHeader) = true := by
    decide +kernel
  refine ⟨apart, ?_, ?_, ?_⟩
  · have same := (canServe_by_names ["gzip"] mixedHeader apart).1 _ (List.reverse_perm _)
    rw [items] at same
    exact same.trans served
  · have same := (canServe_by_names ["gzip"] mixedHeader apart).2.1
      [" GZIP ;q=0.5", " *;q=0", ""] "br;q=1;q=nan" [] items (by decide +kernel) (by decide +kernel)
    exact same.trans served
  · refine (canServe_by_names ["gzip", "Br"] mixedHeader apart).2.2 "br;q=1;q=nan" ?_ ?_ (some .nan)
      ?_ trivial
    · rw [items]
      decide
    · decide +kernel
    · decide +kernel

end Playback
