import Mathlib.Data.List.Forall2
import Playback.Proofs.Rewrite.Text

/-! # Headers after the header rules -/

namespace Playback

namespace HeaderRewrite

variable (live : Request)

/-- Whether the headers that a rule selects are dropped. -/
def drops (rule : HeaderRewrite) : Bool :=
  rule.nameSubstitute.isNone && rule.valueSubstitute.isNone

/-- A header with the name and the value that a rule puts in place. -/
def replaced (rule : HeaderRewrite) (field : Field) : Field :=
  ((rule.nameSubstitute.map fun s => s.resolve live).getD field.1, rule.newValue live field.2)

section

variable {live} {rule : HeaderRewrite} {f : Finder} {s : Substitute}
  (looks : rule.valueFinder = some f) (puts : rule.valueSubstitute = some s)

include looks puts

theorem newValue_eq (value : String) :
    rule.newValue live value = (f.replaceAll? live (s.resolve live) value).getD value := by
  rw [newValue, puts, looks]

/-- A rule that looks for a text in values puts its own text there, and leaves the rest of the value
as it was. -/
theorem replaced_newValue {needle : String} (sought : f.text? live = some needle)
    (nonempty : needle ≠ "") (value : String) :
    Text.Replaced needle.toList (s.resolve live).toList value.toList
      (rule.newValue live value).toList := by
  rw [newValue_eq looks puts]
  exact Finder.replaced_replaceAll? sought nonempty _ value

/-- In the value of a selected header something is found and replaced. -/
theorem replaceAll?_of_selects {field : Field} (selected : rule.selects live field = true) :
    f.replaceAll? live (s.resolve live) field.2 = some (rule.newValue live field.2) := by
  have found : f.isMatch live field.2 = true := by
    rw [selects, Bool.and_eq_true, looks] at selected
    exact selected.2
  rw [← f.isSome_replaceAll? live (s.resolve live), Option.isSome_iff_exists] at found
  obtain ⟨changed, h⟩ := found
  rw [newValue_eq looks puts, h, Option.getD_some]

end

-- The host is put in place of a host and a port, also where the port goes on.
example : newValue ⟨none, some (.literal "h:8"), none, some (.reference .host)⟩
    (.plain .get ⟨some "http", "h", none, "/", none⟩) "h:8; u=h:88; h" = "h; u=h8; h" := by
  decide +kernel

/-- One header on its way through rules: a rule that selects it, as the rules before have left it,
drops it for good or replaces it. -/
def passed : List HeaderRewrite → Field → Option Field
  | [], field => some field
  | rule :: rules, field =>
    if rule.selects live field then
      if rule.drops then none else passed rules (rule.replaced live field)
    else passed rules field

variable {live} {rule : HeaderRewrite} {rules : List HeaderRewrite} {field : Field}

theorem passed_cons :
    passed live (rule :: rules) field = (rule.apply live field).bind (passed live rules) := by
  rw [passed, apply]
  by_cases selected : rule.selects live field
  · rw [if_pos selected, if_pos selected, change, ← drops]
    cases rule.drops <;> rfl
  · rw [if_neg selected, if_neg selected, Option.bind_some]

theorem passed_append (before after : List HeaderRewrite) :
    passed live (before ++ after) field = (passed live before field).bind (passed live after) := by
  induction before generalizing field with
  | nil => rfl
  | cons rule before ih =>
      rw [List.cons_append, passed_cons, passed_cons, Option.bind_assoc]
      exact congrArg _ (funext fun _ => ih)

theorem passed_of_unselected (h : ∀ rule ∈ rules, rule.selects live field = false) :
    passed live rules field = some field := by
  induction rules with
  | nil => rfl
  | cons rule rules ih =>
      rw [List.forall_mem_cons] at h
      rw [passed, if_neg (by simp [h.1]), ih h.2]

/-- A header is dropped just if it comes to a rule that selects it and drops what it selects. -/
theorem passed_eq_none_iff : passed live rules field = none ↔
    ∃ before rule after reached, rules = before ++ rule :: after ∧
      passed live before field = some reached ∧ rule.selects live reached = true ∧
      rule.drops = true := by
  constructor
  · intro h
    induction rules generalizing field with
    | nil => cases h
    | cons rule rules ih =>
        by_cases selected : rule.selects live field
        · by_cases drops : rule.drops
          · exact ⟨[], rule, rules, field, rfl, rfl, selected, drops⟩
          · rw [passed, if_pos selected, if_neg drops] at h
            obtain ⟨before, last, after, reached, rfl, way, found⟩ := ih h
            refine ⟨rule :: before, last, after, reached, rfl, ?_, found⟩
            rw [passed, if_pos selected, if_neg drops, way]
        · rw [passed, if_neg selected] at h
          obtain ⟨before, last, after, reached, rfl, way, found⟩ := ih h
          refine ⟨rule :: before, last, after, reached, rfl, ?_, found⟩
          rw [passed, if_neg selected, way]
  · rintro ⟨before, rule, after, reached, rfl, way, selected, drops⟩
    rw [passed_append, way, Option.bind_some, passed, if_pos selected, if_pos drops]

end HeaderRewrite

namespace Rewrites

open HeaderRewrite

variable (e : Rewrites) (live : Request)

/-- Going over all headers rule by rule is going through all rules header by header. -/
theorem foldl_filterMap_apply (rules : List HeaderRewrite) (headers : List Field) :
    rules.foldl (fun headers rule => headers.filterMap (rule.apply live)) headers =
      headers.filterMap (passed live rules) := by
  induction rules generalizing headers with
  | nil => simp [passed]
  | cons rule rules ih =>
      rw [List.foldl_cons, ih, List.filterMap_filterMap]
      exact congrArg (headers.filterMap ·) (funext fun _ => passed_cons.symm)

theorem rewriteHeaders_eq_filterMap (headers : List Field) :
    e.rewriteHeaders live headers = headers.filterMap (passed live e.headers) :=
  foldl_filterMap_apply live e.headers headers

theorem rewriteHeaders_append (front back : List Field) :
    e.rewriteHeaders live (front ++ back) =
      e.rewriteHeaders live front ++ e.rewriteHeaders live back := by
  simp only [rewriteHeaders_eq_filterMap, List.filterMap_append]

theorem rewriteHeaders_unselected {field : Field}
    (h : ∀ rule ∈ e.headers, rule.selects live field = false) (front back : List Field) :
    e.rewriteHeaders live (front ++ field :: back) =
      e.rewriteHeaders live front ++ field :: e.rewriteHeaders live back := by
  have stays := List.filterMap_cons_some (l := back) (passed_of_unselected h)
  rw [rewriteHeaders_append, e.rewriteHeaders_eq_filterMap live (field :: back), stays,
    ← rewriteHeaders_eq_filterMap]

theorem forall₂_rewriteHeaders (headers : List Field) :
    List.Forall₂ (fun field result => passed live e.headers field = some result)
      (headers.filter fun field => (passed live e.headers field).isSome)
      (e.rewriteHeaders live headers) := by
  rw [rewriteHeaders_eq_filterMap]
  induction headers with
  | nil => exact .nil
  | cons field headers ih =>
      cases h : passed live e.headers field with
      | none => rwa [List.filter_cons_of_neg (by simp [h]), List.filterMap_cons_none h]
      | some result =>
          rw [List.filter_cons_of_pos (by simp [h]), List.filterMap_cons_some h]
          exact .cons h ih

/-- What header rules do to every header on its own, and with that to lists of headers. -/
structure Headerwise (e : Rewrites) (live : Request) : Prop where
  eq_filterMap : ∀ headers, e.rewriteHeaders live headers =
    headers.filterMap (passed live e.headers)
  dropped_iff : ∀ field, passed live e.headers field = none ↔
    ∃ before rule after reached, e.headers = before ++ rule :: after ∧
      passed live before field = some reached ∧ rule.selects live reached = true ∧
      rule.drops = true
  in_order : ∀ headers,
    List.Forall₂ (fun field result => passed live e.headers field = some result)
      (headers.filter fun field => (passed live e.headers field).isSome)
      (e.rewriteHeaders live headers)
  unselected : ∀ field, (∀ rule ∈ e.headers, rule.selects live field = false) →
    ∀ front back, e.rewriteHeaders live (front ++ field :: back) =
      e.rewriteHeaders live front ++ field :: e.rewriteHeaders live back
  append : ∀ front back, e.rewriteHeaders live (front ++ back) =
    e.rewriteHeaders live front ++ e.rewriteHeaders live back

/-- Rule by rule over all headers comes to the same as header by header through all rules. -/
theorem rewriteHeaders_headerwise : Headerwise e live where
  eq_filterMap := e.rewriteHeaders_eq_filterMap live
  dropped_iff _ := passed_eq_none_iff
  in_order := e.forall₂_rewriteHeaders live
  unselected _ := e.rewriteHeaders_unselected live
  append := e.rewriteHeaders_append live

-- A header is dropped under the name that the first rule has given it.
example :
    rewriteHeaders ⟨[], [⟨some (.literal "Via"), none, some (.literal "X-Via"), none⟩,
        ⟨some (.literal "x-via"), some (.literal "h"), none, none⟩]⟩
      (.plain .get ⟨some "http", "h", none, "/", none⟩)
      [("via", "h"), ("Server", "h"), ("X-Via", "i")] = [("Server", "h"), ("X-Via", "i")] := by
  decide +kernel

end Rewrites

end Playback
