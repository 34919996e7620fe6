import Playback.Proofs.Text.Replace
import Playback.Rewrite.Rule

/-! # Texts after the body rules -/

namespace Playback

/-! ## One rule -/

theorem Text.isSome_replaceAll? (needle replacement s : String) :
    (Text.replaceAll? needle replacement s).isSome = Text.isFoundIn needle s := by
  rw [Text.replaceAll?]
  split <;> simp_all

namespace Finder

variable {f : Finder} {live : Request}

theorem isMatch_reference_of_empty {v : Variable} (empty : v.resolve live = "") (text : String) :
    (reference v).isMatch live text = false := by
  simp [isMatch, empty, Text.isFoundIn]

theorem isSome_replaceAll? (f : Finder) (live : Request) (replacement s : String) :
    (f.replaceAll? live replacement s).isSome = f.isMatch live s := by
  cases f with
  | literal text => exact Text.isSome_replaceAll? _ _ _
  | pattern p => exact p.isSome_replaceAll? _ _
  | reference v => exact Text.isSome_replaceAll? _ _ _

/-- The text that is looked for, unless it is a pattern. -/
def text? (f : Finder) (live : Request) : Option String :=
  match f with
  | literal text => some text
  | pattern _ => none
  | reference v => some (v.resolve live)

theorem replaced_replaceAll? {needle : String} (sought : f.text? live = some needle)
    (nonempty : needle ≠ "") (replacement s : String) :
    Text.Replaced needle.toList replacement.toList s.toList
      ((f.replaceAll? live replacement s).getD s).toList := by
  cases f with
  | literal text =>
      obtain rfl := Option.some.inj sought
      exact Text.replaced_replaceAll? nonempty replacement s
  | pattern p => cases sought
  | reference v =>
      obtain rfl := Option.some.inj sought
      exact Text.replaced_replaceAll? nonempty replacement s

end Finder

namespace BodyRewrite

variable (rule : BodyRewrite) (live : Request) (text : String)

theorem isSome_changed? : (rule.changed? live text).isSome = rule.finder.isMatch live text :=
  rule.finder.isSome_replaceAll? live _ text

/-- The text after a rule, which is the same text if the rule does not match it. -/
def applied : String :=
  (rule.changed? live text).getD text

theorem replaced_applied {needle : String} (sought : rule.finder.text? live = some needle)
    (nonempty : needle ≠ "") :
    Text.Replaced needle.toList (rule.substitute.resolve live).toList text.toList
      (rule.applied live text).toList :=
  Finder.replaced_replaceAll? sought nonempty _ text

end BodyRewrite

/-! ## All rules -/

namespace Rewrites

variable (e : Rewrites) (live : Request) (text : String)

/-- The text after all body rules in order. -/
def applied : String :=
  e.body.foldl (fun text rule => rule.applied live text) text

theorem getD_changed? (rule : BodyRewrite) (changed : Option String) :
    ((rule.changed? live (changed.getD text)).or changed).getD text =
      rule.applied live (changed.getD text) := by
  rw [BodyRewrite.applied]
  cases rule.changed? live (changed.getD text) <;> rfl

theorem getD_foldl (rules : List BodyRewrite) (changed : Option String) :
    (rules.foldl (fun changed rule => (rule.changed? live (changed.getD text)).or changed)
      changed).getD text =
      rules.foldl (fun text rule => rule.applied live text) (changed.getD text) := by
  induction rules generalizing changed with
  | nil => rfl
  | cons rule rules ih => rw [List.foldl_cons, List.foldl_cons, ih, getD_changed?]

theorem isSome_foldl (rules : List BodyRewrite) (changed : Option String) :
    (rules.foldl (fun changed rule => (rule.changed? live (changed.getD text)).or changed)
      changed).isSome =
      (changed.isSome || rules.any fun rule => rule.finder.isMatch live text) := by
  induction rules generalizing changed with
  | nil => simp
  | cons rule rules ih =>
      rw [List.foldl_cons, ih, List.any_cons]
      cases changed with
      | some text => simp
      | none => simp [BodyRewrite.isSome_changed?]

/-- Some text comes out just if a rule matches the text that went in. -/
theorem isSome_rewriteText? :
    (e.rewriteText? live text).isSome = e.body.any fun rule => rule.finder.isMatch live text := by
  rw [rewriteText?, isSome_foldl, Option.isSome_none, Bool.false_or]

theorem rewriteText?_eq_none : e.rewriteText? live text = none ↔
    ∀ rule ∈ e.body, rule.finder.isMatch live text = false := by
  rw [← Option.not_isSome_iff_eq_none, isSome_rewriteText?, Bool.not_eq_true, List.any_eq_false]
  simp

theorem rewriteText?_eq_some {changed : String} : e.rewriteText? live text = some changed ↔
    (∃ rule ∈ e.body, rule.finder.isMatch live text = true) ∧ changed = e.applied live text := by
  have value := getD_foldl live text e.body none
  rw [← rewriteText?] at value
  rw [← List.any_eq_true, ← isSome_rewriteText?, applied]
  cases h : e.rewriteText? live text with
  | none => simp
  | some t =>
      rw [h] at value
      simp only [Option.getD_some, Option.getD_none] at value
      simp [← value, eq_comm]

end Rewrites

end Playback
