import Playback.Player.Basic
import Playback.Proofs.Outcome

/-! # Valid settings -/

namespace Playback

/-! ## Checks -/

section

variable {ε α β : Type}

theorem map_eq_ok_iff {x : Except ε α} : (x.map fun _ => ()) = .ok () ↔ ∃ a, x = .ok a := by
  cases x <;> simp [Except.map]

/-- A value that may be missing is checked by computing what is there. -/
theorem forM_eq_ok_iff {f : α → Except ε β} {value : Option α} :
    value.forM (fun a => (f a).map fun _ => ()) = .ok () ↔ ∃ result, value.mapM f = .ok result := by
  cases value with
  | none => exact ⟨fun _ => ⟨none, rfl⟩, fun _ => rfl⟩
  | some a => cases h : f a <;> simp [h, Option.forM, Except.map]

theorem exists_mapM_eq_ok_iff {f : α → Except ε β} {l : List α} :
    (∃ results, l.mapM f = .ok results) ↔ ∀ a ∈ l, ∃ b, f a = .ok b := by
  induction l with
  | nil => exact ⟨fun _ => List.forall_mem_nil _, fun _ => ⟨[], rfl⟩⟩
  | cons a l ih =>
      rw [List.forall_mem_cons, ← ih, List.mapM_cons]
      cases f a with
      | error e => simp [bind, Except.bind]
      | ok b => cases l.mapM f <;> simp [bind, Except.bind, pure, Except.pure]

end

variable {patterns : PatternReader}

/-! ## Rules -/

namespace BodyRule

theorem validate_eq (r : BodyRule) :
    r.validate patterns = (r.compile patterns).map fun _ => () := by
  unfold validate compile RuleValue.checkAsMatch RuleValue.checkAsReplacement
  cases Finder.ofValue patterns r.find with
  | error fault => rfl
  | ok finder => cases Substitute.ofValue r.replace <;> rfl

end BodyRule

namespace HeaderRule

/-- A valid rule has a condition, and all values that it is given can be computed. -/
theorem exists_of_validate {r : HeaderRule} {checked : Unit}
    (valid : r.validate patterns = .ok checked) :
    (r.nameMatch.isSome ∨ r.valueMatch.isSome) ∧
      (∃ v, r.nameMatch.mapM (Finder.ofValue patterns) = .ok v) ∧
      (∃ v, r.valueMatch.mapM (Finder.ofValue patterns) = .ok v) ∧
      (∃ v, r.nameReplace.mapM Substitute.ofValue = .ok v) ∧
      ∃ v, r.valueReplace.mapM Substitute.ofValue = .ok v := by
  unfold validate at valid
  split at valid
  case isTrue => cases valid
  case isFalse given =>
    obtain ⟨_, nameGiven, valid⟩ := exists_ok_of_bind_eq_ok valid
    obtain ⟨_, valueGiven, valid⟩ := exists_ok_of_bind_eq_ok valid
    obtain ⟨_, newNameGiven, newValueGiven⟩ := exists_ok_of_bind_eq_ok valid
    refine ⟨?_, forM_eq_ok_iff.mp nameGiven, forM_eq_ok_iff.mp valueGiven,
      forM_eq_ok_iff.mp newNameGiven, forM_eq_ok_iff.mp newValueGiven⟩
    simpa [Option.isSome_iff_ne_none, imp_iff_not_or] using given

/-- A rule is checked by preparing it: what was checked once is computed once more. -/
theorem validate_eq (r : HeaderRule) :
    r.validate patterns = (r.compile patterns).map fun _ => () := by
  unfold compile
  cases valid : r.validate patterns with
  | error fault => rfl
  | ok checked =>
      obtain ⟨-, ⟨v, hv⟩, ⟨w, hw⟩, ⟨x, hx⟩, ⟨y, hy⟩⟩ := exists_of_validate valid
      rw [hv, hw, hx, hy]
      rfl

end HeaderRule

/-! ## Settings -/

namespace Settings

variable {α β : Type}

theorem checkAll_eq_ok_iff {fault : Nat → RuleFault → SettingsFault}
    {validate : α → Except RuleFault Unit} {index : Nat} {rules : List α} :
    checkAll fault validate index rules = .ok () ↔ ∀ rule ∈ rules, validate rule = .ok () := by
  induction rules generalizing index with
  | nil => exact ⟨fun _ => List.forall_mem_nil _, fun _ => rfl⟩
  | cons rule rules ih =>
      rw [List.forall_mem_cons, checkAll]
      cases valid : validate rule with
      | error e => simp
      | ok checked => simp [ih]

theorem checkAll_eq_ok_iff_exists_mapM {validate : α → Except RuleFault Unit}
    {compile : α → Except RuleFault β} (h : ∀ rule, validate rule = (compile rule).map fun _ => ())
    (fault : Nat → RuleFault → SettingsFault) (index : Nat) (rules : List α) :
    checkAll fault validate index rules = .ok () ↔ ∃ results, rules.mapM compile = .ok results := by
  rw [checkAll_eq_ok_iff, exists_mapM_eq_ok_iff]
  simp only [h, map_eq_ok_iff]

theorem exists_compile_iff {s : Settings} :
    (∃ rewrites, s.compile patterns = .ok rewrites) ↔
      (∃ body, s.replacements.mapM (BodyRule.compile patterns) = .ok body) ∧
        ∃ headers, s.headerRules.mapM (HeaderRule.compile patterns) = .ok headers := by
  unfold compile Rewrites.compile
  cases s.replacements.mapM (BodyRule.compile patterns) with
  | error fault => simp [bind, Except.bind]
  | ok body =>
      cases s.headerRules.mapM (HeaderRule.compile patterns) <;>
        simp [bind, Except.bind, pure, Except.pure]

theorem validate_eq_ok_iff {s : Settings} :
    s.validate patterns = .ok () ↔
      0 < s.matching.increment.toInt ∧ s.matching.increment.toInt % 2 = 0 ∧
        0 ≤ s.matching.threshold.toInt ∧ ∃ rewrites, s.compile patterns = .ok rewrites := by
  have bodies := checkAll_eq_ok_iff_exists_mapM (@BodyRule.validate_eq patterns) .replacement 0
    s.replacements
  have headers := checkAll_eq_ok_iff_exists_mapM (@HeaderRule.validate_eq patterns) .headerRule 0
    s.headerRules
  rw [exists_compile_iff, ← bodies, ← headers]
  simp only [validate, bind, Except.bind, throw, throwThe, MonadExceptOf.throw]
  split
  case isTrue outOfRange =>
    simp only [reduceCtorEq, false_iff]
    omega
  case isFalse increment =>
    split
    case isTrue negative =>
      simp only [reduceCtorEq, false_iff]
      omega
    case isFalse threshold =>
      have numbers : 0 < s.matching.increment.toInt ∧ s.matching.increment.toInt % 2 = 0 ∧
        0 ≤ s.matching.threshold.toInt := by omega
      cases checkAll .replacement (BodyRule.validate patterns) 0 s.replacements with
      | error fault => simp
      | ok checked => simp [numbers]

/-- The second of two rules puts a pattern in place of something. -/
example : validate patterns
    ⟨Matching.default, [⟨.literal "a", .literal "b"⟩, ⟨.literal "b", .regex "c"⟩], []⟩ =
    .error (.replacement 1 (.patternAsReplacement "c")) := by
  rfl

theorem isSome_of_compile {s : Settings} {rewrites : Rewrites}
    (compiled : s.compile patterns = .ok rewrites) :
    ∀ rule ∈ s.headerRules, rule.nameMatch.isSome ∨ rule.valueMatch.isSome := by
  intro rule hrule
  have prepared := (exists_compile_iff.mp ⟨rewrites, compiled⟩).2
  have valid : rule.validate patterns = .ok () := by
    rw [rule.validate_eq, map_eq_ok_iff]
    exact exists_mapM_eq_ok_iff.mp prepared rule hrule
  exact (HeaderRule.exists_of_validate valid).1

end Settings

namespace Player

theorem exists_ofRecordings {s : Settings} (valid : s.validate patterns = .ok ())
    (registry : CodingRegistry) (recordings : List Recording) :
    ∃ p, ofRecordings patterns registry recordings s = .ok p := by
  obtain ⟨positive, even, -, rewrites, compiled⟩ := Settings.validate_eq_ok_iff.mp valid
  have scale : scaleOf s.matching.increment.toInt =
      .ok (Rating.Scale.inWords s.matching.increment.toInt) := by
    simp [scaleOf, Rating.Scale.isIncrement, positive, even]
  unfold ofRecordings
  simp [valid, scale, compiled, bind, Except.bind, pure, Except.pure]

theorem ofRecordings_of_error {s : Settings} {fault : SettingsFault}
    (refused : s.validate patterns = .error fault) (registry : CodingRegistry)
    (recordings : List Recording) : ofRecordings patterns registry recordings s = .error fault := by
  unfold ofRecordings
  rw [refused]
  rfl

/-- Settings are valid if their numbers are in range, every header rule has a condition, and all rules
can be prepared. Players are built from valid settings and from no others, and where none is built,
the fault is the one that checking the settings finds. -/
theorem ofRecordings_ok_iff_validate (patterns : PatternReader) (s : Settings) :
    (s.validate patterns = .ok () ↔
      0 < s.matching.increment.toInt ∧ s.matching.increment.toInt % 2 = 0 ∧
        0 ≤ s.matching.threshold.toInt ∧
        (∀ rule ∈ s.headerRules, rule.nameMatch.isSome ∨ rule.valueMatch.isSome) ∧
        ∃ rewrites, s.compile patterns = .ok rewrites) ∧
      ∀ registry recordings,
        ((∃ p, ofRecordings patterns registry recordings s = .ok p) ↔
          s.validate patterns = .ok ()) ∧
        ∀ fault, ofRecordings patterns registry recordings s = .error fault ↔
          s.validate patterns = .error fault := by
  constructor
  · rw [Settings.validate_eq_ok_iff]
    constructor
    · rintro ⟨positive, even, threshold, rewrites, compiled⟩
      exact ⟨positive, even, threshold, Settings.isSome_of_compile compiled, rewrites, compiled⟩
    · rintro ⟨positive, even, threshold, -, compiled⟩
      exact ⟨positive, even, threshold, compiled⟩
  · intro registry recordings
    cases valid : s.validate patterns with
    | ok checked =>
        obtain ⟨p, built⟩ := exists_ofRecordings valid registry recordings
        simp [built]
    | error fault =>
        simp [ofRecordings_of_error valid registry recordings]

end Player

end Playback
