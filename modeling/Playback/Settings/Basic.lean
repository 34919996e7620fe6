import Playback.Rating.Scale
import Playback.Rewrite.Rule

/-!
# Settings

How requests are matched and how responses are rewritten. Settings are checked before they are used:
a full score is positive and even, the threshold is not negative, and all rules can be prepared.
-/

namespace Playback

/-- How requests are matched: the full score, the rating that must be exceeded, and whether repeated
requests are answered by their recordings in turn. -/
structure Matching where
  increment : Int64
  threshold : Int64
  sequenceAware : Bool
deriving DecidableEq, Repr

namespace Matching

def default : Matching := ⟨100, 0, true⟩

end Matching

/-- How recordings are played back. -/
structure Settings where
  matching : Matching
  replacements : List BodyRule
  headerRules : List HeaderRule
deriving DecidableEq, Repr

/-- Why settings are refused. -/
inductive SettingsFault where
  | increment (n : Int)
  | threshold (n : Int)
  | replacement (index : Nat) (fault : RuleFault)
  | headerRule (index : Nat) (fault : RuleFault)
  | scale (n : Int)
  | rule (fault : RuleFault)
deriving DecidableEq, Repr

namespace SettingsFault

def message : SettingsFault → String
  | increment n =>
    "Invalid 'matching.increment': " ++ toString n ++ ". It must be a positive even number"
  | threshold n =>
    "Invalid 'matching.threshold': " ++ toString n ++ ". It must not be negative"
  | replacement index fault => "replacements[" ++ toString index ++ "]: " ++ fault.message
  | headerRule index fault => "responseHeaderTransforms[" ++ toString index ++ "]: " ++ fault.message
  | scale n => Rating.Scale.invalidIncrement n
  | rule fault => fault.message

end SettingsFault

namespace Settings

def default : Settings := ⟨Matching.default, [], []⟩

/-- Checks the rules of a list, and reports the first that is not valid with its place. -/
def checkAll {α : Type} (fault : Nat → RuleFault → SettingsFault)
    (validate : α → Except RuleFault Unit) : Nat → List α → Except SettingsFault Unit
  | _, [] => .ok ()
  | index, rule :: rules =>
    match validate rule with
    | .ok _ => checkAll fault validate (index + 1) rules
    | .error e => .error (fault index e)

def validate (patterns : PatternReader) (s : Settings) : Except SettingsFault Unit := do
  let n := s.matching.increment.toInt
  if n ≤ 0 ∨ n % 2 ≠ 0 then throw (.increment n)
  if s.matching.threshold.toInt < 0 then throw (.threshold s.matching.threshold.toInt)
  checkAll .replacement (BodyRule.validate patterns) 0 s.replacements
  checkAll .headerRule (HeaderRule.validate patterns) 0 s.headerRules

def compile (patterns : PatternReader) (s : Settings) : Except RuleFault Rewrites :=
  Rewrites.compile patterns s.replacements s.headerRules

end Settings

end Playback
