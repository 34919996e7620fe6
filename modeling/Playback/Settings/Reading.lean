import Playback.Json.Record
import Playback.Settings.Basic
import Playback.Yaml.Node

/-!
# Reading settings
-/

namespace Playback

open Json

namespace RuleValue

/-- The value of a kind with its only field. -/
def ofKind? (kind : String) (text : String) : Option RuleValue :=
  if kind == "literal" then some (literal text)
  else if kind == "regex" then some (regex text)
  else if kind == "variable" then some (reference text)
  else none

/-- The name of the field that values of a kind have. -/
def fieldOf? (kind : String) : Option String :=
  [("literal", "value"), ("regex", "pattern"), ("variable", "name")].lookup kind

/-- Reads a value: its kind under `type` and its field, or a list of the two. -/
def ofJson? (v : Json) : Option RuleValue :=
  match v with
  | object members => do
    let kind ← (← memberOnce? members "type").bind string?
    let text ← (← memberOnce? members (← fieldOf? kind)).bind string?
    ofKind? kind text
  | array [string kind, string text] => ofKind? kind text
  | _ => none

end RuleValue

namespace BodyRule

def ofJson? (v : Json) : Option BodyRule := do
  match ← v.record? ["match", "replace"] with
  | [some find, some replace] =>
    pure ⟨← RuleValue.ofJson? find, ← RuleValue.ofJson? replace⟩
  | _ => none

end BodyRule

namespace HeaderRule

def ofJson? (v : Json) : Option HeaderRule := do
  match ← v.record? ["nameMatch", "valueMatch", "nameReplace", "valueReplace"] with
  | [nameMatch, valueMatch, nameReplace, valueReplace] =>
    pure ⟨← optional? RuleValue.ofJson? nameMatch, ← optional? RuleValue.ofJson? valueMatch,
      ← optional? RuleValue.ofJson? nameReplace, ← optional? RuleValue.ofJson? valueReplace⟩
  | _ => none

end HeaderRule

namespace Matching

def ofJson? (v : Json) : Option Matching := do
  match ← v.record? ["increment", "threshold", "sequenceAware"] with
  | [increment, threshold, sequenceAware] =>
    pure ⟨← orElse? default.increment int64? increment,
      ← orElse? default.threshold int64? threshold,
      ← orElse? default.sequenceAware bool? sequenceAware⟩
  | _ => none

end Matching

namespace Settings

def ofJson? (v : Json) : Option Settings := do
  match ← v.record? ["matching", "replacements", "responseHeaderTransforms"] with
  | [matching, replacements, headerRules] =>
    pure ⟨← orElse? Matching.default Matching.ofJson? matching,
      ← orElse? [] (list? BodyRule.ofJson?) replacements,
      ← orElse? [] (list? HeaderRule.ofJson?) headerRules⟩
  | _ => none

/-- Why a settings file cannot be used. -/
inductive ReadingFault where
  | notSettings
  | refused (fault : SettingsFault)
deriving DecidableEq, Repr

/-- Reads the text of a settings file and checks the settings. -/
def parse (patterns : PatternReader) (text : String) : Except ReadingFault Settings :=
  match (Yaml.parse? text).bind ofJson? with
  | none => .error .notSettings
  | some s =>
    match s.validate patterns with
    | .ok _ => .ok s
    | .error fault => .error (.refused fault)

end Settings

end Playback
