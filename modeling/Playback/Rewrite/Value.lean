import Playback.Rewrite.Pattern
import Playback.Rewrite.Variable
import Playback.Text.Replace

/-!
# Values of rules

What a rule looks for, and what it puts in its place: a text, a part of the live request or, to look
for only, a pattern.
-/

namespace Playback

/-- A value as it is written in a rule. -/
inductive RuleValue where
  | literal (value : String)
  | regex (pattern : String)
  | reference (name : String)
deriving DecidableEq, Repr

/-- Why a rule is refused. -/
inductive RuleFault where
  | emptyLiteral
  | invalidPattern (pattern reason : String)
  | unknownVariable (name : String)
  | patternAsReplacement (pattern : String)
  | noCondition
deriving DecidableEq, Repr

namespace RuleFault

def message : RuleFault → String
  | emptyLiteral => "Literal match value must not be empty"
  | invalidPattern pattern reason => "Invalid regex pattern '" ++ pattern ++ "': " ++ reason
  | unknownVariable name =>
    "Unknown variable '" ++ name ++ "'. Supported: " ++ Text.join ", " (Variable.all.map Variable.name)
  | patternAsReplacement pattern =>
    "Regex '" ++ pattern ++ "' cannot be used as a replacement value"
  | noCondition => "Response header transform needs 'nameMatch' or 'valueMatch'"

end RuleFault

namespace Variable

/-- The variable that a rule names. -/
def parse (s : String) : Except RuleFault Variable :=
  match ofName? s with
  | some v => .ok v
  | none => .error (.unknownVariable (Text.trim s))

end Variable

/-- What a rule looks for. -/
inductive Finder where
  | literal (text : String)
  | pattern (p : Pattern)
  | reference (v : Variable)

namespace Finder

/-- What a value looks for. -/
def ofValue (patterns : PatternReader) : RuleValue → Except RuleFault Finder
  | .literal text => if text.isEmpty then .error .emptyLiteral else .ok (literal text)
  | .regex text =>
    match patterns text with
    | .ok p => .ok (pattern p)
    | .error reason => .error (.invalidPattern text reason)
  | .reference name => do pure (reference (← Variable.parse name))

/-- Whether a text contains what is looked for. A variable without a value is nowhere. -/
def isMatch (f : Finder) (live : Request) (s : String) : Bool :=
  match f with
  | literal text => Text.isFoundIn text s
  | pattern p => p.isMatch s
  | reference v => Text.isFoundIn (v.resolve live) s

/-- Whether a header name is the one looked for, up to ASCII letter case; a pattern need only match
somewhere in it. -/
def matchesName (f : Finder) (live : Request) (name : String) : Bool :=
  match f with
  | literal text => Text.equalsIgnoringCase text name
  | pattern p => p.isMatch name
  | reference v => Text.equalsIgnoringCase (v.resolve live) name

/-- Replaces all that is looked for, or nothing if there is none of it. -/
def replaceAll? (f : Finder) (live : Request) (replacement s : String) : Option String :=
  match f with
  | literal text => Text.replaceAll? text replacement s
  | pattern p => p.replaceAll? replacement s
  | reference v => Text.replaceAll? (v.resolve live) replacement s

end Finder

/-- What a rule puts in place. -/
inductive Substitute where
  | literal (text : String)
  | reference (v : Variable)

namespace Substitute

/-- What a value puts in place. -/
def ofValue : RuleValue → Except RuleFault Substitute
  | .literal text => .ok (literal text)
  | .regex pattern => .error (.patternAsReplacement pattern)
  | .reference name => do pure (reference (← Variable.parse name))

/-- The text that is put in place. -/
def resolve (s : Substitute) (live : Request) : String :=
  match s with
  | literal text => text
  | reference v => v.resolve live

end Substitute

namespace RuleValue

/-- Checks that a value can be looked for. -/
def checkAsMatch (patterns : PatternReader) (value : RuleValue) : Except RuleFault Unit :=
  (Finder.ofValue patterns value).map fun _ => ()

/-- Checks that a value can be put in place of something. -/
def checkAsReplacement (value : RuleValue) : Except RuleFault Unit :=
  (Substitute.ofValue value).map fun _ => ()

end RuleValue

end Playback
