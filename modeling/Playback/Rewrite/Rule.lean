import Playback.Message.Payload
import Playback.Rewrite.Value

/-!
# Rules

Body rules replace parts of textual bodies. Header rules select headers by name and value and rename
them, change their values, or drop them. Rules are carried out one after the other.
-/

namespace Playback

/-- A rule for bodies as it is written. -/
structure BodyRule where
  find : RuleValue
  replace : RuleValue
deriving DecidableEq, Repr

/-- A rule for headers as it is written. -/
structure HeaderRule where
  nameMatch : Option RuleValue
  valueMatch : Option RuleValue
  nameReplace : Option RuleValue
  valueReplace : Option RuleValue
deriving DecidableEq, Repr

/-- Puts a text in place of what is found. -/
structure BodyRewrite where
  finder : Finder
  substitute : Substitute

namespace BodyRule

/-- Checks the two values of a rule. -/
def validate (patterns : PatternReader) (r : BodyRule) : Except RuleFault Unit := do
  r.find.checkAsMatch patterns
  r.replace.checkAsReplacement

def compile (patterns : PatternReader) (r : BodyRule) : Except RuleFault BodyRewrite := do
  pure ⟨← Finder.ofValue patterns r.find, ← Substitute.ofValue r.replace⟩

end BodyRule

namespace BodyRewrite

/-- The changed text, or `none` if the rule finds nothing. -/
def changed? (e : BodyRewrite) (live : Request) (text : String) : Option String :=
  e.finder.replaceAll? live (e.substitute.resolve live) text

end BodyRewrite

/-- Selects headers that satisfy all conditions given. -/
structure HeaderRewrite where
  nameFinder : Option Finder
  valueFinder : Option Finder
  nameSubstitute : Option Substitute
  valueSubstitute : Option Substitute

namespace HeaderRule

/-- Checks that a rule has a condition, and then the values given. -/
def validate (patterns : PatternReader) (r : HeaderRule) : Except RuleFault Unit := do
  if r.nameMatch.isNone && r.valueMatch.isNone then throw .noCondition
  r.nameMatch.forM (RuleValue.checkAsMatch patterns)
  r.valueMatch.forM (RuleValue.checkAsMatch patterns)
  r.nameReplace.forM RuleValue.checkAsReplacement
  r.valueReplace.forM RuleValue.checkAsReplacement

/-- Prepares a rule that is valid. -/
def compile (patterns : PatternReader) (r : HeaderRule) : Except RuleFault HeaderRewrite := do
  r.validate patterns
  pure ⟨← r.nameMatch.mapM (Finder.ofValue patterns), ← r.valueMatch.mapM (Finder.ofValue patterns),
    ← r.nameReplace.mapM Substitute.ofValue, ← r.valueReplace.mapM Substitute.ofValue⟩

end HeaderRule

namespace HeaderRewrite

/-- Whether a header satisfies the conditions. -/
def selects (e : HeaderRewrite) (live : Request) (field : Field) : Bool :=
  e.nameFinder.all (fun f => f.matchesName live field.1) &&
    e.valueFinder.all fun f => f.isMatch live field.2

/-- The value of a selected header after the rule: what was found in it is replaced, or all of it if
nothing was looked for. -/
def newValue (e : HeaderRewrite) (live : Request) (value : String) : String :=
  match e.valueSubstitute with
  | none => value
  | some s =>
    match e.valueFinder with
    | none => s.resolve live
    | some f => (f.replaceAll? live (s.resolve live) value).getD value

/-- A selected header after the rule; a rule that replaces nothing drops it. -/
def change (e : HeaderRewrite) (live : Request) (field : Field) : Option Field :=
  if e.nameSubstitute.isNone && e.valueSubstitute.isNone then none
  else some ((e.nameSubstitute.map fun s => s.resolve live).getD field.1, e.newValue live field.2)

/-- A header after the rule, if it is not dropped. -/
def apply (e : HeaderRewrite) (live : Request) (field : Field) : Option Field :=
  if e.selects live field then e.change live field else some field

end HeaderRewrite

/-- Rules ready to be carried out. -/
structure Rewrites where
  body : List BodyRewrite
  headers : List HeaderRewrite

namespace Rewrites

def compile (patterns : PatternReader) (body : List BodyRule) (headers : List HeaderRule) :
    Except RuleFault Rewrites := do
  pure ⟨← body.mapM (BodyRule.compile patterns), ← headers.mapM (HeaderRule.compile patterns)⟩

/-- A text after all body rules, or `none` if no rule found anything. -/
def rewriteText? (e : Rewrites) (live : Request) (text : String) : Option String :=
  e.body.foldl (fun changed rule => (rule.changed? live (changed.getD text)).or changed) none

/-- Headers after all header rules, each applied to the whole list. -/
def rewriteHeaders (e : Rewrites) (live : Request) (headers : List Field) : List Field :=
  e.headers.foldl (fun headers rule => headers.filterMap (rule.apply live)) headers

end Rewrites

end Playback
