import Playback.Json.Record
import Playback.Settings.Basic

/-!
# Writing settings

Lists without items and values that are missing are left out.
-/

namespace Playback

open Json

namespace RuleValue

def toJson : RuleValue → Json
  | literal value => object [("type", string "literal"), ("value", string value)]
  | regex pattern => object [("type", string "regex"), ("pattern", string pattern)]
  | reference name => object [("type", string "variable"), ("name", string name)]

end RuleValue

namespace BodyRule

def toJson (r : BodyRule) : Json :=
  object [("match", r.find.toJson), ("replace", r.replace.toJson)]

end BodyRule

namespace HeaderRule

def toJson (r : HeaderRule) : Json :=
  object (memberOf "nameMatch" RuleValue.toJson r.nameMatch ++
    memberOf "valueMatch" RuleValue.toJson r.valueMatch ++
    memberOf "nameReplace" RuleValue.toJson r.nameReplace ++
    memberOf "valueReplace" RuleValue.toJson r.valueReplace)

end HeaderRule

namespace Matching

def toJson (m : Matching) : Json :=
  object [("increment", int m.increment.toInt), ("threshold", int m.threshold.toInt),
    ("sequenceAware", bool m.sequenceAware)]

end Matching

namespace Settings

/-- A member that is written only if its list has items. -/
def listMember {α : Type} (name : String) (write : α → Json) (items : List α) :
    List (String × Json) :=
  if items.isEmpty then [] else [(name, array (items.map write))]

def toJson (s : Settings) : Json :=
  object ([("matching", s.matching.toJson)] ++
    listMember "replacements" BodyRule.toJson s.replacements ++
    listMember "responseHeaderTransforms" HeaderRule.toJson s.headerRules)

end Settings

end Playback
