import Playback.Proofs.Capture.Written
import Playback.Settings.Reading
import Playback.Settings.Writing

/-! # Written settings read back -/

namespace Playback

open Json

namespace RuleValue

theorem ofJson?_toJson (value : RuleValue) : ofJson? value.toJson = some value := by
  cases value <;> rfl

theorem nullable?_toJson (value : RuleValue) : nullable? ofJson? value.toJson = some (some value) := by
  have read := ofJson?_toJson value
  cases value <;> exact congrArg (Option.map some) read

end RuleValue

namespace BodyRule

theorem toJson_eq (r : BodyRule) :
    r.toJson = ofFields ["match", "replace"] [some r.find.toJson, some r.replace.toJson] := rfl

theorem ofJson?_toJson (r : BodyRule) : ofJson? r.toJson = some r := by
  rw [ofJson?, toJson_eq, record?_ofFields (by decide) rfl]
  simp [RuleValue.ofJson?_toJson]

end BodyRule

namespace HeaderRule

theorem toJson_eq (r : HeaderRule) :
    r.toJson = ofFields ["nameMatch", "valueMatch", "nameReplace", "valueReplace"]
      [r.nameMatch.map RuleValue.toJson, r.valueMatch.map RuleValue.toJson,
        r.nameReplace.map RuleValue.toJson, r.valueReplace.map RuleValue.toJson] := by
  simp [toJson, ofFields]

theorem ofJson?_toJson (r : HeaderRule) : ofJson? r.toJson = some r := by
  have value := optional?_map RuleValue.nullable?_toJson
  rw [ofJson?, toJson_eq, record?_ofFields (by decide) rfl]
  simp [value]

end HeaderRule

namespace Matching

theorem toJson_eq (m : Matching) :
    m.toJson = ofFields ["increment", "threshold", "sequenceAware"]
      [some (int m.increment.toInt), some (int m.threshold.toInt), some (bool m.sequenceAware)] :=
  rfl

theorem ofJson?_toJson (m : Matching) : ofJson? m.toJson = some m := by
  have fields (increment threshold : Json) (hincrement : increment.int64? = some m.increment)
      (hthreshold : threshold.int64? = some m.threshold) :
      ofJson? (ofFields ["increment", "threshold", "sequenceAware"]
        [some increment, some threshold, some (bool m.sequenceAware)]) = some m := by
    rw [ofJson?, record?_ofFields (by decide) rfl]
    simp [hincrement, hthreshold, orElse?, bool?]
  exact fields _ _ (int64?_toInt _) (int64?_toInt _)

end Matching

namespace Settings

section

variable {α : Type} {read : Json → Option α} {write : α → Json}

/-- A list as a field, which has no value if there are no items. -/
def listField (write : α → Json) (items : List α) : Option Json :=
  if items.isEmpty then none else some (array (items.map write))

theorem listMember_eq (name : String) (write : α → Json) (items : List α) :
    listMember name write items = memberOf name id (listField write items) := by
  cases items <;> rfl

/-- A list that is left out for having no items is read as one without items. -/
theorem orElse?_listField (h : ∀ a, read (write a) = some a) (items : List α) :
    orElse? [] (list? read) (listField write items) = some items := by
  cases items with
  | nil => rfl
  | cons a items => exact list?_array_map h (a :: items)

end

theorem toJson_eq (s : Settings) :
    s.toJson = ofFields ["matching", "replacements", "responseHeaderTransforms"]
      [some s.matching.toJson, listField BodyRule.toJson s.replacements,
        listField HeaderRule.toJson s.headerRules] := by
  simp [toJson, ofFields, listMember_eq]

theorem ofJson?_toJson (s : Settings) : ofJson? s.toJson = some s := by
  have matching : orElse? Matching.default Matching.ofJson? (some s.matching.toJson) =
      some s.matching := s.matching.ofJson?_toJson
  have replacements := orElse?_listField BodyRule.ofJson?_toJson s.replacements
  have headerRules := orElse?_listField HeaderRule.ofJson?_toJson s.headerRules
  rw [ofJson?, toJson_eq, record?_ofFields (by decide) rfl]
  simp [matching, replacements, headerRules]

end Settings

/-- Captures and settings are read back from what is written of them, a capture also from an object
that holds the list of its exchanges. -/
theorem read_written :
    (∀ exchanges : List Exchange,
      Capture.ofJson? (Capture.toJson exchanges) = some exchanges ∧
        Capture.ofJson? (object [("entries", Capture.toJson exchanges)]) = some exchanges) ∧
    ∀ s : Settings, Settings.ofJson? s.toJson = some s := by
  constructor
  · intro exchanges
    exact ⟨Capture.ofJson?_toJson exchanges, Capture.ofJson?_wrapped exchanges⟩
  · exact Settings.ofJson?_toJson

end Playback
