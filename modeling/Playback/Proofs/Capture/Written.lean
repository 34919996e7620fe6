import Playback.Capture.Reading
import Playback.Capture.Writing
import Playback.Proofs.Json.Record

/-! # Written captures read back -/

namespace Playback

open Json

namespace NamedValue

theorem toJson_eq (v : NamedValue) :
    v.toJson = ofFields ["name", "value"] [some (string v.name), some (string v.value)] := rfl

theorem ofJson?_toJson (v : NamedValue) : ofJson? v.toJson = some v := by
  rw [ofJson?, toJson_eq, record?_ofFields (by decide) rfl]
  rfl

end NamedValue

namespace CapturedContent

theorem toJson_eq (c : CapturedContent) :
    c.toJson = ofFields ["mimeType", "text", "encoding"]
      [c.mimeType.map string, some (string c.text), c.encoding.map string] := by
  simp [toJson, ofFields]

theorem ofJson?_toJson (c : CapturedContent) : ofJson? c.toJson = some c := by
  have text (value : Option String) : optional? string? (value.map string) = some value :=
    optional?_map (fun _ => rfl) value
  rw [ofJson?, toJson_eq, record?_ofFields (by decide) rfl]
  simp [text, orElse?, string?]

theorem nullable?_toJson (c : CapturedContent) : nullable? ofJson? c.toJson = some (some c) :=
  congrArg (Option.map some) c.ofJson?_toJson

end CapturedContent

namespace CapturedRequest

theorem toJson_eq (r : CapturedRequest) :
    r.toJson = ofFields ["method", "url", "headers", "postData"]
      [some (string r.method), some (string r.url), some (array (r.headers.map NamedValue.toJson)),
        r.postData.map CapturedContent.toJson] := by
  simp [toJson, ofFields]

theorem ofJson?_toJson (r : CapturedRequest) : ofJson? r.toJson = some r := by
  have headers := list?_array_map NamedValue.ofJson?_toJson r.headers
  have postData := optional?_map CapturedContent.nullable?_toJson r.postData
  rw [ofJson?, toJson_eq, record?_ofFields (by decide) rfl]
  simp [headers, postData, orElse?, string?]

end CapturedRequest

namespace CapturedResponse

theorem toJson_eq (r : CapturedResponse) :
    r.toJson = ofFields ["status", "headers", "content"]
      [some (int r.status.toNat), some (array (r.headers.map NamedValue.toJson)),
        some r.content.toJson] := rfl

theorem ofJson?_toJson (r : CapturedResponse) : ofJson? r.toJson = some r := by
  have headers := list?_array_map NamedValue.ofJson?_toJson r.headers
  have content := r.content.ofJson?_toJson
  -- The status stays a variable, so that its bound is not computed.
  have fields (status : Json) (read : status.uint16? = some r.status) :
      ofJson? (ofFields ["status", "headers", "content"]
        [some status, some (array (r.headers.map NamedValue.toJson)), some r.content.toJson]) =
        some r := by
    rw [ofJson?, record?_ofFields (by decide) rfl]
    simp [read, headers, content, orElse?]
  exact fields _ (uint16?_toNat r.status)

end CapturedResponse

namespace Exchange

theorem toJson_eq (e : Exchange) :
    e.toJson = ofFields ["request", "response"]
      [some e.request.toJson, some e.response.toJson] := rfl

theorem ofJson?_toJson (e : Exchange) : ofJson? e.toJson = some e := by
  rw [ofJson?, toJson_eq, record?_ofFields (by decide) rfl]
  simp [CapturedRequest.ofJson?_toJson, CapturedResponse.ofJson?_toJson]

end Exchange

namespace Capture

theorem ofJson?_toJson (exchanges : List Exchange) :
    ofJson? (toJson exchanges) = some exchanges :=
  list?_array_map Exchange.ofJson?_toJson exchanges

/-- A capture is read back from an object that holds the list. -/
theorem ofJson?_wrapped (exchanges : List Exchange) :
    ofJson? (object [("entries", toJson exchanges)]) = some exchanges :=
  list?_array_map Exchange.ofJson?_toJson exchanges

end Capture

end Playback
