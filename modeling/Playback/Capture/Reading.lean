import Playback.Capture.Exchange
import Playback.Json.Parser
import Playback.Json.Record

/-!
# Reading captures
-/

namespace Playback

open Json

namespace NamedValue

def ofJson? (v : Json) : Option NamedValue := do
  match ← v.record? ["name", "value"] with
  | [some name, some value] => pure ⟨← name.string?, ← value.string?⟩
  | _ => none

end NamedValue

namespace CapturedContent

def ofJson? (v : Json) : Option CapturedContent := do
  match ← v.record? ["mimeType", "text", "encoding"] with
  | [mimeType, text, encoding] =>
    pure ⟨← optional? string? mimeType, ← orElse? "" string? text, ← optional? string? encoding⟩
  | _ => none

end CapturedContent

namespace CapturedRequest

def ofJson? (v : Json) : Option CapturedRequest := do
  match ← v.record? ["method", "url", "headers", "postData"] with
  | [some method, some url, headers, postData] =>
    pure ⟨← method.string?, ← url.string?, ← orElse? [] (list? NamedValue.ofJson?) headers,
      ← optional? CapturedContent.ofJson? postData⟩
  | _ => none

end CapturedRequest

namespace CapturedResponse

def ofJson? (v : Json) : Option CapturedResponse := do
  match ← v.record? ["status", "headers", "content"] with
  | [some status, headers, content] =>
    pure ⟨← status.uint16?, ← orElse? [] (list? NamedValue.ofJson?) headers,
      ← orElse? CapturedContent.empty CapturedContent.ofJson? content⟩
  | _ => none

end CapturedResponse

namespace Exchange

def ofJson? (v : Json) : Option Exchange := do
  match ← v.record? ["request", "response"] with
  | [some request, some response] =>
    pure ⟨← CapturedRequest.ofJson? request, ← CapturedResponse.ofJson? response⟩
  | _ => none

end Exchange

namespace Capture

/-- Reads a capture: a list of exchanges, or an object that holds one under `entries`. -/
def ofJson? (v : Json) : Option (List Exchange) := do
  match v with
  | array _ => v.list? Exchange.ofJson?
  | object members => (← (← memberOnce? members "entries")).list? Exchange.ofJson?
  | _ => none

/-- Why a capture cannot be read. -/
inductive Fault where
  | notText
  | notACapture
deriving DecidableEq, Repr

def parse (contents : Bytes) : Except Fault (List Exchange) :=
  match Bytes.toText? contents with
  | none => .error .notText
  | some text =>
    match (Json.parse? text).bind ofJson? with
    | none => .error .notACapture
    | some exchanges => .ok exchanges

end Capture

end Playback
