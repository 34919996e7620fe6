import Playback.Message.Edit
import Playback.Message.Request

/-!
# Recorded exchanges

A capture is a list of exchanges: a request as it was sent and the response as it was received,
bodies still coded as on the wire.
-/

namespace Playback

/-- A recorded header. -/
structure NamedValue where
  name : String
  value : String
deriving DecidableEq, Repr

namespace NamedValue

/-- The header of a recorded one. -/
def toField (v : NamedValue) : Field :=
  (v.name, v.value)

end NamedValue

/-- A recorded body: its text, which may be written in base64. -/
structure CapturedContent where
  mimeType : Option String
  text : String
  encoding : Option String
deriving DecidableEq, Repr

namespace CapturedContent

/-- The content of a response without a body. -/
def empty : CapturedContent := ⟨none, "", none⟩

/-- The content that spells the bytes given in base64. -/
def binary (mimeType : String) (bytes : Bytes) : CapturedContent :=
  ⟨some mimeType, String.ofList (Text.Base64.encode bytes), some "base64"⟩

def bytes (c : CapturedContent) : Except Rejection Bytes :=
  match c.encoding with
  | none => .ok (Bytes.ofText c.text)
  | some encoding =>
    if Text.equalsIgnoringCase encoding "base64" then
      match Text.Base64.decode (Bytes.ofText (Text.trim c.text)) with
      | .ok bytes => .ok bytes
      | .error fault => .error (.invalidBase64 fault)
    else .error (.unsupportedTextEncoding encoding)

end CapturedContent

structure CapturedRequest where
  method : String
  url : String
  headers : List NamedValue
  postData : Option CapturedContent
deriving DecidableEq, Repr

structure CapturedResponse where
  status : UInt16
  headers : List NamedValue
  content : CapturedContent
deriving DecidableEq, Repr

/-- A request with the response it was given. -/
structure Exchange where
  request : CapturedRequest
  response : CapturedResponse
deriving DecidableEq, Repr

namespace Exchange

/-- A `GET` exchange that was answered with a text. -/
def get (url mimeType text : String) : Exchange :=
  ⟨⟨"GET", url, [], none⟩, ⟨200, [⟨"Content-Type", mimeType⟩], ⟨some mimeType, text, none⟩⟩⟩

/-- The request of an exchange, taken apart for comparison. -/
def parseRequest (urls : UrlReader) (e : Exchange) : Except Rejection Request := do
  let plain ← Request.parse urls e.request.method e.request.url
  let body ←
    match e.request.postData with
    | none => pure none
    | some content => do pure (some (Body.stored (← content.bytes)))
  pure { plain with headers := Multimap.ofList (e.request.headers.map NamedValue.toField), body }

/-- The media type of the recorded response, declared with the content or by a header. -/
def mediaType? (e : Exchange) : Option MediaType :=
  let declared := (e.response.headers.map NamedValue.toField).find? (Payload.named "content-type")
  (e.response.content.mimeType.or (declared.map Prod.snd)).bind MediaType.parse?

/-- What the recorded response carries. -/
def payload (e : Exchange) : Except Rejection Payload := do
  let bytes ← e.response.content.bytes
  pure ⟨e.response.headers.map NamedValue.toField, e.mediaType?.getD MediaType.octetStream,
    .stored bytes⟩

end Exchange

end Playback
