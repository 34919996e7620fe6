import Playback.Message.Body
import Playback.Message.Content

/-!
# Payloads

The headers, the media type and the body of a response. Headers keep their order and spelling; they
are found by name in any ASCII letter case.
-/

namespace Playback

/-- A header with its name and its value. -/
abbrev Field := String × String

/-- What a response carries. -/
structure Payload where
  headers : List Field
  mediaType : MediaType
  body : Body

namespace Payload

/-- Whether a header has the name given. -/
def named (name : String) (field : Field) : Bool :=
  Text.equalsIgnoringCase field.1 name

/-- The values of all headers of a name. -/
def headerValues (p : Payload) (name : String) : List String :=
  (p.headers.filter (named name)).map Prod.snd

/-- The value of the first header of a name. -/
def firstHeader? (p : Payload) (name : String) : Option String :=
  (p.headers.find? (named name)).map Prod.snd

/-- The payload of some content, which declares its type. -/
def ofContent (c : Content) : Payload :=
  ⟨[("Content-Type", c.mediaType.print)], c.mediaType, .stored c.bytes⟩

/-- Headers with one header of a name, put last in place of all others. -/
def replaceHeader (name value : String) (headers : List Field) : List Field :=
  (headers.filter fun field => !named name field) ++ [(name, value)]

end Payload

/-- A response: its status and what it carries. -/
structure Response where
  status : UInt16
  payload : Payload

namespace Response

/-- The answer to a request that nothing was recorded for. -/
def notFound : Response :=
  let body := Bytes.ofText "404 Not Found"
  let type := MediaType.plainText
  ⟨404, ⟨[("Content-Type", type.print), ("Content-Length", toString body.length)], type,
    .stored body⟩⟩

end Response

end Playback
