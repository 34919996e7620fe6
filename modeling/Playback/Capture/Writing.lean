import Playback.Capture.Exchange
import Playback.Json.Record

/-!
# Writing captures

Fields that may be missing are left out where they are; all others are written.
-/

namespace Playback

open Json

namespace NamedValue

def toJson (v : NamedValue) : Json :=
  object [("name", string v.name), ("value", string v.value)]

end NamedValue

namespace CapturedContent

def toJson (c : CapturedContent) : Json :=
  object (memberOf "mimeType" string c.mimeType ++ [("text", string c.text)] ++
    memberOf "encoding" string c.encoding)

end CapturedContent

namespace CapturedRequest

def toJson (r : CapturedRequest) : Json :=
  object ([("method", string r.method), ("url", string r.url),
    ("headers", array (r.headers.map NamedValue.toJson))] ++
    memberOf "postData" CapturedContent.toJson r.postData)

end CapturedRequest

namespace CapturedResponse

def toJson (r : CapturedResponse) : Json :=
  object [("status", int r.status.toNat), ("headers", array (r.headers.map NamedValue.toJson)),
    ("content", r.content.toJson)]

end CapturedResponse

namespace Exchange

def toJson (e : Exchange) : Json :=
  object [("request", e.request.toJson), ("response", e.response.toJson)]

end Exchange

namespace Capture

def toJson (exchanges : List Exchange) : Json :=
  array (exchanges.map Exchange.toJson)

end Capture

end Playback
