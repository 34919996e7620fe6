import Playback.Message.Body
import Playback.Message.MediaType
import Playback.Message.Target

/-!
# Requests
-/

namespace Playback

/-- A request, live or recorded, with its query parameters taken apart. -/
structure Request where
  method : Method
  target : Target
  query : Query
  headers : Multimap String
  body : Option Body

/-- What tells requests apart when they are counted: the method and the text of the target. -/
structure Signature where
  method : Method
  target : String
deriving DecidableEq, Repr, Hashable

namespace Request

/-- A request without headers and body. -/
def plain (method : Method) (target : Target) : Request :=
  ⟨method, target, target.parameters, Multimap.empty, none⟩

/-- Reads a method token and a target. -/
def parse (urls : UrlReader) (token raw : String) : Except Rejection Request := do
  match Method.ofToken? token with
  | none => throw (.unsupportedMethod token)
  | some method => pure (plain method (← Target.resolve urls method raw))

def withHeader (r : Request) (name value : String) : Request :=
  { r with headers := r.headers.insert name value }

def withBody (r : Request) (body : Body) : Request :=
  { r with body := some body }

def header? (r : Request) (name : String) : Option String :=
  r.headers.first? name

/-- The declared media type, if it can be read. -/
def contentType? (r : Request) : Option MediaType :=
  (r.header? "content-type").bind MediaType.parse?

/-- What the request is counted under. -/
def signature (r : Request) : Signature :=
  ⟨r.method, r.target.print⟩

end Request

end Playback
