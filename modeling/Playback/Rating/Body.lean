import Playback.Coding.Basic
import Playback.Message.Request
import Playback.Multipart.Decode
import Playback.Rating.Names

/-!
# Scores of bodies

Bodies are compared after their codings are undone: forms by their parameters, all else byte by
byte. Forms in parts never add to a rating.
-/

namespace Playback.Rating

/-- The bytes of a body without its codings; if those cannot be undone, as they are. -/
def uncoded (registry : CodingRegistry) (r : Request) (raw : Bytes) : Bytes :=
  let codings := ((r.header? "content-encoding").map listedCodings).getD []
  match registry.decodeChain codings raw with
  | .ok bytes => bytes
  | .error _ => raw

/-- The bytes that a body is compared by, if it can be read. -/
def bodyBytes (registry : CodingRegistry) (r : Request) (body : Body) : Option Bytes :=
  match body.read with
  | .ok raw => some (uncoded registry r raw)
  | .error _ => none

/-- The parameters of a form-coded body. -/
def formOf (bytes : Bytes) : Query :=
  Query.parse (Bytes.toTextReplacing bytes)

/-- The score of two bodies in parts: none, unless one cannot even be taken apart because its
delimiters overlap. -/
def partsScore (recorded live : Except Multipart.Fault (List Multipart.Part)) :
    Except Multipart.Fault Int :=
  match recorded, live with
  | .error .overlappingDelimiters, _ => .error .overlappingDelimiters
  | _, .error .overlappingDelimiters => .error .overlappingDelimiters
  | _, _ => .ok 0

/-- The score of two bodies that can be read. -/
def contentScore (s : Scale) (recordedType liveType : MediaType) (recorded live : Bytes) :
    Except Multipart.Fault Int :=
  if recorded.isEmpty && live.isEmpty then .ok s.increment
  else if recordedType.isFormUrlencoded && liveType.isFormUrlencoded then
    .ok (parametersScore s (formOf recorded) (formOf live))
  else if recordedType.isMultipartFormData && liveType.isMultipartFormData then
    partsScore (Multipart.decode recordedType recorded) (Multipart.decode liveType live)
  else .ok (if recorded == live then s.increment else 0)

/-- The score of bodies: half a score if there are none, nothing if only one can be read. -/
def bodyScore (s : Scale) (registry : CodingRegistry) (recorded live : Request) :
    Except Multipart.Fault Int :=
  match recorded.body, live.body with
  | none, none => .ok s.half
  | some recordedBody, some liveBody =>
    match bodyBytes registry recorded recordedBody, bodyBytes registry live liveBody with
    | some recordedBytes, some liveBytes =>
      contentScore s (recorded.contentType?.getD MediaType.octetStream)
        (live.contentType?.getD MediaType.octetStream) recordedBytes liveBytes
    | _, _ => .ok 0
  | _, _ => .ok 0

end Playback.Rating
