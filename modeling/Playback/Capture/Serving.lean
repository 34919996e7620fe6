import Playback.Capture.Exchange
import Playback.Coding.Accept
import Playback.Coding.Basic

/-!
# Serving recorded responses

A recorded body goes out in its codings if the client takes all of them, and without codings
otherwise. What goes out without codings is left to a policy.
-/

namespace Playback

/-- Why a recorded response cannot be served. -/
inductive ServingFault where
  | rejected (rejection : Rejection)
  | coding (fault : CodingFault)
  | unreadable (reason : String)
deriving DecidableEq, Repr

namespace ServingFault

/-- A result whose failure is a failure of serving. -/
def lift {ε α : Type} (cause : ε → ServingFault) : Except ε α → Except ServingFault α
  | .ok a => .ok a
  | .error e => .error (cause e)

end ServingFault

/-- Decides how a body without codings goes out. -/
abbrev EncodingPolicy := Payload → Except ServingFault Payload

namespace EncodingPolicy

/-- Bodies without codings go out as they are. -/
def asIs : EncodingPolicy := .ok

end EncodingPolicy

namespace Payload

/-- The codings of the body in the order they were applied, from all headers that declare some. -/
def codings (p : Payload) : List String :=
  listedCodings p.listedEncodings

/-- A payload without its codings, and without the headers that declare them. -/
def decoded (registry : CodingRegistry) (p : Payload) : Except ServingFault Payload := do
  let raw ← ServingFault.lift .unreadable p.body.read
  let bytes ← ServingFault.lift .coding (registry.decodeChain p.codings raw)
  pure (p.edit [.keepHeaders fun field => !named "content-encoding" field,
    .body fun _ => .stored bytes])

/-- The payload as it goes out to a client. -/
def negotiated (registry : CodingRegistry) (policy : EncodingPolicy) (live : Request)
    (p : Payload) : Except ServingFault Payload := do
  if p.codings.isEmpty then policy p
  else if canServe p.codings (live.header? "accept-encoding") then pure p
  else policy (← p.decoded registry)

end Payload

namespace Exchange

/-- The recorded response as a client gets it, with a length that agrees with the body. -/
def parseResponse (registry : CodingRegistry) (policy : EncodingPolicy) (live : Request)
    (e : Exchange) : Except ServingFault Response := do
  let recorded ← ServingFault.lift .rejected e.payload
  let payload ← recorded.negotiated registry policy live
  let payload ← ServingFault.lift .unreadable payload.withContentLength
  pure ⟨e.response.status, payload⟩

end Exchange

end Playback
