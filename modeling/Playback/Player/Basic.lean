import Playback.Player.Libraries
import Playback.Selection.Matcher
import Playback.Settings.Basic

/-!
# Players

A player answers live requests from recordings: it notes the request in the session, finds the
recording that answers it, and rewrites the response by its rules. A body is rewritten in its codings
or not at all.
-/

namespace Playback

open Rating

/-- Recordings, how they are matched, and the rules for responses. -/
structure Player where
  matcher : Matcher
  rewrites : Rewrites

namespace Player

/-- The scale of an increment that can be one. -/
def scaleOf (increment : Int) : Except SettingsFault Scale :=
  if Scale.isIncrement increment then .ok (Scale.inWords increment) else .error (.scale increment)

def ofRecordings (patterns : PatternReader) (registry : CodingRegistry)
    (recordings : List Recording) (settings : Settings) : Except SettingsFault Player := do
  settings.validate patterns
  let scale ← scaleOf settings.matching.increment.toInt
  let rewrites ←
    match settings.compile patterns with
    | .ok rewrites => pure rewrites
    | .error fault => throw (.rule fault)
  let matcher : Matcher := ⟨recordings, scale, settings.matching.threshold.toInt,
    settings.matching.sequenceAware, registry, EncodingPolicy.asIs⟩
  pure ⟨matcher, rewrites⟩

/-- A player for the exchanges of a capture that can be understood. -/
def ofExchanges (libraries : Libraries) (exchanges : List Exchange) (settings : Settings) :
    Except SettingsFault Player :=
  ofRecordings libraries.patterns libraries.registry
    (Recording.ofExchanges libraries.urls exchanges) settings

def newSession (p : Player) : Session :=
  if p.matcher.sequenceAware then .fresh else .stateless

/-- The payload after the header rules. -/
def rewriteHeaders (p : Player) (live : Request) (payload : Payload) : Payload :=
  if p.rewrites.headers.isEmpty then payload
  else payload.edit [.headers (p.rewrites.rewriteHeaders live)]

/-- The bytes of a body after the body rules, in the codings it had before; `none` if no rule found
anything, or if the body cannot be read as text or be coded again. -/
def rewrittenBody? (p : Player) (live : Request) (payload : Payload) : Option Bytes := do
  let raw ← payload.body.read.toOption
  let decoded ← (p.matcher.registry.decodeChain payload.codings raw).toOption
  let rewritten ← p.rewrites.rewriteText? live (← Bytes.toText? decoded)
  (p.matcher.registry.encodeChain payload.codings (Bytes.ofText rewritten)).toOption

/-- The payload after the body rules, which apply to textual bodies only. -/
def rewriteBody (p : Player) (live : Request) (payload : Payload) : Payload :=
  if p.rewrites.body.isEmpty || !payload.mediaType.isTextual then payload
  else
    match p.rewrittenBody? live payload with
    | none => payload
    | some body => payload.edit [.body fun _ => .stored body,
        .setHeader "Content-Length" (toString body.length)]

/-- A response after all rules. -/
def rewrite (p : Player) (live : Request) (r : Response) : Response :=
  ⟨r.status, p.rewriteBody live (p.rewriteHeaders live r.payload)⟩

/-- Answers a live request, and gives the session that has noted it. -/
def respond (p : Player) (session : Session) (live : Request) :
    Except Multipart.Fault (Session × Response) := do
  let session := session.register live
  match ← p.matcher.answer session live with
  | some r => pure (session, p.rewrite live r)
  | none => pure (session, Response.notFound)

end Player

end Playback
