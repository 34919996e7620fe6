import Playback.Capture.Recording
import Playback.Rating.Basic
import Playback.Selection.Position
import Playback.Selection.Session
import Playback.Selection.Top

/-!
# Matchers

A matcher finds the recording that answers a live request: the first of those with the highest
rating above a threshold. Where sequences are played back, a recording whose position among its equals
is the occurrence of the request in the session gets one more increment.
-/

namespace Playback

open Rating

/-- Recordings and how one of them is chosen. -/
structure Matcher where
  recordings : List Recording
  scale : Scale
  threshold : Int
  sequenceAware : Bool
  registry : CodingRegistry
  policy : EncodingPolicy

namespace Matcher

/-- The ratings of all recordings for a live request, in order. -/
def ratings (m : Matcher) (live : Request) : Except Multipart.Fault (List Int) :=
  m.recordings.mapM fun r => rate m.scale m.registry r.request live

/-- The position of each recording among those of the same signature. -/
def positions (m : Matcher) : List Nat :=
  Position.numbers (m.recordings.map fun r => r.request.signature)

/-- The rating of a candidate at a position, when its turn has come perhaps one increment higher. -/
def boosted (s : Scale) (occurrence : Int) (position : Nat) (rating : Int) : Int :=
  if 0 < rating ∧ (position : Int) = occurrence then s.add rating s.increment else rating

/-- The ratings by which recordings compete for the given occurrence of a request. -/
def competing (m : Matcher) (occurrence : Int) (ratings : List Int) : List Int :=
  if m.sequenceAware then List.zipWith (boosted m.scale occurrence) m.positions ratings
  else ratings

/-- The recording that answers a live request, if one does. -/
def select (m : Matcher) (session : Session) (live : Request) :
    Except Multipart.Fault (Option (Rated Recording)) := do
  let ratings ← m.ratings live
  pure (Rated.top m.threshold
    (List.zipWith Rated.mk m.recordings (m.competing (session.occurrence live) ratings)))

/-- The response of a recording to a live request, if it can be served. -/
def serve (m : Matcher) (live : Request) (r : Recording) : Option Response :=
  (r.exchange.parseResponse m.registry m.policy live).toOption

/-- The response to a live request, if some recording answers it and can be served. -/
def answer (m : Matcher) (session : Session) (live : Request) :
    Except Multipart.Fault (Option Response) := do
  let chosen ← m.select session live
  pure (chosen.bind fun r => m.serve live r.item)

end Matcher

end Playback
