import Playback.Message.Request
import Playback.Selection.Tally

/-!
# Sessions

What a client has asked for so far. Requests are counted by their signatures; a session that does
not count takes every request for the first of its kind.
-/

namespace Playback

/-- The state of a client's session. -/
inductive Session where
  | counting (tally : Tally Signature)
  | stateless

namespace Session

/-- A session that counts and has seen no request. -/
def fresh : Session := counting Tally.empty

/-- Notes a request. -/
def register (s : Session) (r : Request) : Session :=
  match s with
  | counting tally => counting (tally.add r.signature)
  | stateless => stateless

/-- How many requests of the same signature came before the one registered last; `-1` if none was
registered. -/
def occurrence (s : Session) (r : Request) : Int :=
  match s with
  | counting tally => (tally.count r.signature : Int) - 1
  | stateless => 0

/-- Forgets all requests. -/
def reset (s : Session) : Session :=
  match s with
  | counting _ => fresh
  | stateless => stateless

/-- The number of different signatures registered. -/
def distinctRequests (s : Session) : Nat :=
  match s with
  | counting tally => tally.size
  | stateless => 0

/-- The listing of a counting session. -/
def print (s : Session) : String :=
  "CountingSessionState " ++ "\x7b distinct_requests: " ++ toString s.distinctRequests ++ " \x7d"

end Session

end Playback
