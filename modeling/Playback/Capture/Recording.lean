import Playback.Capture.Serving

/-!
# Recordings

An exchange that live requests can be compared with. Exchanges whose requests cannot be understood
are left out of play.
-/

namespace Playback

/-- An exchange with its request taken apart. -/
structure Recording where
  request : Request
  exchange : Exchange

namespace Recording

def ofExchange (urls : UrlReader) (e : Exchange) : Except Rejection Recording := do
  pure ⟨← e.parseRequest urls, e⟩

/-- The recordings of the exchanges that can be understood, in order. -/
def ofExchanges (urls : UrlReader) (exchanges : List Exchange) : List Recording :=
  exchanges.filterMap fun e => (ofExchange urls e).toOption

/-- The listing of a recording. -/
def print (r : Recording) : String :=
  "ParsedEntry " ++ "\x7b method: " ++ r.request.method.label ++ ", url: " ++
    Text.quoted r.request.target.print ++ ", .. \x7d"

end Recording

end Playback
