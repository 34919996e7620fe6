import Playback.Rating.Body

/-!
# Ratings

How closely a recorded request resembles a live one. Method, host and path must agree; the query, the
headers and, where the method sends one, the body then add their scores to a base of one increment.
-/

namespace Playback.Rating

/-- Whether a recorded request can answer a live one at all. -/
def isCandidate (recorded live : Request) : Bool :=
  recorded.method == live.method && recorded.target.host == live.target.host &&
    recorded.target.path == live.target.path

/-- The score of everything but the body. -/
def headScore (s : Scale) (recorded live : Request) : Int :=
  s.add (s.add s.increment (parametersScore s recorded.query live.query))
    (headersScore s recorded.headers live.headers)

/-- The rating of a recorded request for a live one; zero for one that is no candidate. -/
def rate (s : Scale) (registry : CodingRegistry) (recorded live : Request) :
    Except Multipart.Fault Int := do
  if !isCandidate recorded live then return 0
  let score := headScore s recorded live
  if live.method.carriesBody then
    return s.add score (← bodyScore s registry recorded live)
  return score

end Playback.Rating
