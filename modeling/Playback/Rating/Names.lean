import Playback.Message.Query
import Playback.Rating.Scale
import Playback.Rating.Values

/-!
# Scores of parameters and headers

Names are compared one by one. Parameters that only one side has cost half a score each, headers
that only one side has cost nothing.
-/

namespace Playback.Rating

/-- Whether a parameter has the same values on both sides. -/
def sameParameter (recorded live : Query) (name : String) : Bool :=
  sameValues (recorded.getAll name) (live.getAll name)

/-- Takes half a score off for a name that the other side does not have. -/
def withoutPartner (s : Scale) (other : Query) (score : Int) (name : String) : Int :=
  if other.contains name then score else s.sub score s.half

/-- Counts a live parameter. -/
def withParameter (s : Scale) (recorded live : Query) (score : Int) (name : String) : Int :=
  if !recorded.contains name then s.sub score s.half
  else if sameParameter recorded live name then s.add score s.increment
  else score

/-- The score of parameters: a full score if there are none at all, and never less than zero. -/
def parametersScore (s : Scale) (recorded live : Query) : Int :=
  if recorded.isEmpty && live.isEmpty then s.increment
  else
    let score := live.keys.foldl (withParameter s recorded live) 0
    max (recorded.keys.foldl (withoutPartner s live) score) 0

/-- Whether a header is recorded with the values that it has live. -/
def sameHeader (recorded live : Multimap String) (name : String) : Bool :=
  recorded.contains name &&
    sameValues ((recorded.getAll name).map some) ((live.getAll name).map some)

/-- The score of headers: a full score for each live header that is recorded with the same
values. -/
def headersScore (s : Scale) (recorded live : Multimap String) : Int :=
  (live.keys.filter (sameHeader recorded live)).foldl (fun score _ => s.add score s.increment) 0

end Playback.Rating
