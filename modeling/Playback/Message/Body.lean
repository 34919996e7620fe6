import Playback.Bytes.Basic

/-!
# Bodies
-/

namespace Playback

/-- A message body: bytes at hand, or a source that gives them, or fails to, when it is opened. -/
inductive Body where
  | stored (bytes : Bytes)
  | deferred (opened : Except String Bytes)

namespace Body

def empty : Body := stored []

/-- The bytes of a body, or why its source cannot be opened. -/
def read : Body → Except String Bytes
  | stored bytes => .ok bytes
  | deferred opened => opened

@[simp] theorem read_stored (b : Bytes) : (stored b).read = .ok b := rfl

end Body

end Playback
