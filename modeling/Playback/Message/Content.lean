import Playback.Bytes.Basic
import Playback.Message.MediaType

/-!
# Content
-/

namespace Playback

/-- Bytes with their media type. -/
structure Content where
  mediaType : MediaType
  bytes : Bytes
deriving DecidableEq, Repr

end Playback
