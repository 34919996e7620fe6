import Playback.Player.Libraries
import Playback.Regex.Basic
import Playback.Url.Parser

/-!
# The libraries of the program
-/

namespace Playback.Libraries

def standard : Libraries :=
  ⟨Url.read, Regex.read, .gzip, .deflate, .brotli⟩

end Playback.Libraries
