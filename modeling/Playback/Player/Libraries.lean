import Playback.Coding.Basic
import Playback.Rewrite.Pattern
import Playback.Url.Basic

/-!
# Libraries
-/

namespace Playback

/-- What recording and playing leaves to libraries: the reading of addresses and of patterns, and three
content codings. -/
structure Libraries where
  urls : UrlReader
  patterns : PatternReader
  gzip : Coding
  deflate : Coding
  brotli : Coding

namespace Libraries

def registry (libraries : Libraries) : CodingRegistry :=
  .standardWith libraries.gzip libraries.deflate libraries.brotli

end Libraries

end Playback
