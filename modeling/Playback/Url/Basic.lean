/-!
# Absolute addresses
-/

namespace Playback

/-- An absolute address, taken apart. A port that is the default of the scheme is left out, and some
addresses name no host. -/
structure Url where
  scheme : String
  host : Option String
  port : Option Nat
  path : String
  query : Option String
deriving DecidableEq, Repr

/-- How addresses are read: taken apart, or refused for a reason. -/
abbrev UrlReader := String → Except String Url

end Playback
