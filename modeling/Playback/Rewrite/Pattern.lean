/-!
# Patterns
-/

namespace Playback

/-- A pattern ready to be searched for in texts. -/
structure Pattern where
  isMatch : String → Bool
  /-- Puts a text in place of all matches in another one, which is left as it is if there are none. -/
  replaceAll? : String → String → Option String
  isSome_replaceAll? : ∀ replacement s, (replaceAll? replacement s).isSome = isMatch s

/-- How patterns are read: made ready, or refused for a reason. -/
abbrev PatternReader := String → Except String Pattern

end Playback
