import Playback.Text.Fold.Table

/-!
# Case variants

Two characters are case variants when simple case folding sends them to the same character.
-/

namespace Playback.Text.Fold

/-- The folded form of a code point. -/
def fold (n : Nat) : Nat :=
  (shifted? runs n).getD n

/-- All code points with the same folded form. -/
def variants (n : Nat) : List Nat :=
  let folded := fold n
  folded :: runs.filterMap fun r => r.preimage? folded

end Playback.Text.Fold
