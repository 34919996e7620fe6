import Playback.Regex.Program

/-!
# Searches

All ways to match are followed side by side, the better ones first. Of two ways that have come to the
same step at the same place, the better one stays; a way that has come to its end drops all that are
worse. So the match found begins as far left as possible, and among those it is the best.
-/

namespace Playback.Regex

/-- A way to match: the step to take next, and the place where the match begins. -/
structure Way where
  step : Nat
  origin : Nat
deriving DecidableEq, Repr

/-- A match: the places of its first character and of the character after it. -/
structure Match where
  first : Nat
  last : Nat
deriving DecidableEq, Repr

/-- The ways that wait for a character, the best first, and the match that ends here, if one does. -/
structure Front where
  waiting : List Way
  found : Option Match

namespace Program

/-- Follows ways to the steps that take a character. `before` and `after` are the characters around
the place, `seen` marks the steps already taken here, and `waiting` holds the ways so far, the last
first. -/
def follow (p : Program) (before after : Option Char) (place : Nat) :
    Nat → List Way → Array Bool → List Way → Front
  | 0, _, _, waiting => ⟨waiting.reverse, none⟩
  | _ + 1, [], _, waiting => ⟨waiting.reverse, none⟩
  | fuel + 1, w :: ways, seen, waiting =>
    if seen.getD w.step true then follow p before after place fuel ways seen waiting
    else
      let seen := seen.set! w.step true
      match p.steps.getD w.step .done with
      | .one _ _ => follow p before after place fuel ways seen (w :: waiting)
      | .look l next =>
        let ways := if l.holds before after then ⟨next, w.origin⟩ :: ways else ways
        follow p before after place fuel ways seen waiting
      | .branch a b =>
        follow p before after place fuel (⟨a, w.origin⟩ :: ⟨b, w.origin⟩ :: ways) seen waiting
      | .done => ⟨waiting.reverse, some ⟨w.origin, place⟩⟩

/-- The front that ways lead to. Every step is taken at most once, and adds at most two ways. -/
def frontOf (p : Program) (before after : Option Char) (place : Nat) (ways : List Way) : Front :=
  p.follow before after place (2 * p.steps.size + ways.length + 1) ways
    (Array.replicate p.steps.size false) []

/-- The ways that take a character. -/
def taking (p : Program) (c : Char) (ways : List Way) : List Way :=
  ways.filterMap fun w =>
    match p.steps.getD w.step .done with
    | .one set next => if set.covers c.toNat then some ⟨next, w.origin⟩ else none
    | _ => none

/-- Follows ways through the rest of a text. As long as no match has ended, a match may also begin
here; after that, only ways that are better than the match go on. -/
def searchFrom (p : Program) (before : Option Char) (place : Nat) (ways : List Way)
    (found : Option Match) : List Char → Option Match
  | [] =>
    let ways := if found.isNone then ways ++ [⟨p.start, place⟩] else ways
    (p.frontOf before none place ways).found.or found
  | c :: cs =>
    if ways.isEmpty && found.isSome then found
    else
      let ways := if found.isNone then ways ++ [⟨p.start, place⟩] else ways
      let front := p.frontOf before (some c) place ways
      searchFrom p (some c) (place + 1) (p.taking c front.waiting) (front.found.or found) cs

/-- The first match in a text that begins at `place`, after the character `before`. -/
def search (p : Program) (before : Option Char) (place : Nat) (cs : List Char) : Option Match :=
  p.searchFrom before place [] none cs

end Program

end Playback.Regex
