import Playback.Regex.CharSet

/-!
# Patterns

A pattern as a tree. Of several ways to match, those of the first alternative come first, and a
repetition prefers more rounds if it is greedy, fewer if it is lazy.
-/

namespace Playback.Regex

/-- Conditions on the place between two characters. -/
inductive Look where
  | textStart
  | textEnd
  | lineStart
  | lineEnd
  | wordBoundary
  | notWordBoundary
  | wordStart
  | wordEnd
  | wordStartHalf
  | wordEndHalf
deriving DecidableEq, Repr

namespace Look

/-- Whether a character, if there is one, is part of a word. -/
def isWordAt (c : Option Char) : Bool :=
  c.any Text.isWord

/-- Whether a condition holds between two characters; at an end of the text one is missing. -/
def holds (l : Look) (before after : Option Char) : Bool :=
  match l with
  | textStart => before.isNone
  | textEnd => after.isNone
  | lineStart => before.all (· == '\n')
  | lineEnd => after.all (· == '\n')
  | wordBoundary => isWordAt before != isWordAt after
  | notWordBoundary => isWordAt before == isWordAt after
  | wordStart => !isWordAt before && isWordAt after
  | wordEnd => isWordAt before && !isWordAt after
  | wordStartHalf => !isWordAt before
  | wordEndHalf => !isWordAt after

end Look

/-- A pattern. `atLeast` repeats without bound, `upTo` at most a number of times. -/
inductive Node where
  | nothing
  | one (set : CharSet)
  | look (l : Look)
  | followedBy (first second : Node)
  | either (first second : Node)
  | named (name : String) (e : Node)
  | atLeast (n : Nat) (greedy : Bool) (e : Node)
  | upTo (n : Nat) (greedy : Bool) (e : Node)
deriving Repr

namespace Node

/-- Whether a pattern can match without taking a character. -/
def canBeEmpty : Node → Bool
  | nothing | look _ | upTo _ _ _ => true
  | one _ => false
  | followedBy first second => first.canBeEmpty && second.canBeEmpty
  | either first second => first.canBeEmpty || second.canBeEmpty
  | named _ e => e.canBeEmpty
  | atLeast n _ e => n == 0 || e.canBeEmpty

def names : Node → List String
  | nothing | one _ | look _ => []
  | followedBy first second => first.names ++ second.names
  | either first second => first.names ++ second.names
  | named name e => name :: e.names
  | atLeast _ _ e => e.names
  | upTo _ _ e => e.names

/-- The number of steps that a pattern is matched in when its repetitions are written out. -/
def cost : Node → Nat
  | nothing => 0
  | one set => set.cost
  | look _ => 1
  | followedBy first second => first.cost + second.cost
  | either first second => first.cost + second.cost + 1
  | named _ e => e.cost
  | atLeast n _ e => max n 1 * e.cost + 2
  | upTo n _ e => n * (e.cost + 1)

/-- One pattern after the other. -/
def sequence (nodes : List Node) : Node :=
  nodes.foldr followedBy nothing

/-- A pattern a fixed number of times. -/
def times (n : Nat) (e : Node) : Node :=
  sequence (List.replicate n e)

/-- The first of several patterns that matches. -/
def firstOf : List Node → Node
  | [] => nothing
  | [e] => e
  | e :: rest => either e (firstOf rest)

end Node

end Playback.Regex
