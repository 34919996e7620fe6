import Playback.Regex.Parser
import Playback.Regex.Search
import Playback.Rewrite.Pattern

/-!
# Regular expressions

Patterns that are searched for in texts, and the replacement of all their matches. An empty match
right after a match does not count.
-/

namespace Playback

/-- A pattern ready to be searched for. -/
structure Regex where
  program : Regex.Program

namespace Regex

def parse? (s : String) : Option Regex :=
  (Node.parse? s).map fun e => ⟨Program.ofNode e⟩

/-- Whether a text contains a match. -/
def isMatch (r : Regex) (s : String) : Bool :=
  (r.program.search none 0 s.toList).isSome

/-- The character before the first and the rest of a text, after `n` characters were dropped. -/
def advance (before : Option Char) (n : Nat) (cs : List Char) : Option Char × List Char :=
  ((cs.take n).getLast?.or before, cs.drop n)

/-- The next match that counts in a text that begins at `place`; `last` is the end of the match
before. -/
def nextMatch (r : Regex) (before : Option Char) (place : Nat) (last : Option Nat)
    (cs : List Char) : Option Match :=
  match r.program.search before place cs with
  | none => none
  | some m =>
    if m.first = m.last ∧ some m.last = last then
      match cs with
      | [] => none
      | c :: cs => r.program.search (some c) (place + 1) cs
    else some m

/-- All matches that count, from left to right. -/
def matchesFrom (r : Regex) : Nat → Option Char → Nat → Option Nat → List Char → List Match
  | 0, _, _, _, _ => []
  | fuel + 1, before, place, last, cs =>
    match r.nextMatch before place last cs with
    | none => []
    | some m =>
      let (before, rest) := advance before (m.last - place) cs
      m :: matchesFrom r fuel before m.last (some m.last) rest

/-- All matches in a text that count, from left to right. Each but the first ends after the one
before. -/
def matchesIn (r : Regex) (cs : List Char) : List Match :=
  r.matchesFrom (cs.length + 2) none 0 none cs

/-- A text that begins at `place`, with `replacement` put for each of the matches. -/
def substitute (replacement : List Char) : Nat → List Match → List Char → List Char
  | _, [], cs => cs
  | place, m :: ms, cs =>
    cs.take (m.first - place) ++ replacement ++
      substitute replacement m.last ms (cs.drop (m.last - place))

/-- Replaces all matches, or nothing if there are none. -/
def replaceAll? (r : Regex) (replacement s : String) : Option String :=
  match r.matchesIn s.toList with
  | [] => none
  | ms => some (String.ofList (substitute replacement.toList 0 ms s.toList))

/-- The first match that counts is the first match. -/
theorem nextMatch_none (r : Regex) (before : Option Char) (place : Nat) (cs : List Char) :
    r.nextMatch before place none cs = r.program.search before place cs := by
  unfold nextMatch
  cases r.program.search before place cs <;> simp

theorem isSome_replaceAll? (r : Regex) (replacement s : String) :
    (r.replaceAll? replacement s).isSome = r.isMatch s := by
  rw [replaceAll?, isMatch, matchesIn, matchesFrom, nextMatch_none]
  cases r.program.search none 0 s.toList <;> rfl

def pattern (r : Regex) : Pattern where
  isMatch := r.isMatch
  replaceAll? := r.replaceAll?
  isSome_replaceAll? := r.isSome_replaceAll?

/-- The reader of patterns as regular expressions. -/
def read : PatternReader := fun s =>
  match parse? s with
  | some r => .ok r.pattern
  | none => .error "regex parse error"

end Regex

end Playback
