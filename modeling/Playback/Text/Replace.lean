import Playback.Text.Basic

/-!
# Replacing parts of texts
-/

namespace Playback.Text

/-- Puts `replacement` for every occurrence of `needle`, from left to right and without overlap. The
next `skip` characters belong to an occurrence already replaced. -/
def replaceFrom (needle replacement : List Char) (skip : Nat) : List Char → List Char
  | [] => []
  | c :: cs =>
    match skip with
    | skip + 1 => replaceFrom needle replacement skip cs
    | 0 =>
      if needle.isPrefixOf (c :: cs) then
        replacement ++ replaceFrom needle replacement (needle.length - 1) cs
      else c :: replaceFrom needle replacement 0 cs

/-- Whether a text that is not empty occurs in another. -/
def isFoundIn (needle s : String) : Bool :=
  !needle.isEmpty && occursIn needle.toList s.toList

/-- Replaces all occurrences of a text that is not empty, or nothing if there are none. -/
def replaceAll? (needle replacement s : String) : Option String :=
  if isFoundIn needle s then
    some (String.ofList (replaceFrom needle.toList replacement.toList 0 s.toList))
  else none

end Playback.Text
