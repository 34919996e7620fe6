import Playback.Text.LowerCase.Table

/-!
# Lower case

Lower-casing of whole texts in all scripts. Only a capital sigma looks at its neighbours: at the end
of a word it becomes the final form.
-/

namespace Playback.Text

namespace LowerCase

/-- The capital I with a dot, whose lower-case form has two characters. -/
def dottedI : Char := '\u0130'

/-- The capital sigma, whose lower-case form depends on its place. -/
def sigma : Char := '\u03A3'

/-- The lower-case form of a character other than a sigma. -/
def ofChar (c : Char) : List Char :=
  if c.toNat < 128 then [c.toLower]
  else if c = dottedI then ['i', '\u0307']
  else match shifted? runs c.toNat with
    | some n => [Char.ofNat n]
    | none => [c]

/-- Whether the first character that is not case-ignorable is cased. -/
def startsCased (cs : List Char) : Bool :=
  match cs.dropWhile fun c => ignorable.covers c.toNat with
  | [] => false
  | c :: _ => cased.covers c.toNat

/-- Lower-cases a text that follows the characters `before`, the nearest of them first. -/
def following (before : List Char) : List Char → List Char
  | [] => []
  | c :: cs =>
    let here :=
      if c = sigma then
        [if startsCased before && !startsCased cs then '\u03C2' else '\u03C3']
      else ofChar c
    here ++ following (c :: before) cs

end LowerCase

def lower (s : String) : String :=
  String.ofList (LowerCase.following [] s.toList)

end Playback.Text
