import Playback.Text.Basic

/-!
# Content dispositions

`type; name="…"; filename="…"` as the parts of a form declare it. Semicolons inside quotes separate
nothing, and a backslash inside quotes takes the next character as it is.
-/

namespace Playback.Multipart

open Text

/-- Where a reader stands: outside quotes, inside, or inside and after a backslash. -/
inductive Quoting where
  | outside
  | inside
  | escaped
deriving DecidableEq, Repr

/-- The segments between the semicolons outside quotes. Quotes stay, escaping backslashes go. -/
def segments : Quoting → List Char → List (List Char)
  | _, [] => [[]]
  | .escaped, c :: cs => (segments .inside cs).modifyHead (c :: ·)
  | .inside, c :: cs =>
    if c = '\\' then segments .escaped cs
    else (segments (if c = '"' then .outside else .inside) cs).modifyHead (c :: ·)
  | .outside, c :: cs =>
    if c = ';' then [] :: segments .outside cs
    else (segments (if c = '"' then .inside else .outside) cs).modifyHead (c :: ·)

/-- What a part is for: the lower-case type, the name of the form field, and the name of the file. -/
structure Disposition where
  kind : String
  name : Option String
  filename : Option String
deriving DecidableEq, Repr

namespace Disposition

/-- Takes over a parameter; of several with one name, the last counts. -/
def withSegment (d : Disposition) (segment : List Char) : Disposition :=
  match cutAt '=' segment with
  | none => d
  | some (key, value) =>
    let key := lowerAscii (String.ofList (trimmed key))
    let value := String.ofList (unquoted (trimmed value))
    if key == "name" then { d with name := some value }
    else if key == "filename" then { d with filename := some value }
    else d

def parse (s : String) : Disposition :=
  match segments .outside s.toList with
  | [] => ⟨"", none, none⟩
  | kind :: parameters =>
    parameters.foldl withSegment ⟨lowerAscii (String.ofList (trimmed kind)), none, none⟩

end Disposition

end Playback.Multipart
