import Playback.Message.MediaType
import Playback.Message.Multimap
import Playback.Multipart.Disposition
import Playback.Text.Fold

/-!
# Header blocks of parts
-/

namespace Playback.Multipart

open Text

/-- The header fields of a part, with the two that are understood. -/
structure Header where
  fields : Multimap String
  disposition : Option Disposition
  mediaType : Option MediaType

namespace Header

def empty : Header := ⟨Multimap.empty, none, none⟩

/-- Equality up to letter case in any script. -/
def caseless (s t : List Char) : Bool :=
  s.map (fun c => Fold.fold c.toNat) == t.map (fun c => Fold.fold c.toNat)

/-- Reads a field: a name of characters that are not blank, blanks, a colon, and the value. -/
def field? (line : List Char) : Option (String × String) :=
  match cutAt ':' line with
  | none => none
  | some (before, value) =>
    let name := before.takeWhile fun c => !isBlank c
    if name.isEmpty || !(before.drop name.length).all isBlank then none
    else some (String.ofList name, String.ofList (trimmed value))

/-- Takes over what a line says of the part, if its name is followed by the colon at once. -/
def withMeaning (h : Header) (line : List Char) : Header :=
  match cutAt ':' line with
  | none => h
  | some (name, value) =>
    if caseless name "content-disposition".toList then
      { h with disposition := some (Disposition.parse (String.ofList (trimmed value))) }
    else if caseless name "content-type".toList then
      { h with mediaType := MediaType.parse? (String.ofList (trimmed value)) }
    else h

def withLine (h : Header) (line : List Char) : Header :=
  let h := h.withMeaning line
  match field? line with
  | none => h
  | some (name, value) => { h with fields := h.fields.insert name value }

/-- The lines of a block that are not empty, without the carriage returns at their ends. -/
def lines (block : List Char) : List (List Char) :=
  ((block.splitOn '\n').map fun line => (line.reverse.dropWhile (· = '\r')).reverse).filter
    fun line => !line.isEmpty

def parse (block : String) : Header :=
  (lines block.toList).foldl withLine empty

end Header

end Playback.Multipart
