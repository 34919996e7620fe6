import Playback.Message.Multimap
import Playback.Text.Percent

/-!
# Query parameters

Form-coded parameters: `name=value` segments between ampersands, with percent coding and plus signs
for spaces. A bare name has no value, which is not the same as an empty one.
-/

namespace Playback

/-- Parameters under lower-case names; a bare name carries `none`. -/
abbrev Query := Multimap (Option String)

namespace Query

/-- A space for every plus sign. -/
def spaced (cs : List Char) : List Char :=
  cs.map fun c => if c = '+' then ' ' else c

/-- The text of a coded name or value. If the decoded bytes are not UTF-8, only the plus signs are
decoded. -/
def decodeComponent (raw : List Char) : String :=
  let s := String.ofList (spaced raw)
  (Bytes.toText? (Text.Percent.decode (Bytes.ofText s))).getD s

/-- A segment as a name and an optional value. -/
def decodeSegment (segment : List Char) : String × Option String :=
  match Text.cutAt '=' segment with
  | some (name, value) => (decodeComponent name, some (decodeComponent value))
  | none => (decodeComponent segment, none)

/-- The parameters of a query as they are spelt, without those whose name is empty. -/
def pairs (s : String) : List (String × Option String) :=
  (((s.toList.splitOn '&').filter fun segment => !segment.isEmpty).map decodeSegment).filter
    fun p => !p.1.isEmpty

def parse (s : String) : Query :=
  Multimap.ofList (pairs s)

end Query

end Playback
