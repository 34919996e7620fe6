import Playback.Bytes.Basic
import Playback.Text.Percent

/-!
# Paths

The path of an address as a list of segments: `.` segments vanish, `..` segments take the one before
with them, and characters that may not stand in a path are percent coded.
-/

namespace Playback.Url.Path

open Text

/-- The characters below the space, the delete character and all beyond ASCII. -/
def isControl (b : UInt8) : Bool :=
  b < 0x20 || b ≥ 0x7F

/-- Whether a byte stands uncoded in a path. -/
def isPathByte (b : UInt8) : Bool :=
  !isControl b &&
    !([' ', '"', '#', '<', '>', '?', '\x60', '\x7b', '\x7d'].contains (Char.ofNat b.toNat))

/-- Codes a text for use in an address. -/
def code (keep : UInt8 → Bool) (cs : List Char) : List Char :=
  Percent.encode keep (Bytes.ofText (String.ofList cs))

/-- Whether a segment means the directory itself. -/
def isDot (segment : List Char) : Bool :=
  [['.'], ['%', '2', 'e'], ['%', '2', 'E']].contains segment

/-- Whether a segment means the parent directory. -/
def isDotDot (segment : List Char) : Bool :=
  (segment.length == 2 && segment == ['.', '.']) ||
    (segment.head? == some '.' && isDot segment.tail) ||
    (segment.getLast? == some '.' && isDot segment.dropLast) ||
    (segment.length == 6 && isDot (segment.take 3) && isDot (segment.drop 3))

/-- The segments of a path. Special addresses also separate them by backslashes. -/
def split (special : Bool) (cs : List Char) : List (List Char) :=
  cs.splitOnP fun c => c = '/' || (special && c = '\\')

/-- Follows the segments from the directory `done`, the innermost segment first. A dot segment at
the end leaves an empty segment. `fixed` segments are never left. -/
def resolve (fixed : List Char → Bool) (done : List (List Char)) :
    List (List Char) → List (List Char)
  | [] => done.reverse
  | segment :: rest =>
    let parent :=
      match done with
      | [] => []
      | top :: below => if below.isEmpty && fixed top then done else below
    if isDotDot segment then
      resolve fixed (if rest.isEmpty then [] :: parent else parent) rest
    else if isDot segment then
      resolve fixed (if rest.isEmpty then [] :: done else done) rest
    else resolve fixed (code isPathByte segment :: done) rest

def print (segments : List (List Char)) : List Char :=
  segments.flatMap fun segment => '/' :: segment

end Playback.Url.Path
