import Playback.Message.Content
import Playback.Multipart.Header
import Playback.Multipart.Window

/-!
# Forms in parts

A body of the type `multipart/form-data` is a sequence of parts, framed by delimiters: two hyphens
and the boundary that the media type declares. The rest of the delimiter's line is padding; a header
block, a blank line, and the content follow, and the line break before the next delimiter belongs to
neither.
-/

namespace Playback.Multipart

/-- Why a body cannot be taken apart. A delimiter that overlaps itself can end a part before it
begins; this is no fault of the sender that could be reported. -/
inductive Fault where
  | missingBoundary
  | headerTooLarge
  | openDelimiterLine
  | openHeader
  | overlappingDelimiters
deriving DecidableEq, Repr

/-- The number of bytes that a header block may have. -/
def maxHeaderSize : Nat := 1024

namespace Fault

/-- What is wrong with a body, in words. -/
def reason : Fault → String
  | missingBoundary => "content type has no boundary"
  | headerTooLarge => "part header block exceeds " ++ toString maxHeaderSize ++ " bytes"
  | openDelimiterLine => "delimiter line is not terminated"
  | openHeader => "part header block is not terminated"
  | overlappingDelimiters => "delimiters overlap"

def message (f : Fault) : String :=
  "bad multipart body: " ++ f.reason

/-- The status that a client is answered with. -/
def status (_ : Fault) : Nat :=
  400

end Fault

/-- A part: its header fields, its disposition, and its content unless that is empty. -/
structure Part where
  fields : Multimap String
  disposition : Option Disposition
  file : Option Content

def crlf : Bytes := [13, 10]

def lf : Bytes := [10]

/-- The length of a header block and of the blank line after it. Of the two ways to write line
breaks, the one whose blank line comes first counts. -/
def headerEnd (region : Bytes) : Except Fault (Nat × Nat) :=
  if crlf.isPrefixOf region then .ok (0, 2)
  else if lf.isPrefixOf region then .ok (0, 1)
  else
    let start := region.take (maxHeaderSize + 4)
    let withReturn := (Bytes.find? (crlf ++ crlf) start).map fun n => (n + 2, 2)
    let withoutReturn := (Bytes.find? (lf ++ lf) start).map fun n => (n + 1, 1)
    let found :=
      match withReturn, withoutReturn with
      | some a, some b => some (if a.1 ≤ b.1 then a else b)
      | a, b => a.or b
    match found with
    | some (length, blank) =>
      if length > maxHeaderSize then .error .headerTooLarge else .ok (length, blank)
    | none => .error (if region.length > maxHeaderSize then .headerTooLarge else .openHeader)

/-- Takes a last byte off, if it is the one given. -/
def withoutLast (b : UInt8) (bytes : Bytes) : Bytes :=
  if bytes.getLast? = some b then bytes.dropLast else bytes

/-- Takes the line break off that belongs to the next delimiter. -/
def withoutLineBreak (bytes : Bytes) : Bytes :=
  withoutLast 13 (withoutLast 10 bytes)

/-- Reads what stands between two delimiters. -/
def decodePart (region : Bytes) : Except Fault Part :=
  match region.dropWhile (· ≠ 10) with
  | [] => .error .openDelimiterLine
  | _ :: region => do
    let (length, blank) ← headerEnd region
    let header := Header.parse (Bytes.toTextReplacing (region.take length))
    let content := withoutLineBreak (region.drop (length + blank))
    let mediaType := header.mediaType.getD (MediaType.plain "multipart" "form-data")
    let file := if content.isEmpty then none else some ⟨mediaType, content⟩
    pure ⟨header.fields, header.disposition, file⟩

/-- Reads the part between the delimiters of length `n` at `first` and `next`. -/
def partBetween (body : Bytes) (n first next : Nat) : Except Fault Part :=
  if next < first + n then .error .overlappingDelimiters
  else decodePart ((body.drop (first + n)).take (next - (first + n)))

/-- The boundary that a media type declares. -/
def boundary? (m : MediaType) : Option String :=
  (m.parameter "boundary").filter fun b => !b.isEmpty

def delimiter (boundary : String) : Bytes :=
  Bytes.ofText ("--" ++ boundary)

/-- Reads the parts between the delimiters at the places given. -/
def partsAt (body : Bytes) (n : Nat) (places : List Nat) : Except Fault (List Part) :=
  (places.zip places.tail).mapM fun (first, next) => partBetween body n first next

/-- Reads the parts of a body. -/
def decode (m : MediaType) (body : Bytes) : Except Fault (List Part) :=
  match boundary? m with
  | none => .error .missingBoundary
  | some boundary =>
    let delimiter := delimiter boundary
    partsAt body delimiter.length (delimiterPlaces delimiter body)

end Playback.Multipart
