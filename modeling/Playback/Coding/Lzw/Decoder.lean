import Playback.Coding.Lzw.Encoder

/-!
# LZW decompression

Codes are expanded through two tables: the code that a string extends, and the byte it extends it
by. A code that is just being defined is the previous string followed by its own first byte.
-/

namespace Playback.Lzw

/-- Why a compressed stream cannot be read. -/
inductive Fault where
  | missingMarker
  | unsupportedWidth
  | invalidFirstCode
  | codeOutOfRange
  /-- A step outside the tables, which no stream can cause. -/
  | brokenTable
deriving DecidableEq, Repr

namespace Fault

def message : Fault → String
  | missingMarker => "missing compress magic header"
  | unsupportedWidth => "unsupported maximum code width"
  | invalidFirstCode => "invalid first code"
  | codeOutOfRange => "code out of range"
  | brokenTable => "code outside the table"

end Fault

/-- What the header of a stream lays down. -/
structure Header where
  limit : Nat
  block : Bool
deriving DecidableEq, Repr

namespace Header

/-- The first code that is free for strings; without block mode there is no code to empty the
table. -/
def firstFree (h : Header) : Nat :=
  if h.block then Lzw.firstFree else clearCode

/-- Reads the byte after the marker. -/
def ofByte (b : UInt8) : Except Fault Header :=
  let limit := b.toNat % 32
  if minWidth ≤ limit ∧ limit ≤ maxWidth then .ok ⟨limit, 0x80 ≤ b⟩
  else .error .unsupportedWidth

end Header

/-- Where decompression stands. Codes are `minWidth + extra` bits wide; entries of the tables from
`next` on mean nothing. -/
structure DecoderState where
  links : Array Nat
  suffixes : Array UInt8
  extra : Nat
  next : Nat
  previous : Option Nat

namespace DecoderState

def start (h : Header) : DecoderState :=
  { links := Array.replicate (2 ^ h.limit) 0
    suffixes := ((List.range (2 ^ h.limit)).map fun i => if i < 256 then UInt8.ofNat i else 0).toArray
    extra := 0
    next := h.firstFree
    previous := none }

def width (s : DecoderState) : Nat :=
  minWidth + s.extra

/-- Walks from a code to the byte it starts with, putting the bytes passed in front of `tail`. -/
def expand (s : DecoderState) : Nat → Nat → Bytes → Option (UInt8 × Bytes)
  | 0, _, _ => none
  | fuel + 1, code, tail =>
    if code < 256 then some (UInt8.ofNat code, UInt8.ofNat code :: tail)
    else
      match s.suffixes[code]?, s.links[code]? with
      | some suffix, some link => expand s fuel link (suffix :: tail)
      | _, _ => none

/-- The string of a code and its first byte. -/
def string? (s : DecoderState) (code : Nat) : Option (UInt8 × Bytes) :=
  s.expand (s.links.size + 1) code []

/-- The bytes that a code stands for and the first of them. -/
def output (s : DecoderState) (code : Nat) : Except Fault (UInt8 × Bytes) :=
  if code < s.next then
    if s.previous.isNone ∧ 256 ≤ code then .error .invalidFirstCode
    else
      match s.string? code with
      | some r => .ok r
      | none => .error .brokenTable
  else if code = s.next then
    match s.previous with
    | none => .error .invalidFirstCode
    | some previous =>
      match s.string? previous with
      | some (first, bytes) => .ok (first, bytes ++ [first])
      | none => .error .brokenTable
  else .error .codeOutOfRange

/-- Adds the string of the previous code, lengthened by a byte, unless the table is full. -/
def define (h : Header) (s : DecoderState) (first : UInt8) : DecoderState :=
  match s.previous with
  | none => s
  | some previous =>
    if s.next < 2 ^ h.limit then
      { s with links := s.links.setIfInBounds s.next previous
               suffixes := s.suffixes.setIfInBounds s.next first
               next := s.next + 1 }
    else s

/-- Whether codes must widen before the next one. -/
def mustWiden (h : Header) (s : DecoderState) : Bool :=
  2 ^ s.width - 1 < s.next && s.width < h.limit

/-- The state after the table has been emptied. The old entries stay behind as rubbish. -/
def clear (h : Header) (s : DecoderState) : DecoderState :=
  { s with extra := 0, next := h.firstFree, previous := none }

end DecoderState

/-- What a code does: it yields bytes and leads to a state, perhaps after the rest of its group is
skipped. -/
structure Step where
  state : DecoderState
  skip : Bool
  bytes : Bytes

/-- The effect of one code. -/
def step (h : Header) (s : DecoderState) (code : Nat) : Except Fault Step :=
  if h.block ∧ code = clearCode then .ok ⟨s.clear h, true, []⟩
  else do
    let (first, bytes) ← s.output code
    let s := { s.define h first with previous := some code }
    if s.mustWiden h then .ok ⟨{ s with extra := s.extra + 1 }, true, bytes⟩
    else .ok ⟨s, false, bytes⟩

/-- Reads codes up to the end and appends what they yield to `output`. -/
def decodeCodes (h : Header) (s : DecoderState) (r : BitReader) (output : Array UInt8) :
    Except Fault (Array UInt8) :=
  match _h : r.read? s.width with
  | none => .ok output
  | some (code, next) =>
    match step h s code with
    | .error fault => .error fault
    | .ok result =>
      let next' := if result.skip then next.skipGroup s.width else next
      decodeCodes h result.state next' (output ++ result.bytes.toArray)
termination_by r.left
decreasing_by
  have hw : 0 < s.width := by simp only [DecoderState.width, minWidth]; omega
  have hlt := BitReader.left_read?_lt hw (by assumption)
  split
  · exact Nat.lt_of_le_of_lt (BitReader.left_skipGroup_le _ _) hlt
  · exact hlt

/-- Decompresses a stream. -/
def decode (data : Bytes) : Except Fault Bytes :=
  match data with
  | a :: b :: flags :: rest =>
    if [a, b] = marker then do
      let header ← Header.ofByte flags
      let bytes ← decodeCodes header (DecoderState.start header) (BitReader.start rest) #[]
      .ok bytes.toList
    else .error .missingMarker
  | _ => .error .missingMarker

end Playback.Lzw
