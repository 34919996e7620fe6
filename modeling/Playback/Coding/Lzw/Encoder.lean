import Std.Data.HashMap
import Playback.Coding.Lzw.Bits

/-!
# LZW compression

The `compress` format: two marker bytes, a byte with the largest code width, and codes of growing
width. Codes below 256 are bytes; from 257 on, each code stands for the string of an earlier code
and one more byte. A full table stays as it is.
-/

namespace Playback.Lzw

/-- The bytes that every compressed stream starts with. -/
def marker : Bytes := [0x1F, 0x9D]

def minWidth : Nat := 9

def maxWidth : Nat := 16

/-- The code that empties the table. -/
def clearCode : Nat := 256

/-- The first code that is free for strings. -/
def firstFree : Nat := 257

/-- The nearest admissible largest code width. -/
def clampWidth (width : Nat) : Nat :=
  max minWidth (min maxWidth width)

/-- Where compression stands: the codes of longer strings, the code width, the next free code, and
the code of the string that is being matched. -/
structure EncoderState where
  writer : BitWriter
  table : Std.HashMap (Nat × UInt8) Nat
  width : Nat
  next : Nat
  current : Nat

namespace EncoderState

/-- Writes the current code, and widens the codes to come if the next free code does not fit. -/
def emit (limit : Nat) (s : EncoderState) : EncoderState :=
  let writer := s.writer.write s.current s.width
  if 2 ^ s.width - 1 < s.next ∧ s.width < limit then
    { s with writer := writer.padGroup s.width, width := s.width + 1 }
  else { s with writer }

/-- Goes past one byte: the match grows, or its code is written and a new match starts. -/
def push (limit : Nat) (s : EncoderState) (b : UInt8) : EncoderState :=
  match s.table[(s.current, b)]? with
  | some code => { s with current := code }
  | none =>
    let s' := s.emit limit
    if s'.next < 2 ^ limit then
      { s' with table := s'.table.insert (s.current, b) s'.next, next := s'.next + 1,
                current := b.toNat }
    else { s' with current := b.toNat }

end EncoderState

/-- Compresses with codes of at most `limit` bits. -/
def encode (limit : Nat) (data : Bytes) : Bytes :=
  let limit := clampWidth limit
  let writer := BitWriter.after (marker ++ [UInt8.ofNat (0x80 + limit)])
  match data with
  | [] => writer.finish
  | first :: rest =>
    let start : EncoderState := ⟨writer, ∅, minWidth, firstFree, first.toNat⟩
    ((rest.foldl (EncoderState.push limit) start).emit limit).writer.finish

end Playback.Lzw
