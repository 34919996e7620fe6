import Playback.Bytes.Basic

/-!
# Bit strings of variable code width

Codes are packed with the least significant bit first. Eight codes make a group; whenever the code
width changes, the rest of the group is filled by the writer and skipped by the reader.
-/

namespace Playback.Lzw

def groupSize : Nat := 8

/-- Packs codes into bytes. Bits that fill no byte yet wait in `waiting`, the lowest first. -/
structure BitWriter where
  output : Array UInt8
  waiting : UInt64
  count : Nat
  slot : Nat

namespace BitWriter

/-- A writer that goes on after the bytes given. -/
def after (bytes : Bytes) : BitWriter :=
  ⟨bytes.toArray, 0, 0, 0⟩

/-- Moves whole bytes from the waiting bits to the output. -/
def drain (output : Array UInt8) (waiting : UInt64) (count slot : Nat) : BitWriter :=
  if 8 ≤ count then drain (output.push waiting.toUInt8) (waiting >>> 8) (count - 8) slot
  else ⟨output, waiting, count, slot⟩
termination_by count

def write (w : BitWriter) (code width : Nat) : BitWriter :=
  drain w.output (w.waiting ||| (UInt64.ofNat code <<< UInt64.ofNat w.count)) (w.count + width)
    ((w.slot + 1) % groupSize)

/-- Writes `n` zero codes. -/
def writeZeros (w : BitWriter) (width : Nat) : Nat → BitWriter
  | 0 => w
  | n + 1 => writeZeros (w.write 0 width) width n

/-- Fills the current group with zero codes. -/
def padGroup (w : BitWriter) (width : Nat) : BitWriter :=
  w.writeZeros width ((groupSize - w.slot) % groupSize)

/-- The bytes written, with the waiting bits in a last byte of their own. -/
def finish (w : BitWriter) : Bytes :=
  (if 0 < w.count then w.output.push w.waiting.toUInt8 else w.output).toList

end BitWriter

/-- Takes codes out of bytes; `position` counts bits from the start. -/
structure BitReader where
  data : Array UInt8
  position : Nat
  slot : Nat

namespace BitReader

/-- A reader at the start of the bytes given. -/
def start (bytes : Bytes) : BitReader :=
  ⟨bytes.toArray, 0, 0⟩

/-- A bit of the data; past the end there are zeros. -/
def bit (data : Array UInt8) (i : Nat) : Nat :=
  ((data.getD (i / 8) 0).toNat >>> (i % 8)) % 2

/-- The number spelt by `width` bits from a position on. -/
def codeAt (data : Array UInt8) (position : Nat) : Nat → Nat
  | 0 => 0
  | width + 1 => bit data position + 2 * codeAt data (position + 1) width

/-- Reads a code of `width` bits, if that many are left. -/
def read? (r : BitReader) (width : Nat) : Option (Nat × BitReader) :=
  if 8 * r.data.size < r.position + width then none
  else
    some (codeAt r.data r.position width,
      ⟨r.data, r.position + width, (r.slot + 1) % groupSize⟩)

/-- Skips the rest of the current group; the reader may then be past the end. -/
def skipGroup (r : BitReader) (width : Nat) : BitReader :=
  ⟨r.data, r.position + (groupSize - r.slot) % groupSize * width, 0⟩

/-- The number of bits that are left. -/
def left (r : BitReader) : Nat :=
  8 * r.data.size - r.position

theorem left_read?_lt {r next : BitReader} {width code : Nat} (hw : 0 < width)
    (h : r.read? width = some (code, next)) : next.left < r.left := by
  unfold read? at h
  split at h
  · cases h
  · cases h
    simp only [left]
    omega

theorem left_skipGroup_le (r : BitReader) (width : Nat) : (r.skipGroup width).left ≤ r.left := by
  simp only [left, skipGroup]
  omega

end BitReader

end Playback.Lzw
