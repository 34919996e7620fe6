/-!
# Byte strings

Bodies and coded data are lists of bytes. Text goes in and out through UTF-8; reading is strict, or
lenient with a replacement character for every ill-formed stretch.
-/

namespace Playback

-- Powers of numbers are those of the core library, whatever else is imported.
attribute [scoped instance (2000)] instPowNat
attribute [default_instance 20000] instPowNat

abbrev Bytes := List UInt8

namespace Bytes

/-- The UTF-8 form of a text. -/
def ofText (s : String) : Bytes :=
  s.toByteArray.data.toList

/-- The text that a byte string spells in UTF-8, if it is well formed. -/
def toText? (b : Bytes) : Option String :=
  String.fromUTF8? ⟨b.toArray⟩

/-- Whether a byte continues a UTF-8 sequence. -/
def isContinuation (b : UInt8) : Bool :=
  0x80 ≤ b && b ≤ 0xBF

/-- The bytes that may follow a leading byte, and how many continuation bytes come after that one;
`none` for bytes that start no multi-byte sequence. -/
def secondByte? (a : UInt8) : Option (UInt8 × UInt8 × Nat) :=
  if 0xC2 ≤ a && a ≤ 0xDF then some (0x80, 0xBF, 0)
  else if a == 0xE0 then some (0xA0, 0xBF, 1)
  else if a == 0xED then some (0x80, 0x9F, 1)
  else if 0xE1 ≤ a && a ≤ 0xEF then some (0x80, 0xBF, 1)
  else if a == 0xF0 then some (0x90, 0xBF, 2)
  else if 0xF1 ≤ a && a ≤ 0xF3 then some (0x80, 0xBF, 2)
  else if a == 0xF4 then some (0x80, 0x8F, 2)
  else none

/-- The length of the longest start of `b` that begins a well-formed sequence after the leading byte
`a`, and whether the sequence is complete. -/
def sequenceLength (a : UInt8) (b : Bytes) : Nat × Bool :=
  match secondByte? a, b with
  | some (low, high, more), second :: rest =>
    if low ≤ second && second ≤ high then
      let tail := ((rest.take more).takeWhile isContinuation).length
      (1 + tail, tail == more)
    else (0, false)
  | _, _ => (0, false)

/-- The character that a leading byte and its continuation bytes spell. -/
def sequenceChar (a : UInt8) (continuation : Bytes) : Char :=
  let lead := if a < 0xE0 then a.toNat % 32 else if a < 0xF0 then a.toNat % 16 else a.toNat % 8
  Char.ofNat (continuation.foldl (fun n c => 64 * n + c.toNat % 64) lead)

/-- Reads UTF-8 leniently: each longest ill-formed start of a sequence becomes one replacement
character. -/
def replacing (b : Bytes) : List Char :=
  match b with
  | [] => []
  | a :: rest =>
    if a < 0x80 then Char.ofNat a.toNat :: replacing rest
    else
      let (n, complete) := sequenceLength a rest
      let c := if complete then sequenceChar a (rest.take n) else '\uFFFD'
      c :: replacing (rest.drop n)
termination_by b.length
decreasing_by
  all_goals
    simp only [List.length_cons, List.length_drop]
    omega

/-- The text of a byte string, with replacement characters where it is ill formed. -/
def toTextReplacing (b : Bytes) : String :=
  match toText? b with
  | some s => s
  | none => String.ofList (replacing b)

/-- Well-formed text survives the way through its bytes. -/
@[simp] theorem toText?_ofText (s : String) : toText? (ofText s) = some s := by
  have h : (⟨(ofText s).toArray⟩ : ByteArray) = s.toByteArray := by simp [ofText]
  rw [toText?, h, String.fromUTF8?, dif_pos s.isValidUTF8]
  rfl

/-- A text read from bytes spells those bytes. -/
theorem ofText_of_toText? {b : Bytes} {s : String} (h : toText? b = some s) : ofText s = b := by
  unfold toText? String.fromUTF8? at h
  split at h
  · cases h
    simp [ofText, String.fromUTF8]
  · cases h

/-- The first place where `needle` begins, counted from `place`. -/
def findFrom (needle : Bytes) (place : Nat) : Bytes → Option Nat
  | [] => if needle.isEmpty then some place else none
  | b :: rest =>
    if needle.isPrefixOf (b :: rest) then some place else findFrom needle (place + 1) rest

/-- The first place where `needle` begins in a byte string. -/
def find? (needle b : Bytes) : Option Nat :=
  findFrom needle 0 b

end Bytes

end Playback
