import Playback.Bytes.Basic

/-!
# Brotli data that stores bytes

Every meta-block holds up to 65536 bytes as they are; an empty one ends the stream.
-/

namespace Playback.Brotli

/-- The number of bytes that one stored meta-block holds at most. -/
def storedLimit : Nat := 65536

/-- A stored meta-block whose header begins in a byte of which `scale` marks the first free bit. -/
def storedBlock (scale : Nat) (data : Bytes) : Bytes :=
  let n := ((data.length - 1) * 8 + 0x80000) * scale
  [UInt8.ofNat (n % 256), UInt8.ofNat (n / 256 % 256), UInt8.ofNat (n / 65536)] ++ data

/-- The stored meta-blocks of bytes, and the empty one at the end. -/
def storedBlocks (data : Bytes) : Bytes :=
  if data.isEmpty then [0x03]
  else storedBlock 1 (data.take storedLimit) ++ storedBlocks (data.drop storedLimit)
termination_by data.length
decreasing_by
  have : data ≠ [] := by simpa using ‹¬ data.isEmpty = true›
  have := List.length_pos_iff.2 this
  simp only [List.length_drop, storedLimit]
  omega

/-- Packs bytes into a stream. The first bit stands for the smallest window. -/
def encode (data : Bytes) : Bytes :=
  if data.isEmpty then [0x06]
  else storedBlock 2 (data.take storedLimit) ++ storedBlocks (data.drop storedLimit)

end Playback.Brotli
