import Playback.Bytes.Basic

/-!
# Bits of a byte string

The bits of each byte come out from the lowest to the highest. Whole bytes can be taken once the
bits of the current byte are dropped.
-/

namespace Playback

/-- The bits left of the current byte, and the bytes after it. -/
structure BitSource where
  bits : List Bool
  bytes : Bytes

namespace BitSource

def ofBytes (b : Bytes) : BitSource := ⟨[], b⟩

/-- The bits of a byte, the lowest first. -/
def bitsOf (b : UInt8) : List Bool :=
  (List.range 8).map fun i => b.toNat.testBit i

/-- The number of bits left. -/
def size (s : BitSource) : Nat :=
  s.bits.length + 8 * s.bytes.length

/-- Drops the bits left of the current byte. -/
def align (s : BitSource) : BitSource := ⟨[], s.bytes⟩

end BitSource

/-- A reading of bits, which may fail. -/
abbrev BitReading := StateT BitSource Option

namespace BitReading

def bit : BitReading Bool := fun s =>
  match s.bits with
  | b :: bits => some (b, ⟨bits, s.bytes⟩)
  | [] =>
    match s.bytes with
    | [] => none
    | x :: bytes =>
      match BitSource.bitsOf x with
      | b :: bits => some (b, ⟨bits, bytes⟩)
      | [] => none

/-- A number of `n` bits, the lowest first. -/
def number : Nat → BitReading Nat
  | 0 => pure 0
  | n + 1 => do
    let low ← bit
    let high ← number n
    pure (low.toNat + 2 * high)

/-- The next `n` bytes, after the bits left of the current byte are dropped. -/
def bytes (n : Nat) : BitReading Bytes := fun s =>
  if s.bytes.length < n then none else some (s.bytes.take n, ⟨[], s.bytes.drop n⟩)

/-- Drops the bits left of the current byte. -/
def align : BitReading Unit := fun s => some ((), s.align)

def left : BitReading Nat := fun s => some (s.size, s)

def fail {α : Type} : BitReading α := fun _ => none

/-- Goes on only if a condition holds. -/
def check (condition : Bool) : BitReading Unit :=
  if condition then pure () else fail

end BitReading

end Playback
