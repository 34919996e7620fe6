import Playback.Coding.Inflate
import Playback.Proofs.Lzw.Bits

/-! # Numbers in front of whole bytes -/

namespace Playback

open Deflate (littleEndian numberOf)
open Lzw (lowBits lowBits_add lowBits_congr lowBits_zero)

theorem append_take_append_drop (output : Array UInt8) (n : Nat) (b : Bytes) :
    output ++ (b.take n).toArray ++ (b.drop n).toArray = output ++ b.toArray := by
  rw [Array.append_assoc, List.append_toArray (b.take n), List.take_append_drop]

namespace BitSource

theorem lowBits_succ (value width : Nat) :
    lowBits value (width + 1) = value.testBit 0 :: lowBits (value / 2) width := by
  rw [Nat.add_comm, lowBits_add]
  rfl

theorem bitsOf_ofNat (value : Nat) : bitsOf (UInt8.ofNat (value % 256)) = lowBits value 8 := by
  apply lowBits_congr
  intro i hi
  rw [UInt8.toNat_ofNat', Nat.mod_mod, Nat.testBit_mod_two_pow value 8, decide_eq_true hi,
    Bool.true_and]

/-- The source whose next `count` bits spell a number, with bytes after them. -/
def ofNumber (value count : Nat) (bytes : Bytes) : BitSource :=
  ⟨lowBits value (count % 8), littleEndian (count / 8) (value / 2 ^ (count % 8)) ++ bytes⟩

theorem ofNumber_bytes (n value : Nat) (bytes : Bytes) :
    ofNumber value (8 * n) bytes = ⟨[], littleEndian n value ++ bytes⟩ := by
  rw [ofNumber, Nat.mul_mod_right, Nat.mul_div_cancel_left n (by decide), lowBits_zero,
    Nat.pow_zero, Nat.div_one]

theorem ofNumber_of_lt {count : Nat} (h : count < 8) (value : Nat) (bytes : Bytes) :
    ofNumber value count bytes = ⟨lowBits value count, bytes⟩ := by
  rw [ofNumber, Nat.mod_eq_of_lt h, Nat.div_eq_of_lt h]
  rfl

end BitSource

namespace BitReading

open BitSource

variable {α β : Type} {s t : BitSource}

/-- A reading goes on where the one before it has stopped. -/
theorem bind_of_some {m : BitReading α} {a : α} (h : m s = some (a, t)) (f : α → BitReading β) :
    (m >>= f) s = f a t := by
  simp only [bind, StateT.bind, h, Option.bind_some]

theorem bit_ofNumber (value count : Nat) (bytes : Bytes) :
    bit (ofNumber value (count + 1) bytes) =
      some (value.testBit 0, ofNumber (value / 2) count bytes) := by
  by_cases h : (count + 1) % 8 = 0
  · have rest : count % 8 = 7 := by omega
    have whole : (count + 1) / 8 = count / 8 + 1 := by omega
    simp only [ofNumber, h, whole, rest, lowBits_zero, Nat.pow_zero, Nat.div_one, littleEndian,
      List.cons_append, bit, bitsOf_ofNat, lowBits_succ value 7, Nat.div_div_eq_div_mul]
  · have rest : (count + 1) % 8 = count % 8 + 1 := by omega
    have whole : (count + 1) / 8 = count / 8 := by omega
    simp only [ofNumber, whole, rest, bit, lowBits_succ, Nat.div_div_eq_div_mul, Nat.pow_succ']

theorem number_ofNumber (n value count : Nat) (bytes : Bytes) :
    number n (ofNumber value (n + count) bytes) =
      some (value % 2 ^ n, ofNumber (value / 2 ^ n) count bytes) := by
  induction n generalizing value with
  | zero => rw [Nat.zero_add, Nat.pow_zero, Nat.mod_one, Nat.div_one]; rfl
  | succ n ih =>
      rw [Nat.add_right_comm, number, bind_of_some (bit_ofNumber value (n + count) bytes),
        bind_of_some (ih (value / 2))]
      have low : (value.testBit 0).toNat + 2 * (value / 2 % 2 ^ n) = value % 2 ^ (n + 1) := by
        rw [Nat.toNat_testBit, Nat.pow_zero, Nat.div_one, Nat.pow_succ', Nat.mod_mul]
      rw [low, Nat.div_div_eq_div_mul, ← Nat.pow_succ']
      rfl

theorem number_littleEndian {n value : Nat} (h : value < 2 ^ (8 * n)) (bytes : Bytes) :
    number (8 * n) ⟨[], littleEndian n value ++ bytes⟩ = some (value, ⟨[], bytes⟩) := by
  have read := number_ofNumber (8 * n) value 0 bytes
  rwa [Nat.add_zero, ofNumber_bytes, Nat.mod_eq_of_lt h] at read

theorem get_eq (s : BitSource) : (get : BitReading BitSource) s = some (s, s) := rfl

theorem align_eq (bits : List Bool) (b : Bytes) : align ⟨bits, b⟩ = some ((), ⟨[], b⟩) := rfl

theorem bytes_append (b rest : Bytes) (bits : List Bool) :
    bytes b.length ⟨bits, b ++ rest⟩ = some (b, ⟨[], rest⟩) := by
  have enough : ¬ (b ++ rest).length < b.length := by simp
  rw [bytes, if_neg enough, List.take_left, List.drop_left]

theorem check_of_true {condition : Bool} (h : condition = true) :
    check condition s = some ((), s) := by
  rw [check, if_pos h]
  rfl

end BitReading

namespace Deflate

@[simp] theorem length_littleEndian (n value : Nat) : (littleEndian n value).length = n := by
  induction n generalizing value with
  | zero => rfl
  | succ n ih => rw [littleEndian, List.length_cons, ih]

/-- The bytes of a number spell it, as far as they reach. -/
theorem numberOf_littleEndian (n value : Nat) :
    numberOf (littleEndian n value) = value % 256 ^ n := by
  induction n generalizing value with
  | zero => rw [Nat.pow_zero, Nat.mod_one]; rfl
  | succ n ih =>
      have unfolded : numberOf (littleEndian (n + 1) value) =
          (UInt8.ofNat (value % 256)).toNat + 256 * numberOf (littleEndian n (value / 256)) := rfl
      rw [unfolded, ih, UInt8.toNat_ofNat', Nat.mod_mod, Nat.pow_succ', Nat.mod_mul]

end Deflate

end Playback
