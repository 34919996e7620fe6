import Playback.Coding.Brotli.Decoder
import Playback.Coding.Brotli.Encoder
import Playback.Proofs.Coding.BitReading

/-! # Bytes in stored meta-blocks -/

namespace Playback.Brotli

open BitReading BitSource
open Deflate (littleEndian)
open Lzw (lowBits)

variable {data : Bytes}

/-- The header of a stored meta-block is a number in three bytes. -/
theorem storedBlock_eq (scale : Nat) (data : Bytes) :
    storedBlock scale data =
      littleEndian 3 (((data.length - 1) * 8 + 0x80000) * scale) ++ data := by
  have wraps : ∀ n, UInt8.ofNat (n % 256) = UInt8.ofNat n := fun _ => UInt8.ofNat_mod_size
  simp only [storedBlock, littleEndian, List.cons_append, List.nil_append, wraps,
    Nat.div_div_eq_div_mul]

theorem skipPadding_zero (n : Nat) (rest : Bytes) :
    skipPadding ⟨lowBits 0 n, rest⟩ = some ((), ⟨[], rest⟩) := by
  have clear : (lowBits 0 n).all (! ·) = true := by simp [lowBits]
  rw [skipPadding, bind_of_some (get_eq _), bind_of_some (check_of_true clear), align_eq]

theorem readLength_four (value count : Nat) (bytes : Bytes) :
    readLength 4 (ofNumber value (16 + count) bytes) =
      some (value % 2 ^ 16 + 1, ofNumber (value / 2 ^ 16) count bytes) := by
  simp only [readLength, Nat.le_refl, decide_true, Bool.true_or]
  rw [bind_of_some (number_ofNumber 16 value count bytes), bind_of_some (check_of_true rfl)]
  rfl

/-- A stored meta-block yields its bytes, whatever bits its header lacks to whole bytes. -/
theorem readMetaBlocks_stored (window fuel padding : Nat) (output : Array UInt8)
    (recent : List Nat) (rest : Bytes) (short : padding < 8) (nonempty : data ≠ [])
    (fits : data.length ≤ storedLimit) :
    readMetaBlocks window (fuel + 1) output recent
        (ofNumber ((data.length - 1) * 8 + 0x80000) (20 + padding) (data ++ rest)) =
      readMetaBlocks window fuel (output ++ data.toArray) recent ⟨[], rest⟩ := by
  have positive : 0 < data.length := List.length_pos_iff.mpr nonempty
  obtain ⟨n, hn⟩ := Nat.exists_eq_add_one_of_ne_zero (Nat.ne_of_gt positive)
  have bound : n < 2 ^ 16 := by rw [hn, storedLimit] at fits; omega
  rw [hn, Nat.add_sub_cancel]
  have notLast : (n * 8 + 0x80000).testBit 0 = false := by
    rw [Nat.testBit_zero, decide_eq_false]
    omega
  have nibbles : (n * 8 + 0x80000) / 2 % 2 ^ 2 = 0 := by omega
  have length : (n * 8 + 0x80000) / 2 / 2 ^ 2 % 2 ^ 16 + 1 = data.length := by omega
  have stored : ((n * 8 + 0x80000) / 2 / 2 ^ 2 / 2 ^ 16).testBit 0 = true := by
    rw [Nat.testBit_zero, decide_eq_true]
    omega
  have clear : (n * 8 + 0x80000) / 2 / 2 ^ 2 / 2 ^ 16 / 2 = 0 := by omega
  rw [readMetaBlocks, show 20 + padding = 2 + (16 + (padding + 1)) + 1 by omega,
    bind_of_some (bit_ofNumber ..), notLast]
  simp only [Bool.false_eq_true, if_false, pure_bind]
  rw [bind_of_some (number_ofNumber 2 ..), nibbles]
  simp only
  rw [bind_of_some (readLength_four ..), length, bind_of_some (bit_ofNumber ..), stored, clear,
    if_pos rfl, ofNumber_of_lt short, bind_of_some (skipPadding_zero ..),
    bind_of_some (bytes_append ..)]

theorem length_storedBlock (scale : Nat) (data : Bytes) :
    (storedBlock scale data).length = data.length + 3 := by
  rw [storedBlock_eq, List.length_append, Deflate.length_littleEndian, Nat.add_comm]

theorem length_le_length_storedBlocks (data : Bytes) :
    data.length ≤ (storedBlocks data).length := by
  fun_induction storedBlocks data with
  | case1 data h => simp_all
  | case2 data h ih =>
      rw [List.length_append, length_storedBlock, List.length_take]
      rw [List.length_drop] at ih
      omega

theorem readMetaBlocks_storedBlock (window fuel : Nat) (output : Array UInt8) (recent : List Nat)
    (rest : Bytes) (nonempty : data ≠ []) (fits : data.length ≤ storedLimit) :
    readMetaBlocks window (fuel + 1) output recent ⟨[], storedBlock 1 data ++ rest⟩ =
      readMetaBlocks window fuel (output ++ data.toArray) recent ⟨[], rest⟩ := by
  rw [storedBlock_eq, Nat.mul_one, List.append_assoc, ← ofNumber_bytes]
  exact readMetaBlocks_stored window fuel 4 output recent rest (by decide) nonempty fits

theorem readMetaBlocks_storedBlocks {fuel : Nat} (h : data.length < fuel) (window : Nat)
    (output : Array UInt8) (recent : List Nat) :
    readMetaBlocks window fuel output recent ⟨[], storedBlocks data⟩ =
      some (output ++ data.toArray, ⟨[], []⟩) := by
  fun_induction storedBlocks data generalizing fuel output with
  | case1 data empty =>
      obtain ⟨fuel, rfl⟩ := Nat.exists_eq_add_one_of_ne_zero (Nat.ne_zero_of_lt h)
      rw [List.isEmpty_iff.mp empty]
      rfl
  | case2 data nonempty ih =>
      obtain ⟨fuel, rfl⟩ := Nat.exists_eq_add_one_of_ne_zero (Nat.ne_zero_of_lt h)
      have taken : data.take storedLimit ≠ [] := by simp_all [storedLimit]
      have shorter : (data.drop storedLimit).length < fuel := by
        have := List.length_pos_iff.mpr taken
        rw [List.length_take] at this
        rw [List.length_drop]
        omega
      rw [readMetaBlocks_storedBlock _ _ _ _ _ taken (List.length_take_le _ _), ih shorter,
        append_take_append_drop]

theorem readWindowBits_storedBlock (data rest : Bytes) :
    readWindowBits ⟨[], storedBlock 2 data ++ rest⟩ =
      some (16, ofNumber ((data.length - 1) * 8 + 0x80000) (20 + 3) (data ++ rest)) := by
  have smallest : (((data.length - 1) * 8 + 0x80000) * 2).testBit 0 = false := by
    rw [Nat.testBit_zero, Nat.mul_mod_left]
    rfl
  rw [storedBlock_eq, List.append_assoc, ← ofNumber_bytes, readWindowBits,
    bind_of_some (bit_ofNumber ..), smallest, Nat.mul_div_cancel _ (by decide)]
  rfl

theorem decode_encode (data : Bytes) : decode (encode data) = some data := by
  by_cases empty : data.isEmpty
  · rw [List.isEmpty_iff.mp empty]
    rfl
  · have taken : data.take storedLimit ≠ [] := by simp_all [storedLimit]
    have packed : encode data =
        storedBlock 2 (data.take storedLimit) ++ storedBlocks (data.drop storedLimit) := by
      rw [encode, if_neg empty]
    have enough : (data.drop storedLimit).length < 8 * (encode data).length := by
      have := length_le_length_storedBlocks (data.drop storedLimit)
      rw [packed, List.length_append, length_storedBlock]
      omega
    have run : (do
        let bits ← readWindowBits
        readMetaBlocks (2 ^ bits - 16) (8 * (encode data).length + 1) #[] [4, 11, 15, 16])
          (ofBytes (encode data)) = some (data.toArray, ⟨[], []⟩) := by
      rw [ofBytes, packed, bind_of_some (readWindowBits_storedBlock ..), ← packed,
        readMetaBlocks_stored _ _ _ _ _ _ (by decide) taken (List.length_take_le _ _),
        readMetaBlocks_storedBlocks enough, append_take_append_drop, Array.empty_append]
    simp only [decode, StateT.run, run, Option.bind_eq_bind, Option.bind_some, List.isEmpty_nil,
      if_true]

end Playback.Brotli
