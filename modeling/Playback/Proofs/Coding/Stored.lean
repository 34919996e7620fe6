import Playback.Coding.Gzip
import Playback.Coding.Zlib
import Playback.Proofs.Coding.BitReading

/-! # Stored bytes -/

namespace Playback

namespace Deflate

open BitReading BitSource

variable {data : Bytes}

theorem length_storedBlock (last : Bool) (data : Bytes) :
    (storedBlock last data).length = data.length + 5 := by
  simp only [storedBlock, List.cons_append, List.length_cons, List.length_append,
    length_littleEndian]
  omega

/-- A stored block is read after its header, which ends within a byte. -/
theorem block_stored (h : data.length ≤ storedLimit) (output : Array UInt8) (bits : List Bool)
    (rest : Bytes) :
    block 0 output ⟨bits, littleEndian 2 data.length ++
      (littleEndian 2 (storedLimit - data.length) ++ (data ++ rest))⟩ =
      some (output ++ data.toArray, ⟨[], rest⟩) := by
  have length : data.length < 2 ^ (8 * 2) := Nat.lt_succ_of_le h
  have complement : storedLimit - data.length < 2 ^ (8 * 2) :=
    Nat.lt_succ_of_le (Nat.sub_le _ _)
  have sum : (data.length + (storedLimit - data.length) == 65535) = true :=
    beq_iff_eq.mpr (Nat.add_sub_of_le h)
  simp only [block]
  rw [bind_of_some (align_eq bits _), bind_of_some (number_littleEndian length _),
    bind_of_some (number_littleEndian complement _), bind_of_some (check_of_true sum), bind_of_some (bytes_append data rest [])]
  rfl

theorem blocks_storedBlock (h : data.length ≤ storedLimit) (last : Bool) (fuel : Nat)
    (output : Array UInt8) (rest : Bytes) :
    blocks (fuel + 1) output ⟨[], storedBlock last data ++ rest⟩ =
      (if last then pure (output ++ data.toArray) else blocks fuel (output ++ data.toArray))
        ⟨[], rest⟩ := by
  have parts : storedBlock last data ++ rest = littleEndian 1 last.toNat ++
      (littleEndian 2 data.length ++ (littleEndian 2 (storedLimit - data.length) ++
        (data ++ rest))) := by
    cases last <;> simp [storedBlock, littleEndian]
  have flag : last.toNat.testBit 0 = last := by cases last <;> rfl
  rw [parts, ← ofNumber_bytes, blocks, bind_of_some (bit_ofNumber ..), flag,
    bind_of_some (number_ofNumber 2 (last.toNat / 2) 5 _), ofNumber_of_lt (by decide)]
  have kind : last.toNat / 2 % 2 ^ 2 = 0 := by cases last <;> rfl
  rw [kind, bind_of_some (block_stored h output _ rest)]

theorem length_le_length_store (data : Bytes) : data.length ≤ (store data).length := by
  fun_induction store data with
  | case1 data h => rw [length_storedBlock]; omega
  | case2 data h ih =>
      rw [List.length_append, length_storedBlock, List.length_take]
      rw [List.length_drop] at ih
      omega

theorem blocks_store {fuel : Nat} (h : data.length < fuel) (output : Array UInt8) (rest : Bytes) :
    blocks fuel output ⟨[], store data ++ rest⟩ = some (output ++ data.toArray, ⟨[], rest⟩) := by
  fun_induction store data generalizing fuel output with
  | case1 data fits =>
      obtain ⟨fuel, rfl⟩ := Nat.exists_eq_add_one_of_ne_zero (Nat.ne_zero_of_lt h)
      rw [blocks_storedBlock fits]
      rfl
  | case2 data exceeds ih =>
      obtain ⟨fuel, rfl⟩ := Nat.exists_eq_add_one_of_ne_zero (Nat.ne_zero_of_lt h)
      have shorter : (data.drop storedLimit).length < fuel := by
        rw [List.length_drop, storedLimit] at *
        omega
      rw [List.append_assoc, blocks_storedBlock (List.length_take_le _ _),
        if_neg Bool.false_ne_true, ih shorter, append_take_append_drop]

/-- Stored bytes are inflated, and what follows them is left. -/
theorem inflate_store (data rest : Bytes) : inflate (store data ++ rest) = some (data, rest) := by
  have enough : data.length < 8 * (store data ++ rest).length + 1 := by
    have := length_le_length_store data
    rw [List.length_append]
    omega
  have run : (blocks (8 * (store data ++ rest).length + 1) #[]).run (ofBytes (store data ++ rest)) =
      some (#[] ++ data.toArray, ⟨[], rest⟩) := blocks_store enough #[] rest
  simp only [inflate, run, Option.bind_eq_bind, Option.bind_some, Array.toList_append]
  rfl

end Deflate

namespace Gzip

open Deflate

theorem afterHeader?_header (rest : Bytes) : afterHeader? (header ++ rest) = some rest := by
  have long : ¬ (header ++ rest).length < 10 := by simp [header, marker]
  have clear : (header ++ rest).getD 3 0 = 0 := rfl
  have start : (header ++ rest).take 2 = marker := rfl
  have method : (header ++ rest).getD 2 0 = deflated := rfl
  have left : (header ++ rest).drop 10 = rest := rfl
  have unset : ∀ bit, (0 : UInt8).toNat.testBit bit = false := Nat.zero_testBit
  have few : ¬ 32 ≤ (0 : UInt8).toNat := by decide
  simp only [afterHeader?, long, clear, start, method, left, few, unset, ne_eq, not_true_eq_false,
    or_self, Bool.false_eq_true, if_false, Option.bind_eq_bind, Option.bind_some]

theorem decode_encode (data : Bytes) : decode (encode data) = some data := by
  have check : (crc data).toNat < 256 ^ 4 := (crc data).toNat_lt
  have ending : numberOf ((littleEndian 4 (crc data).toNat ++ littleEndian 4 data.length).take 4) =
      (crc data).toNat := by
    rw [List.take_left' (length_littleEndian ..), numberOf_littleEndian, Nat.mod_eq_of_lt check]
  have size : numberOf (((littleEndian 4 (crc data).toNat ++
      littleEndian 4 data.length).drop 4).take 4) = data.length % 2 ^ 32 := by
    rw [List.drop_left' (length_littleEndian ..), List.take_of_length_le (by simp),
      numberOf_littleEndian]
  have enough : 8 ≤ (littleEndian 4 (crc data).toNat ++ littleEndian 4 data.length).length := by
    simp
  rw [encode, List.append_assoc, List.append_assoc, decode, afterHeader?_header]
  simp only [Option.bind_eq_bind, Option.bind_some, inflate_store, ending, size, enough, and_self,
    if_true]

end Gzip

namespace Zlib

open Deflate

theorem checksum_lt (data : Bytes) : checksum data < 256 ^ 4 := by
  have positive : 0 < modulus := by decide
  have sums : ∀ s : Nat × Nat, s.1 < modulus ∧ s.2 < modulus → 65536 * s.2 + s.1 < 256 ^ 4 := by
    intro s h
    simp only [modulus] at h
    omega
  apply sums
  apply List.foldlRecOn (motive := fun s : Nat × Nat => s.1 < modulus ∧ s.2 < modulus)
  · exact ⟨by decide, by decide⟩
  · intro s _ x _
    exact ⟨Nat.mod_lt _ positive, Nat.mod_lt _ positive⟩

theorem decode_encode (data : Bytes) : decode (encode data) = some data := by
  have method : (0x78 : UInt8).toNat % 16 = 8 ∧ (0x78 : UInt8).toNat / 16 ≤ 7 ∧
      ¬ (0x9C : UInt8).toNat.testBit 5 ∧
      (256 * (0x78 : UInt8).toNat + (0x9C : UInt8).toNat) % 31 = 0 := by decide
  have ending : 4 ≤ (bigEndian (checksum data)).length ∧
      numberOf ((bigEndian (checksum data)).take 4).reverse = checksum data := by
    rw [bigEndian, List.length_reverse, length_littleEndian,
      List.take_of_length_le (by rw [List.length_reverse, length_littleEndian]),
      List.reverse_reverse, numberOf_littleEndian, Nat.mod_eq_of_lt (checksum_lt data)]
    exact ⟨Nat.le_refl 4, rfl⟩
  have wrapped : decodeWrapped (encode data) = some data := by
    rw [encode, List.append_assoc, List.cons_append, List.cons_append, List.nil_append,
      decodeWrapped]
    simp only [method, Bool.false_eq_true, not_false_eq_true, and_self, if_true, inflate_store,
      ending, Option.bind_eq_bind, Option.bind_some]
  rw [decode, wrapped]
  rfl

end Zlib

end Playback
