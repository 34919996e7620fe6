import Mathlib.Algebra.Order.Group.Nat
import Playback.Coding.BitSource
import Playback.Coding.Lzw.Bits

/-! # The bits that codes leave behind -/

namespace Playback.Lzw

/-! ## Bits of numbers and of bytes -/

/-- The lowest bits of a number, the lowest first. -/
def lowBits (n width : Nat) : List Bool :=
  (List.range width).map n.testBit

/-- The bits of a byte string, byte after byte. -/
def bitsOfBytes (b : Bytes) : List Bool :=
  b.flatMap BitSource.bitsOf

@[simp] theorem length_lowBits (n width : Nat) : (lowBits n width).length = width := by
  simp [lowBits]

@[simp] theorem lowBits_zero (n : Nat) : lowBits n 0 = [] := rfl

theorem lowBits_of_zero (width : Nat) : lowBits 0 width = List.replicate width false := by
  simp [lowBits, List.eq_replicate_iff]

theorem getElem?_lowBits {n width i : Nat} (h : i < width) :
    (lowBits n width)[i]? = some (n.testBit i) := by
  simp [lowBits, h]

theorem lowBits_congr {n m width : Nat} (h : ∀ i < width, n.testBit i = m.testBit i) :
    lowBits n width = lowBits m width := by
  apply List.map_congr_left
  intro i hi
  exact h i (List.mem_range.mp hi)

theorem lowBits_add (n a b : Nat) : lowBits n (a + b) = lowBits n a ++ lowBits (n >>> a) b := by
  simp only [lowBits, List.range_add, List.map_append, List.map_map]
  congr 1
  apply List.map_congr_left
  intro i _
  simp [Nat.testBit_shiftRight]

/-- A number put above another that fits below it contributes its own bits. -/
theorem lowBits_or_shiftLeft {n a : Nat} (hn : n < 2 ^ a) (m b : Nat) :
    lowBits (n ||| m <<< a) (a + b) = lowBits n a ++ lowBits m b := by
  rw [lowBits_add]
  congr 1
  · apply lowBits_congr
    intro i hi
    have : ¬ i ≥ a := by omega
    simp [Nat.testBit_shiftLeft, this]
  · apply lowBits_congr
    intro i _
    have hlow : n.testBit (a + i) = false :=
      Nat.testBit_lt_two_pow (hn.trans_le (Nat.pow_le_pow_right (by omega) (by omega)))
    simp [Nat.testBit_shiftRight, Nat.testBit_shiftLeft, hlow]

@[simp] theorem bitsOfBytes_nil : bitsOfBytes [] = [] := rfl

@[simp] theorem bitsOfBytes_cons (x : UInt8) (b : Bytes) :
    bitsOfBytes (x :: b) = lowBits x.toNat 8 ++ bitsOfBytes b := rfl

@[simp] theorem bitsOfBytes_append (a b : Bytes) :
    bitsOfBytes (a ++ b) = bitsOfBytes a ++ bitsOfBytes b := by
  simp [bitsOfBytes]

@[simp] theorem length_bitsOfBytes (b : Bytes) : (bitsOfBytes b).length = 8 * b.length := by
  induction b with
  | nil => rfl
  | cons x b ih =>
      simp only [bitsOfBytes_cons, List.length_append, length_lowBits, ih, List.length_cons]
      omega

theorem lowBits_byte_inj {a b : UInt8} (h : lowBits a.toNat 8 = lowBits b.toNat 8) : a = b := by
  apply UInt8.toNat_inj.mp
  apply Nat.eq_of_testBit_eq
  intro i
  by_cases hi : i < 8
  · have hbit := congrArg (·[i]?) h
    simpa [getElem?_lowBits hi] using hbit
  · have hpow : 2 ^ 8 ≤ 2 ^ i := Nat.pow_le_pow_right (by omega) (by omega)
    rw [Nat.testBit_lt_two_pow (a.toNat_lt.trans_le hpow),
      Nat.testBit_lt_two_pow (b.toNat_lt.trans_le hpow)]

/-- Bits that begin with those of whole bytes belong to a byte string that begins with them. -/
theorem bitsOfBytes_eq_append {b start : Bytes} {later : List Bool}
    (h : bitsOfBytes b = bitsOfBytes start ++ later) :
    ∃ rest, b = start ++ rest ∧ bitsOfBytes rest = later := by
  induction start generalizing b with
  | nil => exact ⟨b, rfl, h⟩
  | cons x start ih =>
      cases b with
      | nil =>
          have hlen := congrArg List.length h
          simp at hlen
          omega
      | cons y b =>
          rw [bitsOfBytes_cons, bitsOfBytes_cons, List.append_assoc] at h
          obtain ⟨hbyte, htail⟩ := List.append_inj h (by simp)
          obtain ⟨rest, rfl, hrest⟩ := ih htail
          exact ⟨rest, by rw [lowBits_byte_inj hbyte]; rfl, hrest⟩

/-! ## Writing -/

namespace BitWriter

/-- All bits written, those that wait for a byte of their own included. -/
def bits (w : BitWriter) : List Bool :=
  bitsOfBytes w.output.toList ++ lowBits w.waiting.toNat w.count

/-- Fewer than eight bits wait, nothing is above them, and the slot is one of its group. -/
structure Ready (w : BitWriter) : Prop where
  count_lt : w.count < 8
  waiting_lt : w.waiting.toNat < 2 ^ w.count
  slot_lt : w.slot < groupSize

theorem ready_after (b : Bytes) : (after b).Ready :=
  ⟨by simp [after], by simp [after], by simp [after, groupSize]⟩

@[simp] theorem bits_after (b : Bytes) : (after b).bits = bitsOfBytes b := by
  simp [after, bits]

theorem drain_spec (output : Array UInt8) (waiting : UInt64) (count slot : Nat)
    (hwaiting : waiting.toNat < 2 ^ count) (hslot : slot < groupSize) :
    (drain output waiting count slot).bits =
        bitsOfBytes output.toList ++ lowBits waiting.toNat count ∧
      (drain output waiting count slot).slot = slot ∧ (drain output waiting count slot).Ready := by
  fun_induction drain output waiting count slot with
  | case1 output waiting count hcount ih =>
      have hshift : (waiting >>> 8).toNat = waiting.toNat >>> 8 := by
        rw [UInt64.toNat_shiftRight]; rfl
      have hsplit : count = 8 + (count - 8) := by omega
      have hlow : lowBits waiting.toUInt8.toNat 8 = lowBits waiting.toNat 8 := by
        apply lowBits_congr
        intro i hi
        rw [UInt64.toNat_toUInt8, Nat.testBit_mod_two_pow, decide_eq_true hi, Bool.true_and]
      have hlt : (waiting >>> 8).toNat < 2 ^ (count - 8) := by
        rw [hshift, Nat.shiftRight_eq_div_pow, Nat.div_lt_iff_lt_mul (by decide), ← Nat.pow_add]
        rwa [Nat.sub_add_cancel hcount]
      obtain ⟨hbits, hrest⟩ := ih hlt
      refine ⟨?_, hrest⟩
      rw [hbits, hshift, hsplit, lowBits_add, ← hlow]
      simp
  | case2 output waiting count hcount =>
      exact ⟨rfl, rfl, ⟨by simpa using hcount, hwaiting, hslot⟩⟩

variable {w : BitWriter} {code width : Nat}

theorem waiting_write (hw : w.Ready) (hcode : code < 2 ^ width) (hwidth : width ≤ 16) :
    (w.waiting ||| (UInt64.ofNat code <<< UInt64.ofNat w.count)).toNat =
      w.waiting.toNat ||| code <<< w.count := by
  have hcount := hw.count_lt
  have hshift : code <<< w.count < 2 ^ 64 := by
    rw [Nat.shiftLeft_eq]
    calc code * 2 ^ w.count < 2 ^ width * 2 ^ w.count :=
          (Nat.mul_lt_mul_right (Nat.two_pow_pos _)).mpr hcode
      _ = 2 ^ (width + w.count) := (Nat.pow_add ..).symm
      _ ≤ 2 ^ 64 := Nat.pow_le_pow_right (by decide) (by omega)
  have hsmall : code < 2 ^ 64 := (Nat.le_shiftLeft ..).trans_lt hshift
  have hamount : w.count % 2 ^ 64 % 64 = w.count := by omega
  rw [UInt64.toNat_or, UInt64.toNat_shiftLeft, UInt64.toNat_ofNat', UInt64.toNat_ofNat',
    hamount, Nat.mod_eq_of_lt hsmall, Nat.mod_eq_of_lt hshift]

theorem write_spec (hw : w.Ready) (hcode : code < 2 ^ width) (hwidth : width ≤ 16) :
    (w.write code width).bits = w.bits ++ lowBits code width ∧
      (w.write code width).slot = (w.slot + 1) % groupSize ∧ (w.write code width).Ready := by
  have hlt : w.waiting.toNat ||| code <<< w.count < 2 ^ (w.count + width) := by
    apply Nat.or_lt_two_pow
    · exact hw.waiting_lt.trans_le (Nat.pow_le_pow_right (by decide) (by omega))
    · rw [Nat.shiftLeft_eq, Nat.pow_add, Nat.mul_comm]
      exact (Nat.mul_lt_mul_left (Nat.two_pow_pos _)).mpr hcode
  have h := drain_spec w.output (w.waiting ||| (UInt64.ofNat code <<< UInt64.ofNat w.count))
    (w.count + width) ((w.slot + 1) % groupSize) (by rwa [waiting_write hw hcode hwidth])
    (Nat.mod_lt _ (by decide))
  rw [waiting_write hw hcode hwidth, lowBits_or_shiftLeft hw.waiting_lt, ← List.append_assoc] at h
  exact h

theorem bits_write (hw : w.Ready) (hcode : code < 2 ^ width) (hwidth : width ≤ 16) :
    (w.write code width).bits = w.bits ++ lowBits code width :=
  (write_spec hw hcode hwidth).1

theorem ready_write (hw : w.Ready) (hcode : code < 2 ^ width) (hwidth : width ≤ 16) :
    (w.write code width).Ready :=
  (write_spec hw hcode hwidth).2.2

theorem slot_write (hw : w.Ready) (hcode : code < 2 ^ width) (hwidth : width ≤ 16) :
    (w.write code width).slot = (w.slot + 1) % groupSize :=
  (write_spec hw hcode hwidth).2.1

theorem writeZeros_spec (hw : w.Ready) (hwidth : width ≤ 16) (n : Nat) :
    (w.writeZeros width n).bits = w.bits ++ List.replicate (n * width) false ∧
      (w.writeZeros width n).slot = (w.slot + n) % groupSize ∧ (w.writeZeros width n).Ready := by
  induction n generalizing w with
  | zero =>
      refine ⟨by simp [writeZeros], ?_, hw⟩
      exact (Nat.mod_eq_of_lt hw.slot_lt).symm
  | succ n ih =>
      have hzero : 0 < 2 ^ width := Nat.two_pow_pos _
      obtain ⟨hbits, hslot, hready⟩ := ih (ready_write hw hzero hwidth)
      refine ⟨?_, ?_, hready⟩
      · rw [writeZeros, hbits, bits_write hw hzero hwidth, List.append_assoc, lowBits_of_zero,
          List.replicate_append_replicate, Nat.add_mul, Nat.one_mul, Nat.add_comm width]
      · rw [writeZeros, hslot, slot_write hw hzero hwidth]
        simp only [groupSize]
        omega

/-- Filling a group appends as many zero codes as it lacks, and a new group begins. -/
theorem padGroup_spec (hw : w.Ready) (hwidth : width ≤ 16) :
    (w.padGroup width).bits =
        w.bits ++ List.replicate ((groupSize - w.slot) % groupSize * width) false ∧
      (w.padGroup width).slot = 0 ∧ (w.padGroup width).Ready := by
  obtain ⟨hbits, hslot, hready⟩ :=
    writeZeros_spec hw hwidth ((groupSize - w.slot) % groupSize)
  refine ⟨hbits, ?_, hready⟩
  have hlt := hw.slot_lt
  rw [padGroup, hslot]
  simp only [groupSize] at hlt ⊢
  omega

/-- The finished bytes hold the bits written, and too few others to spell a code. -/
theorem finish_spec (hw : w.Ready) :
    ∃ spare : List Bool, spare.length < 8 ∧ bitsOfBytes w.finish = w.bits ++ spare := by
  by_cases h : 0 < w.count
  · have hsplit : 8 = w.count + (8 - w.count) := by have := hw.count_lt; omega
    refine ⟨lowBits (w.waiting.toUInt8.toNat >>> w.count) (8 - w.count), by simp; omega, ?_⟩
    have hlow : lowBits w.waiting.toUInt8.toNat w.count = lowBits w.waiting.toNat w.count := by
      apply lowBits_congr
      intro i hi
      have hi8 : i < 8 := hi.trans hw.count_lt
      rw [UInt64.toNat_toUInt8, Nat.testBit_mod_two_pow, decide_eq_true hi8, Bool.true_and]
    have hbyte : lowBits w.waiting.toUInt8.toNat 8 = lowBits w.waiting.toNat w.count ++
        lowBits (w.waiting.toUInt8.toNat >>> w.count) (8 - w.count) := by
      rw [← hlow, ← lowBits_add, ← hsplit]
    simp only [finish, h, if_true, Array.toList_push, bitsOfBytes_append, bitsOfBytes_cons,
      bitsOfBytes_nil, List.append_nil, hbyte, bits, List.append_assoc]
  · have hcount : w.count = 0 := by omega
    exact ⟨[], by decide, by simp [finish, bits, hcount]⟩

end BitWriter

/-! ## Reading -/

namespace BitReader

/-- The bits from the position of a reader on. -/
def remaining (r : BitReader) : List Bool :=
  (bitsOfBytes r.data.toList).drop r.position

@[simp] theorem remaining_start (b : Bytes) : (start b).remaining = bitsOfBytes b := by
  simp [start, remaining]

theorem length_remaining (r : BitReader) : r.remaining.length = r.left := by
  simp [remaining, left]

theorem getElem?_bitsOfBytes (b : Bytes) (i : Nat) :
    (bitsOfBytes b)[i]? = (b[i / 8]?).map fun x => x.toNat.testBit (i % 8) := by
  induction b generalizing i with
  | nil => simp
  | cons x b ih =>
      rw [bitsOfBytes_cons]
      by_cases hi : i < 8
      · have hdiv : i / 8 = 0 := by omega
        have hmod : i % 8 = i := by omega
        rw [List.getElem?_append_left (by simpa using hi), getElem?_lowBits hi, hdiv, hmod]
        rfl
      · have hdiv : i / 8 = (i - 8) / 8 + 1 := by omega
        have hmod : (i - 8) % 8 = i % 8 := by omega
        rw [List.getElem?_append_right (by simp; omega), length_lowBits, ih, hdiv, hmod]
        rfl

theorem bit_eq_toNat {data : Array UInt8} {i : Nat} {value : Bool}
    (h : (bitsOfBytes data.toList)[i]? = some value) : bit data i = value.toNat := by
  rw [getElem?_bitsOfBytes, Option.map_eq_some_iff] at h
  obtain ⟨x, hx, rfl⟩ := h
  rw [Array.getElem?_toList] at hx
  rw [bit, Array.getD_eq_getD_getElem?, hx, Option.getD_some, Nat.toNat_testBit,
    Nat.shiftRight_eq_div_pow]

theorem codeAt_eq {data : Array UInt8} {position code width : Nat} (hcode : code < 2 ^ width)
    (h : ∀ i < width, (bitsOfBytes data.toList)[position + i]? = some (code.testBit i)) :
    codeAt data position width = code := by
  induction width generalizing position code with
  | zero =>
      have : code = 0 := by simpa using hcode
      rw [codeAt, this]
  | succ width ih =>
      have hhalf : code / 2 < 2 ^ width := by rw [Nat.pow_succ] at hcode; omega
      have hrest : codeAt data (position + 1) width = code / 2 := by
        apply ih hhalf
        intro i hi
        rw [Nat.add_assoc, Nat.add_comm 1 i, h (i + 1) (by omega), Nat.testBit_succ]
      have hfirst : bit data position = code % 2 := by
        rw [bit_eq_toNat (i := position) (h 0 (by omega)), Nat.toNat_testBit]
        simp
      rw [codeAt, hfirst, hrest]
      omega

variable {r : BitReader} {code width : Nat} {later : List Bool}

theorem read?_of_remaining (hwidth : 0 < width) (hcode : code < 2 ^ width)
    (h : r.remaining = lowBits code width ++ later) :
    ∃ next : BitReader, r.read? width = some (code, next) ∧ next.remaining = later ∧
      next.slot = (r.slot + 1) % groupSize := by
  have hlen : ¬ 8 * r.data.size < r.position + width := by
    have hlen := congrArg List.length h
    rw [length_remaining, List.length_append, length_lowBits, left] at hlen
    omega
  have hvalue : codeAt r.data r.position width = code := by
    apply codeAt_eq hcode
    intro i hi
    rw [← getElem?_lowBits hi, ← List.getElem?_drop, ← remaining, h,
      List.getElem?_append_left (by simpa using hi)]
  refine ⟨⟨r.data, r.position + width, (r.slot + 1) % groupSize⟩, ?_, ?_, rfl⟩
  · rw [read?, if_neg hlen, hvalue]
  · rw [remaining, ← List.drop_drop, ← remaining, h,
      List.drop_left' (length_lowBits code width)]

theorem read?_eq_none (h : r.remaining.length < width) : r.read? width = none := by
  rw [length_remaining, left] at h
  rw [read?, if_pos (by omega)]

theorem remaining_skipGroup {skipped : List Bool}
    (hlen : skipped.length = (groupSize - r.slot) % groupSize * width)
    (h : r.remaining = skipped ++ later) : (r.skipGroup width).remaining = later := by
  rw [remaining, skipGroup, ← hlen, ← List.drop_drop, ← remaining, h, List.drop_left]

end BitReader

end Playback.Lzw
