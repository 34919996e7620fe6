import Mathlib.Tactic.SplitIfs
import Playback.Proofs.Bytes.Text

/-! # Lenient reading -/

namespace Playback.Bytes

/-! ## Sequences -/

theorem le_of_secondByte? {a low high : UInt8} {more : Nat}
    (h : secondByte? a = some (low, high, more)) : 0x80 ≤ low := by
  unfold secondByte? at h
  repeat' split at h
  all_goals cases h
  all_goals decide

theorem takeWhile_take_append {x : UInt8} (hx : x < 0x80) (b rest : Bytes) (more : Nat) :
    ((b ++ x :: rest).take more).takeWhile isContinuation =
      (b.take more).takeWhile isContinuation := by
  have ends : isContinuation x = false := by
    simp [isContinuation, UInt8.not_le.mpr hx]
  induction b generalizing more with
  | nil => cases more <;> simp [ends]
  | cons y b ih =>
      cases more with
      | zero => rfl
      | succ more => simp only [List.cons_append, List.take_succ_cons, List.takeWhile_cons, ih]

/-- A byte below 128 has no part in the sequence before it. -/
theorem sequenceLength_append {x : UInt8} (hx : x < 0x80) (a : UInt8) (b rest : Bytes) :
    sequenceLength a (b ++ x :: rest) = sequenceLength a b := by
  unfold sequenceLength
  cases h : secondByte? a with
  | none => cases b <;> rfl
  | some bounds =>
      obtain ⟨low, high, more⟩ := bounds
      cases b with
      | nil =>
          have : ¬low ≤ x := UInt8.not_le.mpr (UInt8.lt_of_lt_of_le hx (le_of_secondByte? h))
          simp [this]
      | cons second b => simp only [List.cons_append, takeWhile_take_append hx]

theorem sequenceLength_le (a : UInt8) (b : Bytes) : (sequenceLength a b).1 ≤ b.length := by
  unfold sequenceLength
  split
  · next more second rest _ =>
      split
      · have tail : ((rest.take more).takeWhile isContinuation).length ≤ rest.length :=
          ((List.takeWhile_sublist _).trans (List.take_sublist _ _)).length_le
        simp only [List.length_cons]
        omega
      · exact Nat.zero_le _
  · exact Nat.zero_le _

/-! ## Reading -/

theorem replacing_cons_of_lt {a : UInt8} (h : a < 0x80) (rest : Bytes) :
    replacing (a :: rest) = Char.ofNat a.toNat :: replacing rest := by
  rw [replacing, if_pos h]

theorem replacing_cons_of_ge {a : UInt8} (h : ¬a < 0x80) (rest : Bytes) :
    replacing (a :: rest) =
      (if (sequenceLength a rest).2 then sequenceChar a (rest.take (sequenceLength a rest).1)
        else '\uFFFD') :: replacing (rest.drop (sequenceLength a rest).1) := by
  rw [replacing, if_neg h]

/-- A byte string is read piece by piece between bytes below 128. -/
theorem replacing_append {x : UInt8} (hx : x < 0x80) (b rest : Bytes) :
    replacing (b ++ x :: rest) = replacing b ++ Char.ofNat x.toNat :: replacing rest := by
  match b with
  | [] => rw [List.nil_append, replacing_cons_of_lt hx, replacing, List.nil_append]
  | a :: b =>
      rw [List.cons_append]
      by_cases ascii : a < 0x80
      · rw [replacing_cons_of_lt ascii, replacing_cons_of_lt ascii, replacing_append hx b rest,
          List.cons_append]
      · have within := sequenceLength_le a b
        rw [replacing_cons_of_ge ascii, replacing_cons_of_ge ascii, sequenceLength_append hx,
          List.take_append_of_le_length within, List.drop_append_of_le_length within,
          replacing_append hx (b.drop (sequenceLength a b).1) rest, List.cons_append]
termination_by b.length
decreasing_by
  all_goals
    simp only [List.length_cons, List.length_drop]
    omega

/-! ## Well-formed text -/

theorem replacing_of_sequence {a : UInt8} {more rest : Bytes} (h : 0x80 ≤ a.toNat)
    (complete : sequenceLength a (more ++ rest) = (more.length, true)) :
    replacing (a :: more ++ rest) = sequenceChar a more :: replacing rest := by
  have lead : ¬a < 0x80 := UInt8.not_lt.mpr (UInt8.le_iff_toNat_le.mpr h)
  rw [List.cons_append, replacing_cons_of_ge lead, complete, if_pos rfl, List.take_left,
    List.drop_left]

theorem secondByte?_eq (a : UInt8) : secondByte? a =
    if 0xC2 ≤ a.toNat ∧ a.toNat ≤ 0xDF then some (0x80, 0xBF, 0)
    else if 0xE0 ≤ a.toNat ∧ a.toNat ≤ 0xEF then
      some (if a.toNat = 0xE0 then 0xA0 else 0x80, if a.toNat = 0xED then 0x9F else 0xBF, 1)
    else if 0xF0 ≤ a.toNat ∧ a.toNat ≤ 0xF4 then
      some (if a.toNat = 0xF0 then 0x90 else 0x80, if a.toNat = 0xF4 then 0x8F else 0xBF, 2)
    else none := by
  simp only [secondByte?, UInt8.le_iff_toNat_le, Bool.and_eq_true, decide_eq_true_eq, beq_iff_eq,
    ← UInt8.toNat_inj, UInt8.reduceToNat]
  split_ifs <;> first | rfl | omega

theorem sequenceLength_two {a b : UInt8} (ha : 0xC2 ≤ a.toNat ∧ a.toNat ≤ 0xDF)
    (hb : 0x80 ≤ b.toNat ∧ b.toNat ≤ 0xBF) (rest : Bytes) :
    sequenceLength a (b :: rest) = (1, true) := by
  simp [sequenceLength, secondByte?_eq, UInt8.le_iff_toNat_le, ha, hb]

theorem sequenceLength_three {a b c : UInt8} (ha : 0xE0 ≤ a.toNat ∧ a.toNat ≤ 0xEF)
    (hb : 0x80 ≤ b.toNat ∧ b.toNat ≤ 0xBF) (hc : 0x80 ≤ c.toNat ∧ c.toNat ≤ 0xBF)
    (notOverlong : a.toNat = 0xE0 → 0xA0 ≤ b.toNat)
    (notSurrogate : a.toNat = 0xED → b.toNat ≤ 0x9F) (rest : Bytes) :
    sequenceLength a (b :: c :: rest) = (2, true) := by
  have low : (if a.toNat = 0xE0 then (0xA0 : UInt8) else 0x80) ≤ b := by
    rw [UInt8.le_iff_toNat_le]
    split
    · next e0 => exact notOverlong e0
    · exact hb.1
  have high : b ≤ if a.toNat = 0xED then (0x9F : UInt8) else 0xBF := by
    rw [UInt8.le_iff_toNat_le]
    split
    · next ed => exact notSurrogate ed
    · exact hb.2
  have second : secondByte? a = some (if a.toNat = 0xE0 then 0xA0 else 0x80,
      if a.toNat = 0xED then 0x9F else 0xBF, 1) := by
    rw [secondByte?_eq, if_neg (by omega), if_pos ha]
  simp [sequenceLength, second, low, high, isContinuation, UInt8.le_iff_toNat_le, hc]

theorem sequenceLength_four {a b c d : UInt8} (ha : 0xF0 ≤ a.toNat ∧ a.toNat ≤ 0xF4)
    (hb : 0x80 ≤ b.toNat ∧ b.toNat ≤ 0xBF) (hc : 0x80 ≤ c.toNat ∧ c.toNat ≤ 0xBF)
    (hd : 0x80 ≤ d.toNat ∧ d.toNat ≤ 0xBF) (notOverlong : a.toNat = 0xF0 → 0x90 ≤ b.toNat)
    (withinRange : a.toNat = 0xF4 → b.toNat ≤ 0x8F) (rest : Bytes) :
    sequenceLength a (b :: c :: d :: rest) = (3, true) := by
  have low : (if a.toNat = 0xF0 then (0x90 : UInt8) else 0x80) ≤ b := by
    rw [UInt8.le_iff_toNat_le]
    split
    · next f0 => exact notOverlong f0
    · exact hb.1
  have high : b ≤ if a.toNat = 0xF4 then (0x8F : UInt8) else 0xBF := by
    rw [UInt8.le_iff_toNat_le]
    split
    · next f4 => exact withinRange f4
    · exact hb.2
  have second : secondByte? a = some (if a.toNat = 0xF0 then 0x90 else 0x80,
      if a.toNat = 0xF4 then 0x8F else 0xBF, 2) := by
    rw [secondByte?_eq, if_neg (by omega), if_neg (by omega), if_pos ha]
  simp [sequenceLength, second, low, high, isContinuation, UInt8.le_iff_toNat_le, hc, hd]

theorem sequenceChar_two {a b : UInt8} (ha : 0xC2 ≤ a.toNat ∧ a.toNat ≤ 0xDF) :
    sequenceChar a [b] = Char.ofNat (64 * (a.toNat % 32) + b.toNat % 64) := by
  have lead : a < 0xE0 := UInt8.lt_iff_toNat_lt.mpr (Nat.lt_succ_of_le ha.2)
  simp [sequenceChar, lead]

theorem sequenceChar_three {a b c : UInt8} (ha : 0xE0 ≤ a.toNat ∧ a.toNat ≤ 0xEF) :
    sequenceChar a [b, c] =
      Char.ofNat (64 * (64 * (a.toNat % 16) + b.toNat % 64) + c.toNat % 64) := by
  have lead : ¬a < 0xE0 := UInt8.not_lt.mpr (UInt8.le_iff_toNat_le.mpr ha.1)
  have lead' : a < 0xF0 := UInt8.lt_iff_toNat_lt.mpr (Nat.lt_succ_of_le ha.2)
  simp [sequenceChar, lead, lead']

theorem sequenceChar_four {a b c d : UInt8} (ha : 0xF0 ≤ a.toNat) :
    sequenceChar a [b, c, d] =
      Char.ofNat (64 * (64 * (64 * (a.toNat % 8) + b.toNat % 64) + c.toNat % 64) +
        d.toNat % 64) := by
  have lead : ¬a < 0xF0 := UInt8.not_lt.mpr (UInt8.le_iff_toNat_le.mpr ha)
  have lead' : ¬a < 0xE0 :=
    UInt8.not_lt.mpr (UInt8.le_iff_toNat_le.mpr (Nat.le_trans (by decide) ha))
  simp [sequenceChar, lead, lead']

theorem replacing_utf8EncodeChar (c : Char) (rest : Bytes) :
    replacing (String.utf8EncodeChar c ++ rest) = c :: replacing rest := by
  have valid : c.toNat < 0xD800 ∨ 0xDFFF < c.toNat ∧ c.toNat < 0x110000 := c.valid
  have toNat_ofNat {n : Nat} (hn : n < 256) : (UInt8.ofNat n).toNat = n := by
    simpa using Nat.mod_eq_of_lt hn
  have ofNat_of_eq {n : Nat} (hn : n = c.toNat) : Char.ofNat n = c := by
    rw [hn, Char.ofNat_toNat]
  rw [String.utf8EncodeChar, show c.val.toNat = c.toNat from rfl]
  split_ifs with one two three
  · rw [List.singleton_append, replacing_cons_of_lt, toNat_ofNat (by omega), Char.ofNat_toNat]
    rw [UInt8.lt_iff_toNat_lt, toNat_ofNat (by omega)]
    exact Nat.lt_succ_of_le one
  · have first := toNat_ofNat (n := c.toNat / 64 % 32 + 192) (by omega)
    have second := toNat_ofNat (n := c.toNat % 64 + 128) (by omega)
    generalize UInt8.ofNat (c.toNat / 64 % 32 + 192) = a at *
    generalize UInt8.ofNat (c.toNat % 64 + 128) = b at *
    have lead : 0xC2 ≤ a.toNat ∧ a.toNat ≤ 0xDF := by omega
    rw [replacing_of_sequence (by omega) (sequenceLength_two lead (by omega) rest),
      sequenceChar_two lead, ofNat_of_eq (by omega)]
  · have first := toNat_ofNat (n := c.toNat / 4096 % 16 + 224) (by omega)
    have second := toNat_ofNat (n := c.toNat / 64 % 64 + 128) (by omega)
    have third := toNat_ofNat (n := c.toNat % 64 + 128) (by omega)
    generalize UInt8.ofNat (c.toNat / 4096 % 16 + 224) = a at *
    generalize UInt8.ofNat (c.toNat / 64 % 64 + 128) = b at *
    generalize UInt8.ofNat (c.toNat % 64 + 128) = b' at *
    have lead : 0xE0 ≤ a.toNat ∧ a.toNat ≤ 0xEF := by omega
    have complete := sequenceLength_three lead (b := b) (c := b') (by omega) (by omega) (by omega)
      (by omega) rest
    rw [replacing_of_sequence (by omega) complete, sequenceChar_three lead, ofNat_of_eq (by omega)]
  · have first := toNat_ofNat (n := c.toNat / 262144 % 8 + 240) (by omega)
    have second := toNat_ofNat (n := c.toNat / 4096 % 64 + 128) (by omega)
    have third := toNat_ofNat (n := c.toNat / 64 % 64 + 128) (by omega)
    have fourth := toNat_ofNat (n := c.toNat % 64 + 128) (by omega)
    generalize UInt8.ofNat (c.toNat / 262144 % 8 + 240) = a at *
    generalize UInt8.ofNat (c.toNat / 4096 % 64 + 128) = b at *
    generalize UInt8.ofNat (c.toNat / 64 % 64 + 128) = b' at *
    generalize UInt8.ofNat (c.toNat % 64 + 128) = b'' at *
    have lead : 0xF0 ≤ a.toNat ∧ a.toNat ≤ 0xF4 := by omega
    have complete := sequenceLength_four lead (b := b) (c := b') (d := b'') (by omega) (by omega)
      (by omega) (by omega) (by omega) rest
    rw [replacing_of_sequence (by omega) complete, sequenceChar_four lead.1,
      ofNat_of_eq (by omega)]

theorem replacing_flatMap_utf8EncodeChar (cs : List Char) :
    replacing (cs.flatMap String.utf8EncodeChar) = cs := by
  induction cs with
  | nil => rw [List.flatMap_nil, replacing]
  | cons c cs ih => rw [List.flatMap_cons, replacing_utf8EncodeChar, ih]

/-- Text that is well formed is read leniently as it is read strictly. -/
theorem toList_toTextReplacing (b : Bytes) : (toTextReplacing b).toList = replacing b := by
  unfold toTextReplacing
  split
  · next s h =>
      rw [← ofText_of_toText? h, ofText_eq_flatMap, replacing_flatMap_utf8EncodeChar]
  · rw [String.toList_ofList]

/-- Text is split at a character below 128 as its bytes are split, whatever stands between. -/
theorem splitOn_replacing {x : UInt8} (hx : x < 0x80) (b : Bytes) :
    (replacing b).splitOn (Char.ofNat x.toNat) =
      (b.splitOn x).flatMap fun piece => (replacing piece).splitOn (Char.ofNat x.toNat) := by
  by_cases more : x ∈ b
  · obtain ⟨first, rest, parted, last⟩ := List.eq_append_cons_of_mem more
    rw [parted, replacing_append hx, List.splitOn_append_cons_self, List.splitOn_append_cons_self,
      List.flatMap_append, List.splitOn_eq_singleton last, List.flatMap_singleton,
      splitOn_replacing hx rest]
  · rw [List.splitOn_eq_singleton more, List.flatMap_singleton]
termination_by b.length
decreasing_by
  simp only [parted, List.length_append, List.length_cons]
  omega

end Playback.Bytes
