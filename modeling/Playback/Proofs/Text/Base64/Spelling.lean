import Playback.Text.Base64

/-! # What base64 texts spell -/

namespace Playback.Text.Base64

/-! ## Bits -/

/-- The lowest bits of a number, the highest of them first. -/
def bits : Nat → Nat → List Bool
  | 0, _ => []
  | width + 1, n => n.testBit width :: bits width n

@[simp] theorem length_bits (width n : Nat) : (bits width n).length = width := by
  induction width with
  | zero => rfl
  | succ width ih => simp [bits, ih]

@[simp] theorem bits_of_zero (width : Nat) : bits width 0 = List.replicate width false := by
  induction width with
  | zero => rfl
  | succ width ih => simp [bits, ih, List.replicate_succ]

theorem bits_eq_iff {width n m : Nat} :
    bits width n = bits width m ↔ ∀ i < width, n.testBit i = m.testBit i := by
  induction width with
  | zero => simp [bits]
  | succ width ih =>
      rw [bits, bits, List.cons.injEq, ih]
      constructor
      · rintro ⟨top, lower⟩ i hi
        rcases Nat.lt_succ_iff_lt_or_eq.mp hi with hi | rfl
        · exact lower i hi
        · exact top
      · intro all
        exact ⟨all width (Nat.lt_succ_self _), fun i hi => all i (Nat.lt_succ_of_lt hi)⟩

theorem bits_mod (width n : Nat) : bits width (n % 2 ^ width) = bits width n := by
  rw [bits_eq_iff]
  intro i hi
  simp [Nat.testBit_mod_two_pow, hi]

theorem bits_add (high low n : Nat) :
    bits (high + low) n = bits high (n / 2 ^ low) ++ bits low n := by
  induction high with
  | zero => simp [bits]
  | succ high ih =>
      rw [Nat.add_right_comm, bits, ih, bits, Nat.testBit_div_two_pow, List.cons_append]

theorem eq_of_bits_eq {width n m : Nat} (hn : n < 2 ^ width) (hm : m < 2 ^ width)
    (h : bits width n = bits width m) : n = m := by
  refine Nat.eq_of_testBit_eq fun i => ?_
  by_cases hi : i < width
  · exact bits_eq_iff.mp h i hi
  · have above : 2 ^ width ≤ 2 ^ i := Nat.pow_le_pow_right (by omega) (by omega)
    rw [Nat.testBit_lt_two_pow (Nat.lt_of_lt_of_le hn above),
      Nat.testBit_lt_two_pow (Nat.lt_of_lt_of_le hm above)]

/-- Numbers of a fixed width can be told from their bits in a row. -/
theorem eq_of_flatMap_bits_eq {width : Nat} (pos : 0 < width) {l m : List Nat}
    (hl : ∀ n ∈ l, n < 2 ^ width) (hm : ∀ n ∈ m, n < 2 ^ width)
    (h : l.flatMap (bits width) = m.flatMap (bits width)) : l = m := by
  induction l generalizing m with
  | nil =>
      cases m with
      | nil => rfl
      | cons b m =>
          have := congrArg List.length h
          simp at this
          omega
  | cons a l ih =>
      cases m with
      | nil =>
          have := congrArg List.length h
          simp at this
          omega
      | cons b m =>
          rw [List.flatMap_cons, List.flatMap_cons] at h
          obtain ⟨first, others⟩ := List.append_inj h (by simp)
          rw [List.forall_mem_cons] at hl hm
          rw [eq_of_bits_eq hl.1 hm.1 first, ih hl.2 hm.2 others]

/-! ## Texts -/

/-- The digits in the order of their values. -/
def alphabet : List Char :=
  "ABCDEFGHIJKLMNOPQRSTUVWXYZabcdefghijklmnopqrstuvwxyz0123456789+/".toList

/-- A text of digits of the values given with padding behind them. Both make whole groups of four,
and every character of padding stands for two bits of the last digit that are zero. -/
structure Canonical (text : List Char) (values : List Nat) (padding : Nat) : Prop where
  small : ∀ v ∈ values, v < 64
  text_eq : text = values.map (alphabet.getD · '=') ++ List.replicate padding '='
  groups : (values.length + padding) % 4 = 0
  short : padding ≤ 2
  zeros : ∀ v ∈ values.getLast?, v % 4 ^ padding = 0

/-- A canonical text whose digits hold the bits of some bytes. -/
def Spells (text : List Char) (b : Bytes) : Prop :=
  ∃ values padding, Canonical text values padding ∧
    values.flatMap (bits 6) =
      b.flatMap (fun x => bits 8 x.toNat) ++ List.replicate (2 * padding) false

theorem digitChar_eq {v : Nat} (h : v < 64) : digitChar v = alphabet.getD v '=' := by
  revert v
  decide +kernel

/-! ## The encoder -/

/-- The values of the digits that bytes are written with. -/
def sextets : Bytes → List Nat
  | [] => []
  | [a] => [a.toNat / 4, a.toNat % 4 * 16]
  | [a, b] => [a.toNat / 4, a.toNat % 4 * 16 + b.toNat / 16, b.toNat % 16 * 4]
  | a :: b :: c :: rest =>
    a.toNat / 4 :: (a.toNat % 4 * 16 + b.toNat / 16) :: (b.toNat % 16 * 4 + c.toNat / 64) ::
      (c.toNat % 64) :: sextets rest

/-- How many bytes the last group lacks. -/
def missing (b : Bytes) : Nat :=
  (3 - b.length % 3) % 3

theorem missing_lt (b : Bytes) : missing b < 3 :=
  Nat.mod_lt _ (by decide)

@[simp] theorem missing_cons₃ (x y z : UInt8) (b : Bytes) :
    missing (x :: y :: z :: b) = missing b := by
  simp only [missing, List.length_cons]
  omega

theorem encode_eq (b : Bytes) :
    encode b = (sextets b).map digitChar ++ List.replicate (missing b) '=' := by
  fun_induction encode b with
  | case1 => rfl
  | case2 => rfl
  | case3 => rfl
  | case4 x y z b ih => simp [sextets, ih]

theorem length_sextets (b : Bytes) :
    (sextets b).length + missing b = 4 * ((b.length + 2) / 3) := by
  fun_induction sextets b with
  | case1 => simp [missing]
  | case2 => simp [missing]
  | case3 => simp [missing]
  | case4 x y z b ih =>
      simp only [List.length_cons, missing_cons₃]
      omega

theorem lt_of_mem_sextets {b : Bytes} {v : Nat} (h : v ∈ sextets b) : v < 64 := by
  have byte (x : UInt8) : x.toNat < 256 := x.toNat_lt
  fun_induction sextets b with
  | case1 => cases h
  | case2 x =>
      have := byte x
      simp only [List.mem_cons, List.not_mem_nil, or_false] at h
      omega
  | case3 x y =>
      have := byte x
      have := byte y
      simp only [List.mem_cons, List.not_mem_nil, or_false] at h
      omega
  | case4 x y z b ih =>
      have := byte x
      have := byte y
      have := byte z
      simp only [List.mem_cons] at h
      rcases h with h | h | h | h | h
      case inr.inr.inr.inr => exact ih h
      all_goals omega

theorem zeros_sextets (b : Bytes) : ∀ v ∈ (sextets b).getLast?, v % 4 ^ missing b = 0 := by
  fun_induction sextets b with
  | case1 => simp
  | case2 x => simp [missing]
  | case3 x y => simp [missing]
  | case4 x y z b ih =>
      rw [missing_cons₃]
      cases later : sextets b with
      | nil =>
          have length := length_sextets b
          have few := missing_lt b
          have full : missing b = 0 := by
            rw [later, List.length_nil] at length
            omega
          simp [full, Nat.mod_one]
      | cons v values =>
          rw [later] at ih
          simpa only [List.getLast?_cons_cons] using ih

theorem div_lt (x : UInt8) {k m : Nat} (h : 256 ≤ k * m) : x.toNat / k < m := by
  have := x.toNat_lt
  exact Nat.div_lt_of_lt_mul (by omega)

theorem bits_sextets (b : Bytes) :
    (sextets b).flatMap (bits 6) =
      b.flatMap (fun x => bits 8 x.toNat) ++ List.replicate (2 * missing b) false := by
  -- The first two bits of a digit end a byte, or the first four do.
  have split₂ (n m : Nat) (hm : m < 16) : bits 6 (n % 4 * 16 + m) = bits 2 n ++ bits 4 m := by
    rw [bits_add 2 4, ← bits_mod 2 n, ← bits_mod 4 (n % 4 * 16 + m)]
    congr 2 <;> omega
  have split₄ (n m : Nat) (hm : m < 4) : bits 6 (n % 16 * 4 + m) = bits 4 n ++ bits 2 m := by
    rw [bits_add 4 2, ← bits_mod 4 n, ← bits_mod 2 (n % 16 * 4 + m)]
    congr 2 <;> omega
  fun_induction sextets b with
  | case1 => rfl
  | case2 x =>
      have last := split₂ x.toNat 0 (by decide)
      rw [Nat.add_zero] at last
      simp [last, bits_add 6 2 x.toNat, missing]
  | case3 x y =>
      have last := split₄ y.toNat 0 (by decide)
      rw [Nat.add_zero] at last
      have high : y.toNat / 16 < 16 := div_lt y (by decide)
      simp [last, split₂ _ _ high, bits_add 6 2 x.toNat, bits_add 4 4 y.toNat, missing]
  | case4 x y z b ih =>
      have high : y.toNat / 16 < 16 := div_lt y (by decide)
      have top : z.toNat / 64 < 4 := div_lt z (by decide)
      simp [ih, split₂ _ _ high, split₄ _ _ top, bits_add 6 2 x.toNat, bits_add 4 4 y.toNat,
        bits_add 2 6 z.toNat, ← bits_mod 6 z.toNat]

theorem canonical_encode (b : Bytes) : Canonical (encode b) (sextets b) (missing b) where
  small _ h := lt_of_mem_sextets h
  text_eq := by
    rw [encode_eq, List.map_congr_left fun v hv => digitChar_eq (lt_of_mem_sextets hv)]
  groups := by
    rw [length_sextets]
    omega
  short := Nat.le_of_lt_succ (missing_lt b)
  zeros := zeros_sextets b

/-- The encoder writes the one text that spells its bytes. -/
theorem spells_iff {text : List Char} {b : Bytes} : Spells text b ↔ text = encode b := by
  constructor
  · rintro ⟨values, padding, canonical, same⟩
    have length := congrArg List.length same
    simp only [List.length_flatMap, length_bits, List.map_const', List.sum_replicate_nat,
      List.length_append, List.length_replicate] at length
    -- The number of bytes settles the padding, and their bits settle the digits.
    obtain rfl : padding = missing b := by
      have groups := canonical.groups
      have short := canonical.short
      rw [missing]
      omega
    have digits : values = sextets b :=
      eq_of_flatMap_bits_eq (by decide) canonical.small (fun _ => lt_of_mem_sextets)
        (same.trans (bits_sextets b).symm)
    rw [canonical.text_eq, (canonical_encode b).text_eq, digits]
  · rintro rfl
    exact ⟨sextets b, missing b, canonical_encode b, bits_sextets b⟩

/-! ## Groups of digits -/

theorem toNat_byte {n : Nat} (h : n < 256) : (byte n).toNat = n := by
  simpa [byte] using Nat.mod_eq_of_lt h

section

variable {p q r s : Nat} (hp : p < 64) (hq : q < 64) (hr : r < 64) (hs : s < 64)
include hp hq

theorem sextets_one (zero : q % 16 = 0) : sextets [byte (p * 4 + q / 16)] = [p, q] := by
  rw [sextets, toNat_byte (by omega)]
  congr 2 <;> omega

include hr

theorem sextets_two (zero : r % 4 = 0) :
    sextets [byte (p * 4 + q / 16), byte (q % 16 * 16 + r / 4)] = [p, q, r] := by
  rw [sextets, toNat_byte (by omega), toNat_byte (by omega)]
  congr 3 <;> omega

include hs

theorem sextets_cons₃ (b : Bytes) :
    sextets (byte (p * 4 + q / 16) :: byte (q % 16 * 16 + r / 4) :: byte (r % 4 * 64 + s) :: b) =
      p :: q :: r :: s :: sextets b := by
  rw [sextets, toNat_byte (by omega), toNat_byte (by omega), toNat_byte (by omega)]
  congr 4 <;> omega

end

theorem exists_sextets (values : List Nat) (padding : Nat) (small : ∀ v ∈ values, v < 64)
    (groups : (values.length + padding) % 4 = 0) (short : padding ≤ 2)
    (zeros : ∀ v ∈ values.getLast?, v % 4 ^ padding = 0) :
    ∃ b, sextets b = values ∧ missing b = padding := by
  match values with
  | [] =>
      obtain rfl : padding = 0 := by
        rw [List.length_nil] at groups
        omega
      exact ⟨[], rfl, rfl⟩
  | [p] =>
      rw [List.length_singleton] at groups
      omega
  | [p, q] =>
      obtain rfl : padding = 2 := by
        simp only [List.length_cons, List.length_nil] at groups
        omega
      simp only [List.forall_mem_cons] at small
      exact ⟨_, sextets_one small.1 small.2.1 (zeros q rfl), rfl⟩
  | [p, q, r] =>
      obtain rfl : padding = 1 := by
        simp only [List.length_cons, List.length_nil] at groups
        omega
      simp only [List.forall_mem_cons] at small
      exact ⟨_, sextets_two small.1 small.2.1 small.2.2.1 (zeros r rfl), rfl⟩
  | p :: q :: r :: s :: values =>
      simp only [List.forall_mem_cons] at small
      have groups' : (values.length + padding) % 4 = 0 := by
        simp only [List.length_cons] at groups
        omega
      have zeros' : ∀ v ∈ values.getLast?, v % 4 ^ padding = 0 := by
        intro v hv
        refine zeros v ?_
        cases values with
        | nil => cases hv
        | cons w values => simpa only [List.getLast?_cons_cons] using hv
      obtain ⟨b, rfl, rfl⟩ := exists_sextets values padding small.2.2.2.2 groups' short zeros'
      exact ⟨_, sextets_cons₃ small.1 small.2.1 small.2.2.1 small.2.2.2.1 b, missing_cons₃ _ _ _ b⟩

/-- The canonical texts are those that the encoder writes. -/
theorem exists_canonical_iff {text : List Char} :
    (∃ values padding, Canonical text values padding) ↔ ∃ b, text = encode b := by
  constructor
  · rintro ⟨values, padding, canonical⟩
    obtain ⟨b, rfl, rfl⟩ := exists_sextets values padding canonical.small canonical.groups
      canonical.short canonical.zeros
    exact ⟨b, by rw [canonical.text_eq, (canonical_encode b).text_eq]⟩
  · rintro ⟨b, rfl⟩
    exact ⟨sextets b, missing b, canonical_encode b⟩

end Playback.Text.Base64
