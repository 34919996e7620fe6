import Playback.Proofs.Bytes.Text
import Playback.Proofs.Outcome
import Playback.Proofs.Text.Base64.Spelling
import Playback.Proofs.Text.Trim

/-! # Reading base64 texts -/

namespace Playback.Text.Base64

/-- The byte of the digit of a value. -/
def digitByte (v : Nat) : UInt8 :=
  UInt8.ofNat (digitChar v).toNat

/-- What the encoder writes, byte by byte. -/
def encoded (b : Bytes) : Bytes :=
  (sextets b).map digitByte ++ List.replicate (missing b) pad

theorem value?_eq_some_iff {x : UInt8} {v : Nat} :
    value? x = some v ↔ v < 64 ∧ x = digitByte v := by
  constructor
  · have all : ∀ n < 256, ∀ v ∈ value? (UInt8.ofNat n), v < 64 ∧ UInt8.ofNat n = digitByte v := by
      decide +kernel
    intro h
    rw [← UInt8.ofNat_toNat (x := x)] at h ⊢
    exact all x.toNat x.toNat_lt v h
  · rintro ⟨small, rfl⟩
    revert v
    decide +kernel

theorem digit_eq_ok_iff {place v : Nat} {x : UInt8} :
    digit place x = .ok v ↔ v < 64 ∧ x = digitByte v := by
  rw [← value?_eq_some_iff, digit]
  cases value? x <;> simp

theorem digitByte_ne_pad {v : Nat} (h : v < 64) : digitByte v ≠ pad := by
  intro same
  have read := value?_eq_some_iff.mpr ⟨h, same.symm⟩
  cases read

theorem encoded_cons₃ (x y z : UInt8) (b : Bytes) :
    encoded (x :: y :: z :: b) =
      digitByte (x.toNat / 4) :: digitByte (x.toNat % 4 * 16 + y.toNat / 16) ::
        digitByte (y.toNat % 16 * 4 + z.toNat / 64) :: digitByte (z.toNat % 64) :: encoded b := by
  simp [encoded, sextets]

theorem length_encoded (b : Bytes) : (encoded b).length = 4 * ((b.length + 2) / 3) := by
  rw [encoded, List.length_append, List.length_map, List.length_replicate, length_sextets]

theorem eq_replicate_of_digits_eq {values : List Nat} {padding : Nat} {rest : Bytes}
    (small : ∀ v ∈ values, v < 64)
    (text : pad :: rest = values.map digitByte ++ List.replicate padding pad) :
    values = [] ∧ padding = rest.length + 1 ∧ rest = List.replicate rest.length pad := by
  cases values with
  | cons v values => exact absurd (List.cons.inj text).1.symm (digitByte_ne_pad (small v (by simp)))
  | nil =>
      cases padding with
      | zero => cases text
      | succ padding =>
          rw [List.map_nil, List.nil_append, List.replicate_succ] at text
          obtain rfl := (List.cons.inj text).2
          simp

/-- The last group is taken apart into digits and the padding behind them. -/
theorem lastDigits_eq_ok_iff {start index : Nat} {t : Bytes} {values : List Nat} {padding : Nat} :
    lastDigits start index t = .ok (values, padding) ↔
      (∀ v ∈ values, v < 64) ∧ t = values.map digitByte ++ List.replicate padding pad ∧
        (padding = 0 ∨ 2 ≤ index + values.length) := by
  induction t generalizing index values padding with
  | nil =>
      rw [lastDigits]
      constructor
      · intro h
        cases h
        simp
      · rintro ⟨-, text, -⟩
        obtain ⟨rfl, rfl⟩ : values = [] ∧ padding = 0 := by simpa using text.symm
        rfl
  | cons x rest ih =>
      rw [lastDigits]
      by_cases padded : x = pad
      · subst padded
        rw [if_pos rfl]
        split
        case isTrue wrong =>
          refine iff_of_false (by simp) ?_
          rintro ⟨small, text, placed⟩
          obtain ⟨rfl, rfl, only⟩ := eq_replicate_of_digits_eq small text
          have padded : rest.any (· != pad) = false := by
            rw [only]
            simp
          rw [padded, Bool.or_false, decide_eq_true_eq] at wrong
          rw [List.length_nil] at placed
          omega
        case isFalse right =>
          simp only [Bool.or_eq_true, decide_eq_true_eq, List.any_eq_true, bne_iff_ne, not_or,
            not_exists, not_and, not_not] at right
          constructor
          · intro h
            cases h
            have only := List.eq_replicate_iff.mpr ⟨rfl, right.2⟩
            refine ⟨by simp, ?_, .inr (Nat.le_of_not_lt right.1)⟩
            simpa [List.replicate_succ] using only
          · rintro ⟨small, text, -⟩
            obtain ⟨rfl, rfl, -⟩ := eq_replicate_of_digits_eq small text
            rfl
      · rw [if_neg padded]
        constructor
        · intro h
          obtain ⟨v, first, h⟩ := exists_ok_of_bind_eq_ok h
          obtain ⟨⟨others, behind⟩, later, h⟩ := exists_ok_of_bind_eq_ok h
          cases h
          obtain ⟨small, rfl, placed⟩ := ih.mp later
          obtain ⟨hv, rfl⟩ := digit_eq_ok_iff.mp first
          refine ⟨List.forall_mem_cons.mpr ⟨hv, small⟩, rfl, ?_⟩
          rw [List.length_cons]
          omega
        · rintro ⟨small, text, placed⟩
          cases values with
          | nil =>
              cases padding with
              | zero => cases text
              | succ padding => exact absurd (List.cons.inj text).1 padded
          | cons v values =>
              obtain ⟨rfl, rfl⟩ := List.cons.inj text
              rw [List.forall_mem_cons] at small
              rw [List.length_cons] at placed
              have first : digit (start + index) (digitByte v) = .ok v :=
                digit_eq_ok_iff.mpr ⟨small.1, rfl⟩
              have later := (@ih (index + 1) values padding).mpr ⟨small.2, rfl, by omega⟩
              rw [first, later]
              rfl

section

variable (x y z : UInt8) {n m : Nat}

theorem byte_eq {x : UInt8} (h : n = x.toNat) : byte n = x := by
  rw [h, byte, UInt8.ofNat_toNat]

theorem first_byte (h : m < 16) : byte (x.toNat / 4 * 4 + (x.toNat % 4 * 16 + m) / 16) = x :=
  byte_eq (by omega)

theorem second_byte (h : m < 4) :
    byte ((n * 16 + y.toNat / 16) % 16 * 16 + (y.toNat % 16 * 4 + m) / 4) = y := by
  have := y.toNat_lt
  exact byte_eq (by omega)

theorem third_byte : byte ((n * 4 + z.toNat / 64) % 4 * 64 + z.toNat % 64) = z := by
  have := z.toNat_lt
  exact byte_eq (by omega)

end

theorem lastDigits_encoded (start : Nat) (b : Bytes) :
    lastDigits start 0 (encoded b) = .ok (sextets b, missing b) := by
  have length := length_sextets b
  have few := missing_lt b
  exact lastDigits_eq_ok_iff.mpr ⟨fun v hv => lt_of_mem_sextets hv, rfl, by omega⟩

/-- Whatever the last group is read as, it is what the encoder writes for it. -/
theorem encoded_of_decodeLast {start : Nat} {t b : Bytes} (short : t.length ≤ 4)
    (h : decodeLast start t = .ok b) : t = encoded b := by
  rw [decodeLast] at h
  obtain ⟨⟨values, padding⟩, last, h⟩ := exists_ok_of_bind_eq_ok h
  obtain ⟨small, rfl, -⟩ := lastDigits_eq_ok_iff.mp last
  suffices sextets b = values ∧ missing b = padding by rw [encoded, this.1, this.2]
  simp only [List.length_append, List.length_map, List.length_replicate] at short
  dsimp only at h
  split at h
  case isTrue => cases h
  case isFalse enough =>
    split at h
    case isTrue => cases h
    case isFalse whole =>
      -- The number of digits settles the padding; only two or three digits leave bits over.
      match values with
      | [] =>
          cases padding with
          | zero =>
              cases h
              exact ⟨rfl, rfl⟩
          | succ padding => simp [List.replicate_succ] at enough
      | [p] => simp at enough
      | [p, q] =>
          obtain rfl : padding = 2 := by
            simp only [List.length_cons, List.length_nil] at short whole
            omega
          simp only [List.forall_mem_cons] at small
          dsimp only at h
          split at h
          case isTrue zero =>
            cases h
            exact ⟨sextets_one small.1 small.2.1 zero, rfl⟩
          case isFalse => cases h
      | [p, q, r] =>
          obtain rfl : padding = 1 := by
            simp only [List.length_cons, List.length_nil] at short whole
            omega
          simp only [List.forall_mem_cons] at small
          dsimp only at h
          split at h
          case isTrue zero =>
            cases h
            exact ⟨sextets_two small.1 small.2.1 small.2.2.1 zero, rfl⟩
          case isFalse => cases h
      | [p, q, r, s] =>
          obtain rfl : padding = 0 := by
            simp only [List.length_cons, List.length_nil] at short
            omega
          simp only [List.forall_mem_cons] at small
          cases h
          exact ⟨sextets_cons₃ small.1 small.2.1 small.2.2.1 small.2.2.2.1 [],
            missing_cons₃ _ _ _ []⟩
      | _ :: _ :: _ :: _ :: _ :: _ =>
          simp only [List.length_cons] at short
          omega

theorem decodeLast_encoded {start : Nat} {b : Bytes} (short : (encoded b).length ≤ 4) :
    decodeLast start (encoded b) = .ok b := by
  rw [length_encoded] at short
  have digits := length_sextets b
  have few := missing_lt b
  have enough : ¬(!(encoded b).isEmpty && decide ((sextets b).length < 2)) = true := by
    rw [Bool.and_eq_true, decide_eq_true_eq, not_and]
    intro filled
    have : 0 < (encoded b).length := by
      simpa [List.length_pos_iff] using filled
    rw [length_encoded] at this
    omega
  rw [decodeLast, lastDigits_encoded]
  dsimp only [bind, Except.bind]
  rw [if_neg enough, if_neg (by omega)]
  match b with
  | [] => rfl
  | [x] =>
      simp only [sextets]
      rw [if_pos (by omega)]
      exact congrArg (fun x => Except.ok [x]) (first_byte x (m := 0) (by decide))
  | [x, y] =>
      simp only [sextets]
      rw [if_pos (by omega), first_byte x (div_lt y (by decide))]
      exact congrArg (fun y => Except.ok [x, y]) (second_byte y (m := 0) (by decide))
  | [x, y, z] =>
      simp only [sextets]
      rw [first_byte x (div_lt y (by decide)), second_byte y (div_lt z (by decide)), third_byte]
  | _ :: _ :: _ :: _ :: _ =>
      simp only [List.length_cons] at short
      omega

theorem decodeLast_eq_ok_iff {start : Nat} {t b : Bytes} (short : t.length ≤ 4) :
    decodeLast start t = .ok b ↔ t = encoded b := by
  constructor
  · exact encoded_of_decodeLast short
  · rintro rfl
    exact decodeLast_encoded short

theorem length_le_four {t : Bytes}
    (short : ∀ t₁ t₂ t₃ t₄ t₅ rest, t = t₁ :: t₂ :: t₃ :: t₄ :: t₅ :: rest → False) :
    t.length ≤ 4 := by
  obtain _ | ⟨t₁, _ | ⟨t₂, _ | ⟨t₃, _ | ⟨t₄, _ | ⟨t₅, rest⟩⟩⟩⟩⟩ := t
  case cons.cons.cons.cons.cons => exact (short _ _ _ _ _ _ rfl).elim
  all_goals simp

/-- Group by group, what the encoder writes is read and nothing else. -/
theorem decodeFrom_eq_ok_iff {start : Nat} {t b : Bytes} :
    decodeFrom start t = .ok b ↔ t = encoded b := by
  fun_induction decodeFrom start t generalizing b with
  | case1 start t₁ t₂ t₃ t₄ t₅ rest ih =>
      constructor
      · intro h
        obtain ⟨p, first, h⟩ := exists_ok_of_bind_eq_ok h
        obtain ⟨q, second, h⟩ := exists_ok_of_bind_eq_ok h
        obtain ⟨r, third, h⟩ := exists_ok_of_bind_eq_ok h
        obtain ⟨s, fourth, h⟩ := exists_ok_of_bind_eq_ok h
        obtain ⟨b, later, h⟩ := exists_ok_of_bind_eq_ok h
        cases h
        obtain ⟨hp, rfl⟩ := digit_eq_ok_iff.mp first
        obtain ⟨hq, rfl⟩ := digit_eq_ok_iff.mp second
        obtain ⟨hr, rfl⟩ := digit_eq_ok_iff.mp third
        obtain ⟨hs, rfl⟩ := digit_eq_ok_iff.mp fourth
        rw [ih.mp later, encoded, encoded, sextets_cons₃ hp hq hr hs, missing_cons₃]
        rfl
      · intro text
        have length := congrArg List.length text
        rw [length_encoded] at length
        obtain _ | ⟨x, _ | ⟨y, _ | ⟨z, b⟩⟩⟩ := b
        case cons.cons.cons =>
          have small : ∀ v ∈ sextets (x :: y :: z :: b), v < 64 := fun v => lt_of_mem_sextets
          simp only [sextets, List.forall_mem_cons] at small
          obtain ⟨hp, hq, hr, hs, -⟩ := small
          rw [encoded_cons₃] at text
          simp only [List.cons.injEq] at text
          obtain ⟨rfl, rfl, rfl, rfl, later⟩ := text
          rw [digit_eq_ok_iff.mpr ⟨hp, rfl⟩, digit_eq_ok_iff.mpr ⟨hq, rfl⟩,
            digit_eq_ok_iff.mpr ⟨hr, rfl⟩, digit_eq_ok_iff.mpr ⟨hs, rfl⟩,
            ih.mpr (by simpa using later)]
          dsimp only [bind, Except.bind]
          rw [first_byte x (div_lt y (by decide)), second_byte y (div_lt z (by decide)), third_byte]
        -- Fewer than three bytes have four digits at most.
        all_goals
          simp only [List.length_cons, List.length_nil] at length
          omega
  | case2 start t short => exact decodeLast_eq_ok_iff (length_le_four short)

theorem decode_eq_ok_iff {t b : Bytes} : decode t = .ok b ↔ t = encoded b := by
  rw [decode]
  split
  case h_1 none =>
    rw [List.getLast?_eq_none_iff.mp none]
    exact @decodeFrom_eq_ok_iff 0 [] b
  case h_2 last _ =>
    split
    case isTrue stray =>
      refine iff_of_false (by simp) ?_
      rintro rfl
      rw [length_encoded] at stray
      omega
    case isFalse => exact decodeFrom_eq_ok_iff

theorem ascii_of_mem_encode {b : Bytes} {c : Char} (h : c ∈ encode b) :
    c.toNat < 128 ∧ isBlank c = false := by
  have digits : ∀ v < 64, (digitChar v).toNat < 128 ∧ isBlank (digitChar v) = false := by
    decide +kernel
  rw [encode_eq, List.mem_append, List.mem_map] at h
  rcases h with ⟨v, hv, rfl⟩ | h
  · exact digits v (lt_of_mem_sextets hv)
  · obtain rfl := List.eq_of_mem_replicate h
    decide

theorem ofText_encode (b : Bytes) : Bytes.ofText (String.ofList (encode b)) = encoded b := by
  have single : ∀ c ∈ encode b, String.utf8EncodeChar c = [UInt8.ofNat c.toNat] :=
    fun c hc => Bytes.utf8EncodeChar_of_ascii (ascii_of_mem_encode hc).1
  rw [Bytes.ofText_ofList, List.flatMap_congr single, ← List.map_eq_flatMap, encode_eq, encoded,
    List.map_append, List.map_map, List.map_replicate]
  rfl

theorem decode_ofText_eq_ok_iff {text : String} {b : Bytes} :
    decode (Bytes.ofText text) = .ok b ↔ text = String.ofList (encode b) := by
  rw [decode_eq_ok_iff, ← ofText_encode, Bytes.ofText_inj]

end Playback.Text.Base64
