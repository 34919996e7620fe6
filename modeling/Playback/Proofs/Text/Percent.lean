import Playback.Proofs.Bytes.Text
import Playback.Proofs.Text.LetterCase
import Playback.Text.Percent

/-! # Percent-coded bytes -/

namespace Playback.Text

variable {c : Char} {n : Nat}

theorem isAlphanum_iff : c.isAlphanum = true ↔
    (65 ≤ c.toNat ∧ c.toNat ≤ 90 ∨ 97 ≤ c.toNat ∧ c.toNat ≤ 122) ∨
      48 ≤ c.toNat ∧ c.toNat ≤ 57 := by
  simp [Char.isAlphanum, ← isAlpha_iff, Char.isDigit, UInt32.le_iff_toNat_le]

theorem lt_of_isAlphanum (h : c.isAlphanum = true) : c.toNat < 128 := by
  rw [isAlphanum_iff] at h
  omega

theorem isAlphanum_of_hexDigit? (h : hexDigit? c = some n) : c.isAlphanum = true := by
  have le_iff {a b : Char} : a ≤ b ↔ a.toNat ≤ b.toNat := UInt32.le_iff_toNat_le
  simp only [hexDigit?, le_iff] at h
  rw [isAlphanum_iff]
  split at h
  case isTrue digit => exact .inr digit
  case isFalse =>
    split at h
    case isTrue small =>
      simp only [Char.reduceToNat] at small
      omega
    case isFalse =>
      split at h
      case isTrue capital =>
        simp only [Char.reduceToNat] at capital
        omega
      case isFalse => cases h

namespace Percent

theorem hexDigit?_digitChar (h : n < 16) : hexDigit? (digitChar n) = some n := by
  revert n
  decide

theorem decode_cons_of_ne {b : UInt8} (h : b ≠ sign) (rest : Bytes) :
    decode (b :: rest) = b :: decode rest := by
  match rest with
  | [] => rfl
  | [_] => rfl
  | _ :: _ :: _ => rw [decode, if_neg h]

theorem toNat_ofNat_of_ascii (h : c.toNat < 128) : (UInt8.ofNat c.toNat).toNat = c.toNat := by
  have small : c.toNat < 256 := by omega
  simpa using Nat.mod_eq_of_lt small

theorem toNat_ofNat_toNat (b : UInt8) : (Char.ofNat b.toNat).toNat = b.toNat := by
  have small := b.toNat_lt
  rw [Char.ofNat, dif_pos (.inl (by omega))]
  rfl

theorem digit?_ofNat (h : c.toNat < 128) : digit? (UInt8.ofNat c.toNat) = hexDigit? c := by
  rw [digit?, toNat_ofNat_of_ascii h, Char.ofNat_toNat]

theorem ofNat_ne_sign (h : c.toNat < 128) (other : c ≠ '%') : UInt8.ofNat c.toNat ≠ sign := by
  intro same
  have number : c.toNat = 0x25 := by
    rw [← toNat_ofNat_of_ascii h, same]
    rfl
  exact other (by rw [← Char.ofNat_toNat c, number])

theorem decode_coded {high low : Char} {b : UInt8} (hhigh : hexDigit? high = some (b.toNat / 16))
    (hlow : hexDigit? low = some (b.toNat % 16)) (rest : Bytes) :
    decode (sign :: UInt8.ofNat high.toNat :: UInt8.ofNat low.toNat :: rest) = b :: decode rest := by
  have ascii {d : Char} {n : Nat} (h : hexDigit? d = some n) : d.toNat < 128 :=
    lt_of_isAlphanum (isAlphanum_of_hexDigit? h)
  have byte : UInt8.ofNat (16 * (b.toNat / 16) + b.toNat % 16) = b := by
    rw [Nat.div_add_mod, UInt8.ofNat_toNat]
  rw [decode, if_pos rfl, digit?_ofNat (ascii hhigh), digit?_ofNat (ascii hlow), hhigh, hlow]
  simp only [byte]

end Percent

end Playback.Text
