import Playback.Text.Basic
import Playback.Text.LowerCase.Idempotence

/-! # Letter case -/

namespace Playback.Text

open LowerCase

variable {c d : Char} {cs : List Char} {s : String}

theorem isAlpha_iff :
    c.isAlpha = true ↔ 65 ≤ c.toNat ∧ c.toNat ≤ 90 ∨ 97 ≤ c.toNat ∧ c.toNat ≤ 122 := by
  unfold Char.isAlpha Char.isUpper Char.isLower
  simp [UInt32.le_iff_toNat_le]

/-- A capital letter is replaced by a small one, and every other character stays. -/
theorem toLower_cases (c : Char) :
    c.isAlpha = true ∧ c.toLower.isAlpha = true ∨ c.toLower = c := by
  by_cases capital : capitals.covers c.toNat = true
  · have shifted : c.toLower.toNat = c.toNat + 32 := toLower_of_capital capital
    rw [covers_capitals_iff] at capital
    rw [isAlpha_iff, isAlpha_iff, shifted]
    omega
  · exact .inr (toLower_of_not_capital capital)

theorem toLower_toLower (c : Char) : c.toLower.toLower = c.toLower := by
  by_cases capital : capitals.covers c.toNat = true
  · have shifted : c.toLower.toNat = c.toNat + 32 := toLower_of_capital capital
    refine toLower_of_not_capital ?_
    rw [covers_capitals_iff] at capital ⊢
    omega
  · rw [toLower_of_not_capital capital, toLower_of_not_capital capital]

theorem eq_of_toLower_eq (hd : d.isAlpha = false) (h : c.toLower = d) : c = d := by
  rcases toLower_cases c with ⟨-, letter⟩ | same
  · rw [h, hd] at letter
    cases letter
  · rw [← same, h]

theorem notMem_lowerAscii (hd : d.isAlpha = false) (h : d ∉ cs) :
    d ∉ (lowerAscii (String.ofList cs)).toList := by
  simp only [lowerAscii, String.toList_ofList, List.mem_map, not_exists, not_and]
  intro c hc same
  exact h (eq_of_toLower_eq hd same ▸ hc)

theorem lowerAscii_lowerAscii (s : String) : lowerAscii (lowerAscii s) = lowerAscii s := by
  have twice : Char.toLower ∘ Char.toLower = Char.toLower := funext toLower_toLower
  simp [lowerAscii, twice]

theorem isBlank_of_isAlpha (h : c.isAlpha = true) : isBlank c = false := by
  rw [isAlpha_iff] at h
  simp only [isBlank, Bool.or_eq_false_iff, Bool.and_eq_false_iff, decide_eq_false_iff_not,
    beq_eq_false_iff_ne]
  omega

theorem isBlank_toLower (c : Char) : isBlank c.toLower = isBlank c := by
  rcases toLower_cases c with ⟨letter, small⟩ | same
  · rw [isBlank_of_isAlpha letter, isBlank_of_isAlpha small]
  · rw [same]

/-! ## Lower case in all scripts -/

theorem following_ascii (h : ∀ c ∈ cs, c.toNat < 128) (before : List Char) :
    following before cs = cs.map Char.toLower := by
  induction cs generalizing before with
  | nil => rfl
  | cons c cs ih =>
      have hc : c.toNat < 128 := h c (by simp)
      have notSigma : c ≠ sigma := by
        rintro rfl
        exact absurd hc (by decide)
      rw [following, ih fun d hd => h d (List.mem_cons_of_mem c hd)]
      simp [notSigma, ofChar, hc]

theorem lower_eq_lowerAscii (h : ∀ c ∈ s.toList, c.toNat < 128) : lower s = lowerAscii s := by
  rw [lower, lowerAscii, following_ascii h]

end Playback.Text
