import Mathlib.Algebra.Order.BigOperators.Group.List
import Mathlib.Algebra.Order.Ring.Int
import Playback.Bytes.Basic
import Playback.Rating.Scale

/-! # Sums of gains -/

namespace Playback.Rating

namespace Scale

/-! ## Exact sums -/

@[simp] theorem increment_exact (n : Int) : (exact n).increment = n := rfl

@[simp] theorem add_exact (n a b : Int) : (exact n).add a b = a + b := rfl

@[simp] theorem sub_exact (n a b : Int) : (exact n).sub a b = a - b := rfl

theorem increment_pos {n : Int} (h : isIncrement n = true) : 0 < n := by
  simp only [isIncrement, Bool.and_eq_true, decide_eq_true_eq] at h
  exact h.1

theorem half_pos {n : Int} (h : isIncrement n = true) : 0 < (exact n).half := by
  simp only [isIncrement, Bool.and_eq_true, decide_eq_true_eq, beq_iff_eq] at h
  rw [half, increment_exact, Int.tdiv_eq_ediv_of_nonneg (Int.le_of_lt h.1)]
  omega

theorem half_le {n : Int} (h : isIncrement n = true) : (exact n).half ≤ n := by
  have := increment_pos h
  rw [half, increment_exact, Int.tdiv_eq_ediv_of_nonneg (by omega)]
  omega

theorem times_nonneg {n : Int} (h : isIncrement n = true) (k : Nat) : 0 ≤ k * n :=
  Int.mul_nonneg (Int.natCast_nonneg k) (Int.le_of_lt (increment_pos h))

/-! ## Coherent sums -/

/-- Whether it makes no difference that sums are reduced while they are added up. -/
structure Coherent (s : Scale) : Prop where
  zero : s.reduce 0 = 0
  add (a b : Int) : s.reduce (s.reduce a + b) = s.reduce (a + b)

theorem Coherent.sub {s : Scale} (coherent : s.Coherent) (a b : Int) :
    s.reduce (s.reduce a - b) = s.reduce (a + -b) :=
  coherent.add a (-b)

theorem coherent_exact (n : Int) : (exact n).Coherent :=
  ⟨rfl, fun _ _ => rfl⟩

/-- Machine words are added up modulo a number, and so may be reduced at the end. -/
theorem coherent_inWords (n : Int) : (inWords n).Coherent :=
  ⟨rfl, fun _ _ => Int.bmod_add_bmod⟩

/-! ## Words -/

@[simp] theorem increment_inWords (n : Int) : (inWords n).increment = n := rfl

@[simp] theorem add_inWords (n a b : Int) : (inWords n).add a b = toWord (a + b) := rfl

/-- Whether a number is a machine word. -/
def IsWord (k : Int) : Prop :=
  -2 ^ 63 ≤ k ∧ k < 2 ^ 63

theorem isWord_toWord (k : Int) : IsWord (toWord k) := by
  unfold IsWord toWord
  have := Int.le_bmod (x := k) (m := 2 ^ 64) (by decide)
  have := Int.bmod_lt (x := k) (m := 2 ^ 64) (by decide)
  omega

theorem toWord_add (a b : Int) : toWord (toWord a + b) = toWord (a + b) :=
  Int.bmod_add_bmod

theorem exists_toWord_eq (k : Int) : ∃ q, toWord k = k + 2 ^ 64 * q := by
  have parts := Int.bmod_add_bdiv k (2 ^ 64)
  exact ⟨-Int.bdiv k (2 ^ 64), by unfold toWord; omega⟩

theorem toWord_eq_iff {k : Int} : toWord k = k ↔ IsWord k := by
  constructor
  · intro same
    exact same ▸ isWord_toWord k
  · rintro ⟨low, high⟩
    obtain ⟨q, hq⟩ := exists_toWord_eq k
    have := isWord_toWord k
    unfold IsWord at this
    omega

/-- Whether sums that are words are left as they are. -/
def KeepsWords (s : Scale) : Prop :=
  ∀ k, IsWord k → s.reduce k = k

theorem KeepsWords.add {s : Scale} (keeps : s.KeepsWords) {a b : Int} (word : IsWord (a + b)) :
    s.add a b = a + b :=
  keeps _ word

theorem keepsWords_inWords (n : Int) : (inWords n).KeepsWords :=
  fun _ => toWord_eq_iff.mpr

end Scale

/-! ## Sums over lists -/

section

variable {α : Type} {l : List α} {gain : α → Int} {c : Int}

/-- Adding a gain for each thing in a list adds their sum, however it is reduced on the way. -/
theorem foldl_eq_reduce_sum {s : Scale} {step : Int → α → Int}
    (h : ∀ score a, step (s.reduce score) a = s.reduce (score + gain a)) (l : List α)
    (score : Int) : l.foldl step (s.reduce score) = s.reduce (score + (l.map gain).sum) := by
  induction l generalizing score with
  | nil => simp
  | cons a l ih => rw [List.foldl_cons, h, ih, List.map_cons, List.sum_cons, Int.add_assoc]

theorem sum_map_le (h : ∀ a ∈ l, gain a ≤ c) : (l.map gain).sum ≤ l.length * c := by
  have := List.sum_le_card_nsmul (l.map gain) c (by simpa using h)
  rwa [List.length_map, nsmul_eq_mul] at this

theorem sum_map_eq_iff (h : ∀ a ∈ l, gain a ≤ c) :
    (l.map gain).sum = l.length * c ↔ ∀ a ∈ l, gain a = c := by
  have most : (l.map fun _ => c).sum = l.length * c := by
    simp
  constructor
  · intro equal a ha
    by_contra less
    have := List.sum_lt_sum gain (fun _ => c) h ⟨a, ha, lt_of_le_of_ne (h a ha) less⟩
    omega
  · intro all
    rw [List.map_congr_left all, most]

end

end Playback.Rating
