import Playback.Text.LowerCase

/-!
# Lower-casing twice

The runs of the lower-case table map to code points that no run maps. So a text in lower case stays
as it is when it is lower-cased again.
-/

namespace Playback.Text

namespace ShiftRun

/-- A test that none of the code points that `r` maps to belongs to `q`: they lie before `q`, or
behind it, or, where both take every other code point, between the code points of `q`. -/
def avoids (q r : ShiftRun) : Bool :=
  let low := r.image r.first
  Nat.blt (r.image r.last) q.first || Nat.blt q.last low ||
    (Nat.beq q.stride 2 && (Nat.beq r.stride 2 || Nat.beq r.first r.last) &&
      Nat.beq ((low + q.first) % 2) 1 && decide (0 ≤ Int.ofNat r.first + r.shift))

theorem covers_iff {r : ShiftRun} {n : Nat} :
    r.covers n = true ↔ r.first ≤ n ∧ n ≤ r.last ∧ (n - r.first) % r.stride = 0 := by
  simp [covers, and_assoc]

theorem not_covers_image {q r : ShiftRun} {n : Nat} (h : q.avoids r = true)
    (hn : r.covers n = true) : ¬q.covers (r.image n) = true := by
  intro covered
  rw [covers_iff] at hn covered
  simp only [avoids, Bool.or_eq_true, Bool.and_eq_true, Nat.blt_eq, Nat.beq_eq, decide_eq_true_eq,
    image, Int.ofNat_eq_natCast] at h covered
  obtain ⟨low, high, step⟩ := hn
  obtain ⟨low', high', step'⟩ := covered
  rcases h with (before | behind) | ⟨⟨⟨stride, every | single⟩, parity⟩, positive⟩
  · omega
  · omega
  · rw [every] at step
    rw [stride] at step'
    omega
  · rw [stride] at step'
    omega

end ShiftRun

theorem exists_run_of_shifted? {runs : List ShiftRun} {n m : Nat} (h : shifted? runs n = some m) :
    ∃ r ∈ runs, r.covers n = true ∧ m = r.image n := by
  induction runs with
  | nil => cases h
  | cons r runs ih =>
      rw [shifted?] at h
      split at h
      case isTrue covered =>
        cases h
        exact ⟨r, List.mem_cons_self, covered, rfl⟩
      case isFalse =>
        obtain ⟨q, mem, found⟩ := ih h
        exact ⟨q, List.mem_cons_of_mem r mem, found⟩

theorem shifted?_eq_none_iff {runs : List ShiftRun} {n : Nat} :
    shifted? runs n = none ↔ ∀ r ∈ runs, ¬r.covers n = true := by
  induction runs with
  | nil => simp [shifted?]
  | cons r runs ih =>
      rw [shifted?, List.forall_mem_cons, ← ih]
      split <;> simp_all

namespace LowerCase

/-- The code points that lower-casing leaves as they are, wherever they stand. -/
structure IsFinal (n : Nat) : Prop where
  unmapped : shifted? runs n = none
  undotted : n ≠ dottedI.toNat

/-- Code points that are mapped to themselves: the ASCII characters before and behind the capital
letters, the dot above, and the two small sigmas. -/
def kept : List ShiftRun :=
  [⟨0, 64, 1, 0⟩, ⟨91, 127, 1, 0⟩, ⟨0x307, 0x307, 1, 0⟩, ⟨0x3C2, 0x3C3, 1, 0⟩]

/-- No run of the table, and not the dotted capital either, takes up what a run maps to. -/
theorem avoids_runs :
    ((kept ++ runs).all fun r => (⟨0x130, 0x130, 1, 0⟩ :: runs).all fun q => q.avoids r) = true := by
  decide +kernel

theorem isFinal_image {r : ShiftRun} (hr : r ∈ kept ++ runs) {n : Nat} (hn : r.covers n = true) :
    IsFinal (r.image n) := by
  have avoided := List.all_eq_true.mp (List.all_eq_true.mp avoids_runs r hr)
  refine ⟨shifted?_eq_none_iff.mpr fun q hq =>
    ShiftRun.not_covers_image (avoided q (List.mem_cons_of_mem _ hq)) hn, fun dotted => ?_⟩
  refine ShiftRun.not_covers_image (avoided _ List.mem_cons_self) hn ?_
  rw [dotted]
  decide

theorem isFinal_of_kept {n : Nat} (h : ∃ r ∈ kept, r.covers n = true) : IsFinal n := by
  obtain ⟨r, hr, covered⟩ := h
  have unshifted : ∀ r ∈ kept, r.shift = 0 := by
    decide
  have same : r.image n = n := by
    rw [ShiftRun.image, unshifted r hr, Int.add_zero]
    exact Int.toNat_natCast n
  exact same ▸ isFinal_image (List.mem_append_left runs hr) covered

theorem IsFinal.ne_sigma {c : Char} (h : IsFinal c.toNat) : c ≠ sigma := by
  rintro rfl
  exact absurd h.unmapped (by decide +kernel)

/-! ## Characters -/

/-- The run of the ASCII capital letters. -/
def capitals : ShiftRun := ⟨65, 90, 1, 32⟩

theorem capitals_mem : capitals ∈ runs := List.mem_cons_self

theorem covers_capitals_iff {n : Nat} : capitals.covers n = true ↔ 65 ≤ n ∧ n ≤ 90 := by
  simp [ShiftRun.covers_iff, capitals, Nat.mod_one]

theorem toLower_of_capital {c : Char} (h : capitals.covers c.toNat = true) :
    c.toLower.toNat = capitals.image c.toNat := by
  obtain ⟨low, high⟩ := covers_capitals_iff.mp h
  have bounds : c.val ≥ 'A'.val ∧ c.val ≤ 'Z'.val := ⟨low, high⟩
  have shifted : c.toLower = _ := dif_pos bounds
  rw [shifted]
  show (c.val + ('a'.val - 'A'.val)).toNat = _
  rw [UInt32.toNat_add]
  show (c.toNat + 32) % 2 ^ 32 = (Int.ofNat c.toNat + 32).toNat
  simp only [Int.ofNat_eq_natCast]
  omega

theorem toLower_of_not_capital {c : Char} (h : ¬capitals.covers c.toNat = true) :
    c.toLower = c := by
  rw [covers_capitals_iff] at h
  exact dif_neg fun bounds => h ⟨bounds.1, bounds.2⟩

theorem IsFinal.ofChar_eq {c : Char} (h : IsFinal c.toNat) : ofChar c = [c] := by
  have undotted : c ≠ dottedI := fun dotted => h.undotted (congrArg Char.toNat dotted)
  rw [ofChar, if_neg undotted, h.unmapped,
    toLower_of_not_capital (shifted?_eq_none_iff.mp h.unmapped capitals capitals_mem)]
  split <;> rfl

/-- A code point that stays as it is, as a character or as what stands for it. -/
theorem IsFinal.ofNat {n : Nat} (h : IsFinal n) : IsFinal (Char.ofNat n).toNat := by
  by_cases valid : n.isValidChar
  · have : (Char.ofNat n).toNat = n := by
      rw [Char.ofNat, dif_pos valid]
      rfl
    rwa [this]
  · have : (Char.ofNat n).toNat = 0 := by
      simp [Char.ofNat, valid, Char.toNat]
    rw [this]
    exact isFinal_of_kept (by decide)

/-- Lower-casing one character gives characters that stay as they are. -/
theorem isFinal_of_mem_ofChar {c d : Char} (h : d ∈ ofChar c) : IsFinal d.toNat := by
  rw [ofChar] at h
  split at h
  case isTrue ascii =>
    rw [List.mem_singleton] at h
    by_cases capital : capitals.covers c.toNat = true
    · rw [h, toLower_of_capital capital]
      exact isFinal_image (List.mem_append_right kept capitals_mem) capital
    · rw [h, toLower_of_not_capital capital]
      rw [covers_capitals_iff] at capital
      refine isFinal_of_kept ?_
      simp [kept, ShiftRun.covers_iff, Nat.mod_one]
      omega
  case isFalse =>
    split at h
    case isTrue =>
      rw [List.mem_cons, List.mem_singleton] at h
      rcases h with rfl | rfl
      · exact isFinal_of_kept (by decide)
      · exact isFinal_of_kept (by decide)
    case isFalse undotted =>
      split at h
      case h_1 n mapped =>
        rw [List.mem_singleton] at h
        obtain ⟨r, hr, covered, rfl⟩ := exists_run_of_shifted? mapped
        rw [h]
        exact (isFinal_image (List.mem_append_right kept hr) covered).ofNat
      case h_2 unmapped =>
        rw [List.mem_singleton] at h
        rw [h]
        exact ⟨unmapped, fun same => undotted (Char.ext (UInt32.toNat_inj.mp same))⟩

theorem isFinal_of_mem_following {before cs : List Char} {d : Char} (h : d ∈ following before cs) :
    IsFinal d.toNat := by
  induction cs generalizing before with
  | nil => cases h
  | cons c cs ih =>
      rw [following, List.mem_append] at h
      rcases h with here | later
      · split at here
        case isTrue =>
          rw [List.mem_singleton] at here
          rw [here]
          split
          · exact isFinal_of_kept (by decide)
          · exact isFinal_of_kept (by decide)
        case isFalse notSigma => exact isFinal_of_mem_ofChar here
      · exact ih later

theorem following_eq_self {cs : List Char} (h : ∀ c ∈ cs, IsFinal c.toNat) (before : List Char) :
    following before cs = cs := by
  induction cs generalizing before with
  | nil => rfl
  | cons c cs ih =>
      have here := h c List.mem_cons_self
      rw [following, if_neg here.ne_sigma, here.ofChar_eq,
        ih (fun d hd => h d (List.mem_cons_of_mem c hd))]
      rfl

end LowerCase

/-- A text in lower case stays as it is. -/
theorem lower_lower (s : String) : lower (lower s) = lower s := by
  rw [lower, lower, String.toList_ofList,
    LowerCase.following_eq_self fun _ => LowerCase.isFinal_of_mem_following]

end Playback.Text
