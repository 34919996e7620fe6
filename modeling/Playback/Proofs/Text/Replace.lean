import Mathlib.Data.List.Infix
import Playback.Text.Replace

/-! # Replaced texts -/

namespace Playback.Text

/-- What becomes of a text that is read from left to right: a needle that begins here is replaced as a
whole, and any other character stays. -/
inductive Replaced (needle replacement : List Char) : List Char → List Char → Prop where
  | nil : Replaced needle replacement [] []
  | needle {rest result} (h : Replaced needle replacement rest result) :
      Replaced needle replacement (needle ++ rest) (replacement ++ result)
  | other {c rest result} (absent : ¬needle <+: c :: rest)
      (h : Replaced needle replacement rest result) :
      Replaced needle replacement (c :: rest) (c :: result)

variable {needle replacement cs result : List Char}

theorem replaceFrom_append (done rest : List Char) :
    replaceFrom needle replacement done.length (done ++ rest) =
      replaceFrom needle replacement 0 rest := by
  induction done with
  | nil => rfl
  | cons c done ih => exact ih

theorem Replaced.replaceFrom_eq (nonempty : needle ≠ []) (h : Replaced needle replacement cs result) :
    replaceFrom needle replacement 0 cs = result := by
  induction h with
  | nil => rfl
  | @needle rest result _ ih =>
      obtain ⟨c, more, rfl⟩ := List.exists_cons_of_ne_nil nonempty
      have begins : (c :: more).isPrefixOf (c :: (more ++ rest)) = true := by
        simp
      rw [List.cons_append, replaceFrom, if_pos begins, List.length_cons, Nat.add_sub_cancel,
        replaceFrom_append, ih]
  | other absent _ ih => rw [replaceFrom, if_neg (by simpa using absent), ih]

/-- Of the text that is left, the characters to be skipped are done with. -/
theorem replaced_replaceFrom_drop (nonempty : needle ≠ []) (skip : Nat) (cs : List Char) :
    Replaced needle replacement (cs.drop skip) (replaceFrom needle replacement skip cs) := by
  induction cs generalizing skip with
  | nil => simpa [replaceFrom] using .nil
  | cons c cs ih =>
      cases skip with
      | succ skip => exact ih skip
      | zero =>
          rw [replaceFrom]
          split
          case isTrue begins =>
            obtain ⟨rest, whole⟩ := List.isPrefixOf_iff_prefix.mp begins
            obtain ⟨d, more, rfl⟩ := List.exists_cons_of_ne_nil nonempty
            rw [List.cons_append, List.cons.injEq] at whole
            obtain ⟨rfl, rfl⟩ := whole
            have later := ih more.length
            rw [List.drop_left] at later
            exact .needle later
          case isFalse absent =>
            exact .other (by simpa using absent) (ih 0)

theorem replaced_iff (nonempty : needle ≠ []) :
    Replaced needle replacement cs result ↔ replaceFrom needle replacement 0 cs = result := by
  refine ⟨Replaced.replaceFrom_eq nonempty, ?_⟩
  rintro rfl
  exact replaced_replaceFrom_drop nonempty 0 cs

theorem replaced_self (absent : occursIn needle cs = false) : Replaced needle replacement cs cs := by
  induction cs with
  | nil => exact .nil
  | cons c cs ih =>
      rw [occursIn, Bool.or_eq_false_iff] at absent
      have other : ¬needle <+: c :: cs := by
        rw [← List.isPrefixOf_iff_prefix, absent.1]
        decide
      exact .other other (ih absent.2)

/-- A needle that is not found leaves the text as it was. -/
theorem replaced_replaceAll? {needle : String} (nonempty : needle ≠ "") (replacement s : String) :
    Replaced needle.toList replacement.toList s.toList
      ((replaceAll? needle replacement s).getD s).toList := by
  rw [replaceAll?]
  split
  case isTrue =>
    simpa using (replaced_iff (by simpa using nonempty)).mpr rfl
  case isFalse missed =>
    exact replaced_self (by simpa [isFoundIn, nonempty] using missed)

end Playback.Text
