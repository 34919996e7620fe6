import Mathlib.Data.List.TakeWhile
import Playback.Text.Basic

/-! # Trimmed and unquoted texts -/

namespace Playback.Text

/-- Nothing is taken off a text that neither begins nor ends with a character of the kind. -/
theorem stripEnds_eq_self {p : Char → Bool} {cs : List Char} (head : ∀ c ∈ cs.head?, p c = false)
    (last : ∀ c ∈ cs.getLast?, p c = false) : stripEnds p cs = cs := by
  have kept {l : List Char} (h : ∀ c ∈ l.head?, p c = false) : l.dropWhile p = l := by
    cases l with
    | nil => rfl
    | cons c l => rw [List.dropWhile_cons_of_neg (by simpa using h c (by simp))]
  rw [stripEnds, kept head, kept (by simpa using last), List.reverse_reverse]

theorem ends_stripEnds (p : Char → Bool) (cs : List Char) :
    (∀ c ∈ (stripEnds p cs).head?, p c = false) ∧ ∀ c ∈ (stripEnds p cs).getLast?, p c = false := by
  have head (l : List Char) : ∀ c ∈ (l.dropWhile p).head?, p c = false := by
    intro c hc
    have := List.head?_dropWhile_not p l
    rwa [Option.mem_def.mp hc] at this
  rw [stripEnds, List.head?_reverse, List.getLast?_reverse]
  refine ⟨?_, head _⟩
  -- What is taken off the end leaves a beginning, and that begins like the whole.
  intro c hc
  obtain ⟨taken, whole⟩ := List.dropWhile_suffix (l := (cs.dropWhile p).reverse) p
  refine head cs c ?_
  rw [← List.reverse_reverse (cs.dropWhile p), ← whole, List.head?_reverse, Option.mem_def,
    List.getLast?_append, Option.mem_def.mp hc]
  rfl

theorem mem_of_mem_stripEnds {p : Char → Bool} {c : Char} {cs : List Char}
    (h : c ∈ stripEnds p cs) : c ∈ cs := by
  rw [stripEnds, List.mem_reverse] at h
  have left := (List.dropWhile_suffix p).mem h
  exact (List.dropWhile_suffix p).mem (List.mem_reverse.mp left)

theorem mem_stripEnds {p : Char → Bool} {c : Char} {cs : List Char} (other : p c = false)
    (h : c ∈ cs) : c ∈ stripEnds p cs := by
  have stays {l : List Char} (h : c ∈ l) : c ∈ l.dropWhile p := by
    rw [← List.takeWhile_append_dropWhile (p := p) (l := l), List.mem_append] at h
    refine h.resolve_left fun taken => ?_
    rw [List.mem_takeWhile_imp taken] at other
    cases other
  rw [stripEnds, List.mem_reverse]
  exact stays (List.mem_reverse.mpr (stays h))

/-! ## Blanks -/

/-- Neither the first nor the last character is blank. -/
structure IsTrimmed (cs : List Char) : Prop where
  head : ∀ c ∈ cs.head?, isBlank c = false
  last : ∀ c ∈ cs.getLast?, isBlank c = false

theorem isTrimmed_trimmed (cs : List Char) : IsTrimmed (trimmed cs) where
  head := (ends_stripEnds isBlank cs).1
  last := (ends_stripEnds isBlank cs).2

theorem IsTrimmed.trimmed_eq {cs : List Char} (h : IsTrimmed cs) : trimmed cs = cs :=
  stripEnds_eq_self h.head h.last

theorem isTrimmed_of_noBlank {cs : List Char} (h : ∀ c ∈ cs, isBlank c = false) :
    IsTrimmed cs where
  head c hc := h c (List.mem_of_mem_head? hc)
  last c hc := h c (List.mem_of_mem_getLast? hc)

/-- Only the outer ends of a text in two parts count. -/
theorem IsTrimmed.append {front back : List Char} (h : IsTrimmed front) (h' : IsTrimmed back)
    (hfront : front ≠ []) (hback : back ≠ []) (between : List Char) :
    IsTrimmed (front ++ between ++ back) where
  head := by
    obtain ⟨c, front, rfl⟩ := List.exists_cons_of_ne_nil hfront
    exact h.head
  last := by
    intro c hc
    rw [List.getLast?_append, List.getLast?_eq_some_getLast hback, Option.some_or] at hc
    exact h'.last c (by rwa [List.getLast?_eq_some_getLast hback])

theorem trimmed_cons {c : Char} (h : isBlank c = true) (cs : List Char) :
    trimmed (c :: cs) = trimmed cs := by
  rw [trimmed, stripEnds, List.dropWhile_cons_of_pos h]
  rfl

theorem isBlank_of_isDigit {c : Char} (h : c.isDigit = true) : isBlank c = false := by
  have bounds : 48 ≤ c.toNat ∧ c.toNat ≤ 57 := by
    simp only [Char.isDigit, Bool.and_eq_true, decide_eq_true_eq] at h
    exact h
  simp only [isBlank, Bool.or_eq_false_iff, Bool.and_eq_false_iff, decide_eq_false_iff_not,
    beq_eq_false_iff_ne]
  omega

theorem trim_toString (n : Nat) : trim (toString n) = toString n := by
  have digits : ∀ c ∈ (toString n).toList, isBlank c = false := by
    intro c hc
    rw [Nat.toString_eq_repr, Nat.toList_repr] at hc
    exact isBlank_of_isDigit (Nat.isDigit_of_mem_toDigits (by decide) (by decide) hc)
  rw [trim, (isTrimmed_of_noBlank digits).trimmed_eq, String.ofList_toList]

/-! ## Quotes -/

/-- A text between quotes. -/
def betweenQuotes (cs : List Char) : List Char :=
  '"' :: (cs ++ ['"'])

theorem isTrimmed_betweenQuotes (cs : List Char) : IsTrimmed (betweenQuotes cs) where
  head := by
    intro c hc
    obtain rfl : '"' = c := by simpa [betweenQuotes] using hc
    decide
  last := by
    intro c hc
    rw [betweenQuotes, ← List.cons_append, List.getLast?_concat] at hc
    obtain rfl : '"' = c := by simpa using hc
    decide

/-- The outer quotes come off, also where the text holds or ends in others. -/
theorem unquoted_betweenQuotes (cs : List Char) : unquoted (betweenQuotes cs) = cs := by
  simp [unquoted, betweenQuotes]

theorem unquoted_eq_self {cs : List Char} (h : '"' ∉ cs) : unquoted cs = cs := by
  unfold unquoted
  split
  · simp at h
  · rfl

theorem mem_of_mem_unquoted {c : Char} {cs : List Char} (h : c ∈ unquoted cs) : c ∈ cs := by
  unfold unquoted at h
  split at h
  · split at h
    · exact List.mem_cons_of_mem _ (List.dropLast_subset _ h)
    · exact h
  · exact h

end Playback.Text
