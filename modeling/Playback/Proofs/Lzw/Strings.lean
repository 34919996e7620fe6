import Mathlib.Algebra.Order.Group.Nat
import Playback.Coding.Lzw.Decoder

/-! # The strings that codes spell -/

namespace Playback.Lzw

/-- Codes and the bytes that lengthen their strings, in the order in which they were given codes. -/
abbrev Links := List (Nat × UInt8)

/-- The string that a code spells, if links are given codes from `first` on. -/
inductive Spells (first : Nat) (links : Links) : Nat → Bytes → Prop where
  | byte (b : UInt8) : Spells first links b.toNat [b]
  | link {i parent : Nat} {b : UInt8} {s : Bytes} (hi : links[i]? = some (parent, b))
      (hs : Spells first links parent s) : Spells first links (first + i) (s ++ [b])

/-- Every link extends the string of a code smaller than its own. -/
def Backward (first : Nat) (links : Links) : Prop :=
  ∀ i parent b, links[i]? = some (parent, b) → parent < first + i

theorem getElem?_concat_eq_some {α : Type} {l : List α} {a b : α} {i : Nat} :
    (l ++ [a])[i]? = some b ↔ l[i]? = some b ∨ i = l.length ∧ a = b := by
  rcases Nat.lt_trichotomy i l.length with hlt | heq | hgt
  · rw [List.getElem?_append_left hlt]
    exact ⟨.inl, fun h => h.resolve_right fun hi => by omega⟩
  · subst heq
    simp
  · rw [List.getElem?_eq_none (by simp; omega), List.getElem?_eq_none (by omega)]
    exact ⟨.inl, fun h => h.resolve_right fun hi => by omega⟩

section Spells

variable {first code : Nat} {links more : Links} {s : Bytes}

theorem Spells.byte_or_link (h : Spells first links code s) :
    code < 256 ∨ first ≤ code ∧ code < first + links.length := by
  cases h with
  | byte b => exact .inl b.toNat_lt
  | link hi hs =>
      have := (List.getElem?_eq_some_iff.mp hi).1
      exact .inr ⟨by omega, by omega⟩

theorem Spells.of_link (h : Spells first links code s) (hfirst : 256 ≤ first) (hcode : first ≤ code) :
    ∃ parent b stem, links[code - first]? = some (parent, b) ∧ s = stem ++ [b] ∧
      Spells first links parent stem := by
  cases h with
  | byte b =>
      have := b.toNat_lt
      omega
  | @link i parent b stem hi hs => exact ⟨parent, b, stem, by simpa using hi, rfl, hs⟩

theorem Spells.append (h : Spells first links code s) (more : Links) :
    Spells first (links ++ more) code s := by
  induction h with
  | byte b => exact .byte b
  | link hi _ ih =>
      refine .link ?_ ih
      rwa [List.getElem?_append_left (List.getElem?_eq_some_iff.mp hi).1]

/-- A code that was given before some links does not depend on them. -/
theorem Spells.of_append (hback : Backward first links)
    (h : Spells first (links ++ more) code s) (hcode : code < first + links.length) :
    Spells first links code s := by
  induction h with
  | byte b => exact .byte b
  | @link i parent b s hi _ ih =>
      have hlt : i < links.length := by omega
      rw [List.getElem?_append_left hlt] at hi
      have hparent := hback i parent b hi
      exact .link hi (ih (by omega))

theorem Backward.nil (first : Nat) : Backward first [] := by
  intro i parent b h
  simp at h

theorem Backward.concat (h : Backward first links) {parent : Nat}
    (hparent : parent < first + links.length) (b : UInt8) :
    Backward first (links ++ [(parent, b)]) := by
  intro i p c hi
  rcases getElem?_concat_eq_some.mp hi with hold | ⟨rfl, hnew⟩
  · exact h i p c hold
  · cases hnew
    exact hparent

end Spells

namespace DecoderState

/-- The tables of a state hold the links given, and nothing else counts in them. -/
structure Holds (h : Header) (links : Links) (t : DecoderState) : Prop where
  next_eq : t.next = h.firstFree + links.length
  next_le : t.next ≤ 2 ^ h.limit
  size_links : t.links.size = 2 ^ h.limit
  size_suffixes : t.suffixes.size = 2 ^ h.limit
  entry : ∀ i parent b, links[i]? = some (parent, b) →
    t.links[h.firstFree + i]? = some parent ∧ t.suffixes[h.firstFree + i]? = some b
  backward : Backward h.firstFree links

theorem holds_start {h : Header} (hlimit : minWidth ≤ h.limit) : (start h).Holds h [] := by
  have hpow : 2 ^ minWidth ≤ 2 ^ h.limit := Nat.pow_le_pow_right (by decide) hlimit
  refine ⟨rfl, ?_, by simp [start], by simp [start], by simp, Backward.nil _⟩
  have hfree : h.firstFree ≤ 2 ^ minWidth := by
    unfold Header.firstFree
    split <;> decide
  exact hfree.trans hpow

variable {h : Header} {links : Links} {t : DecoderState} {code : Nat} {s : Bytes}

theorem Holds.firstFree_ge (_ht : t.Holds h links) : 256 ≤ h.firstFree := by
  unfold Header.firstFree
  split <;> decide

/-- Walking through the tables from a code gives the string that it spells. -/
theorem Holds.expand_eq (ht : t.Holds h links) (hs : Spells h.firstFree links code s) {fuel : Nat}
    (hfuel : code < fuel) (tail : Bytes) :
    ∃ b, s.head? = some b ∧ t.expand fuel code tail = some (b, s ++ tail) := by
  induction hs generalizing fuel tail with
  | byte b =>
      obtain ⟨fuel, rfl⟩ := Nat.exists_eq_add_one_of_ne_zero (Nat.ne_zero_of_lt hfuel)
      exact ⟨b, rfl, by simp [expand, b.toNat_lt]⟩
  | @link i parent b s hi hs ih =>
      obtain ⟨fuel, rfl⟩ := Nat.exists_eq_add_one_of_ne_zero (Nat.ne_zero_of_lt hfuel)
      have hlarge : ¬ h.firstFree + i < 256 := by have := ht.firstFree_ge; omega
      have hparent := ht.backward i parent b hi
      obtain ⟨hlink, hsuffix⟩ := ht.entry i parent b hi
      have hbelow : parent < fuel := by omega
      obtain ⟨c, hhead, hexpand⟩ := ih hbelow (b :: tail)
      refine ⟨c, ?_, ?_⟩
      · rw [List.head?_append, hhead]
        rfl
      · rw [expand, if_neg hlarge]
        simp only [hlink, hsuffix, hexpand, List.append_assoc, List.singleton_append]

theorem Holds.string?_eq (ht : t.Holds h links) (hs : Spells h.firstFree links code s) :
    ∃ b, s.head? = some b ∧ t.string? code = some (b, s) := by
  have hfree := ht.firstFree_ge
  have hnext := ht.next_eq
  have hle := ht.next_le
  have hcode : code < t.links.size + 1 := by
    rw [ht.size_links]
    rcases hs.byte_or_link with hbyte | hlink <;> omega
  simpa [string?] using ht.expand_eq hs hcode []

theorem Holds.of_tables (ht : t.Holds h links) {u : DecoderState} (hlinks : u.links = t.links)
    (hsuffixes : u.suffixes = t.suffixes) (hnext : u.next = t.next) : u.Holds h links := by
  refine ⟨by rw [hnext, ht.next_eq], by rw [hnext]; exact ht.next_le, by rw [hlinks, ht.size_links],
    by rw [hsuffixes, ht.size_suffixes], ?_, ht.backward⟩
  rw [hlinks, hsuffixes]
  exact ht.entry

/-- The links after a code is read whose string begins with `b`: one more, that extends the code
before it, if there is such a code and room for the link. -/
def linksAfter (h : Header) (t : DecoderState) (links : Links) (b : UInt8) : Links :=
  match t.previous with
  | none => links
  | some parent => if t.next < 2 ^ h.limit then links ++ [(parent, b)] else links

theorem linksAfter_eq_append (h : Header) (t : DecoderState) (links : Links) (b : UInt8) :
    ∃ more, t.linksAfter h links b = links ++ more := by
  unfold linksAfter
  split
  · exact ⟨[], by simp⟩
  · split
    · exact ⟨_, rfl⟩
    · exact ⟨[], by simp⟩

theorem Holds.define (ht : t.Holds h links)
    (hprevious : ∀ parent, t.previous = some parent → parent < t.next) (b : UInt8) :
    (t.define h b).Holds h (t.linksAfter h links b) := by
  have hnext := ht.next_eq
  cases hp : t.previous with
  | none => simpa [DecoderState.define, linksAfter, hp] using ht
  | some parent =>
      by_cases hroom : t.next < 2 ^ h.limit
      · simp only [DecoderState.define, linksAfter, hp, hroom, if_true]
        refine ⟨by simp; omega, by simp; omega, by simp [ht.size_links],
          by simp [ht.size_suffixes], ?_,
          ht.backward.concat (hnext ▸ hprevious parent hp) b⟩
        intro i p c hi
        rcases getElem?_concat_eq_some.mp hi with hold | ⟨rfl, hnew⟩
        · have hlt := (List.getElem?_eq_some_iff.mp hold).1
          have hne : t.next ≠ h.firstFree + i := by omega
          simpa [Array.getElem?_setIfInBounds, hne] using ht.entry i p c hold
        · cases hnew
          simp [← hnext, ht.size_links, ht.size_suffixes, hroom]
      · simpa [DecoderState.define, linksAfter, hp, hroom] using ht

/-- The state after a code whose string begins with `b`, before codes may get wider. -/
def after (h : Header) (t : DecoderState) (code : Nat) (b : UInt8) : DecoderState :=
  { t.define h b with previous := some code }

theorem Holds.after (ht : t.Holds h links)
    (hprevious : ∀ parent, t.previous = some parent → parent < t.next) (code : Nat) (b : UInt8) :
    (t.after h code b).Holds h (t.linksAfter h links b) :=
  (ht.define hprevious b).of_tables rfl rfl rfl

@[simp] theorem width_after (h : Header) (t : DecoderState) (code : Nat) (b : UInt8) :
    (t.after h code b).width = t.width := by
  have hextra : (t.define h b).extra = t.extra := by
    unfold DecoderState.define
    split
    · rfl
    · split <;> rfl
  exact congrArg (minWidth + ·) hextra

end DecoderState

/-- A code that yields bytes leads to the state after it, perhaps with wider codes. -/
theorem step_of_output {h : Header} {t : DecoderState} {code : Nat} {b : UInt8} {bytes : Bytes}
    (hclear : ¬ (h.block = true ∧ code = clearCode)) (hout : t.output code = .ok (b, bytes)) :
    step h t code =
      .ok (if (t.after h code b).mustWiden h then
          ⟨{ t.after h code b with extra := (t.after h code b).extra + 1 }, true, bytes⟩
        else ⟨t.after h code b, false, bytes⟩) := by
  rw [step, if_neg hclear, hout]
  change (if (t.after h code b).mustWiden h then _ else _) = _
  split <;> rfl

/-! ## Runs of the decoder -/

section Runs

variable {h : Header} {t : DecoderState} {r : BitReader}

theorem decodeCodes_of_step {next : BitReader} {code : Nat} {result : Step}
    (hread : r.read? t.width = some (code, next)) (hstep : step h t code = .ok result)
    (output : Array UInt8) :
    decodeCodes h t r output =
      decodeCodes h result.state (if result.skip then next.skipGroup t.width else next)
        (output ++ result.bytes.toArray) := by
  rw [decodeCodes]
  split
  · simp_all
  · rename_i hsome
    rw [hread] at hsome
    cases hsome
    simp only [hstep]

theorem decodeCodes_of_none (hread : r.read? t.width = none) (output : Array UInt8) :
    decodeCodes h t r output = .ok output := by
  rw [decodeCodes]
  split
  · rfl
  · simp_all

end Runs

end Playback.Lzw
