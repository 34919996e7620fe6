import Mathlib.Data.List.Infix
import Mathlib.Data.Nat.Find
import Playback.Bytes.Search

/-! # Where a needle begins -/

namespace Playback.Bytes

variable {needle x y rest : Bytes} {b : UInt8} {place : Nat}

/-! ## All places -/

/-- The places in `x` where a needle begins when `rest` follows, the first byte standing at
`place`. -/
def startsIn (needle : Bytes) (place : Nat) (x rest : Bytes) : List Nat :=
  match x with
  | [] => []
  | b :: x =>
    if needle.isPrefixOf (b :: x ++ rest) then place :: startsIn needle (place + 1) x rest
    else startsIn needle (place + 1) x rest

/-- Whether the needle begins nowhere in `x` when `rest` follows. -/
def NoneBegins (needle x rest : Bytes) : Prop :=
  ∀ p < x.length, ¬needle <+: x.drop p ++ rest

theorem startsIn_append :
    startsIn needle place (x ++ y) rest =
      startsIn needle place x (y ++ rest) ++ startsIn needle (place + x.length) y rest := by
  induction x generalizing place with
  | nil => rfl
  | cons b x ih =>
      have shift : place + (b :: x).length = place + 1 + x.length := by
        rw [List.length_cons]
        omega
      rw [List.cons_append, startsIn, startsIn, ih, shift]
      simp only [List.cons_append, List.append_assoc]
      split <;> rfl

/-- Of what follows, only as much counts as the needle is long. -/
theorem startsIn_take : startsIn needle place x (rest.take needle.length) =
    startsIn needle place x rest := by
  induction x generalizing place with
  | nil => rfl
  | cons b x ih =>
      have same : needle.isPrefixOf (b :: x ++ rest.take needle.length) =
          needle.isPrefixOf (b :: x ++ rest) := by
        rw [Bool.eq_iff_iff, List.isPrefixOf_iff_prefix, List.isPrefixOf_iff_prefix]
        constructor
        · exact fun h => h.trans
            ((List.prefix_append_right_inj _).mpr (List.take_prefix needle.length rest))
        · intro h
          refine List.prefix_of_prefix_length_le h
            ((List.prefix_append_right_inj _).mpr (List.take_prefix needle.length rest)) ?_
          have := h.length_le
          simp only [List.length_append, List.length_cons, List.length_take] at this ⊢
          omega
      rw [startsIn, startsIn, same, ih]

theorem startsIn_add {n : Nat} : startsIn needle (place + n) x rest =
    (startsIn needle n x rest).map (place + ·) := by
  induction x generalizing n with
  | nil => rfl
  | cons b x ih =>
      rw [startsIn, startsIn, Nat.add_assoc, ih]
      split <;> rfl

theorem bounds_of_mem_startsIn {p : Nat} (h : p ∈ startsIn needle place x rest) :
    place ≤ p ∧ p < place + x.length := by
  induction x generalizing place with
  | nil => cases h
  | cons b x ih =>
      have later (h : p ∈ startsIn needle (place + 1) x rest) :
          place ≤ p ∧ p < place + (b :: x).length := by
        have := ih h
        rw [List.length_cons]
        omega
      rw [startsIn] at h
      split at h
      · rcases List.mem_cons.mp h with rfl | h
        · simp
        · exact later h
      · exact later h

/-! ## Texts where no needle begins -/

namespace NoneBegins

theorem nil : NoneBegins needle [] rest := fun _ h => absurd h (Nat.not_lt_zero _)

theorem cons (first : ¬needle <+: b :: (x ++ rest)) (others : NoneBegins needle x rest) :
    NoneBegins needle (b :: x) rest := by
  intro p hp
  cases p with
  | zero => exact first
  | succ p => exact others p (Nat.lt_of_succ_lt_succ hp)

theorem append (hx : NoneBegins needle x (y ++ rest)) (hy : NoneBegins needle y rest) :
    NoneBegins needle (x ++ y) rest := by
  induction x with
  | nil => exact hy
  | cons b x ih =>
      rw [List.cons_append]
      refine cons ?_ (ih fun p hp => hx (p + 1) (Nat.succ_lt_succ hp))
      rw [List.append_assoc]
      exact hx 0 (Nat.zero_lt_succ _)

theorem of_head (h : ∀ b ∈ x, needle.head? ≠ some b) (nonempty : needle ≠ []) :
    NoneBegins needle x rest := by
  induction x with
  | nil => exact nil
  | cons b x ih =>
      refine cons ?_ (ih fun c hc => h c (List.mem_cons_of_mem b hc))
      rintro ⟨tail, same⟩
      obtain ⟨c, needle, rfl⟩ := List.exists_cons_of_ne_nil nonempty
      exact h b (by simp) (by simpa using (List.cons.inj same).1)

theorem startsIn_eq_nil (h : NoneBegins needle x rest) : startsIn needle place x rest = [] := by
  induction x generalizing place with
  | nil => rfl
  | cons b x ih =>
      rw [startsIn, if_neg, ih fun p hp => h (p + 1) (Nat.succ_lt_succ hp)]
      rw [List.isPrefixOf_iff_prefix]
      exact h 0 (Nat.zero_lt_succ _)

end NoneBegins

/-- An occurrence that begins in a text without one ends behind it. -/
theorem exists_overlap (without : ¬needle <:+: x) {p : Nat} (h : needle <+: x.drop p ++ rest) :
    ∃ beyond, needle = x.drop p ++ beyond ∧ beyond ≠ [] ∧ beyond <+: rest := by
  obtain ⟨tail, same⟩ := h
  have inside (as : Bytes) (h : x.drop p = needle ++ as) : needle <:+: x :=
    List.IsInfix.trans ⟨[], as, by simp [h]⟩ (List.drop_suffix p x).isInfix
  rcases List.append_eq_append_iff.mp same with ⟨as, hx, -⟩ | ⟨beyond, hneedle, hrest⟩
  · exact absurd (inside as hx) without
  · refine ⟨beyond, hneedle, ?_, tail, hrest.symm⟩
    rintro rfl
    exact without (inside [] (by simp [hneedle]))

theorem noneBegins_of_notMem (without : ¬needle <:+: x) (other : b ∉ needle) :
    NoneBegins needle x (b :: rest) := by
  intro p _ h
  obtain ⟨beyond, same, nonempty, hbeyond⟩ := exists_overlap without h
  obtain ⟨c, beyond, rfl⟩ := List.exists_cons_of_ne_nil nonempty
  obtain ⟨tail, htail⟩ := hbeyond
  obtain rfl : c = b := (List.cons.inj htail).1
  exact other (by simp [same])

theorem noneBegins_nil (without : ¬needle <:+: x) : NoneBegins needle x [] := by
  intro p _ h
  obtain ⟨beyond, -, nonempty, hbeyond⟩ := exists_overlap without h
  exact nonempty (List.prefix_nil.mp hbeyond)

/-! ## Needles without a border -/

/-- No beginning of a text, short of all of it, is also its end. -/
def BorderFree (needle : Bytes) : Prop :=
  ∀ border, border <+: needle → border <:+ needle → border = [] ∨ border = needle

theorem borderFree_iff : BorderFree needle ↔
    ∀ n < needle.length, 0 < n → needle.take n ≠ needle.drop (needle.length - n) := by
  constructor
  · intro h n hn pos same
    have suffix : needle.take n <:+ needle := by
      rw [same]
      exact List.drop_suffix _ _
    have length : (needle.take n).length = n := List.length_take_of_le (Nat.le_of_lt hn)
    rcases h _ (List.take_prefix n needle) suffix with hnil | hall
    · rw [hnil, List.length_nil] at length
      omega
    · rw [hall] at length
      omega
  · intro h border first last
    by_cases empty : border = []
    · exact .inl empty
    refine .inr (first.eq_of_length (Nat.le_antisymm first.length_le (Nat.not_lt.mp fun shorter => ?_)))
    exact h _ shorter (List.length_pos_iff.mpr empty)
      ((List.prefix_iff_eq_take.mp first).symm.trans (List.suffix_iff_eq_drop.mp last))

theorem exists_overlap_of_not_borderFree (h : ¬BorderFree needle) :
    ∃ start, start ≠ [] ∧ start.length < needle.length ∧ needle <+: start ++ needle := by
  rw [borderFree_iff] at h
  push Not at h
  obtain ⟨n, hn, pos, border⟩ := h
  have length : (needle.take (needle.length - n)).length = needle.length - n :=
    List.length_take_of_le (Nat.sub_le _ _)
  refine ⟨needle.take (needle.length - n), ?_, by omega, ?_⟩
  · rw [← List.length_pos_iff]
    omega
  · have whole : needle.take (needle.length - n) ++ needle.take n = needle := by
      rw [border, List.take_append_drop]
    conv_lhs => rw [← whole]
    exact (List.prefix_append_right_inj _).mpr (List.take_prefix n needle)

instance (needle : Bytes) : Decidable (BorderFree needle) :=
  decidable_of_iff _ borderFree_iff.symm

namespace BorderFree

/-- A needle begins nowhere inside one of its occurrences. -/
theorem not_prefix_drop (h : BorderFree needle) {p : Nat} (pos : 0 < p) (hp : p < needle.length) :
    ¬needle <+: needle.drop p ++ rest := by
  intro overlap
  have shorter : needle.drop p <+: needle :=
    List.prefix_of_prefix_length_le (List.prefix_append _ _) overlap (by simp)
  rcases h _ shorter (List.drop_suffix p needle) with hd | hd
  · have := congrArg List.length hd
    simp only [List.length_drop, List.length_nil] at this
    omega
  · have := congrArg List.length hd
    rw [List.length_drop] at this
    omega

theorem noneBegins_append (h : BorderFree needle) (without : ¬needle <:+: x) :
    NoneBegins needle x (needle ++ rest) := by
  intro p hp overlap
  obtain ⟨beyond, same, nonempty, hbeyond⟩ := exists_overlap without overlap
  have split : (x.drop p).length ≠ 0 := by
    rw [List.length_drop]
    omega
  have length := congrArg List.length same
  rw [List.length_append] at length
  have shorter : beyond <+: needle :=
    List.prefix_of_prefix_length_le hbeyond (List.prefix_append needle rest) (by omega)
  have suffix : beyond <:+ needle := ⟨x.drop p, same.symm⟩
  rcases h beyond shorter suffix with hb | hb
  · exact nonempty hb
  · rw [hb] at length
    omega

theorem startsIn_self (h : BorderFree needle) (nonempty : needle ≠ []) :
    startsIn needle place needle rest = [place] := by
  obtain ⟨b, tail, rfl⟩ := List.exists_cons_of_ne_nil nonempty
  have later : NoneBegins (b :: tail) tail rest := fun p hp =>
    h.not_prefix_drop (Nat.zero_lt_succ p) (Nat.succ_lt_succ hp)
  rw [startsIn, if_pos (List.isPrefixOf_iff_prefix.mpr (List.prefix_append _ _)),
    later.startsIn_eq_nil]

/-- Without a border, the places found from left to right are all places. -/
theorem occurrencesFrom_eq (h : BorderFree needle) {skip : Nat}
    (skipped : ∀ p < skip, ¬needle <+: x.drop p) :
    occurrencesFrom needle place skip x = startsIn needle place x [] := by
  induction x generalizing place skip with
  | nil => rfl
  | cons b x ih =>
      cases skip with
      | succ skip =>
          have first : ¬needle.isPrefixOf (b :: x ++ []) = true := by
            rw [List.append_nil, List.isPrefixOf_iff_prefix]
            exact skipped 0 (Nat.zero_lt_succ skip)
          rw [occurrencesFrom, startsIn, if_neg first]
          exact ih fun p hp => skipped (p + 1) (Nat.succ_lt_succ hp)
      | zero =>
          rw [occurrencesFrom, startsIn, List.append_nil]
          split
          case isFalse => exact ih (by simp)
          case isTrue found =>
            obtain ⟨tail, same⟩ := List.isPrefixOf_iff_prefix.mp found
            refine congrArg (place :: ·) (ih fun p hp => ?_)
            have behind : x.drop p = needle.drop (p + 1) ++ tail := by
              rw [← List.drop_append_of_le_length (by omega), same, List.drop_succ_cons]
            rw [behind]
            exact h.not_prefix_drop (Nat.zero_lt_succ p) (by omega)

theorem occurrences_eq (h : BorderFree needle) (x : Bytes) :
    occurrences needle x = startsIn needle 0 x [] :=
  h.occurrencesFrom_eq (by simp)

end BorderFree

/-! ## The first place -/

theorem findFrom_append (h : NoneBegins needle x (needle ++ rest)) :
    findFrom needle place (x ++ (needle ++ rest)) = some (place + x.length) := by
  induction x generalizing place with
  | nil =>
      have found : needle.isPrefixOf (needle ++ rest) = true :=
        List.isPrefixOf_iff_prefix.mpr (List.prefix_append needle rest)
      rw [List.nil_append, List.length_nil, Nat.add_zero]
      cases text : needle ++ rest with
      | nil => simp [findFrom, (List.append_eq_nil_iff.mp text).1]
      | cons b tail => rw [findFrom, ← text, if_pos found]
  | cons b x ih =>
      have first : ¬needle.isPrefixOf (b :: (x ++ (needle ++ rest))) = true := by
        rw [List.isPrefixOf_iff_prefix]
        exact h 0 (Nat.zero_lt_succ _)
      rw [List.cons_append, findFrom, if_neg first, ih fun p hp => h (p + 1) (Nat.succ_lt_succ hp),
        List.length_cons]
      congr 1
      omega

theorem find?_append (h : NoneBegins needle x (needle ++ rest)) :
    find? needle (x ++ (needle ++ rest)) = some x.length := by
  rw [find?, findFrom_append h, Nat.zero_add]

theorem findFrom_eq_some {q : Nat} (h : findFrom needle place x = some q) :
    ∃ p, q = place + p ∧ needle <+: x.drop p := by
  induction x generalizing place with
  | nil =>
      rw [findFrom] at h
      split at h
      case isFalse => cases h
      case isTrue empty =>
        cases h
        exact ⟨0, rfl, by simp [List.isEmpty_iff.mp empty]⟩
  | cons b x ih =>
      rw [findFrom] at h
      split at h
      case isTrue found =>
        cases h
        exact ⟨0, rfl, List.isPrefixOf_iff_prefix.mp found⟩
      case isFalse =>
        obtain ⟨p, rfl, hp⟩ := ih h
        exact ⟨p + 1, by omega, hp⟩

theorem prefix_of_find? {p : Nat} (h : find? needle x = some p) : needle <+: x.drop p := by
  obtain ⟨q, rfl, hq⟩ := findFrom_eq_some h
  rwa [Nat.zero_add]

/-- A place of which no earlier one is a place is the one that is found. -/
theorem find?_of_first {p : Nat} (nonempty : needle ≠ []) (h : needle <+: x.drop p)
    (first : ∀ q < p, ¬needle <+: x.drop q) : find? needle x = some p := by
  obtain ⟨rest, same⟩ := h
  have size := congrArg List.length same
  have pos := List.length_pos_iff.mpr nonempty
  rw [List.length_append, List.length_drop] at size
  have length : (x.take p).length = p := List.length_take_of_le (by omega)
  have none : NoneBegins needle (x.take p) (needle ++ rest) := by
    intro q hq
    rw [same, ← List.drop_append_of_le_length (Nat.le_of_lt hq), List.take_append_drop]
    exact first q (by omega)
  have found := find?_append none
  rwa [same, List.take_append_drop, length] at found

theorem exists_first {p : Nat} (h : needle <+: x.drop p) :
    ∃ q ≤ p, needle <+: x.drop q ∧ ∀ r < q, ¬needle <+: x.drop r := by
  classical
  have some : ∃ q, needle <+: x.drop q := ⟨p, h⟩
  exact ⟨Nat.find some, Nat.find_min' some h, Nat.find_spec some, fun _ => Nat.find_min some⟩

theorem find?_eq_none_iff (nonempty : needle ≠ []) :
    find? needle x = none ↔ ∀ p, ¬needle <+: x.drop p := by
  constructor
  · intro missed p h
    obtain ⟨q, -, begins, first⟩ := exists_first h
    rw [find?_of_first nonempty begins first] at missed
    cases missed
  · intro h
    cases found : find? needle x with
    | none => rfl
    | some p => exact absurd (prefix_of_find? found) (h p)

theorem find?_eq_some_iff {p : Nat} (nonempty : needle ≠ []) :
    find? needle x = some p ↔ needle <+: x.drop p ∧ ∀ q < p, ¬needle <+: x.drop q := by
  constructor
  · intro found
    refine ⟨prefix_of_find? found, fun q before h => ?_⟩
    obtain ⟨r, le, begins, first⟩ := exists_first h
    have least := find?_of_first nonempty begins first
    rw [found] at least
    cases least
    omega
  · intro h
    exact find?_of_first nonempty h.1 h.2

end Playback.Bytes
