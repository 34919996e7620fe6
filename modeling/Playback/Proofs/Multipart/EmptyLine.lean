import Playback.Proofs.Multipart.Parts

/-! # The empty line behind a header block -/

namespace Playback.Multipart

open Bytes

variable {region : Bytes} {place : Nat}

/-! ## Empty lines -/

/-- Whether a line break stands at a place, with a carriage return or without. -/
def IsBreak (region : Bytes) (place : Nat) : Prop :=
  crlf <+: region.drop place ∨ lf <+: region.drop place

/-- Whether an empty line stands at a place: a line break at the start or right behind another one,
which ends with a line feed in any case. -/
def IsEmptyLine (region : Bytes) (place : Nat) : Prop :=
  (place = 0 ∨ region[place - 1]? = some 10) ∧ IsBreak region place

/-- Whether a line break with a carriage return stands behind a line that does not end with such a
line break. -/
def IsMixed (region : Bytes) (place : Nat) : Prop :=
  place ≠ 0 ∧ crlf <+: region.drop place ∧ ¬(2 ≤ place ∧ crlf <+: region.drop (place - 2))

instance : Decidable (IsBreak region place) :=
  inferInstanceAs (Decidable (_ ∨ _))

instance : Decidable (IsEmptyLine region place) :=
  inferInstanceAs (Decidable (_ ∧ _))

instance : Decidable (IsMixed region place) :=
  inferInstanceAs (Decidable (_ ∧ _))

/-- The first place of a region that is of a kind. -/
def firstPlace? (region : Bytes) (kind : Bytes → Nat → Prop) [∀ place, Decidable (kind region place)] :
    Option Nat :=
  (List.range region.length).find? fun place => kind region place

/-- An empty line that is not overlooked. -/
def IsSeen (region : Bytes) (place : Nat) : Prop :=
  IsEmptyLine region place ∧ ¬IsMixed region place

instance : Decidable (IsSeen region place) :=
  inferInstanceAs (Decidable (_ ∧ _))

/-- The lengths of a header block and of the empty line behind it, which stands at the place given. A
block may be too large; without an empty line, the region may be. -/
def endAt (region : Bytes) : Option Nat → Except Fault (Nat × Nat)
  | some place =>
    if place > maxHeaderSize then .error .headerTooLarge
    else .ok (place, if crlf <+: region.drop place then 2 else 1)
  | none => .error (if region.length > maxHeaderSize then .headerTooLarge else .openHeader)

/-! ## Bytes of line breaks -/

theorem cons_prefix_drop_iff {b : UInt8} {needle : Bytes} :
    b :: needle <+: region.drop place ↔
      region[place]? = some b ∧ needle <+: region.drop (place + 1) := by
  rcases Nat.lt_or_ge place region.length with inside | beyond
  · rw [List.drop_eq_getElem_cons inside, List.cons_prefix_cons, List.getElem?_eq_getElem inside,
      Option.some.injEq, eq_comm]
  · rw [List.drop_eq_nil_of_le beyond, List.getElem?_eq_none beyond]
    simp

theorem lf_prefix_drop_iff : lf <+: region.drop place ↔ region[place]? = some 10 := by
  simp [lf, cons_prefix_drop_iff]

theorem crlf_prefix_drop_iff : crlf <+: region.drop place ↔
    region[place]? = some 13 ∧ region[place + 1]? = some 10 := by
  simp [crlf, cons_prefix_drop_iff]

theorem lt_length_of_isBreak (h : IsBreak region place) : place < region.length := by
  rcases h with h | h
  · exact (List.getElem?_eq_some_iff.mp (crlf_prefix_drop_iff.mp h).1).1
  · exact (List.getElem?_eq_some_iff.mp (lf_prefix_drop_iff.mp h)).1

/-- Behind the start, an empty line is seen as two line breaks of one kind, or as a line feed behind a
line break of the other one. -/
theorem isSeen_iff (behind : place ≠ 0) : IsSeen region place ↔
    (2 ≤ place ∧ crlf ++ crlf <+: region.drop (place - 2)) ∨
      lf ++ lf <+: region.drop (place - 1) := by
  obtain ⟨p, rfl⟩ := Nat.exists_eq_succ_of_ne_zero behind
  simp only [IsSeen, IsEmptyLine, IsMixed, IsBreak, crlf, lf, List.cons_append, List.nil_append,
    cons_prefix_drop_iff, List.nil_prefix, and_true, Nat.succ_eq_add_one, Nat.add_sub_cancel]
  rcases p with - | p
  · grind
  · grind

/-! ## First places -/

section

variable {kind : Bytes → Nat → Prop} [∀ place, Decidable (kind region place)]
  (inside : ∀ place, kind region place → place < region.length)

include inside

theorem firstPlace?_eq_some_iff : firstPlace? region kind = some place ↔
    kind region place ∧ ∀ p < place, ¬kind region p := by
  rw [firstPlace?, List.find?_range_eq_some]
  simp only [decide_eq_true_eq, List.mem_range, Bool.not_eq_true', decide_eq_false_iff_not]
  exact ⟨fun h => ⟨h.1, h.2.2⟩, fun h => ⟨h.1, inside place h.1, h.2⟩⟩

theorem firstPlace?_eq_none_iff : firstPlace? region kind = none ↔ ∀ p, ¬kind region p := by
  rw [firstPlace?, List.find?_range_eq_none]
  simp only [Bool.not_eq_true', decide_eq_false_iff_not]
  exact ⟨fun h p hp => h p (inside p hp) hp, fun h p _ => h p⟩

end

theorem lt_length_of_isSeen (place : Nat) (h : IsSeen region place) : place < region.length :=
  lt_length_of_isBreak h.1.2

theorem lt_length_of_isEmptyLine (place : Nat) (h : IsEmptyLine region place) :
    place < region.length :=
  lt_length_of_isBreak h.2

/-! ## What the search sees -/

/-- What begins in a text, but not before the place that a search of its beginning found, if any, ends
behind that beginning. -/
theorem not_begins_of_find? {needle : Bytes} {limit : Nat} (nonempty : needle ≠ [])
    (first : ∀ n ∈ find? needle (region.take limit), place < n)
    (inside : place + needle.length ≤ limit) : ¬needle <+: region.drop place := by
  intro h
  have seen := (begins_take_iff nonempty).mpr ⟨h, inside⟩
  cases found : find? needle (region.take limit) with
  | none => exact (find?_eq_none_iff nonempty).mp found place seen
  | some n => exact ((find?_eq_some_iff nonempty).mp found).2 place (first n found) seen

theorem not_isSeen_of_lt (start : ¬IsBreak region 0)
    (noReturns : ∀ p, p + 2 < place → ¬crlf ++ crlf <+: region.drop p)
    (noFeeds : ∀ p, p + 1 < place → ¬lf ++ lf <+: region.drop p) {q : Nat} (before : q < place) :
    ¬IsSeen region q := by
  intro seen
  by_cases behind : q = 0
  · subst behind
    exact start seen.1.2
  · rcases (isSeen_iff behind).mp seen with ⟨two, h⟩ | h
    · exact noReturns (q - 2) (by omega) h
    · exact noFeeds (q - 1) (by omega) h

theorem endAt_of_first (seen : IsSeen region place) (first : ∀ q < place, ¬IsSeen region q) :
    endAt region (firstPlace? region IsSeen) = endAt region (some place) := by
  rw [(firstPlace?_eq_some_iff lt_length_of_isSeen).mpr ⟨seen, first⟩]

theorem endAt_of_returns (h : crlf ++ crlf <+: region.drop place)
    (first : ∀ q < place + 2, ¬IsSeen region q) : endAt region (firstPlace? region IsSeen) =
      if place + 2 > maxHeaderSize then .error .headerTooLarge else .ok (place + 2, 2) := by
  have seen : IsSeen region (place + 2) :=
    (isSeen_iff (Nat.succ_ne_zero _)).mpr (.inl ⟨Nat.le_add_left 2 place, h⟩)
  have second : crlf <+: region.drop (place + 2) := by
    obtain ⟨rest, same⟩ := h
    rw [← List.drop_drop, ← same]
    exact ⟨rest, rfl⟩
  rw [endAt_of_first seen first, endAt, if_pos second]

theorem endAt_of_feeds (h : lf ++ lf <+: region.drop place)
    (first : ∀ q < place + 1, ¬IsSeen region q) : endAt region (firstPlace? region IsSeen) =
      if place + 1 > maxHeaderSize then .error .headerTooLarge else .ok (place + 1, 1) := by
  have seen : IsSeen region (place + 1) := (isSeen_iff (Nat.succ_ne_zero _)).mpr (.inr h)
  have second : ¬crlf <+: region.drop (place + 1) := by
    obtain ⟨rest, same⟩ := h
    rw [← List.drop_drop, ← same]
    simp [lf, crlf]
  rw [endAt_of_first seen first, endAt, if_neg second]

theorem endAt_of_late (late : ∀ q ≤ maxHeaderSize, ¬IsSeen region q) :
    endAt region (firstPlace? region IsSeen) =
      .error (if region.length > maxHeaderSize then .headerTooLarge else .openHeader) := by
  cases found : firstPlace? region IsSeen with
  | none => rfl
  | some q =>
      have seen := ((firstPlace?_eq_some_iff lt_length_of_isSeen).mp found).1
      have inside := lt_length_of_isSeen q seen
      have large : q > maxHeaderSize := Nat.not_le.mp fun le => late q le seen
      rw [endAt, if_pos large, if_pos (Nat.lt_trans large inside)]

theorem headerEnd_of_isBreak (start : IsBreak region 0) :
    headerEnd region = endAt region (firstPlace? region IsSeen) := by
  have seen : IsSeen region 0 := ⟨⟨.inl rfl, start⟩, fun mixed => mixed.1 rfl⟩
  rw [endAt_of_first seen (by simp), endAt, if_neg (by simp), headerEnd]
  simp only [List.drop_zero, ← List.isPrefixOf_iff_prefix]
  by_cases withReturn : crlf.isPrefixOf region
  · rw [if_pos withReturn, if_pos withReturn]
  · have feed : lf.isPrefixOf region := List.isPrefixOf_iff_prefix.mpr
      (start.resolve_left fun h => withReturn (List.isPrefixOf_iff_prefix.mpr h))
    rw [if_neg withReturn, if_neg withReturn, if_pos feed]

/-- The beginning of a region that is searched for two line breaks. -/
def searched (region : Bytes) : Bytes :=
  region.take (maxHeaderSize + 4)

/-- The beginning that is searched is long enough for every empty line behind a block within the
limit, so no empty line is seen before a place that ends no later than what is found there. -/
theorem not_isSeen_of_searched (start : ¬IsBreak region 0) (limit : place ≤ maxHeaderSize + 3)
    (returns : ∀ n ∈ find? (crlf ++ crlf) (searched region), place ≤ n + 2)
    (feeds : ∀ n ∈ find? (lf ++ lf) (searched region), place ≤ n + 1) :
    ∀ q < place, ¬IsSeen region q := by
  have noReturns (p : Nat) (before : p + 2 < place) : ¬crlf ++ crlf <+: region.drop p := by
    refine not_begins_of_find? (by decide) (fun n found => ?_)
      (show p + 4 ≤ maxHeaderSize + 4 by omega)
    have := returns n found
    omega
  have noFeeds (p : Nat) (before : p + 1 < place) : ¬lf ++ lf <+: region.drop p := by
    refine not_begins_of_find? (by decide) (fun n found => ?_)
      (show p + 2 ≤ maxHeaderSize + 4 by omega)
    have := feeds n found
    omega
  exact fun q before => not_isSeen_of_lt start noReturns noFeeds before

theorem headerEnd_of_not_isBreak (start : ¬IsBreak region 0) :
    headerEnd region = endAt region (firstPlace? region IsSeen) := by
  have noReturn : ¬crlf.isPrefixOf region := fun h =>
    start (.inl (List.isPrefixOf_iff_prefix.mp h))
  have noFeed : ¬lf.isPrefixOf region := fun h =>
    start (.inr (List.isPrefixOf_iff_prefix.mp h))
  have returnsFound {n : Nat} (found : find? (crlf ++ crlf) (searched region) = some n) :
      crlf ++ crlf <+: region.drop n ∧ n + 4 ≤ maxHeaderSize + 4 :=
    (begins_take_iff (by decide)).mp (prefix_of_find? found)
  have feedsFound {k : Nat} (found : find? (lf ++ lf) (searched region) = some k) :
      lf ++ lf <+: region.drop k ∧ k + 2 ≤ maxHeaderSize + 4 :=
    (begins_take_iff (by decide)).mp (prefix_of_find? found)
  rw [headerEnd, if_neg noReturn, if_neg noFeed, ← searched]
  dsimp only
  cases a : find? (crlf ++ crlf) (searched region) with
  | none =>
      cases b : find? (lf ++ lf) (searched region) with
      | none =>
          refine (endAt_of_late fun q small => ?_).symm
          exact not_isSeen_of_searched start (by omega) (by simp [a])
            (by simp [b]) q (Nat.lt_succ_of_le small)
      | some k =>
          obtain ⟨begins, inside⟩ := feedsFound b
          refine (endAt_of_feeds begins ?_).symm
          exact not_isSeen_of_searched start (by omega) (by simp [a]) (by simp [b])
  | some n =>
      obtain ⟨begins, inside⟩ := returnsFound a
      cases b : find? (lf ++ lf) (searched region) with
      | none =>
          refine (endAt_of_returns begins ?_).symm
          exact not_isSeen_of_searched start (by omega) (by simp [a]) (by simp [b])
      | some k =>
          obtain ⟨begins', inside'⟩ := feedsFound b
          dsimp only [Option.map_some]
          by_cases earlier : n + 2 ≤ k + 1
          · rw [if_pos earlier]
            refine (endAt_of_returns begins ?_).symm
            exact not_isSeen_of_searched start (by omega) (by simp [a]) (by simpa [b] using earlier)
          · rw [if_neg earlier]
            refine (endAt_of_feeds begins' ?_).symm
            exact not_isSeen_of_searched start (by omega) (by simp [a]; omega) (by simp [b])

/-- The search for the end of a header block finds the first empty line that it does not overlook. -/
theorem headerEnd_eq_endAt (region : Bytes) :
    headerEnd region = endAt region (firstPlace? region IsSeen) := by
  by_cases start : IsBreak region 0
  · exact headerEnd_of_isBreak start
  · exact headerEnd_of_not_isBreak start

/-! ## Where nothing is overlooked -/

theorem endAt_ne {found : Option Nat} (small : place ≤ maxHeaderSize) (other : found ≠ some place) :
    endAt region found ≠ endAt region (some place) := by
  have limited : endAt region (some place) =
      .ok (place, if crlf <+: region.drop place then 2 else 1) := if_neg (Nat.not_lt.mpr small)
  rw [limited]
  cases found with
  | none => simp [endAt]
  | some q =>
      rw [endAt]
      split
      · simp
      · intro same
        cases Except.ok.inj same
        exact other rfl

theorem headerEnd_eq_iff_not_mixed :
    headerEnd region = endAt region (firstPlace? region IsEmptyLine) ↔
      ∀ place ≤ maxHeaderSize, firstPlace? region IsEmptyLine = some place →
        ¬IsMixed region place := by
  rw [headerEnd_eq_endAt]
  cases found : firstPlace? region IsEmptyLine with
  | none =>
      have nowhere := (firstPlace?_eq_none_iff lt_length_of_isEmptyLine).mp found
      have unseen : firstPlace? region IsSeen = none :=
        (firstPlace?_eq_none_iff lt_length_of_isSeen).mpr fun p seen => nowhere p seen.1
      simp [unseen]
  | some place =>
      obtain ⟨empty, first⟩ := (firstPlace?_eq_some_iff lt_length_of_isEmptyLine).mp found
      have unseen : ∀ q < place, ¬IsSeen region q := fun q before seen => first q before seen.1
      by_cases mixed : IsMixed region place
      · by_cases small : place ≤ maxHeaderSize
        · have other : firstPlace? region IsSeen ≠ some place := fun same =>
            ((firstPlace?_eq_some_iff lt_length_of_isSeen).mp same).1.2 mixed
          exact iff_of_false (endAt_ne small other) fun h => h place small rfl mixed
        · have large : place > maxHeaderSize := Nat.not_le.mp small
          have inside := lt_length_of_isEmptyLine place empty
          refine iff_of_true ?_ fun q hq same => by cases same; exact absurd hq small
          rw [endAt_of_late fun q hq => unseen q (Nat.lt_of_le_of_lt hq large),
            if_pos (Nat.lt_trans large inside), endAt, if_pos large]
      · refine iff_of_true (endAt_of_first ⟨empty, mixed⟩ unseen) fun q _ same => ?_
        cases same
        exact mixed

theorem decodePart_eq_error_iff {padding : Bytes} (noFeed : 10 ∉ padding) (fault : Fault) :
    decodePart (padding ++ 10 :: region) = .error fault ↔ headerEnd region = .error fault := by
  have line : (padding ++ 10 :: region).dropWhile (· ≠ 10) = 10 :: region := by
    have other : ∀ b ∈ padding, decide (b ≠ 10) = true := by
      intro b hb
      exact decide_eq_true fun feed => noFeed (feed ▸ hb)
    rw [List.dropWhile_append_of_pos other, List.dropWhile_cons_of_neg (by simp)]
  rw [decodePart, line]
  dsimp only
  cases headerEnd region with
  | error other => simp [bind, Except.bind]
  | ok found => simp [bind, Except.bind, pure, Except.pure]

/-- The header block of a part ends at its first empty line, and the part is refused as too large or
as not terminated if that comes too late or never, exactly if no line break with a carriage return,
standing behind a line that ends without one, is the first empty line within the limit. In any case
the block ends at the first empty line that is not of this kind. -/
theorem header_ends_at_emptyLine_iff (region : Bytes) :
    (headerEnd region = endAt region (firstPlace? region IsEmptyLine) ↔
      ∀ place ≤ maxHeaderSize, firstPlace? region IsEmptyLine = some place →
        ¬IsMixed region place) ∧
    headerEnd region = endAt region (firstPlace? region IsSeen) ∧
    ∀ padding : Bytes, 10 ∉ padding → ∀ fault,
      (decodePart (padding ++ 10 :: region) = .error fault ↔ headerEnd region = .error fault) :=
  ⟨headerEnd_eq_iff_not_mixed, headerEnd_eq_endAt region,
    fun _ noFeed fault => decodePart_eq_error_iff noFeed fault⟩

/-- An empty line without a carriage return is found behind a line that ends with one. -/
theorem header_ends_at_emptyLine_mixed :
    headerEnd (ofText "A: 1\r\n\nhello") = .ok (6, 1) ∧
      decodePart (13 :: 10 :: ofText "A: 1\r\n\nhello") ≠ .error .openHeader := by
  obtain ⟨same, -, refused⟩ := header_ends_at_emptyLine_iff (ofText "A: 1\r\n\nhello")
  have found : firstPlace? (ofText "A: 1\r\n\nhello") IsEmptyLine = some 6 := by decide
  have ends := same.mpr fun place _ first => by
    cases found.symm.trans first
    decide
  rw [found] at ends
  have length : headerEnd (ofText "A: 1\r\n\nhello") = .ok (6, 1) := ends
  exact ⟨length, fun failed => by cases length.symm.trans ((refused [13] (by decide) _).mp failed)⟩

/-- An empty line with a carriage return is overlooked behind a line that ends without one: the part
is refused as not terminated, or content before another empty line is taken for header lines. -/
theorem headerEnd_mixed :
    firstPlace? (ofText "A: 1\n\r\nhello") IsEmptyLine = some 5 ∧
      endAt (ofText "A: 1\n\r\nhello") (some 5) = .ok (5, 2) ∧
      headerEnd (ofText "A: 1\n\r\nhello") = .error .openHeader ∧
      firstPlace? (ofText "A: 1\n\r\nhello\n\nX: 2") IsEmptyLine = some 5 ∧
      headerEnd (ofText "A: 1\n\r\nhello\n\nX: 2") = .ok (13, 1) := by
  decide

end Playback.Multipart
