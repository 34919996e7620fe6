import Mathlib.Data.List.TakeWhile
import Playback.Message.Payload
import Playback.Multipart.Decode
import Playback.Proofs.Bytes.Search
import Playback.Proofs.Bytes.Text
import Playback.Proofs.Text.Cut
import Playback.Proofs.Text.LetterCase
import Playback.Proofs.Text.Trim

/-! # Header blocks -/

namespace Playback

namespace Multipart

open Bytes Text

/-! ## Fields -/

/-- What can be written as a header field: a name in ASCII without colons and blanks, and a value on
one line without blanks around it. -/
structure IsField (f : Field) : Prop where
  nonempty : f.1.toList ≠ []
  ascii : ∀ c ∈ f.1.toList, c.toNat < 128
  noColon : ':' ∉ f.1.toList
  noBlank : ∀ c ∈ f.1.toList, isBlank c = false
  noReturn : '\r' ∉ f.2.toList
  noNewline : '\n' ∉ f.2.toList
  head : ∀ c ∈ f.2.toList.head?, isBlank c = false
  last : ∀ c ∈ f.2.toList.getLast?, isBlank c = false

/-- A field as a line. -/
def fieldLine (f : Field) : List Char :=
  f.1.toList ++ ':' :: ' ' :: f.2.toList

/-- The text of a header block. -/
def blockText (fields : List Field) : List Char :=
  fields.flatMap fun f => fieldLine f ++ ['\r', '\n']

/-- A header block. -/
def block (fields : List Field) : Bytes :=
  ofText (String.ofList (blockText fields))

namespace IsField

variable {f : Field}

theorem return_notMem (h : IsField f) : '\r' ∉ fieldLine f := by
  intro hc
  simp only [fieldLine, List.mem_append, List.mem_cons] at hc
  rcases hc with hc | hc | hc | hc
  · exact absurd (h.noBlank _ hc) (by decide)
  · exact absurd hc (by decide)
  · exact absurd hc (by decide)
  · exact h.noReturn hc

theorem newline_notMem (h : IsField f) : '\n' ∉ fieldLine f := by
  intro hc
  simp only [fieldLine, List.mem_append, List.mem_cons] at hc
  rcases hc with hc | hc | hc | hc
  · exact absurd (h.noBlank _ hc) (by decide)
  · exact absurd hc (by decide)
  · exact absurd hc (by decide)
  · exact h.noNewline hc

theorem trimmed_value (h : IsField f) : trimmed (' ' :: f.2.toList) = f.2.toList := by
  rw [trimmed_cons (by decide)]
  exact IsTrimmed.trimmed_eq ⟨h.head, h.last⟩

theorem field?_fieldLine (h : IsField f) : Header.field? (fieldLine f) = some f := by
  have name : f.1.toList.takeWhile (fun c => !isBlank c) = f.1.toList :=
    List.takeWhile_eq_self_iff.mpr (by simpa using h.noBlank)
  rw [Header.field?, fieldLine, cutAt_append h.noColon]
  simp only [name, h.trimmed_value, List.drop_length, List.all_nil, Bool.not_true, Bool.or_false,
    String.ofList_toList]
  rw [if_neg (by simpa using h.nonempty)]

end IsField

/-! ## Blocks as texts -/

theorem lines_append {line rest : List Char} (noReturn : '\r' ∉ line) (noNewline : '\n' ∉ line)
    (nonempty : line ≠ []) :
    Header.lines (line ++ '\r' :: '\n' :: rest) = line :: Header.lines rest := by
  have stripped : ((line ++ ['\r']).reverse.dropWhile (· = '\r')).reverse = line := by
    rw [List.reverse_append, List.reverse_singleton, List.singleton_append,
      List.dropWhile_cons_of_pos (by simp)]
    cases backwards : line.reverse with
    | nil => exact absurd (List.reverse_eq_nil_iff.mp backwards) nonempty
    | cons c tail =>
        have hc : c ∈ line := by
          rw [← List.mem_reverse, backwards]
          exact List.mem_cons_self
        have other : c ≠ '\r' := fun e => noReturn (e ▸ hc)
        rw [List.dropWhile_cons_of_neg (by simpa using other), ← backwards, List.reverse_reverse]
  have cut : (line ++ '\r' :: '\n' :: rest).splitOn '\n' =
      (line ++ ['\r']) :: rest.splitOn '\n' := by
    have first : '\n' ∉ line ++ ['\r'] := by
      simpa using noNewline
    rw [← List.splitOn_append_cons_self_of_not_mem first]
    simp
  rw [Header.lines, cut, List.map_cons, stripped, List.filter_cons, if_pos (by simpa using nonempty)]
  rfl

theorem lines_blockText {fields : List Field} (h : ∀ f ∈ fields, IsField f) :
    Header.lines (blockText fields) = fields.map fieldLine := by
  induction fields with
  | nil => rfl
  | cons f fields ih =>
      have hf := h f (by simp)
      have nonempty : fieldLine f ≠ [] := by simp [fieldLine]
      have text : blockText (f :: fields) = fieldLine f ++ '\r' :: '\n' :: blockText fields := by
        simp [blockText]
      rw [text, lines_append hf.return_notMem hf.newline_notMem nonempty,
        ih fun g hg => h g (List.mem_cons_of_mem f hg), List.map_cons]

theorem fields_withMeaning (h : Header) (line : List Char) :
    (h.withMeaning line).fields = h.fields := by
  unfold Header.withMeaning
  split
  · rfl
  · split
    · rfl
    · split <;> rfl

theorem fields_withLine {f : Field} (hf : IsField f) (h : Header) :
    (h.withLine (fieldLine f)).fields = h.fields.insert f.1 f.2 := by
  simp only [Header.withLine, hf.field?_fieldLine, fields_withMeaning]

theorem fields_foldl_withLine {fields : List Field} (hfields : ∀ f ∈ fields, IsField f)
    (h : Header) :
    ((fields.map fieldLine).foldl Header.withLine h).fields =
      fields.foldl (fun m f => m.insert f.1 f.2) h.fields := by
  induction fields generalizing h with
  | nil => rfl
  | cons f fields ih =>
      rw [List.map_cons, List.foldl_cons, List.foldl_cons,
        ih (fun g hg => hfields g (List.mem_cons_of_mem f hg)), fields_withLine (hfields f (by simp))]

/-- A written block is read as its fields, with small letters in the names. -/
theorem fields_parse {fields : List Field} (h : ∀ f ∈ fields, IsField f) :
    (Header.parse (String.ofList (blockText fields))).fields.toList =
      fields.map fun f => (lowerAscii f.1, f.2) := by
  rw [Header.parse, String.toList_ofList, lines_blockText h, fields_foldl_withLine h,
    Multimap.foldl_insert]
  simp only [Header.empty, Multimap.empty, Multimap.toList, Multimap.ofList, List.nil_append,
    List.map_inj_left]
  intro f hf
  rw [lower_eq_lowerAscii (h f hf).ascii]

/-! ## Blocks as bytes -/

/-- A field as a line of bytes. -/
def lineBytes (f : Field) : Bytes :=
  ofText (String.ofList (fieldLine f))

theorem block_nil : block [] = [] := by
  rw [block, ofText_ofList]
  rfl

theorem block_cons (f : Field) (fields : List Field) :
    block (f :: fields) = lineBytes f ++ (crlf ++ block fields) := by
  simp only [block, lineBytes, blockText, ofText_ofList, List.flatMap_cons, List.flatMap_append,
    List.append_assoc]
  rfl

theorem block_concat (fields : List Field) (f : Field) :
    block (fields ++ [f]) = block fields ++ lineBytes f ++ crlf := by
  induction fields with
  | nil =>
      rw [List.nil_append, block_cons, block_nil, List.append_nil, List.nil_append]
  | cons g fields ih =>
      rw [List.cons_append, block_cons, block_cons, ih]
      simp

namespace IsField

variable {f : Field}

theorem return_notMem_bytes (h : IsField f) : (13 : UInt8) ∉ lineBytes f := fun hb =>
  h.return_notMem (by simpa using mem_of_mem_ofText hb (by decide))

theorem newline_notMem_bytes (h : IsField f) : (10 : UInt8) ∉ lineBytes f := fun hb =>
  h.newline_notMem (by simpa using mem_of_mem_ofText hb (by decide))

theorem exists_lineBytes (h : IsField f) :
    ∃ b tail, lineBytes f = b :: tail ∧ b ≠ 13 ∧ b ≠ 10 := by
  have nonempty : lineBytes f ≠ [] := by
    rw [lineBytes, ofText_ofList]
    intro empty
    have colon : ':' ∈ fieldLine f := by simp [fieldLine]
    exact String.utf8EncodeChar_ne_nil (List.flatMap_eq_nil_iff.mp empty ':' colon)
  obtain ⟨b, tail, same⟩ := List.exists_cons_of_ne_nil nonempty
  refine ⟨b, tail, same, ?_, ?_⟩
  · rintro rfl
    exact h.return_notMem_bytes (by simp [same])
  · rintro rfl
    exact h.newline_notMem_bytes (by simp [same])

theorem noneBegins_lineBytes (h : IsField f) {needle rest : Bytes}
    (lead : needle.head? = some 13 ∨ needle.head? = some 10) :
    NoneBegins needle (lineBytes f) rest := by
  have nonempty : needle ≠ [] := by
    rintro rfl
    simp at lead
  refine NoneBegins.of_head (fun b hb same => ?_) nonempty
  rcases lead with lead | lead <;> rw [lead] at same <;> cases same
  · exact h.return_notMem_bytes hb
  · exact h.newline_notMem_bytes hb

end IsField

/-- A needle that begins nowhere in a line, nor in a line break that other text follows, begins
nowhere in a block that other text follows. -/
theorem noneBegins_block {needle : Bytes}
    (lead : needle.head? = some 13 ∨ needle.head? = some 10)
    (break_ : ∀ b tail, b ≠ 13 → b ≠ 10 → NoneBegins needle crlf (b :: tail))
    {fields : List Field} (h : ∀ f ∈ fields, IsField f) {b : UInt8} (notReturn : b ≠ 13)
    (notNewline : b ≠ 10) (tail : Bytes) : NoneBegins needle (block fields) (b :: tail) := by
  induction fields with
  | nil => exact NoneBegins.nil
  | cons f fields ih =>
      have hfields := fun g hg => h g (List.mem_cons_of_mem f hg)
      rw [block_cons]
      refine ((h f (by simp)).noneBegins_lineBytes lead).append (NoneBegins.append ?_ (ih hfields))
      cases fields with
      | nil => exact break_ b tail notReturn notNewline
      | cons g fields =>
          obtain ⟨c, line, same, hc, hc'⟩ := (hfields g (by simp)).exists_lineBytes
          rw [block_cons, same]
          exact break_ c _ hc hc'

theorem noneBegins_crlf_of_ne {b : UInt8} (h : b ≠ 13) (tail : Bytes) :
    NoneBegins (crlf ++ crlf) crlf (b :: tail) := by
  refine NoneBegins.cons ?_ (NoneBegins.cons ?_ NoneBegins.nil)
  · simp [crlf, List.cons_prefix_cons, Ne.symm h]
  · simp [crlf, List.cons_prefix_cons]

theorem noneBegins_lf_of_ne {b : UInt8} (h : b ≠ 10) (tail : Bytes) :
    NoneBegins (lf ++ lf) crlf (b :: tail) := by
  refine NoneBegins.cons ?_ (NoneBegins.cons ?_ NoneBegins.nil)
  · simp [lf, List.cons_prefix_cons]
  · simp [lf, List.cons_prefix_cons, Ne.symm h]

/-! ## Where a block ends -/

theorem bounds_of_find?_take {needle x rest : Bytes} (h : NoneBegins needle x rest)
    (nonempty : needle ≠ []) {n p : Nat} (found : find? needle ((x ++ rest).take n) = some p) :
    x.length ≤ p ∧ p + needle.length ≤ n := by
  have begins := prefix_of_find? found
  have fits := begins.length_le
  have pos := List.length_pos_iff.mpr nonempty
  simp only [List.length_drop, List.length_take] at fits
  refine ⟨?_, by omega⟩
  by_contra inside
  apply h p (Nat.not_le.mp inside)
  rw [← List.drop_append_of_le_length (by omega)]
  rw [List.drop_take] at begins
  exact begins.trans (List.take_prefix _ _)

section

variable {fields : List Field} {f : Field}

/-- All of a block but its last line break, and what then is not found in it. -/
theorem noneBegins_lines {needle : Bytes}
    (lead : needle.head? = some 13 ∨ needle.head? = some 10)
    (break_ : ∀ b tail, b ≠ 13 → b ≠ 10 → NoneBegins needle crlf (b :: tail))
    (h : ∀ g ∈ fields, IsField g) (hf : IsField f) (rest : Bytes) :
    NoneBegins needle (block fields ++ lineBytes f) rest := by
  obtain ⟨b, tail, same, hb, hb'⟩ := hf.exists_lineBytes
  refine NoneBegins.append ?_ (hf.noneBegins_lineBytes lead)
  rw [same]
  exact noneBegins_block lead break_ h hb hb' (tail ++ rest)

theorem noneBegins_blankLine (h : ∀ g ∈ fields, IsField g) (hf : IsField f) (rest : Bytes) :
    NoneBegins (crlf ++ crlf) (block fields ++ lineBytes f) rest :=
  noneBegins_lines (.inl rfl) (fun _ tail hb _ => noneBegins_crlf_of_ne hb tail) h hf rest

theorem noneBegins_lineFeeds (h : ∀ g ∈ fields, IsField g) (hf : IsField f) (rest : Bytes) :
    NoneBegins (lf ++ lf) (block fields ++ lineBytes f ++ [13, 10, 13]) rest := by
  refine NoneBegins.append (noneBegins_lines (.inr rfl)
    (fun _ tail _ hb => noneBegins_lf_of_ne hb tail) h hf _) ?_
  refine NoneBegins.cons ?_ (NoneBegins.cons ?_ (NoneBegins.cons ?_ NoneBegins.nil)) <;>
    simp [lf, List.cons_prefix_cons]

theorem exists_lines (h : ∀ g ∈ fields, IsField g) (hf : IsField f) :
    ∃ b tail, block fields ++ lineBytes f = b :: tail ∧ b ≠ 13 ∧ b ≠ 10 := by
  cases fields with
  | nil =>
      rw [block_nil]
      exact hf.exists_lineBytes
  | cons g fields =>
      obtain ⟨b, tail, same, hb, hb'⟩ := (h g (by simp)).exists_lineBytes
      exact ⟨b, _, by rw [block_cons, same, List.cons_append, List.cons_append], hb, hb'⟩

end

section

variable {lines rest : Bytes}

theorem find?_blankLine (h : ∀ rest, NoneBegins (crlf ++ crlf) lines rest) :
    find? (crlf ++ crlf) ((lines ++ (crlf ++ (crlf ++ rest))).take (maxHeaderSize + 4)) =
      if lines.length ≤ maxHeaderSize then some lines.length else none := by
  by_cases fits : lines.length ≤ maxHeaderSize
  · have seen : (lines ++ (crlf ++ (crlf ++ rest))).take (maxHeaderSize + 4) =
        lines ++ ((crlf ++ crlf) ++ rest.take (maxHeaderSize - lines.length)) := by
      rw [← List.append_assoc crlf, List.take_append, List.take_append,
        List.take_of_length_le (by omega), List.take_of_length_le (by simp [crlf]; omega)]
      simp [crlf, Nat.add_sub_add_right, Nat.sub_sub]
    rw [seen, find?_append (h _), if_pos fits]
  · rw [if_neg fits]
    cases found : find? (crlf ++ crlf)
        ((lines ++ (crlf ++ (crlf ++ rest))).take (maxHeaderSize + 4)) with
    | none => rfl
    | some p =>
        have bounds := bounds_of_find?_take (h _) (by simp [crlf]) found
        simp only [crlf, List.cons_append, List.nil_append, List.length_cons,
          List.length_nil] at bounds
        omega

theorem bounds_of_find?_lineFeeds
    (h : ∀ rest, NoneBegins (lf ++ lf) (lines ++ [13, 10, 13]) rest) {p : Nat}
    (found : find? (lf ++ lf)
      ((lines ++ (crlf ++ (crlf ++ rest))).take (maxHeaderSize + 4)) = some p) :
    lines.length + 3 ≤ p ∧ p + 2 ≤ maxHeaderSize + 4 := by
  have text : lines ++ (crlf ++ (crlf ++ rest)) = (lines ++ [13, 10, 13]) ++ (10 :: rest) := by
    simp [crlf]
  rw [text] at found
  have bounds := bounds_of_find?_take (h _) (by simp [lf]) found
  simpa [lf] using bounds

/-- The search for the end of a block sees the blank line behind it if the block is within the limit,
and nothing otherwise. -/
theorem headerEnd_lines (notBlank : ∃ b tail, lines = b :: tail ∧ b ≠ 13 ∧ b ≠ 10)
    (blankLine : ∀ rest, NoneBegins (crlf ++ crlf) lines rest)
    (lineFeeds : ∀ rest, NoneBegins (lf ++ lf) (lines ++ [13, 10, 13]) rest) :
    headerEnd (lines ++ (crlf ++ (crlf ++ rest))) =
      if lines.length + 2 ≤ maxHeaderSize then .ok (lines.length + 2, 2)
      else .error .headerTooLarge := by
  obtain ⟨b, tail, same, hb, hb'⟩ := notBlank
  have noReturn : ¬crlf.isPrefixOf (lines ++ (crlf ++ (crlf ++ rest))) = true := by
    simp [same, crlf, Ne.symm hb]
  have noNewline : ¬lf.isPrefixOf (lines ++ (crlf ++ (crlf ++ rest))) = true := by
    simp [same, lf, Ne.symm hb']
  rw [headerEnd, if_neg noReturn, if_neg noNewline]
  dsimp only
  rw [find?_blankLine blankLine]
  cases feeds : find? (lf ++ lf)
      ((lines ++ (crlf ++ (crlf ++ rest))).take (maxHeaderSize + 4)) with
  | none =>
      by_cases fits : lines.length ≤ maxHeaderSize
      · by_cases small : lines.length + 2 ≤ maxHeaderSize
        · simp [fits, small]
        · simp [fits, small, Nat.not_le.mp small]
      · have long : (lines ++ (crlf ++ (crlf ++ rest))).length > maxHeaderSize := by
          simp only [List.length_append]
          omega
        have large : ¬lines.length + 2 ≤ maxHeaderSize := by omega
        simp only [if_neg fits, Option.map_none, Option.or_none, if_pos long, if_neg large]
  | some q =>
      have later := bounds_of_find?_lineFeeds lineFeeds feeds
      have fits : lines.length ≤ maxHeaderSize := by omega
      have first : lines.length + 2 ≤ q + 1 := by omega
      by_cases small : lines.length + 2 ≤ maxHeaderSize
      · simp [fits, first, small]
      · simp [fits, first, small, Nat.not_le.mp small]

end

theorem headerEnd_block {fields : List Field} (h : ∀ f ∈ fields, IsField f) (rest : Bytes) :
    headerEnd (block fields ++ (crlf ++ rest)) =
      if (block fields).length ≤ maxHeaderSize then .ok ((block fields).length, 2)
      else .error .headerTooLarge := by
  rcases List.eq_nil_or_concat' fields with rfl | ⟨init, f, rfl⟩
  · rw [block_nil]
    rfl
  · have hinit : ∀ g ∈ init, IsField g := fun g hg => h g (by simp [hg])
    have hf : IsField f := h f (by simp)
    rw [block_concat, List.append_assoc, headerEnd_lines (exists_lines hinit hf)
      (noneBegins_blankLine hinit hf) (noneBegins_lineFeeds hinit hf)]
    simp [crlf, Nat.add_assoc]

end Multipart

end Playback
