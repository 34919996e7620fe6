import Playback.Multipart.Decode
import Playback.Proofs.Multipart.Framing
import Playback.Proofs.Multipart.Header
import Playback.Proofs.Multipart.Window
import Playback.Proofs.Outcome

/-! # Written forms are read back -/

namespace Playback.Multipart

open Bytes

/-! ## Forms -/

/-- What a client writes as one part. -/
structure Entry where
  fields : List Field
  content : Bytes

/-- What a client writes as a body: entries, with something before them and something after. -/
structure Form where
  preamble : Bytes
  entries : List Entry
  epilogue : Bytes

namespace Entry

/-- What stands between two delimiters. -/
def region (e : Entry) : Bytes :=
  crlf ++ block e.fields ++ crlf ++ e.content ++ crlf

/-- The header of an entry as it is read. -/
def header (e : Entry) : Header :=
  Header.parse (String.ofList (blockText e.fields))

/-- The part that an entry is read as. -/
def part (e : Entry) : Part :=
  ⟨e.header.fields, e.header.disposition,
    if e.content.isEmpty then none
    else some ⟨e.header.mediaType.getD (MediaType.plain "multipart" "form-data"), e.content⟩⟩

/-- Whether the header block is within the limit. -/
def IsSmall (e : Entry) : Prop :=
  (block e.fields).length ≤ maxHeaderSize
deriving Decidable

end Entry

/-- The body of a form. -/
def Form.body (form : Form) (boundary : String) : Bytes :=
  form.preamble ++ (form.entries.flatMap fun e => delimiter boundary ++ e.region) ++
    delimiter boundary ++ ofText "--" ++ crlf ++ form.epilogue

/-- What is asked of a boundary: its delimiter holds no carriage return, cannot overlap itself, and
occurs in nothing that it frames. -/
structure Form.IsFramedBy (form : Form) (boundary : String) : Prop where
  noReturn : '\r' ∉ boundary.toList
  borderFree : BorderFree (delimiter boundary)
  isField : ∀ e ∈ form.entries, ∀ f ∈ e.fields, IsField f
  notInPreamble : ¬delimiter boundary <:+: form.preamble
  notInEpilogue : ¬delimiter boundary <:+: form.epilogue
  notInFields : ∀ e ∈ form.entries, ¬delimiter boundary <:+: block e.fields
  notInContent : ∀ e ∈ form.entries, ¬delimiter boundary <:+: e.content

/-! ## Parts -/

theorem withoutLast_concat (b : UInt8) (bytes : Bytes) : withoutLast b (bytes ++ [b]) = bytes := by
  rw [withoutLast, if_pos List.getLast?_concat, List.dropLast_concat]

theorem withoutLineBreak_append (content : Bytes) : withoutLineBreak (content ++ crlf) = content := by
  have twice : content ++ crlf = (content ++ [13]) ++ [10] := by
    simp [crlf]
  rw [withoutLineBreak, twice, withoutLast_concat, withoutLast_concat]

theorem toTextReplacing_block (fields : List Field) :
    toTextReplacing (block fields) = String.ofList (blockText fields) := by
  rw [toTextReplacing, block, toText?_ofText]

/-- A written entry is read as its part if its header block is within the limit. -/
theorem decodePart_region {e : Entry} (h : ∀ f ∈ e.fields, IsField f) :
    decodePart e.region = if e.IsSmall then .ok e.part else .error .headerTooLarge := by
  have line : e.region.dropWhile (· ≠ 10) =
      10 :: (block e.fields ++ (crlf ++ (e.content ++ crlf))) := by
    simp [Entry.region, crlf]
  have read : (block e.fields ++ (crlf ++ (e.content ++ crlf))).take (block e.fields).length =
      block e.fields := List.take_left
  have left : (block e.fields ++ (crlf ++ (e.content ++ crlf))).drop ((block e.fields).length + 2) =
      e.content ++ crlf := by
    simp [crlf, List.drop_append]
  rw [decodePart, line]
  dsimp only
  rw [headerEnd_block h]
  by_cases small : (block e.fields).length ≤ maxHeaderSize
  · rw [if_pos small, if_pos (show e.IsSmall from small)]
    simp only [bind, Except.bind, pure, Except.pure]
    rw [read, left, toTextReplacing_block, withoutLineBreak_append]
    rfl
  · rw [if_neg small, if_neg (show ¬e.IsSmall from small)]
    rfl

/-! ## Bodies -/

theorem delimiter_eq (boundary : String) : delimiter boundary = 45 :: 45 :: ofText boundary := by
  rw [delimiter, ofText_append]
  rfl

theorem noneBegins_crlf (boundary : String) (rest : Bytes) :
    NoneBegins (delimiter boundary) crlf rest := by
  rw [delimiter_eq]
  refine NoneBegins.of_head (fun b hb => ?_) (List.cons_ne_nil _ _)
  simp only [crlf, List.mem_cons, List.not_mem_nil, or_false] at hb
  rcases hb with rfl | rfl <;> simp

theorem Form.body_eq (form : Form) (boundary : String) : form.body boundary =
    form.preamble ++ framed (delimiter boundary) (form.entries.map Entry.region)
      (ofText "--" ++ (crlf ++ form.epilogue)) := by
  simp [Form.body, framed, List.flatMap_map]

namespace Form.IsFramedBy

variable {form : Form} {boundary : String}

theorem return_notMem (h : form.IsFramedBy boundary) : (13 : UInt8) ∉ delimiter boundary := by
  simpa [delimiter_eq] using fun hb => h.noReturn (mem_of_mem_ofText hb (by decide))

theorem noneBegins_region (h : form.IsFramedBy boundary) {e : Entry} (he : e ∈ form.entries)
    (rest : Bytes) : NoneBegins (delimiter boundary) e.region rest := by
  have text : e.region = crlf ++ (block e.fields ++ (crlf ++ (e.content ++ crlf))) := by
    simp [Entry.region]
  rw [text]
  refine (noneBegins_crlf _ _).append (NoneBegins.append ?_ ((noneBegins_crlf _ _).append
    (NoneBegins.append ?_ (noneBegins_crlf _ _))))
  · exact noneBegins_of_notMem (h.notInFields e he) h.return_notMem
  · exact noneBegins_of_notMem (h.notInContent e he) h.return_notMem

theorem noneBegins_last (h : form.IsFramedBy boundary) (nonempty : boundary ≠ "") :
    NoneBegins (delimiter boundary) (ofText "--" ++ (crlf ++ form.epilogue)) [] := by
  have hyphens : ofText "--" = [45, 45] := rfl
  have short : ¬delimiter boundary <:+: ofText "--" := by
    intro inside
    have le := inside.length_le
    rw [delimiter_eq, hyphens] at le
    have empty : ofText boundary = ofText "" := List.length_eq_zero_iff.mp (by simpa using le)
    exact nonempty (ofText_inj.mp empty)
  exact NoneBegins.append (noneBegins_of_notMem short h.return_notMem)
    ((noneBegins_crlf _ _).append (noneBegins_nil h.notInEpilogue))

/-- The windows find the delimiters of a form and nothing else, wherever a window ends. -/
theorem delimiterPlaces_body (h : form.IsFramedBy boundary) (nonempty : boundary ≠ "") :
    delimiterPlaces (delimiter boundary) (form.body boundary) =
      framePlaces (delimiter boundary).length form.preamble.length
        (form.entries.map Entry.region) := by
  have inside : ∀ region ∈ form.entries.map Entry.region, ∀ rest,
      NoneBegins (delimiter boundary) region rest := by
    intro region hregion
    obtain ⟨e, he, rfl⟩ := List.mem_map.mp hregion
    exact h.noneBegins_region he
  have before : NoneBegins (delimiter boundary) form.preamble
      (framed (delimiter boundary) (form.entries.map Entry.region)
        (ofText "--" ++ (crlf ++ form.epilogue)) ++ []) := by
    obtain ⟨rest, same⟩ := exists_framed (delimiter boundary) (form.entries.map Entry.region)
      (ofText "--" ++ (crlf ++ form.epilogue))
    rw [List.append_nil, same]
    exact h.borderFree.noneBegins_append h.notInPreamble
  have someDelimiter : delimiter boundary ≠ [] := by
    rw [delimiter_eq]
    exact List.cons_ne_nil _ _
  rw [delimiterPlaces, occurrencesByWindow_eq h.borderFree, form.body_eq, startsIn_append,
    before.startsIn_eq_nil, startsIn_framed h.borderFree someDelimiter inside
      (h.noneBegins_last nonempty), List.nil_append, Nat.zero_add]

end Form.IsFramedBy

/-! ## An upload -/

/-- A form with a header of `n` lines, with content that ends like a line, and with an empty part. -/
def upload (n : Nat) : Form where
  preamble := ofText "before"
  entries := [⟨List.replicate n ("Name", "value"), [1, 13, 10]⟩, ⟨[], []⟩]
  epilogue := ofText "after"

theorem isField_name : IsField ("Name", "value") where
  nonempty := by simp
  ascii := by simp
  noColon := by simp
  noBlank := by simp; decide
  noReturn := by simp
  noNewline := by simp
  head := by simp; decide
  last := by simp; decide

theorem mem_block_replicate {f : Field} {n : Nat} {b : UInt8}
    (h : b ∈ block (List.replicate n f)) : b ∈ lineBytes f ++ crlf := by
  induction n with
  | zero =>
      rw [List.replicate_zero, block_nil] at h
      cases h
  | succ n ih =>
      rw [List.replicate_succ, block_cons, ← List.append_assoc, List.mem_append] at h
      exact h.elim id ih

theorem length_block_replicate (f : Field) (n : Nat) :
    (block (List.replicate n f)).length = n * (lineBytes f ++ crlf).length := by
  induction n with
  | zero => rw [List.replicate_zero, block_nil, Nat.zero_mul, List.length_nil]
  | succ n ih =>
      rw [List.replicate_succ, block_cons, ← List.append_assoc, List.length_append, ih,
        Nat.succ_mul, Nat.add_comm]

theorem upload_isFramedBy (n : Nat) : (upload n).IsFramedBy "x" where
  noReturn := by decide
  borderFree := by decide
  isField := by
    intro e he f hf
    simp only [upload, List.mem_cons, List.not_mem_nil, or_false] at he
    rcases he with rfl | rfl
    · exact List.eq_of_mem_replicate hf ▸ isField_name
    · cases hf
  notInPreamble := show ¬delimiter "x" <:+: ofText "before" by decide
  notInEpilogue := show ¬delimiter "x" <:+: ofText "after" by decide
  notInFields := by
    intro e he inside
    have marked : (120 : UInt8) ∈ block e.fields := inside.subset (by decide)
    simp only [upload, List.mem_cons, List.not_mem_nil, or_false] at he
    rcases he with rfl | rfl
    · exact absurd (mem_block_replicate marked) (by decide)
    · rw [block_nil] at marked
      cases marked
  notInContent := by
    intro e he
    simp only [upload, List.mem_cons, List.not_mem_nil, or_false] at he
    rcases he with rfl | rfl <;> dsimp only <;> decide

/-! ## Round trip -/

section

variable {form : Form} {boundary : String} {m : MediaType}

theorem decode_body (declared : boundary? m = some boundary) (h : form.IsFramedBy boundary) :
    decode m (form.body boundary) =
      if ∀ e ∈ form.entries, e.IsSmall then .ok (form.entries.map Entry.part)
      else .error .headerTooLarge := by
  have nonempty : boundary ≠ "" := by
    have := (Option.filter_eq_some_iff.mp declared).2
    simpa using this
  rw [decode, declared]
  dsimp only
  rw [h.delimiterPlaces_body nonempty, form.body_eq, partsAt_framed, List.mapM_map]
  exact mapM_eq_ite fun e he => decodePart_region (h.isField e he)

/-- What is read of an entry: its fields with small letters in the names, and its content. -/
theorem fields_part {e : Entry} (h : ∀ f ∈ e.fields, IsField f) :
    e.part.fields.toList = e.fields.map fun f => (Text.lowerAscii f.1, f.2) :=
  fields_parse h

theorem file_part (e : Entry) :
    e.part.file.map Content.bytes = if e.content = [] then none else some e.content := by
  rw [Entry.part]
  by_cases empty : e.content = []
  · simp [empty]
  · simp [empty]

/-- A form whose header blocks are within the limit is read back: every entry is one part, in order,
with the fields that were written, names in small letters, and with the content byte for byte. With a
header block beyond the limit the form is refused. -/
theorem decode_written (declared : boundary? m = some boundary) (h : form.IsFramedBy boundary) :
    ((∀ e ∈ form.entries, (block e.fields).length ≤ maxHeaderSize) →
      ∃ parts, decode m (form.body boundary) = .ok parts ∧
        parts.map (fun p => (p.fields.toList, p.file.map Content.bytes)) =
          form.entries.map fun e => (e.fields.map fun f => (Text.lowerAscii f.1, f.2),
            if e.content = [] then none else some e.content)) ∧
    ((∃ e ∈ form.entries, maxHeaderSize < (block e.fields).length) →
      decode m (form.body boundary) = .error .headerTooLarge) := by
  rw [decode_body declared h]
  constructor
  · intro small
    refine ⟨form.entries.map Entry.part, if_pos small, ?_⟩
    rw [List.map_map, List.map_inj_left]
    intro e he
    simp only [Function.comp_apply, fields_part (h.isField e he), file_part]
  · rintro ⟨e, he, large⟩
    exact if_neg fun small => Nat.not_le.mpr large (small e he)

end

/-- One line is read back, and a hundred lines are too many. -/
theorem decode_written_upload :
    let m := (MediaType.plain "multipart" "form-data").withParameter "boundary" "x"
    (∃ parts, decode m ((upload 1).body "x") = .ok parts ∧
      parts.map (fun p => (p.fields.toList, p.file.map Content.bytes)) =
        [([("name", "value")], some [1, 13, 10]), ([], none)]) ∧
    decode m ((upload 100).body "x") = .error .headerTooLarge := by
  have declared : boundary? ((MediaType.plain "multipart" "form-data").withParameter "boundary" "x") =
      some "x" := by decide
  have length (n : Nat) : (block (List.replicate n ("Name", "value"))).length = n * 13 :=
    length_block_replicate ("Name", "value") n
  constructor
  · obtain ⟨parts, read, same⟩ := (decode_written declared (upload_isFramedBy 1)).1 (by decide)
    exact ⟨parts, read, same⟩
  · refine (decode_written declared (upload_isFramedBy 100)).2 ⟨_, List.mem_cons_self, ?_⟩
    rw [length]
    decide

end Playback.Multipart
