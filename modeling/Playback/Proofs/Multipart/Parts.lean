import Playback.Proofs.Multipart.Offsets
import Playback.Proofs.Multipart.RoundTrip
import Playback.Proofs.Multipart.Window

/-! # Parts of any body -/

namespace Playback.Multipart

open Bytes

variable {needle body region : Bytes} {part : Part} {parts : List Part}

theorem delimiterPlaces_eq (h : BorderFree needle) : delimiterPlaces needle body = placesOf needle body := by
  rw [delimiterPlaces, occurrencesByWindow_eq h, startsIn_eq_placesOf]
  simp

/-! ## One part -/

/-- The content of a part, which is not kept apart from none. -/
def Part.content (part : Part) : Bytes :=
  (part.file.map Content.bytes).getD []

theorem prefix_withoutLast (x : UInt8) (b : Bytes) : withoutLast x b <+: b := by
  rw [withoutLast]
  split
  · exact List.dropLast_prefix b
  · exact List.prefix_refl b

theorem content_infix (h : decodePart region = .ok part) : part.content <:+: region := by
  unfold decodePart at h
  split at h
  case h_1 => cases h
  case h_2 x rest line =>
    obtain ⟨⟨length, blank⟩, -, h⟩ := exists_ok_of_bind_eq_ok h
    cases h
    have slice : withoutLineBreak (rest.drop (length + blank)) <:+: region := by
      have suffix : rest.drop (length + blank) <:+ region :=
        (List.drop_suffix _ rest).trans ((List.suffix_cons x rest).trans (line ▸ List.dropWhile_suffix _))
      exact ((prefix_withoutLast 13 _).trans (prefix_withoutLast 10 _)).isInfix.trans suffix.isInfix
    rw [Part.content]
    dsimp only
    split
    · exact List.nil_infix
    · exact slice

/-- No region makes delimiters overlap. -/
theorem headerEnd_ne (region : Bytes) : headerEnd region ≠ .error .overlappingDelimiters := by
  unfold headerEnd
  intro h
  dsimp only at h
  repeat' split at h
  all_goals cases h

theorem decodePart_ne (region : Bytes) : decodePart region ≠ .error .overlappingDelimiters := by
  unfold decodePart
  split
  case h_1 => simp
  case h_2 x rest line =>
    cases header : headerEnd rest with
    | error fault =>
        rintro ⟨⟩
        exact headerEnd_ne rest header
    | ok found => simp [bind, Except.bind, pure, Except.pure]

/-! ## All parts -/

theorem exists_of_mem_zip_tail {α : Type} {l : List α} {pair : α × α} (h : pair ∈ l.zip l.tail) :
    ∃ i, l[i]? = some pair.1 ∧ l[i + 1]? = some pair.2 := by
  obtain ⟨i, hi⟩ := List.getElem?_of_mem h
  rw [List.getElem?_zip_eq_some, List.getElem?_tail] at hi
  exact ⟨i, hi⟩

theorem le_of_neighbours (h : BorderFree needle) {i first next : Nat}
    (hfirst : (placesOf needle body)[i]? = some first)
    (hnext : (placesOf needle body)[i + 1]? = some next) : first + needle.length ≤ next :=
  h.le_of_lt (List.mem_of_getElem? hfirst) (List.mem_of_getElem? hnext)
    (place_lt_place hfirst hnext (Nat.lt_succ_self i))

/-- A slice of a body, from its start to its end, between two neighbouring places of the delimiter. -/
def LiesBetween (needle body : Bytes) (i : Nat) (cut : Nat × Nat) : Prop :=
  ∃ first next, (placesOf needle body)[i]? = some first ∧
    (placesOf needle body)[i + 1]? = some next ∧
    first + needle.length ≤ cut.1 ∧ cut.1 ≤ cut.2 ∧ cut.2 ≤ next

/-- Slices between different places share no byte. -/
theorem LiesBetween.apart {i j : Nat} {c d : Nat × Nat} (hc : LiesBetween needle body i c)
    (hd : LiesBetween needle body j d) (before : i < j) : c.2 ≤ d.1 := by
  obtain ⟨-, next, -, hnext, -, -, high⟩ := hc
  obtain ⟨first, -, hfirst, -, low, -⟩ := hd
  have order : next ≤ first := by
    rcases Nat.lt_or_eq_of_le (Nat.succ_le_of_lt before) with earlier | rfl
    · exact Nat.le_of_lt (place_lt_place hnext hfirst earlier)
    · rw [hnext] at hfirst
      cases hfirst
      exact Nat.le_refl next
  omega

theorem LiesBetween.without {i : Nat} {cut : Nat × Nat} (h : LiesBetween needle body i cut)
    (nonempty : needle ≠ []) : ¬needle <:+: body.extract cut.1 cut.2 := by
  intro held
  obtain ⟨first, next, hfirst, hnext, low, order, high⟩ := h
  have inside := (mem_placesOf.mp (List.mem_of_getElem? hnext)).1
  obtain ⟨p, hp, after, fits⟩ := exists_place_of_infix_extract nonempty (by omega) held
  have pos := List.length_pos_iff.mpr nonempty
  have := next_le_of_lt hfirst hnext hp (by omega)
  omega

/-- Parts cut out of a body, one between any two neighbouring places of the delimiter: `cut` says
where the content of each begins and where it ends. -/
structure IsCut (needle body : Bytes) (parts : List Part) (cut : Fin parts.length → Nat × Nat) :
    Prop where
  count : parts.length = (placesOf needle body).length - 1
  between : ∀ i, LiesBetween needle body i.val (cut i)
  content_eq : ∀ i : Fin parts.length, parts[i].content = body.extract (cut i).1 (cut i).2
  apart : ∀ i j, i < j → (cut i).2 ≤ (cut j).1
  without : ∀ part ∈ parts, ¬needle <:+: part.content

theorem exists_cut_of_partBetween {first next : Nat} (inside : next ≤ body.length)
    (h : partBetween body needle.length first next = .ok part) :
    ∃ cut : Nat × Nat, first + needle.length ≤ cut.1 ∧ cut.1 ≤ cut.2 ∧ cut.2 ≤ next ∧
      part.content = body.extract cut.1 cut.2 := by
  rw [partBetween] at h
  split at h
  case isTrue => cases h
  case isFalse order =>
    obtain ⟨before, after, same⟩ := content_infix h
    rw [← List.extract_eq_take_drop] at same
    obtain ⟨rest, found⟩ := exists_drop_of_extract same
    have size := congrArg List.length same
    rw [length_extract inside, List.length_append, List.length_append] at size
    let start := first + needle.length + before.length
    refine ⟨(start, start + part.content.length), by omega, Nat.le_add_right _ _, by omega, ?_⟩
    rw [List.extract_eq_take_drop, found, Nat.add_sub_cancel_left, List.take_left]

/-- Parts that are read at all places are cut out between them. -/
theorem exists_isCut (nonempty : needle ≠ [])
    (read : partsAt body needle.length (placesOf needle body) = .ok parts) :
    ∃ cut, IsCut needle body parts cut := by
  obtain ⟨size, each⟩ := List.forall₂_iff_get.mp (forall₂_of_mapM_eq_ok read)
  have cuts (i : Fin parts.length) : ∃ cut, LiesBetween needle body i.val cut ∧
      parts[i].content = body.extract cut.1 cut.2 := by
    have hi : i.val < ((placesOf needle body).zip (placesOf needle body).tail).length := by
      rw [size]
      exact i.isLt
    have neighbours := List.getElem?_eq_getElem hi
    rw [List.getElem?_zip_eq_some, List.getElem?_tail] at neighbours
    have inside := (mem_placesOf.mp (List.mem_of_getElem? neighbours.2)).1
    obtain ⟨cut, low, order, high, same⟩ :=
      exists_cut_of_partBetween (Nat.le_of_lt inside) (each i hi i.isLt)
    exact ⟨cut, ⟨_, _, neighbours.1, neighbours.2, low, order, high⟩, same⟩
  choose cut between content_eq using cuts
  refine ⟨cut, ?_, between, content_eq, fun i j => (between i).apart (between j), ?_⟩
  · rw [← size, List.length_zip, List.length_tail]
    omega
  · intro part hpart
    obtain ⟨i, hi, rfl⟩ := List.getElem_of_mem hpart
    rw [show parts[i].content = _ from content_eq ⟨i, hi⟩]
    exact (between ⟨i, hi⟩).without nonempty

theorem partsAt_ne (h : BorderFree needle) :
    partsAt body needle.length (placesOf needle body) ≠ .error .overlappingDelimiters := by
  intro failed
  obtain ⟨⟨first, next⟩, hpair, failed⟩ := exists_error_of_mapM failed
  obtain ⟨i, hfirst, hnext⟩ := exists_of_mem_zip_tail hpair
  have apart := le_of_neighbours h hfirst hnext
  dsimp only at failed apart
  rw [partBetween, if_neg (by omega)] at failed
  exact decodePart_ne _ failed

/-- Whether a media type declares a boundary whose delimiter can overlap itself. -/
def DelimiterOverlaps (m : MediaType) : Prop :=
  ∃ boundary, boundary? m = some boundary ∧ ¬BorderFree (delimiter boundary)

theorem delimiter_ne_nil (boundary : String) : delimiter boundary ≠ [] := by
  rw [delimiter_eq]
  exact List.cons_ne_nil _ _

theorem decode_of_borderFree {m : MediaType} {boundary : String}
    (declared : boundary? m = some boundary) (h : BorderFree (delimiter boundary)) :
    (∃ fault, fault ≠ .overlappingDelimiters ∧ decode m body = .error fault) ∨
      ∃ parts cut, decode m body = .ok parts ∧ IsCut (delimiter boundary) body parts cut := by
  rw [decode, declared]
  dsimp only
  rw [delimiterPlaces_eq h]
  cases read : partsAt body (delimiter boundary).length (placesOf (delimiter boundary) body) with
  | error fault =>
      refine .inl ⟨fault, ?_, rfl⟩
      rintro rfl
      exact partsAt_ne h read
  | ok parts =>
      obtain ⟨cut, hcut⟩ := exists_isCut (delimiter_ne_nil boundary) read
      exact .inr ⟨parts, cut, rfl, hcut⟩

/-- Whatever a body holds, its parts are read by offsets that stay in the body and in order, unless
the delimiter can overlap itself. Then the body is refused for a fault of the sender, or it is cut
into its parts. -/
theorem decode_cut (m : MediaType) (body : Bytes) :
    decodeByOffsets m body = decode m body ∧
      (decodeByOffsets m body = .error .overlappingDelimiters → DelimiterOverlaps m) ∧
      (¬DelimiterOverlaps m →
        (∃ fault, fault ≠ .overlappingDelimiters ∧ decode m body = .error fault) ∨
          ∃ boundary parts cut, boundary? m = some boundary ∧ decode m body = .ok parts ∧
            IsCut (delimiter boundary) body parts cut) := by
  have same := decodeByOffsets_eq m body
  refine ⟨same, ?_, ?_⟩
  · intro aborted
    rw [same] at aborted
    cases declared : boundary? m with
    | none => simp [decode, declared] at aborted
    | some boundary =>
        refine ⟨boundary, declared, fun h => ?_⟩
        rcases decode_of_borderFree declared h with ⟨fault, other, failed⟩ | ⟨parts, cut, read, -⟩
        · exact other (Except.error.inj (failed.symm.trans aborted))
        · rw [read] at aborted
          cases aborted
  · intro apart
    cases declared : boundary? m with
    | none => exact .inl ⟨.missingBoundary, by simp, by rw [decode, declared]⟩
    | some boundary =>
        have h : BorderFree (delimiter boundary) := by
          by_contra overlaps
          exact apart ⟨boundary, declared, overlaps⟩
        refine (decode_of_borderFree declared h).imp_right ?_
        rintro ⟨parts, cut, read, hcut⟩
        exact ⟨boundary, parts, cut, rfl, read, hcut⟩

/-- The type of a form with a boundary. -/
def formType (boundary : String) : MediaType :=
  (MediaType.plain "multipart" "form-data").withParameter "boundary" boundary

/-- A row of hyphens across the end of a window. -/
def hyphens : Bytes :=
  List.replicate (windowSize - 1) 0 ++ List.replicate 4 45

/-- A form is cut into its parts, and a row of hyphens is no sound body where the boundary is one. -/
theorem decode_cut_upload :
    (∃ parts cut, decode (formType "x") ((upload 1).body "x") = .ok parts ∧
      IsCut (delimiter "x") ((upload 1).body "x") parts cut) ∧
    decodeByOffsets (formType "-") hyphens = .error .overlappingDelimiters ∧
    DelimiterOverlaps (formType "-") := by
  constructor
  · have declared : boundary? (formType "x") = some "x" := by
      decide
    have apart : ¬DelimiterOverlaps (formType "x") := by
      rintro ⟨boundary, other, overlaps⟩
      rw [declared] at other
      cases other
      exact overlaps (by decide)
    have small : ∀ e ∈ (upload 1).entries, (block e.fields).length ≤ maxHeaderSize := by
      decide
    have whole := (decode_body declared (upload_isFramedBy 1)).trans (if_pos small)
    rcases (decode_cut (formType "x") ((upload 1).body "x")).2.2 apart with
      ⟨fault, -, failed⟩ | ⟨boundary, parts, cut, same, read, hcut⟩
    · rw [whole] at failed
      cases failed
    · rw [declared] at same
      cases same
      exact ⟨parts, cut, read, hcut⟩
  · have declared : boundary? (formType "-") = some "-" := by
      decide
    have places : delimiterPlaces (delimiter "-") hyphens = [4095, 4096] := by
      decide +kernel
    have aborted : decodeByOffsets (formType "-") hyphens = .error .overlappingDelimiters := by
      rw [decodeByOffsets, declared]
      dsimp only
      rw [places]
      rfl
    exact ⟨aborted, (decode_cut (formType "-") hyphens).2.1 aborted⟩

end Playback.Multipart
