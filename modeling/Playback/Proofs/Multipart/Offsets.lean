import Playback.Multipart.Decode
import Playback.Proofs.Bytes.Places
import Playback.Proofs.Outcome

/-! # Reading by offsets -/

namespace Playback.Multipart

open Bytes

/-! ## Slices between two places -/

/-- The bytes from one place up to another. -/
def slice (b : Bytes) (start stop : Nat) : Except Fault Bytes :=
  if start ≤ stop ∧ stop ≤ b.length then .ok (b.extract start stop)
  else .error .overlappingDelimiters

/-- The byte at a place. -/
def byteAt (b : Bytes) (place : Nat) : Except Fault UInt8 :=
  match b[place]? with
  | some x => .ok x
  | none => .error .overlappingDelimiters

/-- The end of what begins at `start`, before one byte if this is the last. -/
def endBefore (last : UInt8) (b : Bytes) (start stop : Nat) : Except Fault Nat :=
  if start < stop then do
    let x ← byteAt b (stop - 1)
    pure (if x = last then stop - 1 else stop)
  else pure stop

/-- Reads the part that begins at `start`, behind a delimiter, and goes up to the next one. Only the
window that the end of the header is looked for in needs no check: it is never longer than the
region. -/
def partFrom (body : Bytes) (start next : Nat) : Except Fault Part := do
  let region ← slice body start next
  match region.findIdx? (· == 10) with
  | none => .error .openDelimiterLine
  | some line => do
    let headerStart := start + line + 1
    let region ← slice body headerStart next
    let (length, blank) ← headerEnd region
    let header := Header.parse (toTextReplacing (← slice region 0 length))
    let contentStart := headerStart + length + blank
    let stop ← endBefore 10 body contentStart next
    let stop ← endBefore 13 body contentStart stop
    let content ← slice body contentStart (max stop contentStart)
    let mediaType := header.mediaType.getD (MediaType.plain "multipart" "form-data")
    let file := if content.isEmpty then none else some ⟨mediaType, content⟩
    pure ⟨header.fields, header.disposition, file⟩

/-- Reads the parts of a body by their offsets. -/
def decodeByOffsets (m : MediaType) (body : Bytes) : Except Fault (List Part) :=
  match boundary? m with
  | none => .error .missingBoundary
  | some boundary =>
    let places := delimiterPlaces (delimiter boundary) body
    (places.zip places.tail).mapM fun (first, next) =>
      partFrom body (first + (delimiter boundary).length) next

/-! ## Slices that are taken -/

variable {b region : Bytes} {start stop : Nat}

theorem slice_eq_ok (order : start ≤ stop) (inside : stop ≤ b.length) :
    slice b start stop = .ok (b.extract start stop) :=
  if_pos ⟨order, inside⟩

/-- A last byte is taken off by moving the end of the slice. -/
theorem endBefore_eq (last : UInt8) (order : start ≤ stop) (inside : stop ≤ b.length) :
    ∃ stop', endBefore last b start stop = .ok stop' ∧ start ≤ stop' ∧ stop' ≤ b.length ∧
      b.extract start stop' = withoutLast last (b.extract start stop) := by
  by_cases empty : start = stop
  · refine ⟨stop, if_neg (by omega), order, inside, ?_⟩
    subst empty
    simp [withoutLast]
  · have order : start < stop := by omega
    have found : b[stop - 1]? = some b[stop - 1] := List.getElem?_eq_getElem (by omega)
    have read : byteAt b (stop - 1) = .ok b[stop - 1] := by
      rw [byteAt, found]
    rw [endBefore, if_pos order, read, withoutLast, getLast?_extract order inside, found]
    by_cases same : b[stop - 1] = last
    · exact ⟨stop - 1, by simp [same, bind, Except.bind, pure, Except.pure], by omega, by omega,
        by rw [if_pos (by rw [same]), dropLast_extract inside]⟩
    · exact ⟨stop, by simp [same, bind, Except.bind, pure, Except.pure], by omega, by omega,
        by rw [if_neg (by simpa using same)]⟩

theorem le_of_find? {needle : Bytes} {limit n : Nat} (nonempty : needle ≠ [])
    (h : find? needle (region.take limit) = some n) : n + needle.length ≤ region.length := by
  have le := (prefix_of_find? h).length_le
  rw [List.length_drop, List.length_take] at le
  have := List.length_pos_iff.mpr nonempty
  omega

theorem eq_of_limited {length blank : Nat} (found : Nat × Nat)
    (h : (if found.1 > maxHeaderSize then Except.error Fault.headerTooLarge else .ok found) =
      .ok (length, blank)) : found = (length, blank) := by
  split at h
  · cases h
  · exact Except.ok.inj h

theorem headerEnd_le {length blank : Nat} (h : headerEnd region = .ok (length, blank)) :
    length + blank ≤ region.length := by
  unfold headerEnd at h
  split at h
  case isTrue first =>
    cases h
    simpa [crlf] using (List.isPrefixOf_iff_prefix.mp first).length_le
  case isFalse =>
    split at h
    case isTrue first =>
      cases h
      simpa [lf] using (List.isPrefixOf_iff_prefix.mp first).length_le
    case isFalse =>
      dsimp only at h
      cases withReturn : find? (crlf ++ crlf) (region.take (maxHeaderSize + 4)) with
      | none =>
          cases withoutReturn : find? (lf ++ lf) (region.take (maxHeaderSize + 4)) with
          | none => simp [withReturn, withoutReturn] at h
          | some k =>
              rw [withReturn, withoutReturn] at h
              cases eq_of_limited (k + 1, 1) h
              exact le_of_find? (by decide) withoutReturn
      | some n =>
          cases withoutReturn : find? (lf ++ lf) (region.take (maxHeaderSize + 4)) with
          | none =>
              rw [withReturn, withoutReturn] at h
              cases eq_of_limited (n + 2, 2) h
              exact le_of_find? (by decide) withReturn
          | some k =>
              rw [withReturn, withoutReturn] at h
              have found := eq_of_limited (if n + 2 ≤ k + 1 then (n + 2, 2) else (k + 1, 1)) h
              split at found
              · cases found
                exact le_of_find? (by decide) withReturn
              · cases found
                exact le_of_find? (by decide) withoutReturn

/-! ## The same parts -/

theorem dropWhile_eq (region : Bytes) : region.dropWhile (· ≠ 10) =
    ((region.findIdx? (· == 10)).map fun line => 10 :: region.drop (line + 1)).getD [] := by
  induction region with
  | nil => rfl
  | cons x region ih =>
      by_cases feed : x = 10
      · subst feed
        rfl
      · rw [List.dropWhile_cons_of_pos (by simpa using feed), ih, List.findIdx?_cons,
          if_neg (by simpa using feed), Option.map_map]
        rfl

/-- Read by its offsets, a part is the part of its region. -/
theorem partFrom_eq (order : start ≤ stop) (inside : stop ≤ b.length) :
    partFrom b start stop = decodePart (b.extract start stop) := by
  rw [partFrom, slice_eq_ok order inside, decodePart, dropWhile_eq]
  cases found : (b.extract start stop).findIdx? (· == 10) with
  | none =>
      simp only [bind, Except.bind, found]
      rfl
  | some line =>
      have bound : line < stop - start := by
        obtain ⟨bound, -⟩ := List.findIdx?_eq_some_iff_getElem.mp found
        rwa [length_extract inside] at bound
      have lineEnd : start + line + 1 ≤ stop := by omega
      simp only [bind, Except.bind, found, Option.map_some, Option.getD_some]
      rw [slice_eq_ok lineEnd inside, drop_extract, ← Nat.add_assoc]
      dsimp only
      cases header : headerEnd (b.extract (start + line + 1) stop) with
      | error fault => rfl
      | ok found =>
          obtain ⟨length, blank⟩ := found
          have le := headerEnd_le header
          have size : (b.extract (start + line + 1) stop).length = stop - (start + line + 1) :=
            length_extract inside
          have block : slice (b.extract (start + line + 1) stop) 0 length =
              .ok ((b.extract (start + line + 1) stop).take length) := by
            rw [slice_eq_ok (Nat.zero_le length) (by omega), List.extract_eq_take_drop]
            rfl
          have contentStart : start + line + 1 + length + blank ≤ stop := by omega
          obtain ⟨stop₁, feed, low₁, high₁, same₁⟩ := endBefore_eq 10 contentStart inside
          obtain ⟨stop₂, ret, low₂, high₂, same₂⟩ := endBefore_eq 13 low₁ high₁
          have content : slice b (start + line + 1 + length + blank)
              (max stop₂ (start + line + 1 + length + blank)) =
              .ok (withoutLineBreak ((b.extract (start + line + 1) stop).drop (length + blank))) := by
            rw [Nat.max_eq_left low₂, slice_eq_ok low₂ high₂, same₂, same₁, drop_extract,
              ← Nat.add_assoc, withoutLineBreak]
          dsimp only
          rw [block, feed]
          dsimp only
          rw [ret]
          dsimp only
          rw [content]

theorem partFrom_eq_partBetween {n first next : Nat} (inside : next ≤ b.length) :
    partFrom b (first + n) next = partBetween b n first next := by
  rw [partBetween]
  split
  case isTrue early =>
    rw [partFrom, slice, if_neg (by omega)]
    rfl
  case isFalse =>
    rw [partFrom_eq (by omega) inside, List.extract_eq_take_drop]

/-! ## Places in a body -/

theorem bounds_of_mem_occurrencesFrom {needle : Bytes} {place skip p : Nat}
    (h : p ∈ occurrencesFrom needle place skip b) : place ≤ p ∧ p < place + b.length := by
  induction b generalizing place skip with
  | nil => cases h
  | cons x b ih =>
      have later {skip : Nat} (h : p ∈ occurrencesFrom needle (place + 1) skip b) :
          place ≤ p ∧ p < place + (x :: b).length := by
        have := ih h
        rw [List.length_cons]
        omega
      cases skip with
      | succ skip => exact later h
      | zero =>
          rw [occurrencesFrom] at h
          split at h
          case isTrue =>
            rcases List.mem_cons.mp h with rfl | h
            · simp
            · exact later h
          case isFalse => exact later h

theorem bounds_of_mem_occurrencesByWindow {needle : Bytes} {place p : Nat}
    (h : p ∈ occurrencesByWindow needle place b) : place ≤ p ∧ p < place + b.length := by
  induction place, b using occurrencesByWindow.induct with
  | case1 place =>
      rw [occurrencesByWindow] at h
      cases h
  | case2 place b nonempty ih =>
      rw [occurrencesByWindow, dif_neg nonempty, List.mem_append] at h
      rcases h with h | h
      · obtain ⟨q, hq, rfl⟩ := List.mem_map.mp h
        have := (bounds_of_mem_occurrencesFrom (List.mem_of_mem_filter hq)).2
        rw [List.length_take] at this
        omega
      · have := ih h
        rw [List.length_drop] at this
        omega

/-- The two readers agree on every body, well formed or not. -/
theorem decodeByOffsets_eq (m : MediaType) (body : Bytes) : decodeByOffsets m body = decode m body := by
  rw [decodeByOffsets, decode]
  cases boundary? m with
  | none => rfl
  | some boundary =>
      dsimp only
      refine mapM_congr fun pair hpair => partFrom_eq_partBetween ?_
      have := (bounds_of_mem_occurrencesByWindow
        (List.mem_of_mem_tail (List.of_mem_zip hpair).2)).2
      omega

end Playback.Multipart
