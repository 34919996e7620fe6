import Playback.Proofs.Lzw.Refinement
import Playback.Proofs.Lzw.RoundTrip

/-! # Emptying the table is starting anew -/

namespace Playback.Lzw

/-- Where decoding comes to on its way through the codes of a stream, and the bytes it has given until
then. -/
inductive Reaches (data : Bytes) (h : Header) : DecoderState → BitReader → Array UInt8 → Prop where
  | start {flags : UInt8} {codes : Bytes} (data_eq : data = marker ++ [flags] ++ codes)
      (header : Header.ofByte flags = .ok h) :
      Reaches data h (DecoderState.start h) (BitReader.start codes) #[]
  | step {t : DecoderState} {r next : BitReader} {output : Array UInt8} {code : Nat} {result : Step}
      (reached : Reaches data h t r output) (read : r.read? t.width = some (code, next))
      (done : Lzw.step h t code = .ok result) :
      Reaches data h result.state (if result.skip then next.skipGroup t.width else next)
        (output ++ result.bytes.toArray)

/-! ## Groups -/

deriving instance DecidableEq for BitReader

namespace BitReader

/-- Whether a reader is as many codes behind the beginning of a group as its slot says, and the group
begins at a whole byte. -/
structure InGroup (width : Nat) (r : BitReader) : Prop where
  slot_lt : r.slot < groupSize
  place : ∃ start, r.position = 8 * start + r.slot * width

variable {r next : BitReader} {width code : Nat}

theorem read?_frame (h : r.read? width = some (code, next)) :
    next.data = r.data ∧ next.position = r.position + width ∧
      next.slot = (r.slot + 1) % groupSize := by
  unfold read? at h
  split at h
  · cases h
  · cases h
    exact ⟨rfl, rfl, rfl⟩

theorem inGroup_start (b : Bytes) (width : Nat) : InGroup width (start b) :=
  ⟨by simp [start, groupSize], 0, by simp [start]⟩

theorem InGroup.read (hr : r.InGroup width) (h : r.read? width = some (code, next)) :
    next.InGroup width := by
  obtain ⟨slot_lt, start, place⟩ := hr
  obtain ⟨-, position, slot⟩ := read?_frame h
  refine ⟨slot ▸ Nat.mod_lt _ (by decide), ?_⟩
  rw [position, slot, place]
  unfold groupSize at *
  by_cases last : r.slot = 7
  · exact ⟨start + width, by rw [last]; omega⟩
  · have inside : (r.slot + 1) % 8 = r.slot + 1 := by omega
    exact ⟨start, by rw [inside, Nat.add_mul]; omega⟩

/-- The rest of a group ends at a whole byte. -/
theorem InGroup.exists_skipGroup (hr : r.InGroup width) :
    ∃ boundary, (r.skipGroup width).position = 8 * boundary := by
  obtain ⟨slot_lt, start, place⟩ := hr
  rw [skipGroup, place]
  unfold groupSize at *
  by_cases first : r.slot = 0
  · exact ⟨start, by simp [first]⟩
  · have rest : (8 - r.slot) % 8 = 8 - r.slot := by omega
    refine ⟨start + width, ?_⟩
    dsimp only
    rw [rest, Nat.add_assoc, ← Nat.add_mul, Nat.add_sub_cancel' (Nat.le_of_lt slot_lt), Nat.mul_add]

theorem InGroup.skipGroup (hr : r.InGroup width) (width' : Nat) :
    (r.skipGroup width).InGroup width' := by
  obtain ⟨boundary, position⟩ := hr.exists_skipGroup
  exact ⟨by simp [BitReader.skipGroup, groupSize], boundary, by
    rw [position]
    simp [BitReader.skipGroup]⟩

end BitReader

theorem drop_bitsOfBytes (b : Bytes) (n : Nat) :
    (bitsOfBytes b).drop (8 * n) = bitsOfBytes (b.drop n) := by
  by_cases inside : n ≤ b.length
  · conv_lhs => rw [← List.take_append_drop n b, bitsOfBytes_append]
    exact List.drop_left' (by rw [length_bitsOfBytes, List.length_take_of_le inside])
  · have past : b.length ≤ n := by omega
    rw [List.drop_eq_nil_of_le past, List.drop_eq_nil_of_le (by rw [length_bitsOfBytes]; omega)]
    rfl

/-! ## On the way through a stream -/

section

variable {data : Bytes} {h : Header} {t : DecoderState} {r next : BitReader} {output : Array UInt8}
  {code : Nat} {result : Step}

theorem width_of_step (done : step h t code = .ok result) (stays : result.skip = false) :
    result.state.width = t.width := by
  by_cases clear : h.block = true ∧ code = clearCode
  · rw [step, if_pos clear] at done
    cases done
    cases stays
  · cases hout : t.output code with
    | error fault =>
        rw [step, if_neg clear, hout] at done
        cases done
    | ok yielded =>
        rw [step_of_output clear hout] at done
        split at done
        · cases done
          cases stays
        · cases done
          exact DecoderState.width_after h t code yielded.1

theorem Reaches.step_of_meaning {s : Textbook.State} {current : Bytes}
    (reached : Reaches data h t r output) (hr : Represents h s t)
    (clear : ¬(h.block = true ∧ code = 256)) (read : r.read? s.width = some (code, next))
    (hm : s.meaning h code = .ok current) (stays : ¬(s.after h current).MustWiden h) :
    ∃ u, Represents h (s.after h current) u ∧
      Reaches data h u next (output ++ current.toArray) := by
  rw [← hr.width_eq] at read
  obtain ⟨u, yields, settled⟩ := hr.step_of_ok clear (hr.code_lt_of_read? read) hm
  rw [Textbook.State.settle, if_neg stays] at settled
  exact ⟨u, settled, by simpa [stays] using reached.step read yields⟩

theorem Reaches.visits (reached : Reaches data h t r output) : Visits data h t r := by
  induction reached with
  | start data_eq header => exact .start (by simpa using data_eq) header
  | step _ read done ih => exact .step ih read done

/-- What is left to decode, put behind what was given, is the whole. -/
theorem Reaches.decode_eq (reached : Reaches data h t r output) :
    decode data = (decodeCodes h t r output).map Array.toList := by
  induction reached with
  | start data_eq header => rw [data_eq, decode_of_header header]
  | step _ read done ih => rw [ih, decodeCodes_of_step read done]

theorem Reaches.inGroup (reached : Reaches data h t r output) : r.InGroup t.width := by
  induction reached with
  | start => exact BitReader.inGroup_start _ _
  | @step t r next output code result _ read done ih =>
      have group := ih.read read
      cases skips : result.skip with
      | false => simpa only [skips, Bool.false_eq_true, if_false, width_of_step done skips] using group
      | true => simpa only [skips, if_true] using group.skipGroup result.state.width

theorem Reaches.data_eq (reached : Reaches data h t r output) : r.data = (data.drop 3).toArray := by
  induction reached with
  | start data_eq header =>
      rw [data_eq]
      rfl
  | @step t r next output code result _ read done ih =>
      obtain ⟨same, -⟩ := BitReader.read?_frame read
      split
      · exact same.trans ih
      · exact same.trans ih

theorem Reaches.exists_header (reached : Reaches data h t r output) :
    ∃ flags, Header.ofByte flags = .ok h ∧ data.take 3 = marker ++ [flags] := by
  induction reached with
  | @start flags codes data_eq header => exact ⟨flags, header, by rw [data_eq]; rfl⟩
  | step _ _ _ ih => exact ih

/-- A table that is emptied stands for the bytes alone, whatever is left in it. -/
theorem Represents.emptied {s : Textbook.State} (hr : Represents h s t)
    (hlimit : minWidth ≤ h.limit) {links : Array Nat} {suffixes : Array UInt8}
    (size_links : links.size = t.links.size) (size_suffixes : suffixes.size = t.suffixes.size) :
    Represents h Textbook.State.fresh { t.clear h with links, suffixes } := by
  obtain ⟨known, hknown, -⟩ := hr.held
  refine .fresh ⟨rfl, (DecoderState.holds_start hlimit).next_le, ?_, ?_, by simp, Backward.nil _⟩
    hlimit rfl rfl
  · exact size_links.trans hknown.size_links
  · exact size_suffixes.trans hknown.size_suffixes

/-- From a state that stands for the bytes alone on, decoding is decoding a stream of its own. -/
theorem Represents.decodeCodes_fresh {flags : UInt8} (header : Header.ofByte flags = .ok h)
    (hr : Represents h Textbook.State.fresh t) {codes : Bytes} (slot : r.slot = 0)
    (remaining : r.remaining = bitsOfBytes codes) (output : Array UInt8) :
    (decodeCodes h t r output).map Array.toList =
      (decode (marker ++ [flags] ++ codes)).map (output.toList ++ ·) := by
  have hlimit := Header.minWidth_le header
  rw [decode_of_header header, hr.decodeCodes_eq hlimit slot, remaining,
    (represents_start hlimit).decodeCodes_eq hlimit (r := BitReader.start codes) rfl,
    BitReader.remaining_start]
  cases Textbook.decodeBits h Textbook.State.fresh (bitsOfBytes codes) <;> simp [Except.map]

end

/-- When the table is emptied, decoding goes on at a whole byte, as on a stream that has the same header
and begins there, whatever is left in the tables. -/
theorem decode_restarts {data : Bytes} {h : Header} {t : DecoderState} {r next : BitReader}
    {output : Array UInt8} (block : h.block = true) (reached : Reaches data h t r output)
    (clear : r.read? t.width = some (clearCode, next)) :
    ∃ boundary, (next.skipGroup t.width).position = 8 * boundary ∧
      decode data =
        (decode (data.take 3 ++ data.drop (3 + boundary))).map (output.toList ++ ·) ∧
      ∀ links suffixes, links.size = t.links.size → suffixes.size = t.suffixes.size →
        (decodeCodes h { t.clear h with links, suffixes } (next.skipGroup t.width) output).map
          Array.toList = decode data := by
  obtain ⟨flags, header, head⟩ := reached.exists_header
  obtain ⟨s, hr⟩ := reached.visits.represents
  have hlimit := Header.minWidth_le header
  obtain ⟨boundary, position⟩ := (reached.inGroup.read clear).exists_skipGroup
  have remaining : (next.skipGroup t.width).remaining =
      bitsOfBytes (data.drop (3 + boundary)) := by
    have same : (next.skipGroup t.width).data = (data.drop 3).toArray :=
      (BitReader.read?_frame clear).1.trans reached.data_eq
    rw [BitReader.remaining, position, same, drop_bitsOfBytes, List.drop_drop]
  obtain ⟨emptied, fresh⟩ := hr.step_of_clear hlimit ⟨block, rfl⟩
  have whole : decode data =
      (decode (marker ++ [flags] ++ data.drop (3 + boundary))).map (output.toList ++ ·) := by
    rw [reached.decode_eq, decodeCodes_of_step clear emptied,
      ← fresh.decodeCodes_fresh header rfl remaining output]
    simp
  refine ⟨boundary, position, by rw [head]; exact whole, ?_⟩
  intro links suffixes size_links size_suffixes
  rw [whole]
  exact (hr.emptied hlimit size_links size_suffixes).decodeCodes_fresh header rfl remaining output

/-- A stream whose table is emptied after a code that was only being defined, and which goes on with a
code whose old entry is still in the table. -/
def emptiedStream : Bytes :=
  [0x1F, 0x9D, 0x89, 0x61, 0x02, 0x02, 0xFC, 0xFF, 0x1F, 0x00, 0x00, 0x00, 0x62, 0x02, 0x02]

theorem reaches_emptiedStream : ∃ t r next,
    Reaches emptiedStream ⟨9, true⟩ t r #[0x61, 0x61, 0x61] ∧
      r.read? t.width = some (clearCode, next) ∧ (next.skipGroup t.width).position = 8 * 9 := by
  let codes := emptiedStream.drop 3
  have header : Header.ofByte 0x89 = .ok ⟨9, true⟩ := by decide
  have start := represents_start (Header.minWidth_le header)
  have read : (BitReader.start codes).read? 9 = some (97, ⟨codes.toArray, 9, 1⟩) := by
    decide +kernel
  have read' : BitReader.read? ⟨codes.toArray, 9, 1⟩ 9 = some (257, ⟨codes.toArray, 18, 2⟩) := by
    decide +kernel
  have single : Textbook.State.fresh.meaning ⟨9, true⟩ 97 = .ok [0x61] := by decide
  have double : (Textbook.State.fresh.after ⟨9, true⟩ [0x61]).meaning ⟨9, true⟩ 257 =
      .ok [0x61, 0x61] := by
    decide
  have first : Reaches emptiedStream ⟨9, true⟩ _ (BitReader.start codes) #[] := .start rfl header
  obtain ⟨t, ht, second⟩ := first.step_of_meaning start (by decide) read single (by decide)
  obtain ⟨u, hu, third⟩ := second.step_of_meaning ht (by decide) read' double (by decide)
  have width : u.width = 9 := hu.width_eq
  refine ⟨u, ⟨codes.toArray, 18, 2⟩, ⟨codes.toArray, 27, 3⟩, third, ?_, ?_⟩
  · rw [width]
    decide +kernel
  · rw [width]
    rfl

theorem decode_restarts_emptied : ∃ t r next,
    Reaches emptiedStream ⟨9, true⟩ t r #[0x61, 0x61, 0x61] ∧
      r.read? t.width = some (clearCode, next) ∧ (next.skipGroup t.width).position = 8 * 9 ∧
      decode emptiedStream =
        (decode [0x1F, 0x9D, 0x89, 0x62, 0x02, 0x02]).map ([0x61, 0x61, 0x61] ++ ·) := by
  obtain ⟨t, r, next, reached, clear, position⟩ := reaches_emptiedStream
  obtain ⟨boundary, position', whole, -⟩ := decode_restarts rfl reached clear
  obtain rfl : boundary = 9 := by omega
  exact ⟨t, r, next, reached, clear, position, whole⟩

end Playback.Lzw
