import Mathlib.Data.List.Infix
import Playback.Proofs.Lzw.Refinement
import Playback.Proofs.Lzw.RoundTrip

/-! # Streams that are cut -/

namespace Playback.Lzw

/-! ## Outcomes of a cut -/

/-- Whether an outcome is where another one begins: a fault is the same fault, and bytes are the first
of the bytes, if there are any. -/
def Begins (cut whole : Except Fault Bytes) : Prop :=
  match cut with
  | .error fault => whole = .error fault
  | .ok first => ∀ bytes, whole = .ok bytes → first <+: bytes

namespace Begins

variable {cut whole : Except Fault Bytes}

theorem refl (whole : Except Fault Bytes) : Begins whole whole := by
  cases whole with
  | error fault => exact rfl
  | ok bytes =>
      rintro _ ⟨⟩
      exact List.prefix_rfl

theorem nil (whole : Except Fault Bytes) : Begins (.ok []) whole :=
  fun _ _ => List.nil_prefix

theorem map_append (h : Begins cut whole) (front : Bytes) :
    Begins (cut.map (front ++ ·)) (whole.map (front ++ ·)) := by
  cases cut with
  | error fault =>
      obtain rfl : whole = .error fault := h
      exact rfl
  | ok first =>
      cases whole with
      | error fault => exact nofun
      | ok bytes =>
          rintro _ ⟨⟩
          exact (List.prefix_append_right_inj front).mpr (h bytes rfl)

theorem exists_first (h : Begins cut whole) {bytes : Bytes} (hwhole : whole = .ok bytes) :
    ∃ first, cut = .ok first ∧ first <+: bytes := by
  cases cut with
  | error fault => exact nomatch hwhole.symm.trans h
  | ok first => exact ⟨first, rfl, h bytes hwhole⟩

end Begins

/-! ## Cuts of the bits -/

theorem bitsOfBytes_cut {a b : Bytes} (h : a <+: b) : bitsOfBytes a <+: bitsOfBytes b :=
  h.flatMap BitSource.bitsOf

/-- A code that is there as a whole is there in front of more bits, and it is the same. -/
theorem code_cut {cut whole : List Bool} (h : cut <+: whole) {width : Nat}
    (there : ¬cut.length < width) :
    width ≤ whole.length ∧ whole.take width = cut.take width := by
  obtain ⟨more, rfl⟩ := h
  have there := Nat.not_lt.mp there
  exact ⟨there.trans (by simp), List.take_append_of_le_length there⟩

namespace Textbook

variable {h : Header} {s : State} {bits cut whole : List Bool}

theorem decodeBits_of_clear (there : s.width ≤ bits.length)
    (clear : h.block = true ∧ number (bits.take s.width) = 256) :
    decodeBits h s bits = decodeBits h State.fresh ((bits.drop s.width).drop s.padding) := by
  rw [decodeBits, if_neg (Nat.not_lt.mpr there)]
  exact if_pos clear

theorem decodeBits_of_meaning (there : s.width ≤ bits.length)
    (clear : ¬(h.block = true ∧ number (bits.take s.width) = 256)) :
    decodeBits h s bits =
      match s.meaning h (number (bits.take s.width)) with
      | .error fault => .error fault
      | .ok current => (decodeBits h ((s.after h current).settle h)
          (s.leftAfter h (s.after h current) (bits.drop s.width))).map (current ++ ·) := by
  rw [decodeBits, if_neg (Nat.not_lt.mpr there)]
  exact if_neg clear

theorem State.leftAfter_cut (s next : State) (prefixed : cut <+: whole) :
    s.leftAfter h next cut <+: s.leftAfter h next whole := by
  unfold State.leftAfter
  split
  · exact prefixed.drop s.padding
  · exact prefixed

/-- Bits that are cut decode to the beginning of what all bits decode to. -/
theorem decodeBits_begins (prefixed : cut <+: whole) :
    Begins (decodeBits h s cut) (decodeBits h s whole) := by
  -- The cut has the fewer codes, so the induction is on how it is decoded.
  fun_induction decodeBits h s cut generalizing whole with
  | case1 s cut short => exact Begins.nil _
  | case2 s cut long code rest clear =>
      rename_i ih
      obtain ⟨there, same⟩ := code_cut prefixed long
      rw [decodeBits_of_clear there (by rw [same]; exact clear)]
      exact ih ((prefixed.drop s.width).drop s.padding)
  | case3 s cut long code clear fault =>
      rename_i meaning
      obtain ⟨there, same⟩ := code_cut prefixed long
      rw [decodeBits_of_meaning there (by rw [same]; exact clear), same, meaning]
      exact Begins.refl _
  | case4 s cut long code rest clear current meaning =>
      rename_i next ih
      obtain ⟨there, same⟩ := code_cut prefixed long
      rw [decodeBits_of_meaning there (by rw [same]; exact clear), same, meaning]
      exact (ih (s.leftAfter_cut next (prefixed.drop s.width))).map_append current

theorem decode_begins (a b flags : UInt8) {codes codes' : Bytes} (prefixed : codes <+: codes') :
    Begins (decode (a :: b :: flags :: codes)) (decode (a :: b :: flags :: codes')) := by
  unfold decode
  dsimp only
  split
  · split
    · exact decodeBits_begins (bitsOfBytes_cut prefixed)
    · exact Begins.refl _
  · exact Begins.refl _

end Textbook

/-! ## Cuts of streams -/

theorem decode_take_begins {n : Nat} (header : 3 ≤ n) (data : Bytes) :
    Begins (decode (data.take n)) (decode data) := by
  match data with
  | [] | [_] | [_, _] =>
      rw [List.take_of_length_le (Nat.le_trans (by simp) header)]
      exact Begins.refl _
  | a :: b :: flags :: codes =>
      obtain ⟨n, rfl⟩ := Nat.exists_eq_add_of_le' header
      rw [List.take_succ_cons, List.take_succ_cons, List.take_succ_cons, decode_cons, decode_cons]
      exact Textbook.decode_begins a b flags (List.take_prefix n codes)

end Playback.Lzw

namespace Playback.Coding

section

variable {reading : Nat} {data bytes : Bytes} {fault : CodingFault}

theorem compress_decode_eq_ok_iff :
    (compress reading).decode data = .ok bytes ↔ Lzw.decode data = .ok bytes := by
  cases h : Lzw.decode data <;> simp [compress, h]

theorem compress_decode_eq_error_iff :
    (compress reading).decode data = .error fault ↔
      ∃ reason, Lzw.decode data = .error reason ∧ .corrupt "compress" reason.message = fault := by
  cases h : Lzw.decode data <;> simp [compress, h]

end

/-- What is left of a stream that is cut after its header decodes to the first of the bytes, if the
whole stream decodes to any, and fails only as the whole stream does. What a compressor wrote never
fails, wherever it is cut. -/
theorem decode_take_compress {n : Nat} (header : 3 ≤ n) (reading writing : Nat) (data : Bytes) :
    (∀ bytes, (compress reading).decode data = .ok bytes →
      ∃ first, (compress reading).decode (data.take n) = .ok first ∧ first <+: bytes) ∧
    (∀ fault, (compress reading).decode (data.take n) = .error fault →
      (compress reading).decode data = .error fault) ∧
    ∃ first, (compress reading).decode (((compress writing).encode data).take n) = .ok first ∧
      first <+: data := by
  have begins := Lzw.decode_take_begins header data
  refine ⟨?_, ?_, ?_⟩
  · intro bytes whole
    obtain ⟨first, cut, prefixed⟩ := begins.exists_first (compress_decode_eq_ok_iff.mp whole)
    exact ⟨first, compress_decode_eq_ok_iff.mpr cut, prefixed⟩
  · intro fault cut
    obtain ⟨reason, failed, rfl⟩ := compress_decode_eq_error_iff.mp cut
    rw [failed] at begins
    exact compress_decode_eq_error_iff.mpr ⟨reason, begins, rfl⟩
  · have written := Lzw.decode_take_begins header ((compress writing).encode data)
    obtain ⟨first, cut, prefixed⟩ := written.exists_first (Lzw.decode_encode writing data)
    exact ⟨first, compress_decode_eq_ok_iff.mpr cut, prefixed⟩

/-- Two codes of nine bits make three bytes. With the last byte cut off, there is no second code; and
the code that nothing is defined for is out of range with or without the byte after it. -/
theorem decode_take_compress_inside :
    (∃ first, (compress 9).decode ([0x1F, 0x9D, 0x89, 0x61, 0x02, 0x02].take 5) = .ok first ∧
      first <+: [0x61, 0x61, 0x61]) ∧
    (compress 9).decode [0x1F, 0x9D, 0x89, 0xFF, 0x01, 0x00] =
      .error (.corrupt "compress" "code out of range") := by
  have whole : (compress 9).decode [0x1F, 0x9D, 0x89, 0x61, 0x02, 0x02] =
      .ok [0x61, 0x61, 0x61] := by
    decide +kernel
  have cut : (compress 9).decode ([0x1F, 0x9D, 0x89, 0xFF, 0x01, 0x00].take 5) =
      .error (.corrupt "compress" "code out of range") := by
    decide +kernel
  exact ⟨(decode_take_compress (n := 5) (by decide) 9 9 _).1 _ whole,
    (decode_take_compress (n := 5) (by decide) 9 9 _).2.1 _ cut⟩

end Playback.Coding
