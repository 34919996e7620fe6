import Playback.Coding.Basic
import Playback.Proofs.Lzw.Bits
import Playback.Proofs.Lzw.Strings

/-! # Compressed data reads back -/

namespace Playback.Lzw

/-! ## What the encoder knows -/

namespace EncoderState

/-- Whether codes get wider once the current one is written. -/
def Widens (limit : Nat) (e : EncoderState) : Prop :=
  2 ^ e.width - 1 < e.next ∧ e.width < limit

instance (limit : Nat) (e : EncoderState) : Decidable (e.Widens limit) :=
  inferInstanceAs (Decidable (_ ∧ _))

/-- The current code spells what was matched, the table holds nothing but the links given, and every
code fits the width. -/
structure Sound (limit : Nat) (links : Links) (matched : Bytes) (e : EncoderState) : Prop where
  ready : e.writer.Ready
  width_ge : minWidth ≤ e.width
  width_le : e.width ≤ limit
  next_eq : e.next = firstFree + links.length
  next_le : e.next ≤ 2 ^ e.width
  entry : ∀ parent b code, e.table[(parent, b)]? = some code →
    ∃ i, code = firstFree + i ∧ links[i]? = some (parent, b)
  spells : Spells firstFree links e.current matched

variable {limit : Nat} {links : Links} {matched : Bytes} {e : EncoderState}

theorem Sound.current_lt (he : e.Sound limit links matched) : e.current < 2 ^ e.width := by
  have hnext := he.next_eq
  have hle := he.next_le
  rcases he.spells.byte_or_link with hbyte | hlink
  · calc e.current < 2 ^ minWidth := hbyte.trans (by decide)
      _ ≤ 2 ^ e.width := Nat.pow_le_pow_right (by decide) he.width_ge
  · omega

theorem emit_of_widens (h : e.Widens limit) :
    e.emit limit = { e with writer := (e.writer.write e.current e.width).padGroup e.width
                            width := e.width + 1 } :=
  if_pos h

theorem emit_of_not_widens (h : ¬ e.Widens limit) :
    e.emit limit = { e with writer := e.writer.write e.current e.width } :=
  if_neg h

/-- Writing the current code leaves room for one more link, unless the table is full. -/
theorem Sound.emit (hlimit : limit ≤ maxWidth) (he : e.Sound limit links matched) :
    (e.emit limit).Sound limit links matched ∧
      (e.next < 2 ^ limit → e.next + 1 ≤ 2 ^ (e.emit limit).width) ∧
      ∃ later, (e.emit limit).writer.bits = e.writer.bits ++ later := by
  have hle := he.next_le
  have hpos : 1 < 2 ^ e.width := Nat.one_lt_two_pow (Nat.ne_zero_of_lt he.width_ge)
  have hwidth : e.width ≤ 16 := he.width_le.trans hlimit
  have hready := BitWriter.ready_write he.ready he.current_lt hwidth
  have hbits := BitWriter.bits_write he.ready he.current_lt hwidth
  by_cases h : e.Widens limit
  · rw [emit_of_widens h]
    obtain ⟨hzeros, _, hpadded⟩ := BitWriter.padGroup_spec hready hwidth
    have hpow : 2 ^ (e.width + 1) = 2 * 2 ^ e.width := by rw [Nat.pow_succ, Nat.mul_comm]
    refine ⟨⟨hpadded, he.width_ge.trans (Nat.le_succ _), h.2, he.next_eq, ?_, he.entry, he.spells⟩,
      ?_, _, by rw [hzeros, hbits, List.append_assoc]⟩
    · simp only [hpow]
      omega
    · intro _
      simp only [hpow]
      omega
  · rw [emit_of_not_widens h]
    refine ⟨⟨hready, he.width_ge, he.width_le, he.next_eq, hle, he.entry, he.spells⟩, ?_, _, hbits⟩
    intro hroom
    by_cases hw : e.width < limit
    · have : ¬ 2 ^ e.width - 1 < e.next := fun hfull => h ⟨hfull, hw⟩
      change e.next + 1 ≤ 2 ^ e.width
      omega
    · have : e.width = limit := by have := he.width_le; omega
      rw [← this] at hroom
      exact hroom

/-- The links after the current code is written and a byte follows that its string does not go on
with. -/
def linksAfter (limit : Nat) (e : EncoderState) (links : Links) (b : UInt8) : Links :=
  if e.next < 2 ^ limit then links ++ [(e.current, b)] else links

theorem push_of_some {b : UInt8} {code : Nat} (h : e.table[(e.current, b)]? = some code) :
    e.push limit b = { e with current := code } := by
  simp [push, h]

theorem Sound.push_known (he : e.Sound limit links matched) {b : UInt8} {code : Nat}
    (h : e.table[(e.current, b)]? = some code) :
    (e.push limit b).Sound limit links (matched ++ [b]) := by
  rw [push_of_some h]
  refine ⟨he.ready, he.width_ge, he.width_le, he.next_eq, he.next_le, he.entry, ?_⟩
  obtain ⟨i, rfl, hi⟩ := he.entry e.current b code h
  exact .link hi he.spells

theorem emit_frame (limit : Nat) (e : EncoderState) :
    (e.emit limit).next = e.next ∧ (e.emit limit).table = e.table ∧
      (e.emit limit).current = e.current := by
  unfold EncoderState.emit
  split <;> exact ⟨rfl, rfl, rfl⟩

theorem push_of_room {b : UInt8} (h : e.table[(e.current, b)]? = none) (hroom : e.next < 2 ^ limit) :
    e.push limit b = { e.emit limit with
      table := e.table.insert (e.current, b) e.next, next := e.next + 1, current := b.toNat } := by
  obtain ⟨hnext, htable, _⟩ := emit_frame limit e
  simp only [push, h, hnext, htable, hroom, if_true]

theorem push_of_full {b : UInt8} (h : e.table[(e.current, b)]? = none)
    (hfull : ¬ e.next < 2 ^ limit) :
    e.push limit b = { e.emit limit with current := b.toNat } := by
  obtain ⟨hnext, _, _⟩ := emit_frame limit e
  simp only [push, h, hnext, hfull, if_false]

theorem push_frame {b : UInt8} (h : e.table[(e.current, b)]? = none) :
    (e.push limit b).writer = (e.emit limit).writer ∧
      (e.push limit b).width = (e.emit limit).width ∧ (e.push limit b).current = b.toNat := by
  by_cases hroom : e.next < 2 ^ limit
  · rw [push_of_room h hroom]
    exact ⟨rfl, rfl, rfl⟩
  · rw [push_of_full h hroom]
    exact ⟨rfl, rfl, rfl⟩

theorem Sound.push_unknown (hlimit : limit ≤ maxWidth) (he : e.Sound limit links matched)
    {b : UInt8} (h : e.table[(e.current, b)]? = none) :
    (e.push limit b).Sound limit (e.linksAfter limit links b) [b] := by
  obtain ⟨hemit, hroom, _⟩ := he.emit hlimit
  have hnext := he.next_eq
  by_cases hfree : e.next < 2 ^ limit
  · rw [push_of_room h hfree, linksAfter, if_pos hfree]
    refine ⟨hemit.ready, hemit.width_ge, hemit.width_le, ?_, hroom hfree, ?_, .byte b⟩
    · rw [List.length_append, List.length_singleton, ← Nat.add_assoc, ← hnext]
    · intro parent c code hcode
      rw [Std.HashMap.getElem?_insert] at hcode
      split at hcode
      · rename_i heq
        cases eq_of_beq heq
        cases hcode
        exact ⟨links.length, hnext, by simp⟩
      · obtain ⟨i, rfl, hi⟩ := he.entry parent c code hcode
        refine ⟨i, rfl, ?_⟩
        rwa [List.getElem?_append_left (List.getElem?_eq_some_iff.mp hi).1]
  · rw [push_of_full h hfree, linksAfter, if_neg hfree]
    exact ⟨hemit.ready, hemit.width_ge, hemit.width_le, hemit.next_eq, hemit.next_le, hemit.entry,
      .byte b⟩

theorem Sound.bits_foldl (hlimit : limit ≤ maxWidth) (he : e.Sound limit links matched)
    (rest : Bytes) :
    ((rest.foldl (push limit) e).emit limit).writer.Ready ∧
      ∃ later, ((rest.foldl (push limit) e).emit limit).writer.bits = e.writer.bits ++ later := by
  induction rest generalizing e links matched with
  | nil =>
      obtain ⟨hemit, _, hbits⟩ := he.emit hlimit
      exact ⟨hemit.ready, hbits⟩
  | cons b rest ih =>
      rw [List.foldl_cons]
      cases h : e.table[(e.current, b)]? with
      | some code =>
          have hwriter : (e.push limit b).writer = e.writer := by rw [push_of_some h]
          rw [← hwriter]
          exact ih (he.push_known h)
      | none =>
          obtain ⟨hready, later, hlater⟩ := ih (he.push_unknown hlimit h)
          obtain ⟨_, _, code, hcode⟩ := he.emit hlimit
          refine ⟨hready, code ++ later, ?_⟩
          rw [hlater, (push_frame h).1, hcode, List.append_assoc]

end EncoderState

/-! ## How the decoder trails -/

/-- Once the decoder reads the current code, whose string begins with `b`, it holds the links of the
encoder. -/
structure Trails (limit : Nat) (links : Links) (b : UInt8) (e : EncoderState) (t : DecoderState) :
    Prop where
  width_eq : t.width = e.width
  previous : ∀ parent, t.previous = some parent → parent < t.next
  fresh : t.previous = none → links = []
  held : ∃ known, t.Holds ⟨limit, true⟩ known ∧ t.linksAfter ⟨limit, true⟩ known b = links

variable {limit : Nat} {links : Links} {b : UInt8} {more : Bytes} {e : EncoderState}
  {t : DecoderState}

/-- The decoder finds the matched string, also if its code is only being defined. -/
theorem Trails.output_eq (ht : Trails limit links b e t) (he : e.Sound limit links (b :: more)) :
    t.output e.current = .ok (b, b :: more) := by
  obtain ⟨known, hknown, hlinks⟩ := ht.held
  obtain ⟨extra, hextra⟩ := t.linksAfter_eq_append ⟨limit, true⟩ known b
  have hfree := hknown.firstFree_ge
  have hnext := hknown.next_eq
  have hspells : Spells (Header.firstFree ⟨limit, true⟩) (known ++ extra) e.current (b :: more) := by
    rw [← hextra, hlinks]
    exact he.spells
  by_cases hcode : e.current < t.next
  · obtain ⟨c, hc, hstring⟩ := hknown.string?_eq (hspells.of_append hknown.backward (hnext ▸ hcode))
    cases hc
    have hfirst : ¬ (t.previous.isNone ∧ 256 ≤ e.current) := by
      rintro ⟨hnone, hlarge⟩
      have hempty := ht.fresh (Option.isNone_iff_eq_none.mp hnone)
      have hbyte := he.spells.byte_or_link
      rw [hempty, List.length_nil] at hbyte
      omega
    rw [DecoderState.output, if_pos hcode, if_neg hfirst, hstring]
  · obtain ⟨parent, c, stem, hlink, hstem, hparent⟩ :=
      hspells.of_link hfree (by omega)
    have hlt := (List.getElem?_eq_some_iff.mp hlink).1
    rw [← hextra] at hlink hlt
    cases hp : t.previous with
    | none =>
        simp only [DecoderState.linksAfter, hp] at hlt
        omega
    | some previous =>
        by_cases hroom : t.next < 2 ^ limit
        · simp only [DecoderState.linksAfter, hp, hroom, if_true] at hlink hlt hextra
          have hplace : e.current - Header.firstFree ⟨limit, true⟩ = known.length := by
            simp only [List.length_append, List.length_singleton] at hlt
            omega
          have hcurrent : e.current = t.next := by omega
          rw [hplace, List.getElem?_concat_length] at hlink
          cases hlink
          obtain ⟨d, hd, hstring⟩ := hknown.string?_eq
            (hparent.of_append hknown.backward (hnext ▸ ht.previous _ hp))
          have hbd : b = d := by
            have hhead := congrArg List.head? hstem
            rw [List.head?_append, hd] at hhead
            exact Option.some.inj hhead
          subst hbd
          rw [DecoderState.output, if_neg hcode, if_pos hcurrent, hp]
          simp only [hstring, hstem]
        · simp only [DecoderState.linksAfter, hp, hroom, if_false] at hlt
          omega

theorem Trails.step_eq (ht : Trails limit links b e t) (he : e.Sound limit links (b :: more)) :
    ∃ u : DecoderState,
      step ⟨limit, true⟩ t e.current = .ok ⟨u, decide (e.Widens limit), b :: more⟩ ∧
        u.Holds ⟨limit, true⟩ links ∧ u.previous = some e.current ∧
        u.width = (e.emit limit).width := by
  obtain ⟨known, hknown, hlinks⟩ := ht.held
  have hafter := hknown.after ht.previous e.current b
  rw [hlinks] at hafter
  have hclear : ¬ ((true : Bool) = true ∧ e.current = clearCode) := by
    rintro ⟨_, heq⟩
    rcases he.spells.byte_or_link with hbyte | hlink
    · exact absurd heq (Nat.ne_of_lt hbyte)
    · rw [heq] at hlink
      exact absurd hlink.1 (by decide)
  have hwidth : (t.after ⟨limit, true⟩ e.current b).width = e.width := by
    rw [DecoderState.width_after, ht.width_eq]
  have hnext : (t.after ⟨limit, true⟩ e.current b).next = e.next := by
    rw [hafter.next_eq, he.next_eq]
    rfl
  have hmust : (t.after ⟨limit, true⟩ e.current b).mustWiden ⟨limit, true⟩ =
      decide (e.Widens limit) := by
    rw [Bool.eq_iff_iff, decide_eq_true_iff]
    simp [DecoderState.mustWiden, EncoderState.Widens, hwidth, hnext]
  rw [step_of_output hclear (ht.output_eq he), hmust]
  by_cases h : e.Widens limit
  · simp only [h, decide_true, if_true, EncoderState.emit_of_widens h]
    refine ⟨_, rfl, hafter.of_tables rfl rfl rfl, rfl, ?_⟩
    rw [← hwidth]
    rfl
  · simp only [h, decide_false, Bool.false_eq_true, if_false, EncoderState.emit_of_not_widens h]
    exact ⟨_, rfl, hafter, rfl, hwidth⟩

/-- After a code the decoder trails the encoder that begins a new match with `c`. -/
theorem Trails.restart (he : e.Sound limit links (b :: more)) {u : DecoderState}
    (hu : u.Holds ⟨limit, true⟩ links) (hprevious : u.previous = some e.current)
    (hwidth : u.width = (e.emit limit).width) {c : UInt8}
    (hc : e.table[(e.current, c)]? = none) :
    Trails limit (e.linksAfter limit links c) c (e.push limit c) u := by
  have hnext : u.next = e.next := by
    rw [hu.next_eq, he.next_eq]
    rfl
  refine ⟨by rw [hwidth, (EncoderState.push_frame hc).2.1], ?_, ?_, links, hu, ?_⟩
  · intro parent hparent
    rw [hprevious] at hparent
    cases hparent
    have hlt := he.spells.byte_or_link
    rw [hnext, he.next_eq, firstFree] at *
    omega
  · intro hnone
    rw [hprevious] at hnone
    cases hnone
  · simp only [DecoderState.linksAfter, hprevious, hnext, EncoderState.linksAfter]

/-! ## The same stream of bits -/

/-- If the bits left to a reader are those that the encoder writes from now on, then it reads the
current code, and afterwards the same is true again. -/
theorem EncoderState.Sound.read_emit (hlimit : limit ≤ maxWidth) {matched : Bytes}
    (he : e.Sound limit links matched) {r : BitReader} {later : List Bool}
    (hslot : r.slot = e.writer.slot)
    (hbits : (e.emit limit).writer.bits ++ later = e.writer.bits ++ r.remaining) :
    ∃ next : BitReader, r.read? e.width = some (e.current, next) ∧
      let rest := if decide (e.Widens limit) then next.skipGroup e.width else next
      rest.remaining = later ∧ rest.slot = (e.emit limit).writer.slot := by
  have hwidth : e.width ≤ 16 := he.width_le.trans hlimit
  have hready := BitWriter.ready_write he.ready he.current_lt hwidth
  have hwritten := BitWriter.bits_write he.ready he.current_lt hwidth
  have hwslot := BitWriter.slot_write he.ready he.current_lt hwidth
  have hpos : 0 < e.width := Nat.lt_of_lt_of_le (by decide) he.width_ge
  by_cases h : e.Widens limit
  · rw [EncoderState.emit_of_widens h] at hbits ⊢
    obtain ⟨hzeros, hpadslot, _⟩ := BitWriter.padGroup_spec hready hwidth
    rw [hzeros, hwritten, List.append_assoc, List.append_assoc, List.append_cancel_left_eq] at hbits
    obtain ⟨next, hread, hremaining, hnslot⟩ :=
      BitReader.read?_of_remaining hpos he.current_lt hbits.symm
    refine ⟨next, hread, ?_⟩
    simp only [h, decide_true, if_true, hpadslot]
    refine ⟨BitReader.remaining_skipGroup ?_ hremaining, rfl⟩
    rw [List.length_replicate, hwslot, hnslot, hslot]
  · rw [EncoderState.emit_of_not_widens h] at hbits ⊢
    rw [hwritten, List.append_assoc, List.append_cancel_left_eq] at hbits
    obtain ⟨next, hread, hremaining, hnslot⟩ :=
      BitReader.read?_of_remaining hpos he.current_lt hbits.symm
    refine ⟨next, hread, ?_⟩
    simp only [h, decide_false, Bool.false_eq_true, if_false]
    exact ⟨hremaining, by rw [hnslot, hslot, hwslot]⟩

/-- From states where the decoder trails the encoder on, it yields what was matched and all that the
encoder is still given. -/
theorem Trails.decodeCodes_eq (hlimit : limit ≤ maxWidth) (ht : Trails limit links b e t)
    (he : e.Sound limit links (b :: more)) (rest : Bytes) {r : BitReader} {spare : List Bool}
    (hspare : spare.length < 8) (hslot : r.slot = e.writer.slot)
    (hbits : ((rest.foldl (EncoderState.push limit) e).emit limit).writer.bits ++ spare =
      e.writer.bits ++ r.remaining) (output : Array UInt8) :
    decodeCodes ⟨limit, true⟩ t r output = .ok (output ++ (b :: more ++ rest).toArray) := by
  induction rest generalizing links b more e t r output with
  | nil =>
      obtain ⟨next, hread, hremaining, _⟩ := he.read_emit hlimit hslot hbits
      obtain ⟨u, hstep, _, _, hwidth⟩ := ht.step_eq he
      rw [decodeCodes_of_step (ht.width_eq ▸ hread) hstep, ht.width_eq]
      have hshort : spare.length < u.width := by
        have := (he.emit hlimit).1.width_ge
        rw [hwidth]
        exact hspare.trans_le (Nat.le_trans (by decide) this)
      rw [decodeCodes_of_none (BitReader.read?_eq_none (by rw [hremaining]; exact hshort)),
        List.append_nil]
  | cons c rest ih =>
      rw [List.foldl_cons] at hbits
      cases hc : e.table[(e.current, c)]? with
      | some code =>
          -- The match goes on, so neither bits nor the decoder move.
          rw [EncoderState.push_of_some hc] at hbits
          have hpushed := he.push_known hc
          rw [EncoderState.push_of_some hc] at hpushed
          have htrails : Trails limit links b { e with current := code } t :=
            ⟨ht.width_eq, ht.previous, ht.fresh, ht.held⟩
          rw [ih htrails hpushed hslot hbits]
          simp
      | none =>
          obtain ⟨later, hlater⟩ := ((he.push_unknown hlimit hc).bits_foldl hlimit rest).2
          rw [hlater, (EncoderState.push_frame hc).1, List.append_assoc] at hbits
          obtain ⟨next, hread, hremaining, hnslot⟩ := he.read_emit hlimit hslot hbits
          obtain ⟨u, hstep, hu, hprevious, hwidth⟩ := ht.step_eq he
          rw [decodeCodes_of_step (ht.width_eq ▸ hread) hstep, ht.width_eq,
            ih (Trails.restart he hu hprevious hwidth hc) (he.push_unknown hlimit hc)]
          · simp
          · rw [(EncoderState.push_frame hc).1]
            exact hnslot
          · rw [hlater, hremaining, List.append_assoc]

/-! ## Whole streams -/

theorem clampWidth_bounds (width : Nat) :
    minWidth ≤ clampWidth width ∧ clampWidth width ≤ maxWidth := by
  simp only [clampWidth, minWidth, maxWidth]
  omega

theorem Header.ofByte_clampWidth (width : Nat) :
    Header.ofByte (UInt8.ofNat (0x80 + clampWidth width)) = .ok ⟨clampWidth width, true⟩ := by
  obtain ⟨hmin, hmax⟩ := clampWidth_bounds width
  generalize clampWidth width = limit at *
  have hvalue : (UInt8.ofNat (0x80 + limit)).toNat = 128 + limit := by
    simp only [maxWidth] at hmax
    rw [UInt8.toNat_ofNat']
    omega
  have hlimit : (128 + limit) % 32 = limit := by
    simp only [maxWidth] at hmax
    omega
  have hblock : (0x80 : UInt8) ≤ UInt8.ofNat (0x80 + limit) := by
    rw [UInt8.le_iff_toNat_le, hvalue]
    exact Nat.le_add_right 128 limit
  simp only [Header.ofByte, hvalue, hlimit, hmin, hmax, and_self, if_true, hblock, decide_true]

theorem decode_of_header {flags : UInt8} {h : Header} (hflags : Header.ofByte flags = .ok h)
    (body : Bytes) :
    decode (marker ++ [flags] ++ body) =
      (decodeCodes h (DecoderState.start h) (BitReader.start body) #[]).map Array.toList := by
  simp only [decode, marker, List.cons_append, List.nil_append, if_true, hflags, bind, Except.bind]
  cases decodeCodes h (DecoderState.start h) (BitReader.start body) #[] <;> rfl

theorem sound_start {limit : Nat} (hlimit : minWidth ≤ limit) (header : Bytes) (b : UInt8) :
    EncoderState.Sound limit [] [b]
      ⟨BitWriter.after header, ∅, minWidth, firstFree, b.toNat⟩ :=
  ⟨BitWriter.ready_after header, Nat.le_refl _, hlimit, rfl, (by decide : firstFree ≤ 2 ^ minWidth),
    by simp, .byte b⟩

theorem trails_start {limit : Nat} (hlimit : minWidth ≤ limit) (header : Bytes) (b : UInt8) :
    Trails limit [] b ⟨BitWriter.after header, ∅, minWidth, firstFree, b.toNat⟩
      (DecoderState.start ⟨limit, true⟩) :=
  ⟨rfl, by simp [DecoderState.start], fun _ => rfl, [], DecoderState.holds_start hlimit, rfl⟩

theorem decode_encode (width : Nat) (data : Bytes) : decode (encode width data) = .ok data := by
  obtain ⟨hmin, hmax⟩ := clampWidth_bounds width
  have hflags := Header.ofByte_clampWidth width
  cases data with
  | nil =>
      have hempty : encode width [] =
          marker ++ [UInt8.ofNat (0x80 + clampWidth width)] ++ [] := by
        simp [encode, BitWriter.finish, BitWriter.after]
      have hend : (BitReader.start []).read? (DecoderState.start ⟨clampWidth width, true⟩).width =
          none := rfl
      rw [hempty, decode_of_header hflags, decodeCodes_of_none hend]
      rfl
  | cons b rest =>
      let header := marker ++ [UInt8.ofNat (0x80 + clampWidth width)]
      have he := sound_start hmin header b
      have ht := trails_start hmin header b
      obtain ⟨hready, later, hlater⟩ := he.bits_foldl hmax rest
      obtain ⟨spare, hspare, hfinish⟩ := BitWriter.finish_spec hready
      rw [hlater, BitWriter.bits_after, List.append_assoc] at hfinish
      obtain ⟨body, hbody, hbits⟩ := bitsOfBytes_eq_append hfinish
      have hencode : encode width (b :: rest) = header ++ body := hbody
      have hstream := ht.decodeCodes_eq hmax he rest (r := BitReader.start body) hspare rfl
        (by rw [hlater, BitReader.remaining_start, hbits, List.append_assoc]) #[]
      rw [hencode, decode_of_header hflags, hstream]
      simp [Except.map]

end Playback.Lzw

namespace Playback.Coding

/-- Whatever widths they were set up with, what one compressor writes another reads back. -/
theorem decode_encode_compress (writing reading : Nat) (data : Bytes) :
    (compress reading).decode ((compress writing).encode data) = .ok data := by
  simp only [compress, Lzw.decode_encode]

end Playback.Coding
