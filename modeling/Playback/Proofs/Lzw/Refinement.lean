import Playback.Proofs.Lzw.Strings
import Playback.Proofs.Lzw.Textbook

/-! # Tables in place of strings -/

namespace Playback.Lzw

open Textbook

/-! ## The same codes -/

namespace BitReader

theorem codeAt_eq_number {data : Array UInt8} {position width : Nat}
    (fits : position + width ≤ 8 * data.size) :
    codeAt data position width =
      number (((bitsOfBytes data.toList).drop position).take width) := by
  induction width generalizing position with
  | zero => rfl
  | succ width ih =>
      have inside : position < (bitsOfBytes data.toList).length := by
        rw [length_bitsOfBytes, Array.length_toList]
        omega
      rw [List.drop_eq_getElem_cons inside, List.take_succ_cons, number, codeAt, ih (by omega),
        bit_eq_toNat (List.getElem?_eq_getElem inside)]

variable {r : BitReader} {width : Nat}

theorem read?_eq (h : width ≤ r.remaining.length) (pos : 0 < width) :
    ∃ next : BitReader, r.read? width = some (number (r.remaining.take width), next) ∧
      next.remaining = r.remaining.drop width ∧ next.slot = (r.slot + 1) % groupSize := by
  rw [length_remaining, left] at h
  refine ⟨⟨r.data, r.position + width, (r.slot + 1) % groupSize⟩, ?_, ?_, rfl⟩
  · rw [read?, if_neg (by omega), codeAt_eq_number (by omega)]
    rfl
  · simp only [remaining, List.drop_drop]

theorem remaining_skipGroup_eq (r : BitReader) (width : Nat) :
    (r.skipGroup width).remaining =
      r.remaining.drop ((groupSize - r.slot) % groupSize * width) := by
  simp only [remaining, skipGroup, List.drop_drop]

end BitReader

/-! ## The same strings -/

/-- The tables of one decoder hold the strings of the other. -/
structure Represents (h : Header) (s : State) (t : DecoderState) : Prop where
  width_eq : t.width = s.width
  width_le : s.width ≤ h.limit
  held : ∃ links, t.Holds h links ∧ links.length = s.strings.length ∧
    ∀ code string, s.string? h code = some string → Spells h.firstFree links code string
  previous : t.previous = none ∧ s.previous = none ∧ s.strings = [] ∨
    ∃ code string, t.previous = some code ∧ s.previous = some string ∧
      s.string? h code = some string

namespace Represents

variable {h : Header} {s : State} {t : DecoderState} {code : Nat} {string current : Bytes}

theorem next_eq (hr : Represents h s t) : t.next = s.nextCode h := by
  obtain ⟨links, hlinks, hlength, -⟩ := hr.held
  rw [hlinks.next_eq, hlength]
  rfl

/-- The tables give the string of a code, and its first byte. -/
theorem string?_eq (hr : Represents h s t) (hs : s.string? h code = some string) :
    ∃ b, string.head? = some b ∧ t.string? code = some (b, string) := by
  obtain ⟨links, hlinks, -, hspells⟩ := hr.held
  exact hlinks.string?_eq (hspells code string hs)

theorem output_of_ok (hr : Represents h s t) (hm : s.meaning h code = .ok current) :
    ∃ b, current.head? = some b ∧ t.output code = .ok (b, current) := by
  have hnext := hr.next_eq
  unfold State.meaning at hm
  split at hm
  case h_1 string hs =>
    cases hm
    obtain ⟨b, hb, hstring⟩ := hr.string?_eq hs
    have hlt := State.lt_nextCode_of_string? hs
    have hfirst : ¬ (t.previous.isNone ∧ 256 ≤ code) := by
      rintro ⟨hnone, hge⟩
      rcases hr.previous with ⟨-, -, hempty⟩ | ⟨_, _, hsome, -, -⟩
      · rw [State.string?_of_ge hge, hempty] at hs
        split at hs <;> simp at hs
      · rw [hsome] at hnone
        cases hnone
    exact ⟨b, hb, by rw [DecoderState.output, if_pos (by omega), if_neg hfirst, hstring]⟩
  case h_2 hs =>
    split at hm
    case isFalse => cases hm
    case isTrue heq =>
      rcases hr.previous with ⟨-, hnone, -⟩ | ⟨last, string, htp, hsp, hstring⟩
      · rw [hnone] at hm
        cases hm
      · rw [hsp] at hm
        cases hm
        obtain ⟨b, hb, hlast⟩ := hr.string?_eq hstring
        have hfirst : string.take 1 = [b] := by
          cases string with
          | nil => cases hb
          | cons c rest =>
              cases hb
              rfl
        refine ⟨b, by rw [List.head?_append, hb]; rfl, ?_⟩
        rw [DecoderState.output, if_neg (by omega), if_pos (by omega), htp]
        simp only [hlast, hfirst]

theorem output_of_error (hr : Represents h s t) (hclear : ¬ (h.block = true ∧ code = 256))
    {fault : Fault} (hm : s.meaning h code = .error fault) : t.output code = .error fault := by
  have hnext := hr.next_eq
  unfold State.meaning at hm
  split at hm
  case h_1 => cases hm
  case h_2 hs =>
    have hlate := State.nextCode_le_of_string? hclear hs
    split at hm
    case isFalse hne =>
      cases hm
      rw [DecoderState.output, if_neg (by omega), if_neg (by omega)]
    case isTrue heq =>
      rcases hr.previous with ⟨htp, hsp, -⟩ | ⟨_, _, -, hsp, -⟩
      · rw [hsp] at hm
        cases hm
        rw [DecoderState.output, if_neg (by omega), if_pos (by omega), htp]
      · rw [hsp] at hm
        cases hm

/-! ## One code -/

/-- After a code, the tables hold one link more if the textbook keeps one string more. -/
theorem after (hr : Represents h s t) (hcode : code < 2 ^ h.limit)
    (hm : s.meaning h code = .ok current) {b : UInt8} (hb : current.head? = some b) :
    Represents h (s.after h current) (t.after h code b) := by
  have hnext := hr.next_eq
  have hfirst := State.take_one hb
  have hlast : ∀ parent, t.previous = some parent → parent < t.next := by
    intro parent hp
    rcases hr.previous with ⟨hnone, -, -⟩ | ⟨last, string, htp, -, hs⟩
    · rw [hnone] at hp
      cases hp
    · rw [htp] at hp
      cases hp
      exact hnext ▸ State.lt_nextCode_of_string? hs
  obtain ⟨links, hlinks, hlength, hspells⟩ := hr.held
  refine ⟨by rw [DecoderState.width_after, hr.width_eq]; rfl, hr.width_le,
    ⟨t.linksAfter h links b, hlinks.after hlast code b, ?_⟩, .inr ⟨code, current, rfl, rfl, ?_⟩⟩
  · rcases hr.previous with ⟨htp, hsp, -⟩ | ⟨last, string, htp, hsp, hs⟩
    · have same : (s.after h current).strings = s.strings := State.strings_after_of_none hsp
      simp only [DecoderState.linksAfter, htp, same, State.string?_congr same]
      exact ⟨hlength, hspells⟩
    · by_cases hroom : t.next < 2 ^ h.limit
      · have more : (s.after h current).strings = s.strings ++ [string ++ current.take 1] :=
          State.strings_after_of_room hsp (hnext ▸ hroom)
        simp only [DecoderState.linksAfter, htp, hroom, if_true, more, List.length_append,
          List.length_singleton, hlength, true_and]
        intro c string' hc
        rcases (State.string?_eq_some_of_concat more).mp hc with hold | ⟨rfl, rfl⟩
        · exact (hspells c string' hold).append _
        · have hplace : s.nextCode h = h.firstFree + links.length := by
            rw [hlength]
            rfl
          rw [hplace, hfirst]
          exact .link (by simp) ((hspells last string hs).append _)
      · have same : (s.after h current).strings = s.strings :=
          State.strings_after_of_full (hnext ▸ hroom)
        simp only [DecoderState.linksAfter, htp, hroom, if_false, same, State.string?_congr same]
        exact ⟨hlength, hspells⟩
  · refine State.string?_after_self hm hcode ?_
    rintro rfl
    cases hb

theorem mustWiden_eq (hr : Represents h s t) : t.mustWiden h = decide (s.MustWiden h) := by
  have hpos := Nat.two_pow_pos s.width
  rw [Bool.eq_iff_iff, decide_eq_true_iff]
  simp only [DecoderState.mustWiden, State.MustWiden, hr.width_eq, hr.next_eq, Bool.and_eq_true,
    decide_eq_true_eq]
  omega

theorem settle (hr : Represents h s t) :
    Represents h (s.settle h) (if s.MustWiden h then { t with extra := t.extra + 1 } else t) := by
  unfold State.settle
  by_cases hwiden : s.MustWiden h
  · rw [if_pos hwiden, if_pos hwiden]
    obtain ⟨links, hlinks, hlength, hspells⟩ := hr.held
    exact ⟨congrArg (· + 1) hr.width_eq, hwiden.2,
      ⟨links, hlinks.of_tables rfl rfl rfl, hlength, hspells⟩, hr.previous⟩
  · rw [if_neg hwiden, if_neg hwiden]
    exact hr

theorem fresh (hlinks : t.Holds h []) (hlimit : minWidth ≤ h.limit) (hextra : t.extra = 0)
    (hprevious : t.previous = none) : Represents h State.fresh t := by
  refine ⟨by rw [DecoderState.width, hextra]; rfl, hlimit, ⟨[], hlinks, rfl, ?_⟩,
    .inl ⟨hprevious, rfl, rfl⟩⟩
  intro code string hs
  by_cases hcode : code < 256
  · rw [State.string?_of_lt hcode] at hs
    cases hs
    have hvalue : (UInt8.ofNat code).toNat = code := by
      rw [UInt8.toNat_ofNat']
      omega
    have hbyte : Spells h.firstFree [] (UInt8.ofNat code).toNat [UInt8.ofNat code] := .byte _
    rwa [hvalue] at hbyte
  · rw [State.string?_of_ge (Nat.not_lt.mp hcode)] at hs
    split at hs <;> simp [State.fresh] at hs

/-- Emptying the table leaves rubbish behind, but no links. -/
theorem clear (hr : Represents h s t) (hlimit : minWidth ≤ h.limit) :
    Represents h State.fresh (t.clear h) := by
  obtain ⟨links, hlinks, -, -⟩ := hr.held
  have hstart := DecoderState.holds_start hlimit
  refine fresh ⟨rfl, hstart.next_le, hlinks.size_links, hlinks.size_suffixes, by simp,
    Backward.nil _⟩ hlimit rfl rfl

theorem step_of_ok (hr : Represents h s t) (hclear : ¬ (h.block = true ∧ code = 256))
    (hcode : code < 2 ^ h.limit) (hm : s.meaning h code = .ok current) :
    ∃ u : DecoderState,
      step h t code = .ok ⟨u, decide ((s.after h current).MustWiden h), current⟩ ∧
        Represents h ((s.after h current).settle h) u := by
  obtain ⟨b, hb, hout⟩ := hr.output_of_ok hm
  have hafter := hr.after hcode hm hb
  have hsettle := hafter.settle
  rw [step_of_output hclear hout, hafter.mustWiden_eq]
  by_cases hwiden : (s.after h current).MustWiden h
  · rw [if_pos hwiden] at hsettle
    simp only [hwiden, decide_true, if_true]
    exact ⟨_, rfl, hsettle⟩
  · rw [if_neg hwiden] at hsettle
    simp only [hwiden, decide_false, Bool.false_eq_true, if_false]
    exact ⟨_, rfl, hsettle⟩

theorem step_of_error (hr : Represents h s t) (hclear : ¬ (h.block = true ∧ code = 256))
    {fault : Fault} (hm : s.meaning h code = .error fault) : step h t code = .error fault := by
  have hcode : ¬ (h.block = true ∧ code = clearCode) := hclear
  rw [step, if_neg hcode, hr.output_of_error hclear hm]
  rfl

theorem step_of_clear (hr : Represents h s t) (hlimit : minWidth ≤ h.limit)
    (hclear : h.block = true ∧ code = 256) :
    step h t code = .ok ⟨t.clear h, true, []⟩ ∧ Represents h State.fresh (t.clear h) :=
  ⟨if_pos hclear, hr.clear hlimit⟩

end Represents

/-! ## Whole streams -/

theorem Represents.code_lt {h : Header} {s : State} {t : DecoderState} (hr : Represents h s t)
    (bits : List Bool) : number (bits.take s.width) < 2 ^ h.limit :=
  calc number (bits.take s.width) < 2 ^ (bits.take s.width).length := number_lt _
    _ ≤ 2 ^ h.limit := Nat.pow_le_pow_right (by decide) ((List.length_take_le _ _).trans hr.width_le)

theorem Represents.read {h : Header} {s : State} {t : DecoderState} (hr : Represents h s t)
    {r : BitReader} (hslot : r.slot = s.taken % groupSize)
    (hlong : ¬ r.remaining.length < s.width) :
    ∃ next : BitReader, r.read? t.width = some (number (r.remaining.take s.width), next) ∧
      next.remaining = r.remaining.drop s.width ∧ next.slot = (s.taken + 1) % groupSize ∧
      (next.skipGroup t.width).remaining = (r.remaining.drop s.width).drop s.padding := by
  obtain ⟨next, hread, hremaining, hnext⟩ :=
    BitReader.read?_eq (Nat.not_lt.mp hlong) s.width_pos
  have hslot' : next.slot = (s.taken + 1) % groupSize := by
    rw [hnext, hslot, Nat.mod_add_mod]
  refine ⟨next, hr.width_eq ▸ hread, hremaining, hslot', ?_⟩
  rw [BitReader.remaining_skipGroup_eq, hremaining, hslot', hr.width_eq]
  rfl

theorem decodeCodes_of_error {h : Header} {t : DecoderState} {r next : BitReader} {code : Nat}
    {fault : Fault} (hread : r.read? t.width = some (code, next))
    (hstep : step h t code = .error fault) (output : Array UInt8) :
    decodeCodes h t r output = .error fault := by
  rw [decodeCodes]
  split
  · simp_all
  · rename_i hsome
    rw [hread] at hsome
    cases hsome
    simp only [hstep]

/-- From states that stand for each other on, both decoders give the same. -/
theorem Represents.decodeCodes_eq {h : Header} {s : State} {t : DecoderState}
    (hr : Represents h s t) (hlimit : minWidth ≤ h.limit) {r : BitReader}
    (hslot : r.slot = s.taken % groupSize) (output : Array UInt8) :
    decodeCodes h t r output =
      (decodeBits h s r.remaining).map fun bytes => output ++ bytes.toArray := by
  generalize hbits : r.remaining = bits
  fun_induction decodeBits h s bits generalizing t r output with
  | case1 s bits hshort =>
      have hend : r.read? t.width = none :=
        BitReader.read?_eq_none (by rw [hbits, hr.width_eq]; exact hshort)
      rw [decodeCodes_of_none hend]
      simp [Except.map]
  | case2 s bits hlong code rest hclear =>
      rename_i ih
      subst hbits
      obtain ⟨next, hread, -, -, hskipped⟩ := hr.read hslot hlong
      obtain ⟨hstep, hfresh⟩ := hr.step_of_clear hlimit hclear
      rw [decodeCodes_of_step hread hstep]
      simpa using ih hfresh rfl output hskipped
  | case3 s bits hlong code hclear fault =>
      rename_i hm
      subst hbits
      obtain ⟨next, hread, -⟩ := hr.read hslot hlong
      rw [decodeCodes_of_error hread (hr.step_of_error hclear hm)]
      rfl
  | case4 s bits hlong code rest hclear current hm =>
      rename_i next ih
      subst hbits
      obtain ⟨reader, hread, hremaining, hreader, hskipped⟩ := hr.read hslot hlong
      obtain ⟨u, hstep, hsettled⟩ := hr.step_of_ok hclear (hr.code_lt _) hm
      rw [decodeCodes_of_step hread hstep]
      have hplace : (if decide (next.MustWiden h) then reader.skipGroup t.width
            else reader).slot = (next.settle h).taken % groupSize ∧
          (if decide (next.MustWiden h) then reader.skipGroup t.width
            else reader).remaining = s.leftAfter h next rest := by
        unfold State.settle State.leftAfter
        by_cases hwiden : next.MustWiden h
        · simp only [hwiden, decide_true, if_true]
          exact ⟨rfl, hskipped⟩
        · simp only [hwiden, decide_false, Bool.false_eq_true, if_false]
          exact ⟨hreader, hremaining⟩
      rw [ih hsettled hplace.1 _ hplace.2]
      cases decodeBits h (next.settle h) (s.leftAfter h next rest) <;> simp [Except.map]

theorem Header.ofByte_eq (flags : UInt8) :
    Header.ofByte flags =
      if 9 ≤ flags.toNat % 32 ∧ flags.toNat % 32 ≤ 16 then
        .ok ⟨flags.toNat % 32, flags.toNat.testBit 7⟩
      else .error .unsupportedWidth := by
  have hblock : decide (0x80 ≤ flags) = flags.toNat.testBit 7 := by
    have := flags.toNat_lt
    rw [Nat.testBit_eq_decide_div_mod_eq, decide_eq_decide, UInt8.le_iff_toNat_le,
      show (0x80 : UInt8).toNat = 128 from rfl]
    omega
  rw [← hblock]
  rfl

theorem Header.minWidth_le {flags : UInt8} {h : Header} (hflags : Header.ofByte flags = .ok h) :
    minWidth ≤ h.limit := by
  rw [Header.ofByte_eq] at hflags
  split at hflags
  case isTrue hlimit =>
    cases hflags
    exact hlimit.1
  case isFalse => cases hflags

theorem represents_start {h : Header} (hlimit : minWidth ≤ h.limit) :
    Represents h State.fresh (DecoderState.start h) :=
  .fresh (DecoderState.holds_start hlimit) hlimit rfl rfl

theorem decode_cons (a b flags : UInt8) (rest : Bytes) :
    decode (a :: b :: flags :: rest) = Textbook.decode (a :: b :: flags :: rest) := by
  have hmarker : ([a, b] = marker) = (a = 0x1F ∧ b = 0x9D) := by
    simp [marker]
  simp only [decode, Textbook.decode, hmarker, Header.ofByte_eq]
  by_cases hmark : a = 0x1F ∧ b = 0x9D
  · rw [if_pos hmark, if_pos hmark]
    by_cases hlimit : 9 ≤ flags.toNat % 32 ∧ flags.toNat % 32 ≤ 16
    · have hstart := represents_start (h := ⟨flags.toNat % 32, flags.toNat.testBit 7⟩) hlimit.1
      rw [if_pos hlimit, if_pos hlimit]
      simp only [bind, Except.bind]
      rw [hstart.decodeCodes_eq hlimit.1 (r := BitReader.start rest) rfl, BitReader.remaining_start]
      cases decodeBits ⟨flags.toNat % 32, flags.toNat.testBit 7⟩ State.fresh (bitsOfBytes rest) <;>
        simp [Except.map]
    · rw [if_neg hlimit, if_neg hlimit]
      rfl
  · rw [if_neg hmark, if_neg hmark]

/-! ## Places in the tables -/

/-- Where decoding comes to on its way through the codes of a stream. -/
inductive Visits (data : Bytes) (h : Header) : DecoderState → BitReader → Prop where
  | start {flags : UInt8} {codes : Bytes} (data_eq : data = marker ++ flags :: codes)
      (header : Header.ofByte flags = .ok h) :
      Visits data h (DecoderState.start h) (BitReader.start codes)
  | step {t : DecoderState} {r next : BitReader} {code : Nat} {result : Step}
      (visited : Visits data h t r) (read : r.read? t.width = some (code, next))
      (done : Lzw.step h t code = .ok result) :
      Visits data h result.state (if result.skip then next.skipGroup t.width else next)

/-- Nothing that the next code asks for lies outside the stream or the tables. Both tables have a
place for every code that fits the largest width, so also for the one that is defined next if the
table is not full. -/
structure InBounds (h : Header) (t : DecoderState) (r : BitReader) : Prop where
  size_links : t.links.size = 2 ^ h.limit
  size_suffixes : t.suffixes.size = 2 ^ h.limit
  bit_lt : ∀ code next, r.read? t.width = some (code, next) →
    ∀ i < t.width, (r.position + i) / 8 < r.data.size
  walk : ∀ code next, r.read? t.width = some (code, next) → step h t code ≠ .error .brokenTable
  spelt : ∀ code next b bytes, r.read? t.width = some (code, next) →
    ¬ (h.block = true ∧ code = clearCode) → t.output code = .ok (b, bytes) → bytes.head? = some b

section Visits

variable {data : Bytes} {h : Header} {s : State} {t : DecoderState} {r next : BitReader} {code : Nat}

theorem Represents.code_lt_of_read? (hr : Represents h s t)
    (hread : r.read? t.width = some (code, next)) : code < 2 ^ h.limit := by
  by_cases hlong : r.remaining.length < t.width
  · rw [BitReader.read?_eq_none hlong] at hread
    cases hread
  · rw [hr.width_eq] at hread hlong
    obtain ⟨_, hsame, -⟩ := BitReader.read?_eq (Nat.not_lt.mp hlong) s.width_pos
    rw [hsame] at hread
    cases hread
    exact hr.code_lt _

/-- A code leads on to a state of the textbook, or to a fault that the textbook knows. -/
theorem Represents.step_cases (hr : Represents h s t) (hlimit : minWidth ≤ h.limit)
    (hcode : code < 2 ^ h.limit) :
    (∃ result s', step h t code = .ok result ∧ Represents h s' result.state) ∨
      ∃ fault, fault ≠ .brokenTable ∧ step h t code = .error fault := by
  by_cases hclear : h.block = true ∧ code = 256
  · obtain ⟨hstep, hfresh⟩ := hr.step_of_clear hlimit hclear
    exact .inl ⟨_, _, hstep, hfresh⟩
  · cases hm : s.meaning h code with
    | error fault =>
        refine .inr ⟨fault, ?_, hr.step_of_error hclear hm⟩
        rintro rfl
        exact State.meaning_ne_brokenTable h s code hm
    | ok current =>
        obtain ⟨u, hstep, hsettled⟩ := hr.step_of_ok hclear hcode hm
        exact .inl ⟨_, _, hstep, hsettled⟩

theorem Visits.minWidth_le (visits : Visits data h t r) : minWidth ≤ h.limit := by
  induction visits with
  | start _ header => exact Header.minWidth_le header
  | step _ _ _ ih => exact ih

theorem Visits.represents (visits : Visits data h t r) : ∃ s, Represents h s t := by
  have hlimit := visits.minWidth_le
  induction visits with
  | start => exact ⟨_, represents_start hlimit⟩
  | step _ hread hdone ih =>
      obtain ⟨s, hr⟩ := ih
      rcases hr.step_cases hlimit (hr.code_lt_of_read? hread) with
        ⟨result, s', hstep, hrepresents⟩ | ⟨fault, -, hstep⟩
      · rw [hstep] at hdone
        cases hdone
        exact ⟨s', hrepresents⟩
      · rw [hstep] at hdone
        cases hdone

theorem Visits.inBounds (visits : Visits data h t r) : InBounds h t r := by
  have hlimit := visits.minWidth_le
  obtain ⟨s, hr⟩ := visits.represents
  obtain ⟨links, hlinks, -, -⟩ := hr.held
  refine ⟨hlinks.size_links, hlinks.size_suffixes, ?_, ?_, ?_⟩
  · intro code next hread i hi
    unfold BitReader.read? at hread
    split at hread
    · cases hread
    · omega
  · intro code next hread
    rcases hr.step_cases hlimit (hr.code_lt_of_read? hread) with
      ⟨result, s', hstep, -⟩ | ⟨fault, hfault, hstep⟩
    · rw [hstep]
      simp
    · rw [hstep]
      simpa using hfault
  · intro code next b bytes hread hclear hout
    cases hm : s.meaning h code with
    | error fault =>
        rw [hr.output_of_error hclear hm] at hout
        cases hout
    | ok current =>
        obtain ⟨c, hc, hsame⟩ := hr.output_of_ok hm
        rw [hsame] at hout
        cases hout
        exact hc

end Visits

/-- For every byte string, the decoder with tables gives the bytes or the fault of the decoder by the
book, and on its way it never asks for a place outside the stream or its tables. -/
theorem decode_eq_textbook (data : Bytes) :
    decode data = Textbook.decode data ∧ decode data ≠ .error .brokenTable ∧
      ∀ h t r, Visits data h t r → InBounds h t r := by
  have same : decode data = Textbook.decode data := by
    match data with
    | [] | [_] | [_, _] => rfl
    | a :: b :: flags :: rest => exact decode_cons a b flags rest
  exact ⟨same, same ▸ Textbook.decode_ne_brokenTable data, fun _ _ _ visits => visits.inBounds⟩

/-- A stream of two codes, of which the second is only being defined when it is read. -/
theorem decode_eq_textbook_twice :
    let data : Bytes := [0x1F, 0x9D, 0x90, 0x61, 0x02, 0x02]
    decode data = .ok [0x61, 0x61, 0x61] ∧
      InBounds ⟨16, true⟩ (DecoderState.start ⟨16, true⟩) (BitReader.start [0x61, 0x02, 0x02]) := by
  have byTheBook : Textbook.decode [0x1F, 0x9D, 0x90, 0x61, 0x02, 0x02] =
      .ok [0x61, 0x61, 0x61] := by
    decide +kernel
  obtain ⟨same, -, bounds⟩ := decode_eq_textbook [0x1F, 0x9D, 0x90, 0x61, 0x02, 0x02]
  have header : Header.ofByte 0x90 = .ok ⟨16, true⟩ := by
    decide
  exact ⟨same.trans byTheBook, bounds _ _ _ (.start rfl header)⟩

end Playback.Lzw
