import Playback.Coding.Lzw.Decoder
import Playback.Proofs.Lzw.Bits
import Playback.Proofs.Lzw.Strings

/-! # A decoder by the book -/

namespace Playback.Lzw.Textbook

/-- Where decoding stands: the strings that were given codes, in order, the string before, how often
codes have widened, and how many codes were taken since they last did. -/
structure State where
  strings : List Bytes
  previous : Option Bytes
  widened : Nat
  taken : Nat

namespace State

/-- The state at the start, and after the table has been emptied. -/
def fresh : State := ⟨[], none, 0, 0⟩

/-- Codes have nine bits to begin with. -/
def width (s : State) : Nat :=
  9 + s.widened

theorem width_pos (s : State) : 0 < s.width :=
  Nat.lt_of_lt_of_le (by decide) (Nat.le_add_right 9 s.widened)

/-- The code that the first string is given: in block mode, 256 is taken by the code that empties the
table. -/
def firstCode (h : Header) : Nat :=
  if h.block then 257 else 256

/-- The code that the next string will be given. -/
def nextCode (h : Header) (s : State) : Nat :=
  firstCode h + s.strings.length

/-- The string of a code, if it has one: codes below 256 are bytes. -/
def string? (h : Header) (s : State) (code : Nat) : Option Bytes :=
  if code < 256 then some [UInt8.ofNat code]
  else if firstCode h ≤ code then s.strings[code - firstCode h]?
  else none

/-- What a code stands for when it is read. The code that comes next stands for the string before and
its first byte once more. -/
def meaning (h : Header) (s : State) (code : Nat) : Except Fault Bytes :=
  match s.string? h code with
  | some string => .ok string
  | none =>
    if code = s.nextCode h then
      match s.previous with
      | some previous => .ok (previous ++ previous.take 1)
      | none => .error .invalidFirstCode
    else .error .codeOutOfRange

/-- The strings after one that stands for a code is read: one more, the string before and the first
byte of this one, if there is a string before and room for one more. -/
def stringsAfter (h : Header) (s : State) (current : Bytes) : List Bytes :=
  match s.previous with
  | some previous =>
    if s.nextCode h < 2 ^ h.limit then s.strings ++ [previous ++ current.take 1] else s.strings
  | none => s.strings

/-- The state after a string is read. -/
def after (h : Header) (s : State) (current : Bytes) : State :=
  ⟨s.stringsAfter h current, some current, s.widened, s.taken + 1⟩

/-- Whether the next code does not fit the width any more, and may have a bit more. -/
def MustWiden (h : Header) (s : State) : Prop :=
  2 ^ s.width ≤ s.nextCode h ∧ s.width < h.limit

instance (h : Header) (s : State) : Decidable (s.MustWiden h) :=
  inferInstanceAs (Decidable (_ ∧ _))

/-- The state in which the next code is read: codes have a bit more if they must. -/
def settle (h : Header) (s : State) : State :=
  if s.MustWiden h then { s with widened := s.widened + 1, taken := 0 } else s

/-- The number of bits that fill the group of eight codes up, counted after the next code. -/
def padding (s : State) : Nat :=
  (8 - (s.taken + 1) % 8) % 8 * s.width

/-- The bits left after the next code has led to `next`: the rest of its group is dropped when codes
widen. -/
def leftAfter (h : Header) (s next : State) (bits : List Bool) : List Bool :=
  if next.MustWiden h then bits.drop s.padding else bits

theorem length_leftAfter_le (h : Header) (s next : State) (bits : List Bool) :
    (s.leftAfter h next bits).length ≤ bits.length := by
  unfold leftAfter
  split <;> simp

end State

/-- The number that bits spell, the lowest first. -/
def number : List Bool → Nat
  | [] => 0
  | b :: bits => b.toNat + 2 * number bits

/-- Takes codes off bits as long as there are enough for one. The rest of a group is dropped when the
table is emptied and when codes widen. -/
def decodeBits (h : Header) (s : State) (bits : List Bool) : Except Fault Bytes :=
  if bits.length < s.width then .ok []
  else
    let code := number (bits.take s.width)
    let rest := bits.drop s.width
    if h.block ∧ code = 256 then decodeBits h State.fresh (rest.drop s.padding)
    else
      match s.meaning h code with
      | .error fault => .error fault
      | .ok current =>
        let next := s.after h current
        (decodeBits h (next.settle h) (s.leftAfter h next rest)).map (current ++ ·)
termination_by bits.length
decreasing_by
  all_goals
    have := s.width_pos
    grind [State.length_leftAfter_le]

/-- Decodes a stream: two bytes as a mark, a byte with the largest width and the mode, and codes. -/
def decode (data : Bytes) : Except Fault Bytes :=
  match data with
  | a :: b :: flags :: rest =>
    if a = 0x1F ∧ b = 0x9D then
      let limit := flags.toNat % 32
      if 9 ≤ limit ∧ limit ≤ 16 then
        decodeBits ⟨limit, flags.toNat.testBit 7⟩ State.fresh (bitsOfBytes rest)
      else .error .unsupportedWidth
    else .error .missingMarker
  | _ => .error .missingMarker

/-! ## Strings and their codes -/

namespace State

variable {h : Header} {s : State} {code : Nat} {string : Bytes}

theorem string?_of_lt (hcode : code < 256) : s.string? h code = some [UInt8.ofNat code] :=
  if_pos hcode

theorem string?_of_ge (hcode : 256 ≤ code) :
    s.string? h code = if firstCode h ≤ code then s.strings[code - firstCode h]? else none :=
  if_neg (Nat.not_lt.mpr hcode)

theorem firstCode_ge (h : Header) : 256 ≤ firstCode h := by
  unfold firstCode
  split <;> decide

theorem lt_nextCode_of_string? (hs : s.string? h code = some string) : code < s.nextCode h := by
  have hfirst := firstCode_ge h
  unfold nextCode
  by_cases hcode : code < 256
  · omega
  · rw [string?_of_ge (Nat.not_lt.mp hcode)] at hs
    split at hs
    case isTrue hle =>
      have := (List.getElem?_eq_some_iff.mp hs).1
      omega
    case isFalse => cases hs

/-- A code without a string comes next or later, unless it is the one that empties the table. -/
theorem nextCode_le_of_string? (hclear : ¬ (h.block = true ∧ code = 256))
    (hs : s.string? h code = none) : 256 ≤ code ∧ s.nextCode h ≤ code := by
  by_cases hcode : code < 256
  · rw [string?_of_lt hcode] at hs
    cases hs
  · have hge := Nat.not_lt.mp hcode
    refine ⟨hge, ?_⟩
    rw [string?_of_ge hge] at hs
    split at hs
    case isTrue hle =>
      have := List.getElem?_eq_none_iff.mp hs
      unfold nextCode
      omega
    case isFalse hlt =>
      unfold firstCode at hlt
      cases hblock : h.block with
      | false => simp only [hblock, Bool.false_eq_true, if_false] at hlt; omega
      | true =>
          simp only [hblock, if_true] at hlt
          exact absurd ⟨hblock, by omega⟩ hclear

theorem string?_eq_some_of_concat {u : State} {more : Bytes} (hu : u.strings = s.strings ++ [more]) :
    u.string? h code = some string ↔
      s.string? h code = some string ∨ code = s.nextCode h ∧ more = string := by
  have hfirst := firstCode_ge h
  by_cases hcode : code < 256
  · have hne : code ≠ s.nextCode h := by
      unfold nextCode
      omega
    simp only [string?_of_lt hcode, hne, false_and, or_false]
  · have hge := Nat.not_lt.mp hcode
    rw [string?_of_ge hge, string?_of_ge hge, hu]
    by_cases hle : firstCode h ≤ code
    · simp only [hle, if_true]
      rw [getElem?_concat_eq_some]
      unfold nextCode
      exact or_congr_right (and_congr_left fun _ => by omega)
    · have hne : code ≠ s.nextCode h := by
        unfold nextCode
        omega
      simp only [hle, if_false, hne, false_and, or_false]

theorem take_one {b : UInt8} (hb : string.head? = some b) : string.take 1 = [b] := by
  cases string with
  | nil => cases hb
  | cons c rest =>
      cases hb
      rfl

theorem string?_congr {u : State} (hu : u.strings = s.strings) :
    u.string? h code = s.string? h code := by
  unfold string?
  rw [hu]

theorem strings_after_of_room {previous current : Bytes} (hp : s.previous = some previous)
    (hroom : s.nextCode h < 2 ^ h.limit) :
    (s.after h current).strings = s.strings ++ [previous ++ current.take 1] := by
  simp only [after, stringsAfter, hp, hroom, if_true]

theorem strings_after_of_full {current : Bytes} (hfull : ¬ s.nextCode h < 2 ^ h.limit) :
    (s.after h current).strings = s.strings := by
  simp only [after, stringsAfter]
  split
  · exact if_neg hfull
  · rfl

theorem strings_after_of_none {current : Bytes} (hp : s.previous = none) :
    (s.after h current).strings = s.strings := by
  simp only [after, stringsAfter, hp]

theorem string?_after (current : Bytes) (hs : s.string? h code = some string) :
    (s.after h current).string? h code = some string := by
  cases hp : s.previous with
  | none => rwa [string?_congr (strings_after_of_none hp)]
  | some previous =>
      by_cases hroom : s.nextCode h < 2 ^ h.limit
      · exact (string?_eq_some_of_concat (strings_after_of_room hp hroom)).mpr (.inl hs)
      · rwa [string?_congr (strings_after_of_full hroom)]

/-- Once a code is read, it has the string that it stands for, also if it was the next one. -/
theorem string?_after_self {current : Bytes} (hm : s.meaning h code = .ok current)
    (hcode : code < 2 ^ h.limit) (hcurrent : current ≠ []) :
    (s.after h current).string? h code = some current := by
  unfold meaning at hm
  split at hm
  case h_1 string hs =>
    cases hm
    exact string?_after current hs
  case h_2 =>
    split at hm
    case isFalse => cases hm
    case isTrue heq =>
      split at hm
      case h_2 => cases hm
      case h_1 previous hp =>
        cases hm
        have hprevious : previous ≠ [] := by
          rintro rfl
          exact hcurrent rfl
        have first : (previous ++ previous.take 1).take 1 = previous.take 1 :=
          List.take_append_of_le_length (List.length_pos_iff.mpr hprevious)
        exact (string?_eq_some_of_concat (strings_after_of_room hp (heq ▸ hcode))).mpr
          (.inr ⟨heq, by rw [first]⟩)

end State

/-! ## Codes of a width -/

theorem number_lt (bits : List Bool) : number bits < 2 ^ bits.length := by
  induction bits with
  | nil => exact Nat.one_pos
  | cons b bits ih =>
      have := b.toNat_le
      rw [number, List.length_cons, Nat.pow_succ]
      omega

/-! ## Faults -/

theorem State.meaning_ne_brokenTable (h : Header) (s : State) (code : Nat) :
    s.meaning h code ≠ .error .brokenTable := by
  unfold State.meaning
  split
  · simp
  · split
    · split <;> simp
    · simp

theorem decodeBits_ne_brokenTable (h : Header) (s : State) (bits : List Bool) :
    decodeBits h s bits ≠ .error .brokenTable := by
  fun_induction decodeBits h s bits with
  | case1 => simp
  | case2 => assumption
  | case3 s bits _ code _ fault =>
      rename_i hm
      rintro ⟨⟩
      exact State.meaning_ne_brokenTable h s code hm
  | case4 s bits _ code rest _ current hm =>
      rename_i next ih
      cases hlater : decodeBits h (next.settle h) (s.leftAfter h next rest) with
      | ok bytes => simp [Except.map]
      | error fault =>
          rw [hlater] at ih
          simpa [Except.map] using ih

theorem decode_ne_brokenTable (data : Bytes) :
    decode data ≠ .error .brokenTable := by
  unfold decode
  split
  · split
    · dsimp only
      split
      · exact decodeBits_ne_brokenTable _ _ _
      · simp
    · simp
  · simp

end Playback.Lzw.Textbook
