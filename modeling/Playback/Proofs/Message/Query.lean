import Mathlib.Data.List.Forall2
import Playback.Message.Query
import Playback.Proofs.Text.Cut
import Playback.Proofs.Text.Percent

/-! # Written parameters are read back -/

namespace Playback.Query

open Text

/-! ## Coded texts -/

/-- The characters that need no coding. -/
def isUnreserved (c : Char) : Bool :=
  c.isAlphanum || ['-', '.', '_', '~'].contains c

/-- What may be written for a byte: an unreserved character as it is, a plus sign for a space, and for
any byte its two hexadecimal digits behind a percent sign. -/
inductive Codes : List Char → UInt8 → Prop
  | plain {c : Char} (unreserved : isUnreserved c = true) : Codes [c] (UInt8.ofNat c.toNat)
  | space : Codes ['+'] 0x20
  | coded {high low : Char} {b : UInt8} (hhigh : hexDigit? high = some (b.toNat / 16))
      (hlow : hexDigit? low = some (b.toNat % 16)) : Codes ['%', high, low] b

/-- What may be written for a byte string, byte by byte. -/
inductive Spells : List Char → Bytes → Prop
  | nil : Spells [] []
  | cons {piece cs : List Char} {b : UInt8} {bytes : Bytes} (first : Codes piece b)
      (rest : Spells cs bytes) : Spells (piece ++ cs) (b :: bytes)

/-- A byte string in which all but the unreserved characters are coded. -/
def code (bytes : Bytes) : List Char :=
  Percent.encode (fun b => isUnreserved (Char.ofNat b.toNat)) bytes

section

variable {piece cs : List Char} {b : UInt8} {bytes : Bytes} {s : String} {c : Char}

theorem isUnreserved_iff :
    isUnreserved c = true ↔ c.isAlphanum = true ∨ c = '-' ∨ c = '.' ∨ c = '_' ∨ c = '~' := by
  simp [isUnreserved]

theorem isUnreserved_of_hexDigit? {n : Nat} (h : hexDigit? c = some n) : isUnreserved c = true :=
  isUnreserved_iff.mpr (.inl (isAlphanum_of_hexDigit? h))

theorem lt_of_isUnreserved (h : isUnreserved c = true) : c.toNat < 128 := by
  rcases isUnreserved_iff.mp h with alphanum | rfl | rfl | rfl | rfl
  · exact lt_of_isAlphanum alphanum
  all_goals decide

theorem isUnreserved_ne {d : Char} (h : isUnreserved c = true) (hd : isUnreserved d = false) :
    c ≠ d := by
  rintro rfl
  rw [h] at hd
  cases hd

theorem Codes.mem (h : Codes piece b) (hc : c ∈ piece) :
    isUnreserved c = true ∨ c = '+' ∨ c = '%' := by
  cases h with
  | plain unreserved =>
      obtain rfl := List.mem_singleton.mp hc
      exact .inl unreserved
  | space => exact .inr (.inl (List.mem_singleton.mp hc))
  | coded hhigh hlow =>
      simp only [List.mem_cons, List.not_mem_nil, or_false] at hc
      rcases hc with rfl | rfl | rfl
      · exact .inr (.inr rfl)
      · exact .inl (isUnreserved_of_hexDigit? hhigh)
      · exact .inl (isUnreserved_of_hexDigit? hlow)

/-- A coded text holds no other sign that has a meaning in a query. -/
theorem Spells.notMem (h : Spells cs bytes) {d : Char} (hd : isUnreserved d = false)
    (plus : d ≠ '+') (percent : d ≠ '%') : d ∉ cs := by
  induction h with
  | nil => exact List.not_mem_nil
  | cons first _ ih =>
      rw [List.mem_append, not_or]
      refine ⟨fun hc => ?_, ih⟩
      rcases first.mem hc with unreserved | same | same
      · exact isUnreserved_ne unreserved hd rfl
      · exact plus same
      · exact percent same

theorem Spells.ampersand_notMem (h : Spells cs bytes) : '&' ∉ cs :=
  h.notMem (by decide) (by decide) (by decide)

theorem Spells.equals_notMem (h : Spells cs bytes) : '=' ∉ cs :=
  h.notMem (by decide) (by decide) (by decide)

theorem ofText_spaced_cons (ascii : c.toNat < 128) (other : c ≠ '+') (cs : List Char) :
    Bytes.ofText (String.ofList (spaced (c :: cs))) =
      UInt8.ofNat c.toNat :: Bytes.ofText (String.ofList (spaced cs)) := by
  have kept : spaced (c :: cs) = c :: spaced cs := by simp [spaced, other]
  rw [kept, Bytes.ofText_ofList, Bytes.ofText_ofList, List.flatMap_cons,
    Bytes.utf8EncodeChar_of_ascii ascii, List.singleton_append]

theorem Codes.decode (h : Codes piece b) (rest : List Char) :
    Percent.decode (Bytes.ofText (String.ofList (spaced (piece ++ rest)))) =
      b :: Percent.decode (Bytes.ofText (String.ofList (spaced rest))) := by
  have plain {c : Char} (unreserved : isUnreserved c = true) (cs : List Char) :=
    ofText_spaced_cons (lt_of_isUnreserved unreserved) (isUnreserved_ne unreserved (by decide)) cs
  cases h with
  | plain unreserved =>
      rw [List.singleton_append, plain unreserved]
      exact Percent.decode_cons_of_ne (Percent.ofNat_ne_sign (lt_of_isUnreserved unreserved)
        (isUnreserved_ne unreserved (by decide))) _
  | space =>
      have text : Bytes.ofText (String.ofList (spaced (['+'] ++ rest))) =
          0x20 :: Bytes.ofText (String.ofList (spaced rest)) := by
        rw [Bytes.ofText_ofList, Bytes.ofText_ofList]
        rfl
      rw [text, Percent.decode_cons_of_ne (by decide)]
  | coded hhigh hlow =>
      rw [List.cons_append, List.cons_append, List.singleton_append,
        ofText_spaced_cons (by decide) (by decide), plain (isUnreserved_of_hexDigit? hhigh),
        plain (isUnreserved_of_hexDigit? hlow)]
      exact Percent.decode_coded hhigh hlow _

theorem Spells.decode (h : Spells cs bytes) :
    Percent.decode (Bytes.ofText (String.ofList (spaced cs))) = bytes := by
  induction h with
  | nil => rfl
  | cons first _ ih => rw [first.decode, ih]

theorem spells_code (bytes : Bytes) : Spells (code bytes) bytes := by
  induction bytes with
  | nil => exact .nil
  | cons b bytes ih =>
      have small := b.toNat_lt
      rw [code, Percent.encode, List.flatMap_cons]
      refine .cons ?_ ih
      split
      case isTrue unreserved =>
        have plain := Codes.plain unreserved
        rwa [Percent.toNat_ofNat_toNat, UInt8.ofNat_toNat] at plain
      case isFalse =>
        have high : b.toNat / 16 < 16 := by omega
        have low : b.toNat % 16 < 16 := by omega
        exact .coded (Percent.hexDigit?_digitChar high) (Percent.hexDigit?_digitChar low)

theorem decodeComponent_of_spells (h : Spells cs (Bytes.ofText s)) : decodeComponent cs = s := by
  rw [decodeComponent, h.decode, Bytes.toText?_ofText]
  rfl

end

/-! ## Parameters -/

/-- What may be written for a parameter: its name, and its value behind an equals sign if it has
one. -/
inductive Writes : List Char → String × Option String → Prop
  | bare {cs : List Char} {name : String} (spells : Spells cs (Bytes.ofText name)) :
      Writes cs (name, none)
  | valued {cs ds : List Char} {name value : String} (spells : Spells cs (Bytes.ofText name))
      (spells_value : Spells ds (Bytes.ofText value)) : Writes (cs ++ '=' :: ds) (name, some value)

/-- A parameter in its usual spelling. -/
def written : String × Option String → List Char
  | (name, none) => code (Bytes.ofText name)
  | (name, some value) => code (Bytes.ofText name) ++ '=' :: code (Bytes.ofText value)

theorem writes_written (p : String × Option String) : Writes (written p) p := by
  obtain ⟨name, value⟩ := p
  cases value with
  | none => exact .bare (spells_code _)
  | some value => exact .valued (spells_code _) (spells_code _)

variable {segment : List Char} {p : String × Option String}

theorem decodeSegment_of_writes (h : Writes segment p) : decodeSegment segment = p := by
  cases h with
  | bare spells =>
      rw [decodeSegment, cutAt_eq_none_iff.mpr spells.equals_notMem]
      simp only [decodeComponent_of_spells spells]
  | valued spells spells_value =>
      rw [decodeSegment, cutAt_append spells.equals_notMem]
      simp only [decodeComponent_of_spells spells, decodeComponent_of_spells spells_value]

theorem Writes.ampersand_notMem (h : Writes segment p) : '&' ∉ segment := by
  cases h with
  | bare spells => exact spells.ampersand_notMem
  | valued spells spells_value =>
      simp [spells.ampersand_notMem, spells_value.ampersand_notMem]

theorem Writes.ne_nil (h : Writes segment p) (named : p.1 ≠ "") : segment ≠ [] := by
  rintro rfl
  apply named
  rw [← decodeSegment_of_writes h]
  rfl

section

variable {segments : List (List Char)} {ps : List (String × Option String)}

/-- The segments of written parameters are neither empty nor divided, and are read back. -/
theorem segments_of_writes (written : List.Forall₂ Writes segments ps)
    (named : ∀ p ∈ ps, p.1 ≠ "") :
    (∀ segment ∈ segments, '&' ∉ segment ∧ segment ≠ []) ∧ segments.map decodeSegment = ps := by
  induction written with
  | nil => simp
  | cons first _ ih =>
      rw [List.forall_mem_cons] at named
      obtain ⟨each, decoded⟩ := ih named.2
      constructor
      · exact List.forall_mem_cons.mpr ⟨⟨first.ampersand_notMem, first.ne_nil named.1⟩, each⟩
      · rw [List.map_cons, decodeSegment_of_writes first, decoded]

theorem pairs_of_writes (written : List.Forall₂ Writes segments ps) (named : ∀ p ∈ ps, p.1 ≠ "") :
    pairs (String.ofList (['&'].intercalate segments)) = ps := by
  obtain ⟨each, decoded⟩ := segments_of_writes written named
  -- A query of no parameters is one segment, which is empty.
  by_cases empty : segments = []
  · subst empty
    cases written
    rfl
  have divided : (['&'].intercalate segments).splitOn '&' = segments :=
    List.splitOn_intercalate '&' (fun segment h => (each segment h).1) empty
  have nonempty : segments.filter (fun segment => !segment.isEmpty) = segments :=
    List.filter_eq_self.mpr fun segment h => by simpa using (each segment h).2
  rw [pairs, String.toList_ofList, divided, nonempty, decoded]
  exact List.filter_eq_self.mpr fun p h => by simpa using named p h

end

/-- The parameters of two joined queries are those of the one and then those of the other. -/
theorem pairs_join (a b : String) : pairs (a ++ "&" ++ b) = pairs a ++ pairs b := by
  have text : (a ++ "&" ++ b).toList = a.toList ++ '&' :: b.toList := by
    simp [String.toList_append]
  rw [pairs, text, List.splitOn_append_cons_self, List.filter_append, List.map_append,
    List.filter_append]
  rfl

/-- Every parameter can be written. Whatever spelling of its bytes is chosen, a query of named
parameters is read as these parameters in order, with their names in lower case. Joined queries are
read one after the other. -/
theorem parse_written :
    (∀ p, Writes (written p) p) ∧
      (∀ (segments : List (List Char)) (ps : List (String × Option String)),
        List.Forall₂ Writes segments ps → (∀ p ∈ ps, p.1 ≠ "") →
          (parse (String.ofList (['&'].intercalate segments))).toList =
            ps.map fun p => (lower p.1, p.2)) ∧
      ∀ a b : String, (parse (a ++ "&" ++ b)).toList = (parse a).toList ++ (parse b).toList := by
  refine ⟨writes_written, ?_, ?_⟩
  · intro segments ps written named
    rw [parse, pairs_of_writes written named]
    rfl
  · intro a b
    rw [parse, pairs_join]
    exact List.map_append

/-- A name with a letter beyond ASCII, spelt with small and with capital digits, and with a space,
spelt as a plus sign. -/
theorem spells_name : Spells "%c3%A4+B".toList (Bytes.ofText "ä B") := by
  have first : Codes ['%', 'c', '3'] 0xC3 := .coded (by decide) (by decide)
  have second : Codes ['%', 'A', '4'] 0xA4 := .coded (by decide) (by decide)
  have last : Codes ['B'] 0x42 := .plain (by decide)
  exact .cons first (.cons second (.cons .space (.cons last .nil)))

/-- A value of signs, a bare name, and the same name in another letter case with an empty value. -/
def signs : List (String × Option String) :=
  [("ä B", some "&=+%"), ("x", none), ("X", some "")]

/-- They are read back from a text in which the first name is spelt in an unusual way. -/
theorem parse_written_signs :
    (parse "%c3%A4+B=%26%3D%2B%25&x&X=").toList =
        [("ä b", some "&=+%"), ("x", none), ("x", some "")] ∧
      (parse "x&X=").toList = (parse "x").toList ++ (parse "X=").toList := by
  obtain ⟨usual, read, joined⟩ := parse_written
  have spelt : Writes "%c3%A4+B=%26%3D%2B%25".toList ("ä B", some "&=+%") :=
    .valued spells_name (spells_code (Bytes.ofText "&=+%"))
  have whole := read ["%c3%A4+B=%26%3D%2B%25".toList, "x".toList, "X=".toList] signs
    (.cons spelt (.cons (usual ("x", none)) (.cons (usual ("X", some "")) .nil))) (by decide)
  exact ⟨whole.trans (by decide +kernel), joined "x" "X="⟩

end Playback.Query
