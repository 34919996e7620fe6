import Mathlib.Data.List.Basic
import Playback.Message.MediaType
import Playback.Proofs.Text.Cut
import Playback.Proofs.Text.LetterCase
import Playback.Proofs.Text.Pieces
import Playback.Proofs.Text.Trim

/-! # Printed media types are read back -/

namespace Playback.MediaType

open Text

/-! ## What is read -/

/-- What stands for a type, for a subtype or for the name of a parameter. -/
structure IsWord (s : String) : Prop where
  nonempty : s.toList ≠ []
  trimmed : IsTrimmed s.toList
  lowered : lowerAscii s = s
  noSemicolon : ';' ∉ s.toList

/-- The media types that texts are read as. -/
structure WellFormed (m : MediaType) : Prop where
  kind : IsWord m.kind
  noSlash : '/' ∉ m.kind.toList
  subtype : IsWord m.subtype
  name : ∀ p ∈ m.parameters, IsWord p.1
  noEquals : ∀ p ∈ m.parameters, '=' ∉ p.1.toList
  value : ∀ p ∈ m.parameters, ';' ∉ p.2.toList

section

variable {s : String} {m : MediaType} {cs : List Char} {p : String × String}

theorem isWord_lowerAscii (nonempty : Text.trimmed cs ≠ []) (noSemicolon : ';' ∉ cs) :
    IsWord (lowerAscii (String.ofList (Text.trimmed cs))) where
  nonempty := by simpa [lowerAscii] using nonempty
  trimmed := by
    have ends := isTrimmed_trimmed cs
    simp only [lowerAscii, String.toList_ofList]
    refine ⟨fun c hc => ?_, fun c hc => ?_⟩
    · rw [List.head?_map] at hc
      obtain ⟨d, hd, rfl⟩ := Option.map_eq_some_iff.mp hc
      rw [isBlank_toLower, ends.head d hd]
    · rw [List.getLast?_map] at hc
      obtain ⟨d, hd, rfl⟩ := Option.map_eq_some_iff.mp hc
      rw [isBlank_toLower, ends.last d hd]
  lowered := lowerAscii_lowerAscii _
  noSemicolon := notMem_lowerAscii (by decide) fun h => noSemicolon (mem_of_mem_stripEnds h)

theorem parameter?_eq_some (h : parameter? cs = some p) (noSemicolon : ';' ∉ cs) :
    IsWord p.1 ∧ '=' ∉ p.1.toList ∧ ';' ∉ p.2.toList := by
  unfold parameter? at h
  split at h
  case h_1 => cases h
  case h_2 name value hcut =>
    obtain ⟨noEquals, rfl⟩ := cutAt_eq_some_iff.mp hcut
    simp only [List.mem_append, List.mem_cons, not_or] at noSemicolon
    dsimp only at h
    split at h
    case isTrue => cases h
    case isFalse nonempty =>
      cases h
      refine ⟨isWord_lowerAscii (by simpa using nonempty) noSemicolon.1, ?_, ?_⟩
      · exact notMem_lowerAscii (by decide) fun h => noEquals (mem_of_mem_stripEnds h)
      · rw [String.toList_ofList]
        intro h
        exact noSemicolon.2.2 (mem_of_mem_stripEnds (mem_of_mem_unquoted h))

theorem wellFormed_of_parse? (h : parse? s = some m) : m.WellFormed := by
  unfold parse? at h
  split at h
  case h_1 => cases h
  case h_2 essence segments divided =>
    have noSemicolon : ∀ segment ∈ essence :: segments, ';' ∉ segment := by
      intro segment hsegment
      rw [← divided] at hsegment
      exact notMem_of_mem_splitOn hsegment
    rw [List.forall_mem_cons] at noSemicolon
    split at h
    case h_1 => cases h
    case h_2 kind subtype hcut =>
      obtain ⟨noSlash, whole⟩ := cutAt_eq_some_iff.mp hcut
      have inEssence : ';' ∉ kind ++ '/' :: subtype := by
        rw [← whole]
        exact fun h => noSemicolon.1 (mem_of_mem_stripEnds h)
      simp only [List.mem_append, List.mem_cons, not_or] at inEssence
      dsimp only at h
      split at h
      case isTrue => cases h
      case isFalse nonempty =>
        cases h
        simp only [Bool.or_eq_true, List.isEmpty_iff, not_or] at nonempty
        have parameters : ∀ p ∈ segments.filterMap parameter?,
            IsWord p.1 ∧ '=' ∉ p.1.toList ∧ ';' ∉ p.2.toList := by
          intro p hp
          obtain ⟨segment, hsegment, read⟩ := List.mem_filterMap.mp hp
          exact parameter?_eq_some read (noSemicolon.2 segment hsegment)
        exact {
          kind := isWord_lowerAscii nonempty.1 inEssence.1
          noSlash := notMem_lowerAscii (by decide) fun h => noSlash (mem_of_mem_stripEnds h)
          subtype := isWord_lowerAscii nonempty.2 inEssence.2.2
          name := fun p hp => (parameters p hp).1
          noEquals := fun p hp => (parameters p hp).2.1
          value := fun p hp => (parameters p hp).2.2 }

end

/-! ## What is printed -/

section

variable {m : MediaType} {p : String × String} {value : List Char}

/-- A value as it is printed. -/
def valueText (value : List Char) : List Char :=
  if needsQuotes value then betweenQuotes value else value

/-- A parameter as it is printed behind its semicolon. -/
def parameterText (p : String × String) : List Char :=
  ' ' :: (p.1.toList ++ '=' :: valueText p.2.toList)

/-- The essence as it is printed. -/
def essenceText (m : MediaType) : List Char :=
  m.kind.toList ++ '/' :: m.subtype.toList

theorem toList_print (m : MediaType) :
    m.print.toList = m.essenceText ++ m.parameters.flatMap fun p => ';' :: parameterText p := by
  have parameter : printParameter = fun p => ';' :: parameterText p := by
    funext p
    simp only [printParameter, parameterText, valueText, betweenQuotes]
    split <;> simp
  simp [print, essenceText, parameter]

/-- A value without quotes around it neither needs nor holds any. -/
theorem noQuotes_of_not_needsQuotes (h : ¬needsQuotes value = true) :
    '"' ∉ value ∧ ∀ c ∈ value, isBlank c = false := by
  simp only [needsQuotes, Bool.or_eq_true, not_or, List.any_eq_true, not_exists, not_and,
    Bool.not_eq_true] at h
  refine ⟨fun hquote => ?_, fun c hc => (h.2 c hc).1⟩
  exact absurd (h.2 '"' hquote).2 (by decide)

theorem unquoted_trimmed_valueText (value : List Char) :
    unquoted (trimmed (valueText value)) = value := by
  unfold valueText
  split
  case isTrue => rw [(isTrimmed_betweenQuotes value).trimmed_eq, unquoted_betweenQuotes]
  case isFalse plain =>
    obtain ⟨noQuote, noBlank⟩ := noQuotes_of_not_needsQuotes plain
    rw [(isTrimmed_of_noBlank noBlank).trimmed_eq, unquoted_eq_self noQuote]

theorem parameter?_parameterText (name : IsWord p.1) (noEquals : '=' ∉ p.1.toList) :
    parameter? (parameterText p) = some p := by
  have cut : cutAt '=' (parameterText p) = some (' ' :: p.1.toList, valueText p.2.toList) :=
    cutAt_cons_append (by decide) noEquals
  have trimmed : trimmed (' ' :: p.1.toList) = p.1.toList := by
    rw [trimmed_cons (by decide), name.trimmed.trimmed_eq]
  rw [parameter?, cut]
  simp only [trimmed, unquoted_trimmed_valueText, String.ofList_toList, name.lowered]
  rw [if_neg (by simpa using name.nonempty)]

theorem semicolon_notMem_parameterText (name : IsWord p.1) (value : ';' ∉ p.2.toList) :
    ';' ∉ parameterText p := by
  have written : ';' ∉ valueText p.2.toList := by
    unfold valueText betweenQuotes
    split <;> simp [value]
  simp [parameterText, name.noSemicolon, written]

theorem parse?_print_of_wellFormed (h : m.WellFormed) : parse? m.print = some m := by
  have divided : m.print.toList.splitOn ';' = m.essenceText :: m.parameters.map parameterText := by
    rw [toList_print]
    refine splitOn_append_flatMap ?_ fun p hp =>
      semicolon_notMem_parameterText (h.name p hp) (h.value p hp)
    simp [essenceText, h.kind.noSemicolon, h.subtype.noSemicolon]
  have essence : trimmed m.essenceText = m.kind.toList ++ '/' :: m.subtype.toList := by
    have ends := h.kind.trimmed.append h.subtype.trimmed h.kind.nonempty h.subtype.nonempty ['/']
    rw [essenceText]
    exact IsTrimmed.trimmed_eq (by simpa using ends)
  have parameters : (m.parameters.map parameterText).filterMap parameter? = m.parameters := by
    have each : ∀ p ∈ m.parameters, (parameter? ∘ parameterText) p = some p := fun p hp =>
      parameter?_parameterText (h.name p hp) (h.noEquals p hp)
    rw [List.filterMap_map, List.filterMap_congr each, List.filterMap_some]
  rw [parse?, divided]
  dsimp only
  rw [essence, cutAt_append h.noSlash]
  dsimp only
  rw [h.kind.trimmed.trimmed_eq, h.subtype.trimmed.trimmed_eq, parameters,
    if_neg (by simp [h.kind.nonempty, h.subtype.nonempty])]
  simp only [plain, String.ofList_toList, h.kind.lowered, h.subtype.lowered]

end

/-- What is printed of a media type that was read, is read as the same media type. -/
theorem parse?_print {s : String} {m : MediaType} (h : parse? s = some m) :
    parse? m.print = some m :=
  parse?_print_of_wellFormed (wellFormed_of_parse? h)

/-- A media type with a repeated parameter, an empty value, a value that begins and ends with quotes,
a lone quote, and a name with a slash. -/
def withQuotes : MediaType :=
  ⟨"text", "a/b", [("q", ""), ("q", "\" a\"=\"b"), ("x", "\""), ("É/", "é")]⟩

/-- It is printed with quotes around quotes, and read back as it was. -/
theorem parse?_print_withQuotes :
    parse? " Text / A/b;Q=;none; Q = \"\" a\"=\"b\" ;x=\";É/=é;=1" = some withQuotes ∧
      withQuotes.print = "text/a/b; q=\"\"; q=\"\" a\"=\"b\"; x=\"\"\"; É/=é" ∧
      parse? withQuotes.print = some withQuotes := by
  have read : parse? " Text / A/b;Q=;none; Q = \"\" a\"=\"b\" ;x=\";É/=é;=1" =
      some withQuotes := by
    decide +kernel
  exact ⟨read, by decide +kernel, parse?_print read⟩

end Playback.MediaType
