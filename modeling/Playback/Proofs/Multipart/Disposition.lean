import Playback.Multipart.Disposition
import Playback.Proofs.Text.Cut
import Playback.Proofs.Text.LetterCase
import Playback.Proofs.Text.Trim

/-! # Written dispositions are read back -/

namespace Playback.Multipart

open Text

/-! ## Segments -/

/-- A text with a backslash before every quote and every backslash. -/
def escaped (cs : List Char) : List Char :=
  cs.flatMap fun c => if c = '"' ∨ c = '\\' then ['\\', c] else [c]

theorem segments_outside {cs : List Char} (noQuote : '"' ∉ cs) (noSemicolon : ';' ∉ cs)
    (rest : List Char) :
    segments .outside (cs ++ rest) = (segments .outside rest).modifyHead (cs ++ ·) := by
  induction cs with
  | nil => exact (congrFun List.modifyHead_id _).symm
  | cons c cs ih =>
      simp only [List.mem_cons, not_or] at noQuote noSemicolon
      rw [List.cons_append, segments, if_neg (Ne.symm noSemicolon.1), if_neg (Ne.symm noQuote.1),
        ih noQuote.2 noSemicolon.2, List.modifyHead_modifyHead]
      rfl

/-- Inside quotes an escaped text goes on up to the quote behind it, and loses its backslashes. -/
theorem segments_inside (cs rest : List Char) :
    segments .inside (escaped cs ++ '"' :: rest) =
      (segments .outside rest).modifyHead fun first => cs ++ '"' :: first := by
  induction cs with
  | nil => simp [escaped, segments]
  | cons c cs ih =>
      by_cases special : c = '"' ∨ c = '\\'
      · have text : escaped (c :: cs) = '\\' :: c :: escaped cs := by
          simp [escaped, special]
        rw [text, List.cons_append, List.cons_append, segments, if_pos rfl, segments, ih,
          List.modifyHead_modifyHead]
        rfl
      · have text : escaped (c :: cs) = c :: escaped cs := by
          simp [escaped, special]
        rw [not_or] at special
        rw [text, List.cons_append, segments, if_neg special.2, if_neg special.1, ih,
          List.modifyHead_modifyHead]
        rfl

/-! ## Parameters -/

/-- What can be written as the name of a parameter. -/
structure IsKey (key : String) : Prop where
  trimmed : IsTrimmed key.toList
  lowered : lowerAscii key = key
  noQuote : '"' ∉ key.toList
  noSemicolon : ';' ∉ key.toList
  noEquals : '=' ∉ key.toList

/-- A parameter as it is written behind its semicolon. -/
def parameterText (p : String × String) : List Char :=
  ' ' :: (p.1.toList ++ '=' :: '"' :: (escaped p.2.toList ++ ['"']))

/-- A parameter as it is divided from the others. -/
def parameterSegment (p : String × String) : List Char :=
  ' ' :: (p.1.toList ++ '=' :: betweenQuotes p.2.toList)

theorem segments_parameterText {p : String × String} (key : IsKey p.1) (rest : List Char) :
    segments .outside (parameterText p ++ rest) =
      (segments .outside rest).modifyHead (parameterSegment p ++ ·) := by
  have text : parameterText p ++ rest =
      (' ' :: p.1.toList ++ ['=']) ++ '"' :: (escaped p.2.toList ++ '"' :: rest) := by
    simp [parameterText]
  have noQuote : '"' ∉ ' ' :: p.1.toList ++ ['='] := by simp [key.noQuote]
  have noSemicolon : ';' ∉ ' ' :: p.1.toList ++ ['='] := by simp [key.noSemicolon]
  rw [text, segments_outside noQuote noSemicolon, segments, if_neg (by decide), if_pos rfl,
    segments_inside, List.modifyHead_modifyHead, List.modifyHead_modifyHead]
  congr 1
  funext first
  simp [parameterSegment, betweenQuotes]

theorem segments_parameters {ps : List (String × String)} (keys : ∀ p ∈ ps, IsKey p.1) :
    segments .outside (ps.flatMap fun p => ';' :: parameterText p) =
      [] :: ps.map parameterSegment := by
  induction ps with
  | nil => rfl
  | cons p ps ih =>
      rw [List.forall_mem_cons] at keys
      rw [List.flatMap_cons, List.cons_append, segments, if_pos rfl,
        segments_parameterText keys.1, ih keys.2]
      simp

namespace Disposition

/-- Sets what a parameter declares. -/
def withParameter (d : Disposition) (p : String × String) : Disposition :=
  if p.1 = "name" then { d with name := some p.2 }
  else if p.1 = "filename" then { d with filename := some p.2 }
  else d

theorem withSegment_parameterSegment (d : Disposition) {p : String × String} (key : IsKey p.1) :
    d.withSegment (parameterSegment p) = d.withParameter p := by
  have cut : cutAt '=' (parameterSegment p) = some (' ' :: p.1.toList, betweenQuotes p.2.toList) :=
    cutAt_cons_append (by decide) key.noEquals
  have name : trimmed (' ' :: p.1.toList) = p.1.toList := by
    rw [trimmed_cons (by decide), key.trimmed.trimmed_eq]
  have value : unquoted (trimmed (betweenQuotes p.2.toList)) = p.2.toList := by
    rw [(isTrimmed_betweenQuotes _).trimmed_eq, unquoted_betweenQuotes]
  rw [withSegment, cut]
  simp only [name, value, String.ofList_toList, key.lowered, beq_iff_eq]
  rfl

theorem foldl_parameterSegment {ps : List (String × String)} (keys : ∀ p ∈ ps, IsKey p.1)
    (d : Disposition) : (ps.map parameterSegment).foldl withSegment d = ps.foldl withParameter d := by
  induction ps generalizing d with
  | nil => rfl
  | cons p ps ih =>
      rw [List.forall_mem_cons] at keys
      rw [List.map_cons, List.foldl_cons, List.foldl_cons, withSegment_parameterSegment d keys.1,
        ih keys.2]

theorem parse_parameters {s kind : String} (ps : List (String × String))
    (noQuote : '"' ∉ kind.toList) (noSemicolon : ';' ∉ kind.toList)
    (keys : ∀ p ∈ ps, IsKey p.1)
    (written : s.toList = kind.toList ++ ps.flatMap fun p => ';' :: parameterText p) :
    parse s = ps.foldl withParameter ⟨lowerAscii (trim kind), none, none⟩ := by
  have divided : segments .outside s.toList = kind.toList :: ps.map parameterSegment := by
    rw [written, segments_outside noQuote noSemicolon, segments_parameters keys]
    simp
  rw [parse, divided]
  exact foldl_parameterSegment keys _

theorem isKey_name : IsKey "name" :=
  ⟨isTrimmed_of_noBlank (by simp [isBlank]), by decide, by decide, by decide, by decide⟩

theorem isKey_filename : IsKey "filename" :=
  ⟨isTrimmed_of_noBlank (by simp [isBlank]), by decide, by decide, by decide, by decide⟩

/-- A value as it is written between quotes. -/
def escape (value : String) : String :=
  String.ofList (escaped value.toList)

/-- The names of a form field and of a file are read as they were written, whatever they hold and
whichever comes first. -/
theorem parse_escape (kind name filename : String) (isTrimmed : trim kind = kind)
    (lowered : lowerAscii kind = kind) (noSemicolon : ';' ∉ kind.toList)
    (noQuote : '"' ∉ kind.toList) :
    parse (kind ++ "; name=\"" ++ escape name ++ "\"; filename=\"" ++ escape filename ++ "\"") =
        ⟨kind, some name, some filename⟩ ∧
      parse (kind ++ "; filename=\"" ++ escape filename ++ "\"; name=\"" ++ escape name ++ "\"") =
        ⟨kind, some name, some filename⟩ := by
  constructor
  · rw [parse_parameters [("name", name), ("filename", filename)] noQuote noSemicolon
      (by simp [isKey_name, isKey_filename]) (by simp [parameterText, escape]), isTrimmed, lowered]
    rfl
  · rw [parse_parameters [("filename", filename), ("name", name)] noQuote noSemicolon
      (by simp [isKey_name, isKey_filename]) (by simp [parameterText, escape]), isTrimmed, lowered]
    rfl

/-- A name with all that could end it too early, and a file name that is a blank and a backslash. -/
theorem parse_escape_special :
    parse "form-data; name=\"a;b=\\\"\\\\\\\"\r\n\"; filename=\" \\\\\"" =
        ⟨"form-data", some "a;b=\"\\\"\r\n", some " \\"⟩ ∧
      parse "form-data; filename=\" \\\\\"; name=\"a;b=\\\"\\\\\\\"\r\n\"" =
        ⟨"form-data", some "a;b=\"\\\"\r\n", some " \\"⟩ := by
  have name : escape "a;b=\"\\\"\r\n" = "a;b=\\\"\\\\\\\"\r\n" := by decide
  have filename : escape " \\" = " \\\\" := by decide
  have read := parse_escape "form-data" "a;b=\"\\\"\r\n" " \\" (by decide) (by decide) (by decide)
    (by decide)
  rwa [name, filename] at read

end Disposition

end Playback.Multipart
