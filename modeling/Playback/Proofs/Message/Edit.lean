import Playback.Message.Edit
import Playback.Proofs.Outcome
import Playback.Proofs.Text.Trim

/-! # What edits leave alone -/

namespace Playback.Payload

variable {p q : Payload} {fields : List Field} {keep : Field → Bool} {name value : String}
  {names : List String}

/-! ## Headers of other names -/

theorem named_eq_false {other : String} {field : Field} (h : named name field = true)
    (differ : Text.equalsIgnoringCase name other = false) : named other field = false := by
  simp only [named, Text.equalsIgnoringCase] at h differ ⊢
  rwa [eq_of_beq h]

/-- The headers that have none of the names given. -/
def headersWithout (names : List String) (p : Payload) : List Field :=
  p.headers.filter fun field => names.all fun name => !named name field

theorem filter_headersWithout
    (h : ∀ field, keep field = true → ∀ name ∈ names, named name field = false) :
    (p.headersWithout names).filter keep = p.headers.filter keep := by
  rw [headersWithout, List.filter_filter]
  refine List.filter_congr fun field _ => ?_
  cases kept : keep field with
  | false => rfl
  | true => simpa using h field kept

theorem filter_headers_eq (same : q.headersWithout names = p.headersWithout names)
    (h : ∀ field, keep field = true → ∀ name ∈ names, named name field = false) :
    q.headers.filter keep = p.headers.filter keep := by
  rw [← filter_headersWithout h, same, filter_headersWithout h]

theorem headersWithout_of_subset {more : List String}
    (same : q.headersWithout names = p.headersWithout names) (h : names ⊆ more) :
    q.headersWithout more = p.headersWithout more := by
  refine filter_headers_eq same fun field kept name hname => ?_
  simpa using List.all_eq_true.mp kept name (h hname)

theorem headerValues_eq (same : q.headersWithout names = p.headersWithout names)
    (other : ∀ n ∈ names, Text.equalsIgnoringCase name n = false) :
    q.headerValues name = p.headerValues name := by
  rw [headerValues, headerValues,
    filter_headers_eq same fun _ h n hn => named_eq_false h (other n hn)]

/-! ## One header in place of all of its name -/

section

variable {spelling : String}

theorem named_congr (h : Text.equalsIgnoringCase spelling name = true) :
    named spelling = named name := by
  funext field
  simp only [named, Text.equalsIgnoringCase] at h ⊢
  rw [eq_of_beq h]

/-- A new header changes nothing but the headers of its name. -/
theorem headersWithout_replaceHeader (h : Text.equalsIgnoringCase spelling name = true)
    (new : q.headers = replaceHeader spelling value p.headers) (listed : name ∈ names) :
    q.headersWithout names = p.headersWithout names := by
  have self : named name (spelling, value) = true := h
  have dropped : (names.all fun n => !named n (spelling, value)) = false :=
    List.all_eq_false.mpr ⟨name, listed, by simp [self]⟩
  rw [headersWithout, new, replaceHeader, named_congr h, List.filter_append, List.filter_filter,
    List.filter_cons_of_neg (by simp [dropped]), List.filter_nil, List.append_nil, headersWithout]
  refine List.filter_congr fun field _ => ?_
  cases kept : names.all fun n => !named n field with
  | false => rfl
  | true => simpa using List.all_eq_true.mp kept name listed

theorem headerValues_replaceHeader (h : Text.equalsIgnoringCase spelling name = true)
    (new : q.headers = replaceHeader spelling value p.headers) : q.headerValues name = [value] := by
  have self : named name (spelling, value) = true := h
  rw [headerValues, new, replaceHeader, named_congr h]
  simp [self]

end

/-! ## Lengths -/

/-- One header declares a length, and it is the length of the body. -/
def DeclaresLength (p : Payload) : Prop :=
  ∃ bytes value, p.body.read = .ok bytes ∧ p.headerValues "content-length" = [value] ∧
    Text.trim value = toString bytes.length

theorem named_contentLength : Text.equalsIgnoringCase "Content-Length" "content-length" = true := by
  decide

theorem declaresLength_of_replaceHeader {bytes : Bytes} (opened : q.body.read = .ok bytes)
    (new : q.headers = replaceHeader "Content-Length" (toString bytes.length) p.headers) :
    q.DeclaresLength :=
  ⟨bytes, toString bytes.length, opened, headerValues_replaceHeader named_contentLength new,
    Text.trim_toString bytes.length⟩

theorem withContentLength_of_declaresLength (h : p.DeclaresLength) :
    p.withContentLength = .ok p := by
  obtain ⟨bytes, value, opened, declared, correct⟩ := h
  rw [withContentLength, opened]
  simp only [bind, Except.bind, declared]
  exact if_pos (beq_iff_eq.mpr correct)

theorem withContentLength_of_not_declaresLength {bytes : Bytes}
    (opened : p.body.read = .ok bytes) (h : ¬p.DeclaresLength) :
    p.withContentLength = .ok (p.edit [.setHeader "Content-Length" (toString bytes.length)]) := by
  rw [withContentLength, opened]
  simp only [bind, Except.bind]
  split
  case h_1 value declared =>
    refine if_neg fun equal => h ?_
    exact ⟨bytes, value, opened, declared, eq_of_beq equal⟩
  case h_2 => rfl

theorem withContentLength_cases (h : p.withContentLength = .ok q) :
    (p.DeclaresLength ∧ q = p) ∨ ∃ bytes, p.body.read = .ok bytes ∧
      q = p.edit [.setHeader "Content-Length" (toString bytes.length)] := by
  by_cases declared : p.DeclaresLength
  · rw [withContentLength_of_declaresLength declared] at h
    cases h
    exact .inl ⟨declared, rfl⟩
  · obtain ⟨bytes, opened, -⟩ := exists_ok_of_bind_eq_ok h
    rw [withContentLength_of_not_declaresLength opened declared] at h
    cases h
    exact .inr ⟨bytes, opened, rfl⟩

theorem declaresLength_of_withContentLength (h : p.withContentLength = .ok q) :
    q.DeclaresLength := by
  rcases withContentLength_cases h with ⟨declared, rfl⟩ | ⟨bytes, opened, rfl⟩
  · exact declared
  · exact declaresLength_of_replaceHeader (p := p) opened rfl

/-- A length that is declared anew changes nothing but the headers that declare it. -/
theorem withContentLength_eq_ok (h : p.withContentLength = .ok q) :
    q.body = p.body ∧ q.mediaType = p.mediaType ∧
      q.headersWithout ["content-length"] = p.headersWithout ["content-length"] := by
  rcases withContentLength_cases h with ⟨-, rfl⟩ | ⟨bytes, -, rfl⟩
  · exact ⟨rfl, rfl, rfl⟩
  · exact ⟨rfl, rfl,
      headersWithout_replaceHeader named_contentLength rfl (List.mem_singleton_self _)⟩

theorem exists_withContentLength {bytes : Bytes} (opened : p.body.read = .ok bytes) :
    ∃ q, p.withContentLength = .ok q := by
  by_cases declared : p.DeclaresLength
  · exact ⟨p, withContentLength_of_declaresLength declared⟩
  · exact ⟨_, withContentLength_of_not_declaresLength opened declared⟩

/-- What declaring its length makes of a payload: one header declares the length of its body, and
nothing but the headers for the length is changed. Nothing at all is changed exactly if the payload
declared its length before, and so nothing is changed a second time. -/
structure LengthDeclared (p q : Payload) : Prop where
  declares : q.DeclaresLength
  headers_eq : q.headersWithout ["content-length"] = p.headersWithout ["content-length"]
  mediaType_eq : q.mediaType = p.mediaType
  body_eq : q.body = p.body
  eq_iff : q = p ↔ p.DeclaresLength
  again : q.withContentLength = .ok q

theorem lengthDeclared_of_withContentLength (h : p.withContentLength = .ok q) :
    LengthDeclared p q := by
  have declares := declaresLength_of_withContentLength h
  obtain ⟨body_eq, mediaType_eq, headers_eq⟩ := withContentLength_eq_ok h
  refine ⟨declares, headers_eq, mediaType_eq, body_eq, ⟨?_, ?_⟩,
    withContentLength_of_declaresLength declares⟩
  · rintro rfl
    exact declares
  · intro declared
    rw [withContentLength_of_declaresLength declared] at h
    exact (Except.ok.inj h).symm

/-- The length of a body that opens is declared; a body that does not open is reported. -/
theorem withContentLength_spec (p : Payload) :
    match p.body.read with
    | .ok _ => ∃ q, p.withContentLength = .ok q ∧ LengthDeclared p q
    | .error reason => p.withContentLength = .error reason := by
  cases opened : p.body.read with
  | ok bytes =>
      obtain ⟨q, h⟩ := exists_withContentLength opened
      exact ⟨q, h, lengthDeclared_of_withContentLength h⟩
  | error reason =>
      rw [withContentLength, opened]
      rfl

-- A number with a sign declares no length, so the header is written anew behind the others.
example :
    (withContentLength ⟨[("content-length", "+3"), ("Server", "h")], .octetStream,
      .deferred (.ok [1, 2, 3])⟩).toOption.map headers =
        some [("Server", "h"), ("Content-Length", "3")] := by
  decide +kernel

end Playback.Payload
