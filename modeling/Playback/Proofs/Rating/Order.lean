import Playback.Proofs.Message.Segments
import Playback.Proofs.Rating.Basic
import Playback.Proofs.Rating.Body

/-! # Ratings without order -/

namespace Playback

/-! ## Reordered requests -/

/-- Whether two bodies can be read and hold the same fields, in any order. -/
def Body.ReordersFields (body body' : Body) : Prop :=
  ∃ raw raw', body.read = .ok raw ∧ body'.read = .ok raw' ∧ raw.fields.Perm raw'.fields

/-- Whether a request is another one with its parameters and headers in any order. Where `forms` are
compared, the fields of a body without codings may stand in any order as well. -/
structure Request.Reorders (forms : Prop) (r r' : Request) : Prop where
  method : r.method = r'.method
  target : r'.target = { r.target with query := r'.target.query }
  segments : r.target.segments.Perm r'.target.segments
  query : r.query = r'.query ∨ r.query = r.target.parameters ∧ r'.query = r'.target.parameters
  headers : r.headers.entries.Perm r'.headers.entries
  contentType : r.headers.getAll "content-type" = r'.headers.getAll "content-type"
  contentEncoding : r.headers.getAll "content-encoding" = r'.headers.getAll "content-encoding"
  body : r.body = r'.body ∨ forms ∧ r.header? "content-encoding" = none ∧
    ∃ body body', r.body = some body ∧ r'.body = some body' ∧ body.ReordersFields body'

/-- Whether the bytes of two bodies are the same; of `forms`, whether their fields are. -/
def SameContent (forms : Prop) (bytes bytes' : Bytes) : Prop :=
  bytes = bytes' ∨ forms ∧ bytes.fields.Perm bytes'.fields

namespace SameContent

variable {forms : Prop} {bytes bytes' : Bytes} (h : SameContent forms bytes bytes')

include h

theorem fields_perm : bytes.fields.Perm bytes'.fields := by
  rcases h with same | ⟨-, perm⟩
  · rw [same]
  · exact perm

theorem eq_of_not (others : ¬forms) : bytes = bytes' :=
  h.resolve_right fun both => others both.1

end SameContent

theorem Rating.bodyBytes_of_no_codings {registry : CodingRegistry} {r : Request} {body : Body}
    {raw : Bytes} (none : r.header? "content-encoding" = none) (hread : body.read = .ok raw) :
    bodyBytes registry r body = some raw := by
  unfold bodyBytes uncoded
  rw [hread, none]
  rfl

theorem Rating.entries_formOf_perm {bytes bytes' : Bytes} (same : bytes.fields.Perm bytes'.fields) :
    (formOf bytes).entries.Perm (formOf bytes').entries :=
  Query.entries_parse_perm (Bytes.segments_perm_of_fields_perm same)

namespace Request.Reorders

variable {forms : Prop} {r r' : Request} (h : r.Reorders forms r')

include h

theorem host_eq : r.target.host = r'.target.host := by
  rw [h.target]

theorem path_eq : r.target.path = r'.target.path := by
  rw [h.target]

theorem entries_query_perm : r.query.entries.Perm r'.query.entries := by
  rcases h.query with same | ⟨own, own'⟩
  · rw [same]
  · rw [own, own']
    exact Target.entries_parameters_perm h.segments

theorem bodyType_eq : r.bodyType = r'.bodyType := by
  unfold bodyType contentType? header? Multimap.first?
  rw [h.contentType]

theorem header?_contentEncoding_eq :
    r.header? "content-encoding" = r'.header? "content-encoding" := by
  unfold header? Multimap.first?
  rw [h.contentEncoding]

theorem isNone_body_eq : r.body.isNone = r'.body.isNone := by
  rcases h.body with same | ⟨-, -, body, body', hbody, hbody', -⟩
  · rw [same]
  · rw [hbody, hbody']
    rfl

/-- What is compared is the same, or there are fields in another order. -/
theorem content?_eq_or (registry : CodingRegistry) :
    r.content? registry = r'.content? registry ∨
      forms ∧ ∃ bytes bytes', r.content? registry = some bytes ∧
        r'.content? registry = some bytes' ∧ bytes.fields.Perm bytes'.fields := by
  have codings := h.header?_contentEncoding_eq
  unfold content?
  rcases h.body with same |
    ⟨both, plain, body, body', hbody, hbody', raw, raw', hread, hread', perm⟩
  · left
    unfold Rating.bodyBytes Rating.uncoded
    rw [same, codings]
  · right
    rw [hbody, hbody']
    exact ⟨both, raw, raw', Rating.bodyBytes_of_no_codings plain hread,
      Rating.bodyBytes_of_no_codings (codings ▸ plain) hread', perm⟩

variable {registry : CodingRegistry}

theorem content?_eq_none (missing : r.content? registry = none) : r'.content? registry = none := by
  rcases h.content?_eq_or registry with same | ⟨-, bytes, bytes', content, -⟩
  · exact same ▸ missing
  · rw [content] at missing
    cases missing

theorem content?_eq_some {bytes : Bytes} (content : r.content? registry = some bytes) :
    ∃ bytes', r'.content? registry = some bytes' ∧ SameContent forms bytes bytes' := by
  rcases h.content?_eq_or registry with same | ⟨both, bytes, bytes', content', hbytes', perm⟩
  · exact ⟨bytes, same ▸ content, .inl rfl⟩
  · obtain rfl := Option.some.inj (content.symm.trans content')
    exact ⟨bytes', hbytes', .inr ⟨both, perm⟩⟩

end Request.Reorders

namespace Rating

/-! ## Scores -/

section

variable {s : Scale} {recorded recorded' live live' : Query}
  (hrecorded : recorded.entries.Perm recorded'.entries) (hlive : live.entries.Perm live'.entries)

include hrecorded hlive

theorem parametersGain_of_perm :
    parametersGain s recorded live = parametersGain s recorded' live' := by
  have gained : liveGain s recorded live = liveGain s recorded' live' := by
    funext name
    unfold liveGain sameParameter
    rw [Multimap.contains_of_perm hrecorded, sameValues_of_perm
      (Multimap.getAll_perm hrecorded name) (Multimap.getAll_perm hlive name)]
  have lost : recordedGain s live = recordedGain s live' := by
    funext name
    unfold recordedGain
    rw [Multimap.contains_of_perm hlive]
  rw [parametersGain, parametersGain, gained, lost,
    ((Multimap.keys_perm hlive).map _).sum_eq, ((Multimap.keys_perm hrecorded).map _).sum_eq]

theorem parametersScore_of_perm (coherent : s.Coherent) :
    parametersScore s recorded live = parametersScore s recorded' live' := by
  have empty := Multimap.isEmpty_of_perm hrecorded
  have empty' := Multimap.isEmpty_of_perm hlive
  by_cases both : recorded.isEmpty = true ∧ live.isEmpty = true
  · rw [parametersScore_of_both_isEmpty both,
      parametersScore_of_both_isEmpty (by rwa [← empty, ← empty'])]
  · rw [parametersScore_eq coherent both,
      parametersScore_eq coherent (by rwa [← empty, ← empty']),
      parametersGain_of_perm hrecorded hlive]

end

theorem headersScore_of_perm {s : Scale} {recorded recorded' live live' : Multimap String}
    (coherent : s.Coherent) (hrecorded : recorded.entries.Perm recorded'.entries)
    (hlive : live.entries.Perm live'.entries) :
    headersScore s recorded live = headersScore s recorded' live' := by
  have agreeing : sameHeader recorded live = sameHeader recorded' live' := by
    funext name
    unfold sameHeader
    rw [Multimap.contains_of_perm hrecorded, sameValues_of_perm
      ((Multimap.getAll_perm hrecorded name).map _) ((Multimap.getAll_perm hlive name).map _)]
  rw [headersScore_eq coherent, headersScore_eq coherent, agreeing,
    ((Multimap.keys_perm hlive).filter _).length_eq]

section

variable {s : Scale} (coherent : s.Coherent)

include coherent

theorem contentScore_of_sameContent {recordedType liveType : MediaType}
    {recorded recorded' live live' : Bytes}
    (hrecorded : SameContent
      (recordedType.isFormUrlencoded = true ∧ liveType.isFormUrlencoded = true) recorded recorded')
    (hlive : SameContent
      (recordedType.isFormUrlencoded = true ∧ liveType.isFormUrlencoded = true) live live') :
    contentScore s recordedType liveType recorded live =
      contentScore s recordedType liveType recorded' live' := by
  by_cases forms : recordedType.isFormUrlencoded = true ∧ liveType.isFormUrlencoded = true
  · have recorded_perm := hrecorded.fields_perm
    have live_perm := hlive.fields_perm
    have score := parametersScore_of_perm (entries_formOf_perm recorded_perm)
      (entries_formOf_perm live_perm) coherent
    simp only [contentScore, Bytes.isEmpty_of_fields_perm recorded_perm,
      Bytes.isEmpty_of_fields_perm live_perm, forms.1, forms.2, Bool.and_self, if_true, score]
  · rw [hrecorded.eq_of_not forms, hlive.eq_of_not forms]

variable {registry : CodingRegistry} {recorded recorded' live live' : Request}
  (hrecorded : recorded.Reorders (ComparesForms recorded live) recorded')
  (hlive : live.Reorders (ComparesForms recorded live) live')

include hrecorded hlive

theorem bodyScore_of_reorders :
    bodyScore s registry recorded live = bodyScore s registry recorded' live' := by
  rcases content?_cases registry recorded live with missing | ⟨bytes, bytes', content, content'⟩
  · have missing' := missing.imp hrecorded.content?_eq_none hlive.content?_eq_none
    rw [bodyScore_of_no_content s missing, bodyScore_of_no_content s missing',
      hrecorded.isNone_body_eq, hlive.isNone_body_eq]
  · obtain ⟨other, hother, same⟩ := hrecorded.content?_eq_some content
    obtain ⟨other', hother', same'⟩ := hlive.content?_eq_some content'
    rw [bodyScore_of_content s content content', bodyScore_of_content s hother hother',
      ← hrecorded.bodyType_eq, ← hlive.bodyType_eq,
      contentScore_of_sameContent coherent same same']

/-! ## Ratings -/

theorem headScore_of_reorders : headScore s recorded live = headScore s recorded' live' := by
  rw [headScore, headScore,
    parametersScore_of_perm hrecorded.entries_query_perm hlive.entries_query_perm coherent,
    headersScore_of_perm coherent hrecorded.headers hlive.headers]

omit coherent in
theorem isCandidate_of_reorders : isCandidate recorded live = isCandidate recorded' live' := by
  rw [Bool.eq_iff_iff, isCandidate_iff, isCandidate_iff, hrecorded.method, hlive.method,
    hrecorded.host_eq, hlive.host_eq, hrecorded.path_eq, hlive.path_eq]

theorem rate_of_reorders :
    rate s registry recorded live = rate s registry recorded' live' := by
  apply rate_congr (isCandidate_of_reorders hrecorded hlive)
  · exact fun _ => hlive.method
  · exact headScore_of_reorders coherent hrecorded hlive
  · exact bodyScore_of_reorders coherent hrecorded hlive

end

/-- It makes no difference to a rating in which order the parameters and the headers of either
request stand, nor, where the bodies are compared as forms, the fields of a body without codings. -/
theorem rate_reordered (n : Int) (registry : CodingRegistry)
    {recorded recorded' live live' : Request}
    (hrecorded : recorded.Reorders (ComparesForms recorded live) recorded')
    (hlive : live.Reorders (ComparesForms recorded live) live') :
    rate (Scale.inWords n) registry recorded live =
        rate (Scale.inWords n) registry recorded' live' ∧
      rate (Scale.exact n) registry recorded live =
        rate (Scale.exact n) registry recorded' live' := by
  constructor
  · exact rate_of_reorders (Scale.coherent_inWords n) hrecorded hlive
  · exact rate_of_reorders (Scale.coherent_exact n) hrecorded hlive

/-- A request with parameters, headers and the fields of a form. -/
def fieldsRequest (parameters fields : String) (headers : List (String × String)) : Request :=
  { Request.plain .post ⟨some "http", "h", none, "/a", some parameters⟩ with
    headers := Multimap.ofList headers
    body := some (.stored (Bytes.ofText fields)) }

/-- All but one of the parameters, headers and fields agree, in whatever order they stand. -/
theorem rate_reordered_fields :
    let form := ("Content-Type", "application/x-www-form-urlencoded")
    let recorded := fieldsRequest "x=1&y&X=2" "u=1&v=&u=2" [form, ("A", "1"), ("a", "2")]
    let recorded' := fieldsRequest "X=2&x=1&y" "u=2&v=&u=1" [("a", "2"), form, ("A", "1")]
    let live := fieldsRequest "y&x=2&x=1&z" "w&v=&u=1&u=2" [("a", "1"), ("a", "2"), form]
    let live' := fieldsRequest "z&x=1&y&x=2" "v=&u=1&u=2&w" [form, ("a", "2"), ("a", "1")]
    rate (Scale.inWords 100) CodingRegistry.standard recorded live = .ok 600 ∧
      rate (Scale.inWords 100) CodingRegistry.standard recorded' live' = .ok 600 := by
  intro form recorded recorded' live live'
  have forms : ComparesForms recorded live := by
    constructor <;> decide +kernel
  have hrecorded : recorded.Reorders (ComparesForms recorded live) recorded' :=
    { method := rfl
      target := rfl
      segments := by decide +kernel
      query := .inr ⟨rfl, rfl⟩
      headers := by decide +kernel
      contentType := by decide +kernel
      contentEncoding := by decide +kernel
      body := .inr ⟨forms, by decide +kernel, _, _, rfl, rfl, _, _, rfl, rfl, by decide +kernel⟩ }
  have hlive : live.Reorders (ComparesForms recorded live) live' :=
    { method := rfl
      target := rfl
      segments := by decide +kernel
      query := .inr ⟨rfl, rfl⟩
      headers := by decide +kernel
      contentType := by decide +kernel
      contentEncoding := by decide +kernel
      body := .inr ⟨forms, by decide +kernel, _, _, rfl, rfl, _, _, rfl, rfl, by decide +kernel⟩ }
  have rating : rate (Scale.inWords 100) CodingRegistry.standard recorded live = .ok 600 := by
    decide +kernel
  have reordered := rate_reordered 100 CodingRegistry.standard hrecorded hlive
  exact ⟨rating, reordered.1 ▸ rating⟩

end Rating

end Playback
