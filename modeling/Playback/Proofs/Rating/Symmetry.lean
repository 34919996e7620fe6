import Playback.Proofs.Rating.Basic
import Playback.Proofs.Rating.Body
import Playback.Proofs.Rating.Overlap

/-! # Ratings are symmetric -/

namespace Playback.Rating

section

variable {s : Scale}

/-! ## Parameters -/

theorem liveGain_eq (recorded live : Query) (name : String) :
    liveGain s recorded live name =
      (if recorded.contains name && sameParameter recorded live name then s.increment else 0) +
        recordedGain s recorded name := by
  unfold liveGain recordedGain
  cases recorded.contains name <;> simp

/-- Parameters gain an increment for each name that agrees, and lose for those without a partner on
either side. -/
theorem parametersGain_eq (recorded live : Query) :
    parametersGain s recorded live =
      (live.keys.filter fun name =>
          recorded.contains name && sameParameter recorded live name).length * s.increment +
        ((live.keys.map (recordedGain s recorded)).sum +
          (recorded.keys.map (recordedGain s live)).sum) := by
  have agreeing : (live.keys.map fun name =>
        if recorded.contains name && sameParameter recorded live name then s.increment else 0).sum =
      (live.keys.filter fun name =>
          recorded.contains name && sameParameter recorded live name).length * s.increment := by
    simp [List.sum_map_ite]
  rw [parametersGain, List.map_congr_left fun name _ => liveGain_eq recorded live name,
    List.sum_map_add, agreeing, Int.add_assoc]

theorem parametersGain_comm (recorded live : Query) :
    parametersGain s recorded live = parametersGain s live recorded := by
  have agreeing := Multimap.filter_keys_perm live recorded fun name =>
    sameValues (recorded.getAll name) (live.getAll name)
  have same (name : String) : sameParameter live recorded name =
      sameValues (recorded.getAll name) (live.getAll name) := sameValues_comm _ _
  rw [parametersGain_eq, parametersGain_eq]
  simp only [same]
  rw [← agreeing.length_eq, Int.add_comm (live.keys.map _).sum]
  rfl

end

section

variable {s : Scale} (coherent : s.Coherent)

include coherent

theorem parametersScore_comm (recorded live : Query) :
    parametersScore s recorded live = parametersScore s live recorded := by
  by_cases both : recorded.isEmpty = true ∧ live.isEmpty = true
  · rw [parametersScore_of_both_isEmpty both, parametersScore_of_both_isEmpty both.symm]
  · rw [parametersScore_eq coherent both, parametersScore_eq coherent (mt And.symm both),
      parametersGain_comm]

/-! ## Headers -/

theorem headersScore_comm (recorded live : Multimap String) :
    headersScore s recorded live = headersScore s live recorded := by
  have agreeing := Multimap.filter_keys_perm live recorded fun name =>
    sameValues ((recorded.getAll name).map some) ((live.getAll name).map some)
  have same : sameHeader live recorded = fun name => live.contains name &&
      sameValues ((recorded.getAll name).map some) ((live.getAll name).map some) := by
    funext name
    rw [sameHeader, sameValues_comm]
  rw [headersScore_eq coherent, headersScore_eq coherent, same, ← agreeing.length_eq]
  rfl

/-! ## Bodies -/

omit coherent in
theorem partsScore_comm (recorded live : Except Multipart.Fault (List Multipart.Part)) :
    partsScore recorded live = partsScore live recorded := by
  cases recorded with
  | ok parts =>
      cases live with
      | ok parts' => rfl
      | error fault => cases fault <;> rfl
  | error fault =>
      cases live with
      | ok parts' => cases fault <;> rfl
      | error fault' => cases fault <;> cases fault' <;> rfl

theorem contentScore_comm (recordedType liveType : MediaType) (recorded live : Bytes) :
    contentScore s recordedType liveType recorded live =
      contentScore s liveType recordedType live recorded := by
  unfold contentScore
  rw [parametersScore_comm coherent, partsScore_comm, Bool.and_comm recorded.isEmpty,
    Bool.and_comm recordedType.isFormUrlencoded, Bool.and_comm recordedType.isMultipartFormData,
    Bool.beq_comm]

theorem bodyScore_comm (registry : CodingRegistry) (recorded live : Request) :
    bodyScore s registry recorded live = bodyScore s registry live recorded := by
  rcases content?_cases registry recorded live with missing | ⟨bytes, bytes', content, content'⟩
  · rw [bodyScore_of_no_content s missing, bodyScore_of_no_content s missing.symm, Bool.and_comm]
  · rw [bodyScore_of_content s content content', bodyScore_of_content s content' content,
      contentScore_comm coherent]

/-! ## Ratings -/

omit coherent in
theorem isCandidate_comm (recorded live : Request) :
    isCandidate recorded live = isCandidate live recorded := by
  rw [Bool.eq_iff_iff, isCandidate_iff, isCandidate_iff]
  simp only [eq_comm]

theorem headScore_comm (recorded live : Request) :
    headScore s recorded live = headScore s live recorded := by
  rw [headScore, headScore, parametersScore_comm coherent, headersScore_comm coherent]

theorem rate_comm (registry : CodingRegistry) (recorded live : Request) :
    rate s registry recorded live = rate s registry live recorded := by
  apply rate_congr (isCandidate_comm recorded live)
  · intro candidate
    exact (isCandidate_iff.mp candidate).1.symm
  · exact headScore_comm coherent recorded live
  · exact bodyScore_comm coherent registry recorded live

end

/-! ## Ratings that are given -/

section

variable {registry : CodingRegistry} {recorded live : Request}
  (hrecorded : ¬recorded.OverlapsDelimiters registry) (hlive : ¬live.OverlapsDelimiters registry)

include hrecorded hlive

theorem exists_rate (s : Scale) : ∃ rating, rate s registry recorded live = .ok rating := by
  rw [exists_rate_iff]
  rintro ⟨-, -, bytes, bytes', content, content', -, -, overlap | overlap⟩
  · exact hrecorded ⟨bytes, content, overlap⟩
  · exact hlive ⟨bytes', content', overlap⟩

end

/-- It makes no difference to a rating which request is the recorded one, whether or not sums have
bounds. A rating is given unless one of the bodies cannot even be taken apart. -/
theorem rate_symmetric (n : Int) (registry : CodingRegistry) (a b : Request) :
    rate (Scale.exact n) registry a b = rate (Scale.exact n) registry b a ∧
      rate (Scale.inWords n) registry a b = rate (Scale.inWords n) registry b a ∧
      (¬a.OverlapsDelimiters registry → ¬b.OverlapsDelimiters registry →
        ∃ rating, rate (Scale.exact n) registry a b = .ok rating) := by
  refine ⟨?_, ?_, ?_⟩
  · exact rate_comm (Scale.coherent_exact n) registry a b
  · exact rate_comm (Scale.coherent_inWords n) registry a b
  · intro apart apart'
    exact exists_rate apart apart' (Scale.exact n)

/-- A request with parameters and a form. -/
def formRequest (parameters fields : String) : Request :=
  ((Request.plain .post ⟨some "http", "h", none, "/a", some parameters⟩).withHeader "Content-Type"
    "application/x-www-form-urlencoded").withBody (.stored (Bytes.ofText fields))

theorem formRequest_apart (parameters fields : String) :
    ¬(formRequest parameters fields).OverlapsDelimiters CodingRegistry.standard := by
  rintro ⟨bytes, -, overlap⟩
  have type : (formRequest parameters fields).bodyType =
      (formRequest "" "").bodyType := rfl
  have noBoundary : Multipart.boundary? (formRequest "" "").bodyType = none := by
    decide +kernel
  rw [type, Multipart.decode, noBoundary] at overlap
  cases overlap

/-- Of the parameters of two requests one agrees and one on each side is alone, and of their fields
one agrees and one is alone. -/
theorem rate_symmetric_forms :
    rate (Scale.exact 100) CodingRegistry.standard (formRequest "x=1&y=2" "u=1")
        (formRequest "x=1&z=3" "u=1&v") = .ok 250 ∧
      rate (Scale.exact 100) CodingRegistry.standard (formRequest "x=1&z=3" "u=1&v")
        (formRequest "x=1&y=2" "u=1") = .ok 250 := by
  have both := rate_symmetric 100 CodingRegistry.standard (formRequest "x=1&y=2" "u=1")
    (formRequest "x=1&z=3" "u=1&v")
  have computed : rate (Scale.exact 100) CodingRegistry.standard (formRequest "x=1&y=2" "u=1")
      (formRequest "x=1&z=3" "u=1&v") = .ok 250 := by
    decide +kernel
  obtain ⟨rating, given⟩ := both.2.2 (formRequest_apart _ _) (formRequest_apart _ _)
  obtain rfl : 250 = rating := Except.ok.inj (computed.symm.trans given)
  exact ⟨given, both.1 ▸ given⟩

end Playback.Rating
