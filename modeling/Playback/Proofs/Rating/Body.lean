import Playback.Proofs.Rating.Names
import Playback.Rating.Body

/-! # The best score of bodies -/

namespace Playback

/-! ## Empty forms in parts -/

theorem Multipart.delimiterPlaces_nil (delimiter : Bytes) : delimiterPlaces delimiter [] = [] := by
  unfold delimiterPlaces
  rw [occurrencesByWindow, dif_pos rfl]

theorem Multipart.decode_nil_ne (m : MediaType) : decode m [] ≠ .error .overlappingDelimiters := by
  unfold decode
  cases boundary? m with
  | none => exact nofun
  | some boundary =>
      dsimp only
      rw [delimiterPlaces_nil]
      exact nofun

namespace Request

/-- The media type that a request declares for its body, or that of any bytes. -/
def bodyType (r : Request) : MediaType :=
  r.contentType?.getD MediaType.octetStream

/-- The body of a request with its codings undone, if there is one and it can be read. -/
def content? (registry : CodingRegistry) (r : Request) : Option Bytes :=
  r.body.bind (Rating.bodyBytes registry r)

/-- Whether a request carries a form in parts that is not empty. -/
def CarriesParts (registry : CodingRegistry) (r : Request) : Prop :=
  ∃ bytes, r.content? registry = some bytes ∧ bytes ≠ [] ∧ r.bodyType.isMultipartFormData = true

/-- Whether what a request carries cannot even be taken apart, because its delimiters overlap. -/
def OverlapsDelimiters (registry : CodingRegistry) (r : Request) : Prop :=
  ∃ bytes, r.content? registry = some bytes ∧
    Multipart.decode r.bodyType bytes = .error .overlappingDelimiters

end Request

namespace Rating

open Multipart (Fault)

/-- Whether the bodies of two requests are compared as forms. -/
def ComparesForms (recorded live : Request) : Prop :=
  recorded.bodyType.isFormUrlencoded = true ∧ live.bodyType.isFormUrlencoded = true

/-- Whether a score is given and does not exceed a bound. -/
def AtMost (bound : Int) (score : Except Fault Int) : Prop :=
  ∃ n, score = .ok n ∧ n ≤ bound

theorem atMost_ok {bound n : Int} (h : n ≤ bound) : AtMost bound (.ok n) :=
  ⟨n, rfl, h⟩

section

variable {n : Int} {recordedType liveType : MediaType} {recorded live : Bytes}

/-- What a body that is no form in parts scores when it is compared with itself. -/
def selfScore (s : Scale) (type : MediaType) (bytes : Bytes) : Int :=
  if bytes.isEmpty then s.increment
  else if type.isFormUrlencoded then parametersScore s (formOf bytes) (formOf bytes)
  else s.increment

theorem contentScore_self (s : Scale) (h : live ≠ [] → liveType.isMultipartFormData = false) :
    contentScore s liveType liveType live live = .ok (selfScore s liveType live) := by
  unfold contentScore selfScore
  by_cases empty : live = []
  · simp [empty]
  · simp only [h empty, List.isEmpty_iff, empty, Bool.and_self, Bool.false_eq_true,
      if_false, beq_self_eq_true, if_true]
    split <;> rfl

theorem increment_le_selfScore (h : Scale.isIncrement n = true) (type : MediaType)
    (bytes : Bytes) : n ≤ selfScore (Scale.exact n) type bytes := by
  unfold selfScore
  split
  · exact Int.le_refl n
  · split
    · exact increment_le_parametersScore_self h _
    · exact Int.le_refl n

theorem parametersScore_le_selfScore (h : Scale.isIncrement n = true)
    (form : liveType.isFormUrlencoded = true) :
    parametersScore (Scale.exact n) (formOf recorded) (formOf live) ≤
      selfScore (Scale.exact n) liveType live := by
  apply Int.le_trans (parametersScore_le_self h _ _)
  unfold selfScore
  by_cases empty : live.isEmpty = true
  · rw [if_pos empty, List.isEmpty_iff.mp empty,
      parametersScore_self h, if_pos (by decide +kernel)]
    exact Int.le_refl n
  · rw [if_neg empty, if_pos form]

/-- Forms in parts score nothing, unless the recorded one cannot be taken apart. -/
theorem partsScore_eq (recorded : Except Fault (List Multipart.Part))
    {live : Except Fault (List Multipart.Part)} (h : live ≠ .error .overlappingDelimiters) :
    partsScore recorded live = .ok 0 ∨
      partsScore recorded live = .error .overlappingDelimiters ∧
        recorded = .error .overlappingDelimiters := by
  unfold partsScore
  split
  · exact .inr ⟨rfl, rfl⟩
  · exact absurd rfl h
  · exact .inl rfl

theorem contentScore_atMost (h : Scale.isIncrement n = true) (recordedType : MediaType)
    (recorded : Bytes) (noParts : live ≠ [] → liveType.isMultipartFormData = false) :
    AtMost (selfScore (Scale.exact n) liveType live)
        (contentScore (Scale.exact n) recordedType liveType recorded live) ∨
      contentScore (Scale.exact n) recordedType liveType recorded live =
          .error .overlappingDelimiters ∧
        Multipart.decode recordedType recorded = .error .overlappingDelimiters := by
  have pos := Scale.increment_pos h
  have least := increment_le_selfScore h liveType live
  unfold contentScore
  split
  · exact .inl (atMost_ok least)
  · split
    · next forms =>
        exact .inl (atMost_ok (parametersScore_le_selfScore h (Bool.and_eq_true_iff.mp forms).2))
    · split
      · next parts =>
          obtain rfl : live = [] := by
            by_contra some
            exact absurd (Bool.and_eq_true_iff.mp parts).2 (by simp [noParts some])
          rcases partsScore_eq (Multipart.decode recordedType recorded)
            (Multipart.decode_nil_ne liveType) with score | overlap
          · rw [score]
            exact .inl (atMost_ok (by omega))
          · exact .inr overlap
      · left
        apply atMost_ok
        split
        · exact least
        · omega

theorem contentScore_nonneg (h : Scale.isIncrement n = true) {score : Int}
    (hscore : contentScore (Scale.exact n) recordedType liveType recorded live = .ok score) :
    0 ≤ score := by
  have pos := Scale.increment_pos h
  unfold contentScore at hscore
  split at hscore
  · cases hscore
    exact Int.le_of_lt pos
  · split at hscore
    · cases hscore
      exact parametersScore_nonneg h _ _
    · split at hscore
      · unfold partsScore at hscore
        split at hscore <;> cases hscore
        exact Int.le_refl 0
      · cases hscore
        split
        · exact Int.le_of_lt pos
        · exact Int.le_refl 0

variable {registry : CodingRegistry} {recordedRequest liveRequest : Request}

/-- Either both requests carry something that can be read, or one of them does not. -/
theorem content?_cases (registry : CodingRegistry) (recorded live : Request) :
    (recorded.content? registry = none ∨ live.content? registry = none) ∨
      ∃ bytes bytes', recorded.content? registry = some bytes ∧
        live.content? registry = some bytes' := by
  cases recorded.content? registry with
  | none => exact .inl (.inl rfl)
  | some bytes =>
      cases live.content? registry with
      | none => exact .inl (.inr rfl)
      | some bytes' => exact .inr ⟨bytes, bytes', rfl, rfl⟩

theorem bodyScore_of_content (s : Scale) (h : recordedRequest.content? registry = some recorded)
    (h' : liveRequest.content? registry = some live) :
    bodyScore s registry recordedRequest liveRequest =
      contentScore s recordedRequest.bodyType liveRequest.bodyType recorded live := by
  obtain ⟨body, hbody, hread⟩ := Option.bind_eq_some_iff.mp h
  obtain ⟨body', hbody', hread'⟩ := Option.bind_eq_some_iff.mp h'
  unfold bodyScore
  rw [hbody, hbody']
  dsimp only
  rw [hread, hread']
  rfl

theorem bodyScore_of_no_content (s : Scale)
    (h : recordedRequest.content? registry = none ∨ liveRequest.content? registry = none) :
    bodyScore s registry recordedRequest liveRequest =
      .ok (if recordedRequest.body.isNone && liveRequest.body.isNone then s.half else 0) := by
  simp only [Request.content?, Option.bind_eq_none_iff] at h
  unfold bodyScore
  cases hbody : recordedRequest.body with
  | none => cases liveRequest.body <;> rfl
  | some body =>
      cases hbody' : liveRequest.body with
      | none => rfl
      | some body' =>
          rcases h with h | h
          · simp [h body hbody]
          · simp [h body' hbody']

theorem bodyScore_nonneg (h : Scale.isIncrement n = true) {score : Int}
    (hscore : bodyScore (Scale.exact n) registry recordedRequest liveRequest = .ok score) :
    0 ≤ score := by
  have half := Scale.half_pos h
  rcases content?_cases registry recordedRequest liveRequest with
    missing | ⟨recorded, live, hrecorded, hlive⟩
  · rw [bodyScore_of_no_content _ missing] at hscore
    cases hscore
    split <;> omega
  · rw [bodyScore_of_content _ hrecorded hlive] at hscore
    exact contentScore_nonneg h hscore

/-- The body of the live request has a score, and no recorded body has a higher one, unless it
cannot be taken apart. -/
theorem exists_bodyScore_self (h : Scale.isIncrement n = true)
    (noParts : ¬liveRequest.CarriesParts registry) :
    ∃ self, bodyScore (Scale.exact n) registry liveRequest liveRequest = .ok self ∧
      ∀ recordedRequest : Request,
        AtMost self (bodyScore (Scale.exact n) registry recordedRequest liveRequest) ∨
          bodyScore (Scale.exact n) registry recordedRequest liveRequest =
              .error .overlappingDelimiters ∧
            recordedRequest.OverlapsDelimiters registry := by
  have half := Scale.half_pos h
  cases hlive : liveRequest.content? registry with
  | none =>
      refine ⟨_, bodyScore_of_no_content _ (.inl hlive), fun recordedRequest => .inl ?_⟩
      rw [bodyScore_of_no_content _ (.inr hlive)]
      apply atMost_ok
      cases recordedRequest.body <;> cases liveRequest.body <;> simp [Int.le_of_lt half]
  | some live =>
      have noParts : live ≠ [] → liveRequest.bodyType.isMultipartFormData = false := by
        intro some
        by_contra parts
        exact noParts ⟨live, hlive, some, by simpa using parts⟩
      have least := increment_le_selfScore h liveRequest.bodyType live
      have pos := Scale.increment_pos h
      refine ⟨selfScore (Scale.exact n) liveRequest.bodyType live, ?_, fun recordedRequest => ?_⟩
      · rw [bodyScore_of_content _ hlive hlive, contentScore_self _ noParts]
      · cases hrecorded : recordedRequest.content? registry with
        | none =>
            obtain ⟨body, hbody, -⟩ := Option.bind_eq_some_iff.mp hlive
            rw [bodyScore_of_no_content _ (.inl hrecorded), hbody]
            exact .inl (atMost_ok (by simpa using Int.le_trans (Int.le_of_lt pos) least))
        | some recorded =>
            rw [bodyScore_of_content _ hrecorded hlive]
            rcases contentScore_atMost h recordedRequest.bodyType recorded noParts with
              most | ⟨failed, overlap⟩
            · exact .inl most
            · exact .inr ⟨failed, recorded, hrecorded, overlap⟩

end

end Rating

end Playback
