import Playback.Proofs.Rating.Basic
import Playback.Proofs.Rating.Body

/-! # When there is a rating -/

namespace Playback

theorem MediaType.isFormUrlencoded_eq_false {type : MediaType}
    (parts : type.isMultipartFormData = true) : type.isFormUrlencoded = false := by
  rw [isMultipartFormData, beq_iff_eq] at parts
  rw [isFormUrlencoded, parts]
  decide

namespace Rating

open Multipart (decode)

/-- Whether two bodies are taken apart, and the delimiters of one of them overlap. -/
structure MeetsOverlap (recordedType liveType : MediaType) (recorded live : Bytes) : Prop where
  recordedParts : recordedType.isMultipartFormData = true
  liveParts : liveType.isMultipartFormData = true
  overlap : decode recordedType recorded = .error .overlappingDelimiters ∨
    decode liveType live = .error .overlappingDelimiters

/-- Whether a recorded request is a candidate for a live one, whose method sends a body, and the
bodies are taken apart although the delimiters of one of them overlap. -/
structure IsGivenUp (registry : CodingRegistry) (recorded live : Request) : Prop where
  candidate : isCandidate recorded live = true
  carriesBody : live.method.carriesBody = true
  overlap : ∃ bytes bytes', recorded.content? registry = some bytes ∧
    live.content? registry = some bytes' ∧
    MeetsOverlap recorded.bodyType live.bodyType bytes bytes'

/-! ## Scores of bodies -/

section

variable {s : Scale} {recordedType liveType : MediaType} {recorded live : Bytes}

theorem partsScore_of_overlap {recorded live : Except Multipart.Fault (List Multipart.Part)}
    (overlap : recorded = .error .overlappingDelimiters ∨ live = .error .overlappingDelimiters) :
    partsScore recorded live = .error .overlappingDelimiters := by
  unfold partsScore
  split
  · rfl
  · rfl
  · next none none' => exact absurd overlap (not_or.mpr ⟨none, none'⟩)

theorem contentScore_of_meetsOverlap (h : MeetsOverlap recordedType liveType recorded live) :
    contentScore s recordedType liveType recorded live = .error .overlappingDelimiters := by
  -- An empty body has no delimiters, so one of the bodies has something in it.
  have some : ¬(recorded.isEmpty && live.isEmpty) = true := by
    rw [Bool.and_eq_true, List.isEmpty_iff, List.isEmpty_iff]
    rintro ⟨rfl, rfl⟩
    exact h.overlap.elim (Multipart.decode_nil_ne recordedType) (Multipart.decode_nil_ne liveType)
  rw [contentScore, if_neg some, if_neg (by simp [MediaType.isFormUrlencoded_eq_false h.liveParts]),
    if_pos (by simp [h.recordedParts, h.liveParts]), partsScore_of_overlap h.overlap]

theorem exists_contentScore (h : ¬MeetsOverlap recordedType liveType recorded live) :
    ∃ score, contentScore s recordedType liveType recorded live = .ok score := by
  unfold contentScore
  split
  · exact ⟨_, rfl⟩
  · split
    · exact ⟨_, rfl⟩
    · split
      · next parts =>
          obtain ⟨recordedParts, liveParts⟩ := Bool.and_eq_true_iff.mp parts
          have apart : decode liveType live ≠ .error .overlappingDelimiters :=
            fun overlap => h ⟨recordedParts, liveParts, .inr overlap⟩
          rcases partsScore_eq (decode recordedType recorded) apart with score | ⟨-, overlap⟩
          · exact ⟨0, score⟩
          · exact absurd ⟨recordedParts, liveParts, .inl overlap⟩ h
      · exact ⟨_, rfl⟩

end

/-! ## Ratings -/

section

variable {s : Scale} {registry : CodingRegistry} {recorded live : Request}

theorem rate_of_isGivenUp (h : IsGivenUp registry recorded live) :
    rate s registry recorded live = .error .overlappingDelimiters := by
  obtain ⟨candidate, carriesBody, bytes, bytes', hrecorded, hlive, overlap⟩ := h
  rw [rate_of_body candidate carriesBody, bodyScore_of_content s hrecorded hlive,
    contentScore_of_meetsOverlap overlap]
  rfl

/-- There is a rating exactly if it is not given up over delimiters that overlap. -/
theorem exists_rate_iff :
    (∃ rating, rate s registry recorded live = .ok rating) ↔ ¬IsGivenUp registry recorded live := by
  constructor
  · rintro ⟨rating, hrating⟩ givenUp
    rw [rate_of_isGivenUp givenUp] at hrating
    cases hrating
  · intro h
    cases candidate : isCandidate recorded live with
    | false => exact ⟨0, rate_of_not_isCandidate candidate⟩
    | true =>
        cases carriesBody : live.method.carriesBody with
        | false => exact ⟨_, rate_of_no_body candidate carriesBody⟩
        | true =>
            have scored : ∃ score, bodyScore s registry recorded live = .ok score := by
              rcases content?_cases registry recorded live with
                missing | ⟨bytes, bytes', hrecorded, hlive⟩
              · exact ⟨_, bodyScore_of_no_content s missing⟩
              · rw [bodyScore_of_content s hrecorded hlive]
                exact exists_contentScore fun overlap =>
                  h ⟨candidate, carriesBody, bytes, bytes', hrecorded, hlive, overlap⟩
            obtain ⟨score, hscore⟩ := scored
            rw [rate_of_body candidate carriesBody, hscore]
            exact ⟨_, rfl⟩

end

end Rating

end Playback
