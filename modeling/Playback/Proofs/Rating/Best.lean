import Playback.Proofs.Rating.Basic
import Playback.Proofs.Rating.Body

/-! # Nothing outrates an identical recording -/

namespace Playback

namespace Rating

variable {n : Int} {registry : CodingRegistry} {recorded live : Request}

/-- Whether a recorded request agrees with a live one in all but the body. -/
structure Agrees (recorded live : Request) : Prop where
  method : recorded.method = live.method
  host : recorded.target.host = live.target.host
  path : recorded.target.path = live.target.path
  query : SameParameters recorded.query live.query
  headers : SameHeaders recorded.headers live.headers

theorem agrees_iff : Agrees recorded live ↔ isCandidate recorded live = true ∧
    SameParameters recorded.query live.query ∧ SameHeaders recorded.headers live.headers := by
  rw [isCandidate_iff]
  constructor
  · rintro ⟨method, host, path, query, headers⟩
    exact ⟨⟨method, host, path⟩, query, headers⟩
  · rintro ⟨⟨method, host, path⟩, query, headers⟩
    exact ⟨method, host, path, query, headers⟩

/-! ## The score of the head -/

theorem headScore_exact : headScore (Scale.exact n) recorded live =
    n + parametersScore (Scale.exact n) recorded.query live.query +
      headersScore (Scale.exact n) recorded.headers live.headers := rfl

theorem increment_le_headScore (h : Scale.isIncrement n = true) (recorded live : Request) :
    n ≤ headScore (Scale.exact n) recorded live := by
  have parameters := parametersScore_nonneg h recorded.query live.query
  have headers := headersScore_nonneg h recorded.headers live.headers
  rw [headScore_exact]
  omega

theorem headScore_le_self (h : Scale.isIncrement n = true) (recorded live : Request) :
    headScore (Scale.exact n) recorded live ≤ headScore (Scale.exact n) live live := by
  have parameters := parametersScore_le_self h recorded.query live.query
  have headers := headersScore_le_self h recorded.headers live.headers
  rw [headScore_exact, headScore_exact]
  omega

theorem headScore_eq_self_iff (h : Scale.isIncrement n = true) :
    headScore (Scale.exact n) recorded live = headScore (Scale.exact n) live live ↔
      SameParameters recorded.query live.query ∧ SameHeaders recorded.headers live.headers := by
  have parameters := parametersScore_le_self h recorded.query live.query
  have headers := headersScore_le_self h recorded.headers live.headers
  rw [← parametersScore_eq_self_iff h, ← headersScore_eq_self_iff h, headScore_exact,
    headScore_exact]
  omega

/-! ## Ratings -/

theorem increment_le_rating (h : Scale.isIncrement n = true)
    (candidate : isCandidate recorded live = true) {rating : Int}
    (hrate : rate (Scale.exact n) registry recorded live = .ok rating) : n ≤ rating := by
  have head := increment_le_headScore h recorded live
  rcases (rate_eq_ok_iff candidate).mp hrate with ⟨-, rfl⟩ | ⟨-, score, hscore, rfl⟩
  · exact head
  · exact Int.le_trans head (Int.le_add_of_nonneg_right (bodyScore_nonneg h hscore))

/-- A rating is zero or one increment at least, so that no candidate is taken for none. -/
theorem rate_eq_zero_or_le (h : Scale.isIncrement n = true) {rating : Int}
    (hrate : rate (Scale.exact n) registry recorded live = .ok rating) :
    rating = 0 ∨ n ≤ rating := by
  cases candidate : isCandidate recorded live with
  | false =>
      rw [rate_of_not_isCandidate candidate] at hrate
      exact .inl (Except.ok.inj hrate).symm
  | true => exact .inr (increment_le_rating h candidate hrate)

theorem exists_rate_self (h : Scale.isIncrement n = true) (noParts : ¬live.CarriesParts registry) :
    ∃ self, rate (Scale.exact n) registry live live = .ok self ∧ ∀ recorded : Request,
      AtMost self (rate (Scale.exact n) registry recorded live) ∨
        rate (Scale.exact n) registry recorded live = .error .overlappingDelimiters ∧
          recorded.OverlapsDelimiters registry := by
  have pos := Scale.increment_pos h
  have least := increment_le_headScore h live live
  cases body : live.method.carriesBody with
  | false =>
      refine ⟨_, rate_of_no_body (isCandidate_self live) body, fun recorded => .inl ?_⟩
      cases candidate : isCandidate recorded live with
      | false =>
          rw [rate_of_not_isCandidate candidate]
          exact atMost_ok (by omega)
      | true =>
          rw [rate_of_no_body candidate body]
          exact atMost_ok (headScore_le_self h recorded live)
  | true =>
      obtain ⟨score, hscore, most⟩ := exists_bodyScore_self h noParts
      have nonneg := bodyScore_nonneg h hscore
      refine ⟨headScore (Scale.exact n) live live + score, ?_, fun recorded => ?_⟩
      · rw [rate_of_body (isCandidate_self live) body, hscore]
        rfl
      · cases candidate : isCandidate recorded live with
        | false =>
            rw [rate_of_not_isCandidate candidate]
            exact .inl (atMost_ok (by omega))
        | true =>
            have head := headScore_le_self h recorded live
            rw [rate_of_body candidate body]
            rcases most recorded with ⟨other, hother, le⟩ | ⟨failed, overlap⟩
            · rw [hother]
              exact .inl (atMost_ok (Int.add_le_add head le))
            · rw [failed]
              exact .inr ⟨rfl, overlap⟩

theorem rate_eq_self_iff (h : Scale.isIncrement n = true)
    (noBody : live.method.carriesBody = false) :
    rate (Scale.exact n) registry recorded live =
      .ok (headScore (Scale.exact n) live live) ↔ Agrees recorded live := by
  rw [agrees_iff]
  cases candidate : isCandidate recorded live with
  | false =>
      have pos := Scale.increment_pos h
      have least := increment_le_headScore h live live
      rw [rate_of_not_isCandidate candidate, Except.ok.injEq]
      constructor
      · intro equal
        omega
      · rintro ⟨absent, -⟩
        cases absent
  | true =>
      rw [rate_of_no_body candidate noBody, ← headScore_eq_self_iff h, Except.ok.injEq]
      exact (and_iff_right rfl).symm

/-- No recorded request outrates one that is identical with the live one, and where bodies do not
take part, only those that agree with it are rated as high. -/
theorem rate_atMost_self (accepted : Scale.isIncrement n = true) (registry : CodingRegistry)
    (recorded live : Request) :
    (¬live.CarriesParts registry →
      ∃ self, rate (Scale.exact n) registry live live = .ok self ∧
        (AtMost self (rate (Scale.exact n) registry recorded live) ∨
          rate (Scale.exact n) registry recorded live = .error .overlappingDelimiters ∧
            recorded.OverlapsDelimiters registry)) ∧
    (live.method ≠ .post → live.method ≠ .put →
      ∃ self, rate (Scale.exact n) registry live live = .ok self ∧
        (rate (Scale.exact n) registry recorded live = .ok self ↔ Agrees recorded live)) := by
  constructor
  · intro noParts
    obtain ⟨self, hself, most⟩ := exists_rate_self accepted noParts
    exact ⟨self, hself, most recorded⟩
  · intro post put
    have noBody := Method.carriesBody_eq_false post put
    exact ⟨_, rate_of_no_body (isCandidate_self live) noBody, rate_eq_self_iff accepted noBody⟩

/-- A request with two parameters and a header. -/
def searchRequest : Request :=
  (Request.plain .get ⟨some "https", "h", none, "/a", some "to=https://x/&page=2"⟩).withHeader
    "Accept" "text/html"

/-- The same request with its parameters in the other order, and the address in one of them reached
by the other protocol. -/
def reorderedRequest : Request :=
  (Request.plain .get ⟨some "http", "h", none, "/a", some "page=2&to=http://x/"⟩).withHeader
    "accept" "text/html"

theorem rate_atMost_self_reordered :
    ¬searchRequest.CarriesParts CodingRegistry.standard ∧
      searchRequest.method ≠ .post ∧ searchRequest.method ≠ .put ∧
      AtMost 400 (rate (Scale.exact 100) CodingRegistry.standard reorderedRequest searchRequest) ∧
      Agrees reorderedRequest searchRequest := by
  have noParts : ¬searchRequest.CarriesParts CodingRegistry.standard := by
    rintro ⟨bytes, held, -⟩
    cases held
  have own : rate (Scale.exact 100) CodingRegistry.standard searchRequest searchRequest =
      .ok 400 := by
    decide +kernel
  have other : rate (Scale.exact 100) CodingRegistry.standard reorderedRequest searchRequest =
      .ok 400 := by
    decide +kernel
  obtain ⟨bound, equal⟩ :=
    rate_atMost_self (n := 100) (by decide) CodingRegistry.standard reorderedRequest searchRequest
  obtain ⟨self, hself, most⟩ := bound noParts
  obtain ⟨self', hself', agrees⟩ := equal (by decide) (by decide)
  obtain rfl : 400 = self := Except.ok.inj (own.symm.trans hself)
  obtain rfl : 400 = self' := Except.ok.inj (own.symm.trans hself')
  refine ⟨noParts, by decide, by decide, most.resolve_right ?_, agrees.mp other⟩
  rw [other]
  exact nofun

end Rating

end Playback
