import Playback.Rating.Basic

/-! # Ratings by their parts -/

namespace Playback

theorem Method.carriesBody_eq_false {m : Method} (post : m ≠ .post) (put : m ≠ .put) :
    m.carriesBody = false := by
  cases m <;> trivial

namespace Rating

variable {s : Scale} {registry : CodingRegistry} {recorded live : Request}

theorem isCandidate_iff :
    isCandidate recorded live = true ↔
      recorded.method = live.method ∧ recorded.target.host = live.target.host ∧
        recorded.target.path = live.target.path := by
  simp [isCandidate, and_assoc]

theorem isCandidate_self (live : Request) : isCandidate live live = true :=
  isCandidate_iff.mpr ⟨rfl, rfl, rfl⟩

theorem rate_of_not_isCandidate (h : isCandidate recorded live = false) :
    rate s registry recorded live = .ok 0 := by
  rw [rate, if_pos (by simp [h])]
  rfl

theorem rate_of_no_body (h : isCandidate recorded live = true)
    (noBody : live.method.carriesBody = false) :
    rate s registry recorded live = .ok (headScore s recorded live) := by
  rw [rate, if_neg (by simp [h]), if_neg (by simp [noBody])]
  rfl

theorem rate_of_body (h : isCandidate recorded live = true)
    (body : live.method.carriesBody = true) :
    rate s registry recorded live =
      (bodyScore s registry recorded live).map (s.add (headScore s recorded live)) := by
  rw [rate, if_neg (by simp [h]), if_pos body]
  cases bodyScore s registry recorded live <;> rfl

theorem rate_congr {recorded' live' : Request}
    (candidate : isCandidate recorded live = isCandidate recorded' live')
    (method : isCandidate recorded live = true → live.method = live'.method)
    (head : headScore s recorded live = headScore s recorded' live')
    (body : bodyScore s registry recorded live = bodyScore s registry recorded' live') :
    rate s registry recorded live = rate s registry recorded' live' := by
  cases h : isCandidate recorded live with
  | false => rw [rate_of_not_isCandidate h, rate_of_not_isCandidate (candidate ▸ h)]
  | true =>
      have same := method h
      cases carries : live.method.carriesBody with
      | false =>
          rw [rate_of_no_body h carries, rate_of_no_body (candidate ▸ h) (same ▸ carries), head]
      | true =>
          rw [rate_of_body h carries, rate_of_body (candidate ▸ h) (same ▸ carries), head, body]

/-- What a candidate is rated: its head alone, or its head and the score of its body. -/
theorem rate_eq_ok_iff (h : isCandidate recorded live = true) {rating : Int} :
    rate s registry recorded live = .ok rating ↔
      live.method.carriesBody = false ∧ headScore s recorded live = rating ∨
      live.method.carriesBody = true ∧ ∃ score, bodyScore s registry recorded live = .ok score ∧
        s.add (headScore s recorded live) score = rating := by
  cases body : live.method.carriesBody with
  | false =>
      rw [rate_of_no_body h body]
      simp
  | true =>
      rw [rate_of_body h body]
      cases bodyScore s registry recorded live <;> simp [Except.map]

end Rating

end Playback
