import Playback.Proofs.Player.Sequence

/-! # Requests of other signatures do not interfere -/

namespace Playback

theorem Matcher.select_congr {m : Matcher} {s t : Session} {live : Request}
    (h : s.occurrence live = t.occurrence live) : m.select s live = m.select t live := by
  rw [select, select, h]

theorem Session.foldl_register_stateless (calls : List Request) :
    calls.foldl register stateless = stateless := by
  induction calls with
  | nil => rfl
  | cons live calls ih => exact ih

namespace Player

variable {p : Player} {live : Request}

/-- After a run, the occurrence of a request is the number of earlier ones of its signature, or zero
where requests are not counted. -/
theorem occurrence_of_run_eq_ite {calls : List Request} {responses : List Response}
    {session : Session} (run : p.run p.newSession calls = .ok (responses, session)) :
    (session.register live).occurrence live =
      if p.matcher.sequenceAware then
        (((calls.map Request.signature).count live.signature : Nat) : Int)
      else 0 := by
  cases aware : p.matcher.sequenceAware with
  | true => exact occurrence_of_run aware run live
  | false =>
      have noted := session_of_run run
      rw [newSession, if_neg (by simp [aware]), Session.foldl_register_stateless] at noted
      rw [noted]
      rfl

theorem respond_congr {s t : Session}
    (h : (s.register live).occurrence live = (t.register live).occurrence live) :
    (p.respond s live).map Prod.snd = (p.respond t live).map Prod.snd := by
  rw [respond_eq_map, respond_eq_map, Matcher.select_congr h]
  cases p.matcher.select (t.register live) live <;> rfl

/-- After two runs that noted the signature of a request equally often, the request gets the same
response, or fails in the same way. -/
theorem respond_eq_of_count_eq {first second : List Request} {responses others : List Response}
    {s t : Session} (run : p.run p.newSession first = .ok (responses, s))
    (run' : p.run p.newSession second = .ok (others, t))
    (equal : (first.map Request.signature).count live.signature =
      (second.map Request.signature).count live.signature) :
    (p.respond s live).map Prod.snd = (p.respond t live).map Prod.snd := by
  apply respond_congr
  rw [occurrence_of_run_eq_ite run, occurrence_of_run_eq_ite run', equal]

/-- A request for an address that was not recorded. -/
def missingRequest : Request :=
  .plain .get ⟨some "http", "h", none, "/c", none⟩

/-- The second request for an address gets one response, whatever stands before it. -/
theorem respond_eq_of_count_eq_second :
    ∃ responses others s t,
      ofThreeExchanges.run ofThreeExchanges.newSession [secureRequest, otherRequest] =
        .ok (responses, s) ∧
      ofThreeExchanges.run ofThreeExchanges.newSession
        [missingRequest, otherRequest, secureRequest, otherRequest] = .ok (others, t) ∧
      ([secureRequest, otherRequest].map Request.signature).count secureRequest.signature =
        ([missingRequest, otherRequest, secureRequest, otherRequest].map Request.signature).count
          secureRequest.signature ∧
      (ofThreeExchanges.respond s secureRequest).map Prod.snd =
        (ofThreeExchanges.respond t secureRequest).map Prod.snd := by
  have equal : ([secureRequest, otherRequest].map Request.signature).count
      secureRequest.signature =
      ([missingRequest, otherRequest, secureRequest, otherRequest].map Request.signature).count
        secureRequest.signature := by
    decide +kernel
  obtain ⟨⟨responses, s⟩, run⟩ := exists_ok_of_isOk (x := ofThreeExchanges.run
    ofThreeExchanges.newSession [secureRequest, otherRequest]) (by decide +kernel)
  obtain ⟨⟨others, t⟩, run'⟩ := exists_ok_of_isOk (x := ofThreeExchanges.run
    ofThreeExchanges.newSession [missingRequest, otherRequest, secureRequest, otherRequest])
    (by decide +kernel)
  exact ⟨responses, others, s, t, run, run', equal, respond_eq_of_count_eq run run' equal⟩

end Player

end Playback
