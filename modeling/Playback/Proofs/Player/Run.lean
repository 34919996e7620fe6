import Playback.Proofs.Message.Target
import Playback.Proofs.Settings.Validity

/-! # Players in use -/

namespace Playback

open Rating

variable {urls : UrlReader}

theorem Request.parse_wellFormed (regular : urls.IsRegular) {token raw : String} {r : Request}
    (h : Request.parse urls token raw = .ok r) : r.target.WellFormed := by
  unfold Request.parse at h
  split at h
  case h_1 => cases h
  case h_2 =>
    obtain ⟨target, htarget, h⟩ := exists_ok_of_bind_eq_ok h
    cases h
    exact Target.resolve_wellFormed regular htarget

theorem Exchange.target_of_parseRequest {e : Exchange} {r : Request}
    (h : e.parseRequest urls = .ok r) :
    ∃ plain, Request.parse urls e.request.method e.request.url = .ok plain ∧
      r.target = plain.target := by
  obtain ⟨plain, hplain, h⟩ := exists_ok_of_bind_eq_ok h
  refine ⟨plain, hplain, ?_⟩
  dsimp only at h
  split at h
  case h_1 =>
    cases h
    rfl
  case h_2 =>
    obtain ⟨bytes, -, h⟩ := exists_ok_of_bind_eq_ok h
    cases h
    rfl

theorem Recording.wellFormed_of_mem_ofExchanges (regular : urls.IsRegular)
    {exchanges : List Exchange} {r : Recording} (h : r ∈ Recording.ofExchanges urls exchanges) :
    r.request.target.WellFormed := by
  obtain ⟨e, -, he⟩ := List.mem_filterMap.mp h
  cases hr : Recording.ofExchange urls e with
  | error fault => simp [hr, Except.toOption] at he
  | ok found =>
      obtain rfl : found = r := by simpa [hr, Except.toOption] using he
      obtain ⟨request, hrequest, hr⟩ := exists_ok_of_bind_eq_ok hr
      cases hr
      obtain ⟨plain, hplain, same⟩ := Exchange.target_of_parseRequest hrequest
      rw [same]
      exact Request.parse_wellFormed regular hplain

namespace Player

/-! ## Building -/

/-- A player whose ratings are added up without bounds. -/
def exactly (p : Player) : Player :=
  { p with matcher := { p.matcher with scale := Scale.exact p.matcher.scale.increment } }

/-- What building establishes of a player that plays sequences back, but for the bounds of its
ratings. -/
structure Sound (p : Player) : Prop where
  aware : p.matcher.sequenceAware = true
  scale_exact : p.matcher.scale = Scale.exact p.matcher.scale.increment
  increment_pos : 0 < p.matcher.scale.increment
  threshold_nonneg : 0 ≤ p.matcher.threshold
  wellFormed : ∀ r ∈ p.matcher.recordings, r.request.target.WellFormed

variable {patterns : PatternReader} {registry : CodingRegistry} {recordings : List Recording}
  {settings : Settings} {p : Player}

theorem ofRecordings_eq_ok (h : ofRecordings patterns registry recordings settings = .ok p) :
    settings.validate patterns = .ok () ∧ ∃ rewrites, settings.compile patterns = .ok rewrites ∧
      p = ⟨⟨recordings, Scale.inWords settings.matching.increment.toInt,
        settings.matching.threshold.toInt, settings.matching.sequenceAware, registry,
        EncodingPolicy.asIs⟩, rewrites⟩ := by
  obtain ⟨⟨⟩, valid, h⟩ := exists_ok_of_bind_eq_ok h
  obtain ⟨scale, hscale, h⟩ := exists_ok_of_bind_eq_ok h
  dsimp only at h
  split at h
  case h_2 => cases h
  case h_1 rewrites compiled =>
    cases h
    unfold scaleOf at hscale
    split at hscale
    case isFalse => cases hscale
    case isTrue =>
      cases hscale
      exact ⟨valid, rewrites, compiled, rfl⟩

theorem ofRecordings_sound (h : ofRecordings patterns registry recordings settings = .ok p)
    (aware : settings.matching.sequenceAware = true)
    (wellFormed : ∀ r ∈ recordings, r.request.target.WellFormed) : p.exactly.Sound := by
  obtain ⟨valid, rewrites, -, rfl⟩ := ofRecordings_eq_ok h
  obtain ⟨increment_pos, -, threshold_nonneg, -⟩ := Settings.validate_eq_ok_iff.mp valid
  exact ⟨aware, rfl, increment_pos, threshold_nonneg, wellFormed⟩

theorem ofExchanges_sound {libraries : Libraries} (regular : libraries.urls.IsRegular)
    {exchanges : List Exchange} (h : ofExchanges libraries exchanges settings = .ok p)
    (aware : settings.matching.sequenceAware = true) : p.exactly.Sound :=
  ofRecordings_sound h aware fun _ => Recording.wellFormed_of_mem_ofExchanges regular

/-! ## Runs -/

/-- Answers requests one after the other. -/
def run (p : Player) (session : Session) :
    List Request → Except Multipart.Fault (List Response × Session)
  | [] => pure ([], session)
  | live :: calls => do
    let (session, response) ← p.respond session live
    let (responses, session) ← p.run session calls
    pure (response :: responses, session)

theorem session_of_respond {p : Player} {session after : Session} {live : Request}
    {response : Response} (h : p.respond session live = .ok (after, response)) :
    after = session.register live := by
  obtain ⟨answer, -, h⟩ := exists_ok_of_bind_eq_ok h
  cases answer <;> cases h <;> rfl

/-- After a run, all its requests have been noted. -/
theorem session_of_run {p : Player} {calls : List Request} {session after : Session}
    {responses : List Response} (h : p.run session calls = .ok (responses, after)) :
    after = calls.foldl Session.register session := by
  induction calls generalizing session responses with
  | nil =>
      cases h
      rfl
  | cons live calls ih =>
      obtain ⟨⟨noted, response⟩, hrespond, h⟩ := exists_ok_of_bind_eq_ok h
      obtain ⟨⟨others, last⟩, hrun, h⟩ := exists_ok_of_bind_eq_ok h
      cases h
      obtain rfl := session_of_respond hrespond
      exact ih hrun

/-! ## Answers -/

/-- The response made from a recording, if it can be served. -/
def reply (p : Player) (live : Request) (r : Recording) : Response :=
  match p.matcher.serve live r with
  | some response => p.rewrite live response
  | none => Response.notFound

/-- The response to a request after a selection. -/
def answerFrom (p : Player) (live : Request) (chosen : Option (Rated Recording)) : Response :=
  match chosen with
  | some r => p.reply live r.item
  | none => Response.notFound

/-- Only the selection of a recording looks at the session. -/
theorem respond_eq_map (p : Player) (session : Session) (live : Request) :
    p.respond session live = (p.matcher.select (session.register live) live).map fun chosen =>
      (session.register live, p.answerFrom live chosen) := by
  cases h : p.matcher.select (session.register live) live with
  | error fault =>
      simp only [respond, Matcher.answer, h]
      rfl
  | ok chosen =>
      simp only [respond, Matcher.answer, h, bind, Except.bind, pure, Except.pure, Except.map]
      cases chosen with
      | none => rfl
      | some r =>
          simp only [Option.bind_some, answerFrom, reply]
          cases p.matcher.serve live r.item <;> rfl

theorem respond_of_select {p : Player} {session : Session} {live : Request} {r : Recording}
    {rating : Int}
    (h : p.matcher.select (session.register live) live = .ok (some ⟨r, rating⟩)) :
    p.respond session live = .ok (session.register live, p.reply live r) := by
  rw [respond_eq_map, h]
  rfl

/-- What several requests are answered one after the other. A request that is not answered, because
its rating fails, has been noted all the same. -/
def answers (p : Player) (session : Session) :
    List Request → List (Except Multipart.Fault Response)
  | [] => []
  | live :: calls =>
    (p.respond session live).map Prod.snd :: p.answers (session.register live) calls

theorem answers_of_run {p : Player} {calls : List Request} {session after : Session}
    {responses : List Response} (h : p.run session calls = .ok (responses, after)) :
    p.answers session calls = responses.map .ok := by
  induction calls generalizing session responses with
  | nil =>
      cases h
      rfl
  | cons live calls ih =>
      obtain ⟨⟨noted, response⟩, hrespond, h⟩ := exists_ok_of_bind_eq_ok h
      obtain ⟨⟨others, last⟩, hrun, h⟩ := exists_ok_of_bind_eq_ok h
      cases h
      obtain rfl := session_of_respond hrespond
      rw [answers, hrespond, ih hrun]
      rfl

theorem exists_respond_of_mem_answers {p : Player} {calls : List Request} {session : Session}
    {response : Response} (h : .ok response ∈ p.answers session calls) :
    ∃ noted live after, p.respond noted live = .ok (after, response) := by
  induction calls generalizing session with
  | nil => simp [answers] at h
  | cons live calls ih =>
      rw [answers, List.mem_cons] at h
      rcases h with here | later
      · cases answered : p.respond session live with
        | error fault => simp [answered, Except.map] at here
        | ok result =>
            obtain ⟨after, found⟩ := result
            obtain rfl : response = found := by simpa [answered, Except.map] using here
            exact ⟨session, live, after, answered⟩
      · exact ih later

end Player

end Playback
