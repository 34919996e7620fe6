import Playback.Proofs.Player.Run
import Playback.Proofs.Selection.Turn
import Playback.Proofs.Url.Parsed

/-! # Playing sequences back -/

namespace Playback

open Rating

theorem isCandidate_of_signature_eq {a b live : Request} (ha : a.target.WellFormed)
    (hb : b.target.WellFormed) (same : a.signature = b.signature)
    (candidate : isCandidate a live = true) : isCandidate b live = true := by
  have hmethod : a.method = b.method := congrArg Signature.method same
  have htarget : a.target = b.target := ha.print_inj hb (congrArg Signature.target same)
  rw [isCandidate_iff] at candidate ⊢
  rwa [← hmethod, ← htarget]

namespace Player

theorem occurrence_of_run {p : Player} (aware : p.matcher.sequenceAware = true)
    {calls : List Request} {responses : List Response} {session : Session}
    (run : p.run p.newSession calls = .ok (responses, session)) (live : Request) :
    (session.register live).occurrence live =
      ((calls.map Request.signature).count live.signature : Nat) := by
  have noted := session_of_run run
  rw [newSession, if_pos aware] at noted
  rw [noted, Session.occurrence_register_foldl]

variable {p : Player} {live : Request} {signature : Signature} {rating : Int} {calls : List Request}
  {responses : List Response} {session : Session} {n : Nat}

theorem select_in_turn (sound : p.Sound) (alike : p.matcher.Alike live signature rating)
    (run : p.run p.newSession calls = .ok (responses, session))
    (counted : (calls.map Request.signature).count live.signature = n) :
    ∃ r, Matcher.turn (p.matcher.candidates live) n = some r ∧
      p.matcher.select (session.register live) live = .ok (some ⟨r,
        if n < (p.matcher.candidates live).length then rating + p.matcher.scale.increment
        else rating⟩) := by
  obtain ⟨r, hr⟩ := Matcher.exists_turn alike.nonempty n
  have others : ∀ r ∈ p.matcher.recordings, r.request.signature = signature →
      isCandidate r.request live = true := by
    intro r hr same
    obtain ⟨c, hc⟩ := List.exists_mem_of_ne_nil _ alike.nonempty
    obtain ⟨hmem, candidate⟩ := List.mem_filter.mp hc
    exact isCandidate_of_signature_eq (sound.wellFormed c hmem) (sound.wellFormed r hr)
      ((alike.signature_eq c hc).trans same.symm) candidate
  have occurrence := occurrence_of_run sound.aware run live
  rw [counted] at occurrence
  exact ⟨r, hr, Matcher.select_eq_turn sound.aware sound.scale_exact sound.increment_pos
    sound.threshold_nonneg alike others occurrence hr⟩

/-- A request whose candidates only their order tells apart is answered, as the `n`-th of its
signature in the session, by the `n`-th candidate, and by the first when there are no more. -/
theorem respond_in_turn (sound : p.Sound) (alike : p.matcher.Alike live signature rating)
    (run : p.run p.newSession calls = .ok (responses, session))
    (counted : (calls.map Request.signature).count live.signature = n) :
    ∃ r, Matcher.turn (p.matcher.candidates live) n = some r ∧
      p.matcher.select (session.register live) live = .ok (some ⟨r,
        if n < (p.matcher.candidates live).length then rating + p.matcher.scale.increment
        else rating⟩) ∧
      p.respond session live = .ok (session.register live, p.reply live r) := by
  obtain ⟨r, turn, selected⟩ := select_in_turn sound alike run counted
  exact ⟨r, turn, selected, respond_of_select selected⟩

/-- So it is for every player that is built from exchanges. -/
theorem respond_in_turn_of_ofExchanges {libraries : Libraries} (regular : libraries.urls.IsRegular)
    {exchanges : List Exchange} {settings : Settings}
    (built : ofExchanges libraries exchanges settings = .ok p)
    (aware : settings.matching.sequenceAware = true)
    (alike : p.exactly.matcher.Alike live signature rating)
    (run : p.exactly.run p.exactly.newSession calls = .ok (responses, session))
    (counted : (calls.map Request.signature).count live.signature = n) :
    ∃ r, Matcher.turn (p.exactly.matcher.candidates live) n = some r ∧
      p.exactly.respond session live = .ok (session.register live, p.exactly.reply live r) := by
  have sound := ofExchanges_sound regular built aware
  obtain ⟨r, turn, selected⟩ := select_in_turn sound alike run counted
  exact ⟨r, turn, respond_of_select selected⟩

/-- A player for one address that was recorded twice, with another one in between. -/
def ofThreeExchanges : Player :=
  let exchange (url text : String) := Exchange.get url "text/plain" text
  let recordings := Recording.ofExchanges Url.read
    [exchange "http://h/a" "1", exchange "http://h/b" "2", exchange "http://h/a" "3"]
  ⟨⟨recordings, Scale.exact 100, 0, true, CodingRegistry.standard, EncodingPolicy.asIs⟩, ⟨[], []⟩⟩

/-- A request for the address that was recorded twice, by another scheme. -/
def secureRequest : Request :=
  .plain .get ⟨some "https", "h", none, "/a", none⟩

/-- A request for the address that was recorded once. -/
def otherRequest : Request :=
  .plain .get ⟨some "http", "h", none, "/b", none⟩

theorem ofThreeExchanges_sound : ofThreeExchanges.Sound :=
  ⟨rfl, rfl, by decide, by decide,
    fun _ => Recording.wellFormed_of_mem_ofExchanges Url.read_isRegular⟩

theorem ofThreeExchanges_alike :
    ofThreeExchanges.matcher.Alike secureRequest ⟨.get, "http://h/a"⟩ 200 where
  nonempty := by
    have : (ofThreeExchanges.matcher.candidates secureRequest).isEmpty = false := by
      decide +kernel
    exact fun h => by simp [h] at this
  signature_eq := by decide +kernel
  rate_eq := by decide +kernel
  above := by decide

theorem respond_in_turn_second :
    ∃ responses session r,
      ofThreeExchanges.run ofThreeExchanges.newSession [secureRequest, otherRequest] =
        .ok (responses, session) ∧
      ofThreeExchanges.matcher.select (session.register secureRequest) secureRequest =
        .ok (some ⟨r, 300⟩) ∧
      r.exchange = Exchange.get "http://h/a" "text/plain" "3" ∧
      ofThreeExchanges.respond session secureRequest =
        .ok (session.register secureRequest, ofThreeExchanges.reply secureRequest r) := by
  cases run : ofThreeExchanges.run ofThreeExchanges.newSession [secureRequest, otherRequest] with
  | error fault =>
      have ok : (ofThreeExchanges.run ofThreeExchanges.newSession
          [secureRequest, otherRequest]).isOk = true := by
        decide +kernel
      simp [run, Except.isOk, Except.toBool] at ok
  | ok result =>
      obtain ⟨responses, session⟩ := result
      have two : (ofThreeExchanges.matcher.candidates secureRequest).length = 2 := by
        decide +kernel
      have second : (Matcher.turn (ofThreeExchanges.matcher.candidates secureRequest) 1).map
          Recording.exchange = some (Exchange.get "http://h/a" "text/plain" "3") := by
        decide +kernel
      obtain ⟨r, turn, selected, answered⟩ := respond_in_turn ofThreeExchanges_sound
        ofThreeExchanges_alike run (n := 1) (by decide +kernel)
      rw [two] at selected
      rw [turn] at second
      exact ⟨responses, session, r, rfl, selected, Option.some.inj second, answered⟩

end Player

end Playback
