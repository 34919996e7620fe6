import Playback.Player.Standard
import Playback.Proofs.Capture.Serving
import Playback.Proofs.Player.Run

/-! # Declared lengths of responses -/

namespace Playback

theorem Exchange.declaresLength_of_parseResponse {registry : CodingRegistry}
    {policy : EncodingPolicy} {live : Request} {e : Exchange} {r : Response}
    (h : e.parseResponse registry policy live = .ok r) : r.payload.DeclaresLength := by
  obtain ⟨recorded, -, h⟩ := exists_ok_of_bind_eq_ok h
  obtain ⟨negotiated, -, h⟩ := exists_ok_of_bind_eq_ok h
  obtain ⟨payload, hpayload, h⟩ := exists_ok_of_bind_eq_ok h
  cases h
  exact Payload.declaresLength_of_withContentLength (ServingFault.eq_ok_of_lift hpayload)

theorem Response.declaresLength_notFound : Response.notFound.payload.DeclaresLength :=
  ⟨Bytes.ofText "404 Not Found", "13", rfl, by decide +kernel, by decide +kernel⟩

namespace Player

variable {libraries : Libraries} {p : Player} {live : Request}

theorem declaresLength_rewriteBody {d : Payload} (h : d.DeclaresLength) :
    (p.rewriteBody live d).DeclaresLength := by
  rw [rewriteBody]
  split
  case isTrue => exact h
  case isFalse =>
    split
    case h_1 => exact h
    case h_2 body _ => exact Payload.declaresLength_of_replaceHeader (p := d) rfl rfl

theorem declaresLength_rewrite (noHeaderRules : p.rewrites.headers = []) {r : Response}
    (h : r.payload.DeclaresLength) : (p.rewrite live r).payload.DeclaresLength := by
  rw [rewrite, rewriteHeaders, noHeaderRules]
  exact declaresLength_rewriteBody h

theorem declaresLength_reply (noHeaderRules : p.rewrites.headers = []) (r : Recording) :
    (p.reply live r).payload.DeclaresLength := by
  rw [reply]
  cases served : p.matcher.serve live r with
  | none => exact Response.declaresLength_notFound
  | some response =>
      have parsed : r.exchange.parseResponse p.matcher.registry p.matcher.policy live =
          .ok response := by
        rw [Matcher.serve] at served
        cases parsed : r.exchange.parseResponse p.matcher.registry p.matcher.policy live with
        | error fault => simp [parsed, Except.toOption] at served
        | ok found => simpa [parsed, Except.toOption] using served
      exact declaresLength_rewrite noHeaderRules (Exchange.declaresLength_of_parseResponse parsed)

/-- One step: whatever the session, the response declares its length. -/
theorem declaresLength_of_respond (noHeaderRules : p.rewrites.headers = [])
    {session after : Session} {response : Response}
    (h : p.respond session live = .ok (after, response)) : response.payload.DeclaresLength := by
  rw [respond_eq_map] at h
  cases chosen : p.matcher.select (session.register live) live with
  | error fault => simp [chosen, Except.map] at h
  | ok found =>
      obtain rfl : p.answerFrom live found = response := by
        simp only [chosen, Except.map, Except.ok.injEq, Prod.mk.injEq] at h
        exact h.2
      cases found with
      | none => exact Response.declaresLength_notFound
      | some r => exact declaresLength_reply noHeaderRules r.item

theorem headers_of_ofExchanges {exchanges : List Exchange} {settings : Settings}
    (built : ofExchanges libraries exchanges settings = .ok p) (noHeaderRules : settings.headerRules = []) :
    p.rewrites.headers = [] := by
  obtain ⟨-, rewrites, compiled, rfl⟩ := ofRecordings_eq_ok built
  rw [Settings.compile, noHeaderRules] at compiled
  obtain ⟨body, -, compiled⟩ := exists_ok_of_bind_eq_ok compiled
  cases compiled
  rfl

/-- Whatever was recorded and however bodies are rewritten: in every session, every response to
every sequence of requests has one header for the length, and it is that of the body. -/
theorem declaresLength_of_mem_answers {exchanges : List Exchange} {settings : Settings}
    (built : ofExchanges libraries exchanges settings = .ok p) (noHeaderRules : settings.headerRules = [])
    (session : Session) (calls : List Request) :
    ∀ response, .ok response ∈ p.answers session calls → response.payload.DeclaresLength := by
  intro response answered
  obtain ⟨noted, live, after, h⟩ := exists_respond_of_mem_answers answered
  exact declaresLength_of_respond (headers_of_ofExchanges built noHeaderRules) h

/-- A text that was recorded with two lengths, both wrong. -/
def twoLengths : Exchange :=
  ⟨⟨"GET", "http://h/", [], none⟩,
    ⟨200, [⟨"Content-Length", "9"⟩, ⟨"content-length", " 7"⟩], ⟨some "text/plain", "aaa", none⟩⟩⟩

/-- Settings that double a letter. -/
def doublingSettings : Settings :=
  ⟨Matching.default, [⟨.literal "a", .literal "aa"⟩], []⟩

/-- The player of these settings for that text. -/
def ofTwoLengths : Player :=
  ⟨⟨Recording.ofExchanges Url.read [twoLengths], Rating.Scale.inWords 100, 0, true,
    CodingRegistry.standard, EncodingPolicy.asIs⟩, ⟨[⟨.literal "a", .literal "aa"⟩], []⟩⟩

/-- A request for the text, and one for a page that was not recorded. -/
def textAndOther : List Request :=
  [.plain .get ⟨some "http", "h", none, "/", none⟩, .plain .get ⟨some "http", "h", none, "/b", none⟩]

/-- The text goes out rewritten with one length, and the other answer has its own. -/
theorem declaresLength_of_mem_answers_twoLengths :
    ofExchanges .standard [twoLengths] doublingSettings = .ok ofTwoLengths ∧
      ∃ text other, ofTwoLengths.answers ofTwoLengths.newSession textAndOther =
          [.ok text, .ok other] ∧
        text.payload.body.read = .ok (Bytes.ofText "aaaaaa") ∧ text.payload.DeclaresLength ∧
        other.status = 404 ∧ other.payload.DeclaresLength := by
  have built : ofExchanges .standard [twoLengths] doublingSettings = .ok ofTwoLengths := rfl
  have answered : (ofTwoLengths.answers ofTwoLengths.newSession textAndOther).map
      (fun answer => answer.toOption.map fun r => (r.status, r.payload.body.read.toOption)) =
      [some (200, some (Bytes.ofText "aaaaaa")), some (404, some (Bytes.ofText "404 Not Found"))] := by
    decide +kernel
  have found {answer : Except Multipart.Fault Response} {status : UInt16} {bytes : Bytes}
      (h : answer.toOption.map (fun r => (r.status, r.payload.body.read.toOption)) =
        some (status, some bytes)) :
      ∃ r, answer = .ok r ∧ r.status = status ∧ r.payload.body.read = .ok bytes := by
    cases answer with
    | error fault => simp [Except.toOption] at h
    | ok r =>
        simp only [Except.toOption, Option.map_some, Option.some.injEq, Prod.mk.injEq] at h
        refine ⟨r, rfl, h.1, ?_⟩
        cases opened : r.payload.body.read with
        | error reason => simp [opened] at h
        | ok raw => simpa [opened] using h.2
  obtain ⟨first, rest, split, hfirst, hrest⟩ := List.map_eq_cons_iff.mp answered
  obtain ⟨second, none, rfl, hsecond, hnone⟩ := List.map_eq_cons_iff.mp hrest
  obtain rfl := List.map_eq_nil_iff.mp hnone
  obtain ⟨text, rfl, -, body⟩ := found hfirst
  obtain ⟨other, rfl, missing, -⟩ := found hsecond
  have declared := declaresLength_of_mem_answers built rfl ofTwoLengths.newSession textAndOther
  rw [split] at declared
  exact ⟨built, text, other, split, body, declared text (by simp), missing,
    declared other (by simp)⟩

end Player

end Playback
