import Playback.Capture.Serving
import Playback.Proofs.Message.Edit

/-! # What clients are served -/

namespace Playback

namespace ServingFault

theorem eq_ok_of_lift {ε α : Type} {cause : ε → ServingFault} {x : Except ε α} {a : α}
    (h : lift cause x = .ok a) : x = .ok a := by
  cases x with
  | error e => cases h
  | ok b =>
      cases h
      rfl

end ServingFault

namespace Payload

variable {registry : CodingRegistry} {live : Request} {recorded p q : Payload}

/-- The bytes of a body, its codings undone. -/
def plain (registry : CodingRegistry) (p : Payload) : Except ServingFault Bytes := do
  let raw ← ServingFault.lift .unreadable p.body.read
  ServingFault.lift .coding (registry.decodeChain p.codings raw)

/-! ## Codings -/

theorem codings_eq {names : List String} (same : q.headersWithout names = p.headersWithout names)
    (other : ∀ n ∈ names, Text.equalsIgnoringCase "content-encoding" n = false) :
    q.codings = p.codings := by
  rw [codings, codings, listedEncodings, listedEncodings, headerValues_eq same other]

theorem codings_eq_nil (h : p.headers.filter (named "content-encoding") = []) : p.codings = [] := by
  rw [codings, listedEncodings, headerValues, h]
  decide

theorem canServe_of_mem {codings : List String} {accept : Option String} {c : String}
    (h : canServe codings accept = true) (hc : c ∈ codings) : canServe [c] accept = true := by
  rw [canServe, List.all_eq_true] at h ⊢
  intro required hrequired
  refine h required ?_
  rw [requiredCodings, List.mem_filter, List.map_singleton, List.mem_singleton] at hrequired
  obtain ⟨rfl, kept⟩ := hrequired
  exact List.mem_filter.mpr ⟨List.mem_map_of_mem hc, kept⟩

/-! ## One client -/

/-- What goes out to a client in place of a recorded payload. -/
structure ServedFor (registry : CodingRegistry) (accept : Option String) (recorded p : Payload) :
    Prop where
  mediaType_eq : p.mediaType = recorded.mediaType
  headers_eq : p.headersWithout ["content-encoding", "content-length"] =
    recorded.headersWithout ["content-encoding", "content-length"]
  plain_eq : p.plain registry = recorded.plain registry
  body_eq : p.codings ≠ [] → p.body = recorded.body
  accepted : ∀ c ∈ p.codings, canServe [c] accept = true

/-- Decoding takes the codings off and leaves the rest. -/
theorem decoded_eq_ok (h : recorded.decoded registry = .ok p) :
    p.mediaType = recorded.mediaType ∧
      p.headersWithout ["content-encoding"] = recorded.headersWithout ["content-encoding"] ∧
      p.plain registry = recorded.plain registry ∧ p.codings = [] := by
  obtain ⟨raw, hraw, h⟩ := exists_ok_of_bind_eq_ok h
  obtain ⟨bytes, hbytes, h⟩ := exists_ok_of_bind_eq_ok h
  obtain rfl := Except.ok.inj h
  have codings : (recorded.edit [.keepHeaders fun field => !named "content-encoding" field,
      .body fun _ => .stored bytes]).codings = [] := by
    refine codings_eq_nil ?_
    show (recorded.headers.filter _).filter _ = []
    simp [List.filter_filter]
  refine ⟨rfl, ?_, ?_, codings⟩
  · show (recorded.headers.filter _).filter _ = recorded.headers.filter _
    simp [List.filter_filter]
  · rw [plain, plain, codings, hraw]
    exact hbytes.symm

/-- Under the policy that leaves bodies alone, what goes out is the recorded payload, or that without
its codings. -/
theorem negotiated_servedFor (h : recorded.negotiated registry .asIs live = .ok p) :
    ServedFor registry (live.header? "accept-encoding") recorded p := by
  unfold negotiated at h
  split at h
  case isTrue none =>
    cases h
    rw [List.isEmpty_iff] at none
    exact ⟨rfl, rfl, rfl, fun _ => rfl, by simp [none]⟩
  case isFalse =>
    split at h
    case isTrue accepted =>
      cases h
      exact ⟨rfl, rfl, rfl, fun _ => rfl, fun _ => canServe_of_mem accepted⟩
    case isFalse =>
      obtain ⟨p', hdecoded, h⟩ := exists_ok_of_bind_eq_ok h
      cases h
      obtain ⟨mediaType_eq, headers_eq, plain_eq, none⟩ := decoded_eq_ok hdecoded
      exact ⟨mediaType_eq, headersWithout_of_subset headers_eq (by simp), plain_eq,
        fun some => absurd none some, by simp [none]⟩

theorem ServedFor.withContentLength {accept : Option String}
    (h : ServedFor registry accept recorded p) (declared : p.withContentLength = .ok q) :
    ServedFor registry accept recorded q := by
  obtain ⟨body_eq, mediaType_eq, headers_eq⟩ := withContentLength_eq_ok declared
  have codings : q.codings = p.codings := codings_eq headers_eq (by decide)
  have same : q.headersWithout ["content-encoding", "content-length"] =
      p.headersWithout ["content-encoding", "content-length"] :=
    headersWithout_of_subset headers_eq (by simp)
  refine ⟨mediaType_eq.trans h.mediaType_eq, same.trans h.headers_eq, ?_, ?_, ?_⟩
  · rw [plain, body_eq, codings]
    exact h.plain_eq
  · rw [body_eq, codings]
    exact h.body_eq
  · rw [codings]
    exact h.accepted

end Payload

/-! ## Two clients -/

namespace Exchange

variable {registry : CodingRegistry} {e : Exchange} {a b live : Request} {r s : Response}

/-- A response in codings carries the recorded bytes, and the client takes every coding. -/
def KeepsCodings (e : Exchange) (live : Request) (r : Response) : Prop :=
  r.payload.codings ≠ [] →
    (∃ bytes, e.response.content.bytes = .ok bytes ∧ r.payload.body = .stored bytes) ∧
      ∀ c ∈ r.payload.codings, canServe [c] (live.header? "accept-encoding") = true

theorem parseResponse_eq_ok (h : e.parseResponse registry .asIs live = .ok r) :
    r.status = e.response.status ∧ ∃ recorded, e.payload = .ok recorded ∧
      Payload.ServedFor registry (live.header? "accept-encoding") recorded r.payload := by
  obtain ⟨recorded, hrecorded, h⟩ := exists_ok_of_bind_eq_ok h
  obtain ⟨negotiated, hnegotiated, h⟩ := exists_ok_of_bind_eq_ok h
  obtain ⟨payload, hpayload, h⟩ := exists_ok_of_bind_eq_ok h
  obtain rfl := Except.ok.inj h
  exact ⟨rfl, recorded, ServingFault.eq_ok_of_lift hrecorded,
    (Payload.negotiated_servedFor hnegotiated).withContentLength
      (ServingFault.eq_ok_of_lift hpayload)⟩

theorem keepsCodings (h : e.parseResponse registry .asIs live = .ok r) : e.KeepsCodings live r := by
  obtain ⟨-, recorded, hrecorded, served⟩ := parseResponse_eq_ok h
  obtain ⟨bytes, hbytes, hpayload⟩ := exists_ok_of_bind_eq_ok hrecorded
  obtain rfl := Except.ok.inj hpayload
  exact fun coded => ⟨⟨bytes, hbytes, served.body_eq coded⟩, served.accepted⟩

/-- Two clients are served the same, whatever codings they take: the status, the type, the headers
but for codings and length, and the bytes once the codings are undone. Whoever gets codings gets the
recorded bytes and takes every coding of them. -/
theorem parseResponse_alike (ha : e.parseResponse registry .asIs a = .ok r)
    (hb : e.parseResponse registry .asIs b = .ok s) :
    r.status = s.status ∧ r.payload.mediaType = s.payload.mediaType ∧
      r.payload.headersWithout ["content-encoding", "content-length"] =
        s.payload.headersWithout ["content-encoding", "content-length"] ∧
      r.payload.plain registry = s.payload.plain registry ∧
      e.KeepsCodings a r ∧ e.KeepsCodings b s := by
  obtain ⟨status, recorded, hrecorded, served⟩ := parseResponse_eq_ok ha
  obtain ⟨status', recorded', hrecorded', served'⟩ := parseResponse_eq_ok hb
  obtain rfl : recorded = recorded' := Except.ok.inj (hrecorded.symm.trans hrecorded')
  exact ⟨status.trans status'.symm, served.mediaType_eq.trans served'.mediaType_eq.symm,
    served.headers_eq.trans served'.headers_eq.symm, served.plain_eq.trans served'.plain_eq.symm,
    keepsCodings ha, keepsCodings hb⟩

/-- An exchange whose response is compressed. -/
def packed : Exchange :=
  ⟨⟨"GET", "http://h/", [], none⟩,
    ⟨200, [⟨"Content-Encoding", "compress"⟩, ⟨"Server", "h"⟩],
      CapturedContent.binary "text/plain" [0x1F, 0x9D, 0x89, 0x61, 0x02, 0x02]⟩⟩

/-- A request of a client that takes the codings given. -/
def taking (accept : String) : Request :=
  (Request.plain .get ⟨some "http", "h", none, "/", none⟩).withHeader "Accept-Encoding" accept

/-- One client gets the compressed body, another one the same bytes without the coding. -/
theorem parseResponse_alike_packed :
    ∃ r s, packed.parseResponse .standard .asIs (taking "compress") = .ok r ∧
      packed.parseResponse .standard .asIs (taking "br") = .ok s ∧
      r.payload.codings = ["compress"] ∧ s.payload.codings = [] ∧
      r.payload.plain .standard = s.payload.plain .standard ∧
      packed.KeepsCodings (taking "compress") r := by
  have served : ∀ {live : Request} {codings : List String},
      (packed.parseResponse .standard .asIs live).toOption.map (·.payload.codings) = some codings →
        ∃ r, packed.parseResponse .standard .asIs live = .ok r ∧ r.payload.codings = codings := by
    intro live codings h
    cases hr : packed.parseResponse .standard .asIs live with
    | error fault => simp [hr, Except.toOption] at h
    | ok r => exact ⟨r, rfl, by simpa [hr, Except.toOption] using h⟩
  obtain ⟨r, hr, coded⟩ := served (show (packed.parseResponse .standard .asIs
    (taking "compress")).toOption.map (·.payload.codings) = some ["compress"] by decide +kernel)
  obtain ⟨s, hs, plain⟩ := served (show (packed.parseResponse .standard .asIs
    (taking "br")).toOption.map (·.payload.codings) = some [] by decide +kernel)
  obtain ⟨-, -, -, same, keeps, -⟩ := parseResponse_alike hr hs
  exact ⟨r, s, hr, hs, coded, plain, same, keeps⟩

end Exchange

end Playback
