import Playback.Proofs.Coding.Listed
import Playback.Proofs.Message.Multimap
import Playback.Proofs.Rating.Basic
import Playback.Proofs.Rating.Body

/-! # Ratings of encoded bodies -/

namespace Playback

open CodingRegistry (key standardWith)

namespace Request

variable {registry : CodingRegistry} {r : Request} {name other value : String} {items : List String}
  {body : Body} {raw bytes : Bytes}

/-! ## Headers that are added -/

theorem header?_withHeader_of_ne (differ : Text.lower name ≠ Text.lower other) :
    (r.withHeader name value).header? other = r.header? other := by
  rw [header?, withHeader, Multimap.first?, Multimap.getAll_insert, if_neg differ, List.append_nil]
  rfl

theorem header?_withHeader_of_eq_none (same : Text.lower name = Text.lower other)
    (missing : r.header? other = none) : (r.withHeader name value).header? other = some value := by
  rw [header?, Multimap.first?, List.head?_eq_none_iff] at missing
  rw [header?, withHeader, Multimap.first?, Multimap.getAll_insert, missing, if_pos same]
  rfl

/-! ## Declared codings -/

/-- Whether a request has a body that can be opened and holds the bytes. -/
def Carries (r : Request) (raw : Bytes) : Prop :=
  ∃ body, r.body = some body ∧ body.read = .ok raw

/-- The codings that a request declares for its body, in the order they were applied. -/
def declaredCodings (r : Request) : List String :=
  ((r.header? "content-encoding").map listedCodings).getD []

theorem Carries.content?_of_decodes (carries : r.Carries raw)
    (undone : registry.decodeChain r.declaredCodings raw = .ok bytes) :
    r.content? registry = some bytes := by
  obtain ⟨body, hbody, hread⟩ := carries
  rw [declaredCodings] at undone
  simp only [content?, hbody, Option.bind_some, Rating.bodyBytes, hread, Rating.uncoded, undone]

/-- A body whose codings cannot be undone is compared as it stands. -/
theorem Carries.content?_of_failsOn (carries : r.Carries raw)
    (fails : registry.FailsOn r.declaredCodings raw) : r.content? registry = some raw := by
  obtain ⟨body, hbody, hread⟩ := carries
  obtain ⟨fault, failed⟩ := CodingRegistry.failsOn_iff.mp fails
  rw [declaredCodings] at failed
  simp only [content?, hbody, Option.bind_some, Rating.bodyBytes, hread, Rating.uncoded, failed]

theorem Carries.content?_of_plain (carries : r.Carries raw)
    (plain : r.header? "content-encoding" = none) : r.content? registry = some raw :=
  carries.content?_of_decodes (by rw [declaredCodings, plain]; rfl)

/-- A request with another body, and one more header that lists the codings of it. -/
def withCodings (r : Request) (items : List String) (body : Body) : Request :=
  (r.withBody body).withHeader "Content-Encoding" (Text.join "," items)

theorem carries_withCodings (r : Request) (items : List String) (hread : body.read = .ok raw) :
    (r.withCodings items body).Carries raw :=
  ⟨body, rfl, hread⟩

theorem lower_contentEncoding : Text.lower "Content-Encoding" = Text.lower "content-encoding" := by
  decide +kernel

theorem declaredCodings_withCodings (plain : r.header? "content-encoding" = none)
    (items : List String) (body : Body) :
    (r.withCodings items body).declaredCodings = listedCodings (Text.join "," items) := by
  have missing : (r.withBody body).header? "content-encoding" = none := plain
  rw [declaredCodings, withCodings, header?_withHeader_of_eq_none lower_contentEncoding missing]
  rfl

theorem bodyType_withCodings (r : Request) (items : List String) (body : Body) :
    (r.withCodings items body).bodyType = r.bodyType := by
  have differ : Text.lower "Content-Encoding" ≠ Text.lower "content-type" := by decide +kernel
  rw [bodyType, contentType?, withCodings, header?_withHeader_of_ne differ]
  rfl

end Request

namespace Rating

/-! ## Scores -/

section

variable {s : Scale} {registry : CodingRegistry} {recorded live live' : Request}

theorem headersScore_insert {recorded : Multimap String} {name : String}
    (missing : recorded.contains name = false) (live : Multimap String) (value : String) :
    headersScore s recorded (live.insert name value) = headersScore s recorded live := by
  have unrecorded {other : String} (same : Text.lower name = Text.lower other) :
      recorded.contains other = false := by
    rw [Multimap.contains, Multimap.first?, Multimap.getAll, ← same]
    exact missing
  have agreeing : sameHeader recorded (live.insert name value) = sameHeader recorded live := by
    funext other
    unfold sameHeader
    by_cases same : Text.lower name = Text.lower other
    · rw [unrecorded same, Bool.false_and, Bool.false_and]
    · rw [Multimap.getAll_insert, if_neg same, List.append_nil]
  have added : [Text.lower name].filter (sameHeader recorded live) = [] := by
    rw [List.filter_singleton, sameHeader, unrecorded (Text.lower_lower name).symm]
    rfl
  rw [headersScore, headersScore, agreeing, Multimap.keys_insert, List.filter_append]
  split
  · rw [List.filter_nil, List.append_nil]
  · rw [added, List.append_nil]

theorem bodyScore_congr (content : live.content? registry = live'.content? registry)
    (type : live.bodyType = live'.bodyType) (lack : live.body.isNone = live'.body.isNone) :
    bodyScore s registry recorded live = bodyScore s registry recorded live' := by
  rcases content?_cases registry recorded live with missing | ⟨bytes, bytes', hrecorded, hlive⟩
  · rw [bodyScore_of_no_content s missing, bodyScore_of_no_content s (content ▸ missing), lack]
  · rw [bodyScore_of_content s hrecorded hlive, bodyScore_of_content s hrecorded (content ▸ hlive),
      type]

/-! ## Ratings -/

/-- A live body is rated as what it was before codings were applied that can be undone, unless such
codings are recorded. -/
theorem rate_withCodings {items : List String} {body : Body} {raw encoded : Bytes}
    (unrecorded : recorded.header? "content-encoding" = none)
    (plain : live.header? "content-encoding" = none) (carries : live.Carries raw)
    (hread : body.read = .ok encoded)
    (undone : registry.decodeChain (listedCodings (Text.join "," items)) encoded = .ok raw) :
    rate s registry recorded (live.withCodings items body) = rate s registry recorded live := by
  have missing : recorded.headers.contains "Content-Encoding" = false := by
    rw [Multimap.contains, Multimap.first?, Multimap.getAll, Request.lower_contentEncoding]
    exact Option.isSome_eq_false_iff.mpr (Option.isNone_iff_eq_none.mpr unrecorded)
  have content : (live.withCodings items body).content? registry = live.content? registry := by
    rw [carries.content?_of_plain plain]
    apply (live.carries_withCodings items hread).content?_of_decodes
    rw [Request.declaredCodings_withCodings plain]
    exact undone
  have lack : (live.withCodings items body).body.isNone = live.body.isNone := by
    obtain ⟨own, hown, -⟩ := carries
    rw [hown]
    rfl
  refine rate_congr rfl (fun _ => rfl) ?_ ?_
  · rw [headScore, headScore]
    congr 1
    exact headersScore_insert missing live.headers _
  · exact bodyScore_congr content (live.bodyType_withCodings items body) lack

end

/-- It makes no difference to a rating whether codings were applied to the live body, if they are
known from the start and a header lists them, in any letter case and with any blanks around them. A
body whose codings cannot be undone is scored as it stands. The libraries that pack as `gzip`,
`deflate` and `br` are only known to lose nothing. -/
theorem rate_encoded {gzip deflate brotli : Coding} (hgzip : gzip.Lossless)
    (hdeflate : deflate.Lossless) (hbrotli : brotli.Lossless) :
    (∀ (names items : List String) (recorded live : Request) (raw : Bytes),
      (∀ name ∈ names, ∃ c, (standardWith gzip deflate brotli).get name = .ok c) →
      items.map key = names.map key →
      recorded.header? "content-encoding" = none → live.header? "content-encoding" = none →
      live.Carries raw →
      ∃ encoded, (standardWith gzip deflate brotli).encodeChain names raw = .ok encoded ∧
        ∀ (body : Body) (s : Scale), body.read = .ok encoded →
          rate s (standardWith gzip deflate brotli) recorded (live.withCodings items body) =
            rate s (standardWith gzip deflate brotli) recorded live) ∧
    ∀ (registry : CodingRegistry) (r : Request) (raw : Bytes),
      r.Carries raw → registry.FailsOn r.declaredCodings raw →
      r.content? registry = some raw ∧
        ∀ (other : Request) (bytes : Bytes) (s : Scale), other.content? registry = some bytes →
          bodyScore s registry r other = contentScore s r.bodyType other.bodyType raw bytes ∧
            bodyScore s registry other r = contentScore s other.bodyType r.bodyType bytes raw := by
  constructor
  · intro names items recorded live raw known spelt unrecorded plain carries
    have lossless : ∀ name ∈ names,
        ∃ c, (standardWith gzip deflate brotli).get name = .ok c ∧ c.Lossless := by
      intro name mem
      obtain ⟨c, hc⟩ := known name mem
      exact CodingRegistry.exists_get_standardWith hgzip hdeflate hbrotli
        (CodingRegistry.key_mem_standardNames hc)
    obtain ⟨encoded, packed, undone⟩ := CodingRegistry.exists_encodeChain lossless raw
    refine ⟨encoded, packed, fun body s hread => ?_⟩
    apply rate_withCodings unrecorded plain carries hread
    rw [CodingRegistry.decodeChain_listed known spelt, undone]
  · intro registry r raw carries fails
    have content := carries.content?_of_failsOn fails
    refine ⟨content, fun other bytes s hother => ⟨?_, ?_⟩⟩
    · exact bodyScore_of_content s content hother
    · exact bodyScore_of_content s hother content

/-- A form that two codings and one without effect were applied to, and a body that holds corrupt data
under a coding that is not known. -/
theorem rate_encoded_form :
    let form := ("Content-Type", "application/x-www-form-urlencoded")
    let target : Target := ⟨some "http", "h", none, "/a", none⟩
    let recorded := { Request.plain .post target with
      headers := Multimap.ofList [form]
      body := some (.stored (Bytes.ofText "x=1&y=2")) }
    let live := { recorded with body := some (.deferred (.ok (Bytes.ofText "y=2&x=1"))) }
    let broken := { Request.plain .post target with
      headers := Multimap.ofList [("Content-Encoding", "zstd, Compress")]
      body := some (.stored [0x1F, 0x9D, 0x89, 0x61, 0x00]) }
    (∃ encoded, CodingRegistry.standard.encodeChain ["GZIP", "identity", " x-compress"]
        (Bytes.ofText "y=2&x=1") = .ok encoded ∧
      rate (Scale.inWords 100) CodingRegistry.standard recorded
        (live.withCodings ["gzip", " Identity", "X-Compress "] (.stored encoded)) = .ok 500) ∧
      broken.content? CodingRegistry.standard = some [0x1F, 0x9D, 0x89, 0x61, 0x00] := by
  intro form target recorded live broken
  let names := ["GZIP", "identity", " x-compress"]
  have rating : rate (Scale.inWords 100) CodingRegistry.standard recorded live = .ok 500 := by
    decide +kernel
  have listed : ∀ name ∈ names, key name ∈ CodingRegistry.standardNames := by decide +kernel
  have known : ∀ name ∈ names, ∃ c, CodingRegistry.standard.get name = .ok c := by
    intro name mem
    obtain ⟨c, hc, -⟩ := CodingRegistry.exists_get_standardWith Coding.gzip_lossless
      Coding.deflate_lossless Coding.brotli_lossless (listed name mem)
    exact ⟨c, hc⟩
  have fails : CodingRegistry.standard.FailsOn broken.declaredCodings
      [0x1F, 0x9D, 0x89, 0x61, 0x00] :=
    ⟨[], "zstd", ["compress"], [0x61], by decide +kernel, by decide +kernel, .inl rfl⟩
  obtain ⟨encodes, undecodable⟩ := rate_encoded Coding.gzip_lossless Coding.deflate_lossless
    Coding.brotli_lossless
  obtain ⟨encoded, packed, same⟩ := encodes names ["gzip", " Identity", "X-Compress "] recorded live
    (Bytes.ofText "y=2&x=1") known (by decide +kernel) (by decide +kernel) (by decide +kernel)
    ⟨_, rfl, rfl⟩
  refine ⟨⟨encoded, packed, ?_⟩, ?_⟩
  · exact (same (.stored encoded) (Scale.inWords 100) rfl).trans rating
  · exact (undecodable CodingRegistry.standard broken _ ⟨_, rfl, rfl⟩ fails).1

end Rating

end Playback
