import Playback.Player.Basic
import Playback.Proofs.Capture.Serving
import Playback.Proofs.Coding.Chain
import Playback.Proofs.Rewrite.Text

/-! # Rewritten responses -/

namespace Playback

/-- A payload that carries a text in the codings of another one, and else is like that. -/
structure Payload.Carries (registry : CodingRegistry) (text : String) (d q : Payload) : Prop where
  mediaType_eq : q.mediaType = d.mediaType
  headers_eq : q.headersWithout ["content-length"] = d.headersWithout ["content-length"]
  codings_eq : q.codings = d.codings
  body : ∃ encoded, q.body = .stored encoded ∧
    registry.decodeChain d.codings encoded = .ok (Bytes.ofText text) ∧
    q.headerValues "content-length" = [toString encoded.length]

namespace Player

variable {p : Player} {live : Request} {r : Response} {d : Payload} {raw bytes : Bytes}
  {text : String} {encoded : Bytes}

theorem rewrittenBody_eq_some (opened : d.body.read = .ok raw)
    (decoded : p.matcher.registry.decodeChain d.codings raw = .ok bytes)
    (spelt : Bytes.toText? bytes = some text)
    (matched : ∃ rule ∈ p.rewrites.body, rule.finder.isMatch live text = true)
    (packed : p.matcher.registry.encodeChain d.codings
      (Bytes.ofText (p.rewrites.applied live text)) = .ok encoded) :
    p.rewrittenBody? live d = some encoded := by
  have changed := (p.rewrites.rewriteText?_eq_some live text).mpr ⟨matched, rfl⟩
  simp [rewrittenBody?, opened, decoded, spelt, changed, packed, Except.toOption]

theorem carries_of_rewrittenBody (textual : d.mediaType.isTextual = true)
    (ruled : p.rewrites.body ≠ []) (rewritten : p.rewrittenBody? live d = some encoded)
    (undone : p.matcher.registry.decodeChain d.codings encoded = .ok (Bytes.ofText text)) :
    Payload.Carries p.matcher.registry text d (p.rewriteBody live d) := by
  have length : Text.equalsIgnoringCase "Content-Length" "content-length" = true := by
    decide
  rw [rewriteBody, if_neg (by simp [textual, ruled]), rewritten]
  dsimp only
  have others := Payload.headersWithout_replaceHeader (p := d)
    (q := d.edit [.body fun _ => .stored encoded,
      .setHeader "Content-Length" (toString encoded.length)])
    length rfl (List.mem_singleton_self _)
  exact ⟨rfl, others, Payload.codings_eq others (by decide), encoded, rfl, undone,
    Payload.headerValues_replaceHeader (p := d) length rfl⟩

/-- If a rule matches the text of a body and the codings can be put on again, the body goes out with the
text after all rules, in the codings that it came in and declared once with the length that it has in
them. Of the codings of other libraries, unpacking is taken to undo packing. -/
theorem rewrite_carries (headers : p.rewriteHeaders live r.payload = d)
    (textual : d.mediaType.isTextual = true) (opened : d.body.read = .ok raw)
    (decoded : p.matcher.registry.decodeChain d.codings raw = .ok bytes)
    (spelt : Bytes.toText? bytes = some text)
    (matched : ∃ rule ∈ p.rewrites.body, rule.finder.isMatch live text = true)
    (packed : p.matcher.registry.encodeChain d.codings
      (Bytes.ofText (p.rewrites.applied live text)) = .ok encoded)
    (libraries : ∀ name ∈ d.codings, ∀ c, p.matcher.registry.get name = .ok c →
      c.IsOwn ∨ c.Reversible) :
    (p.rewrite live r).status = r.status ∧
      Payload.Carries p.matcher.registry (p.rewrites.applied live text) d
        (p.rewrite live r).payload := by
  have undone : p.matcher.registry.decodeChain d.codings encoded =
      .ok (Bytes.ofText (p.rewrites.applied live text)) :=
    CodingRegistry.decodeChain_of_encodeChain (fun name hname c hc =>
      (libraries name hname c hc).elim (fun own => own.lossless.reversible) id) packed
  have rewritten := rewrittenBody_eq_some opened decoded spelt matched packed
  have ruled : p.rewrites.body ≠ [] := by
    obtain ⟨rule, hrule, -⟩ := matched
    exact List.ne_nil_of_mem hrule
  rw [rewrite, headers]
  exact ⟨rfl, carries_of_rewrittenBody textual ruled rewritten undone⟩

/-- A player that doubles a letter. -/
def doubling : Player :=
  ⟨⟨[], Rating.Scale.exact 100, 0, false, .standard, .asIs⟩, ⟨[⟨.literal "a", .literal "aa"⟩], []⟩⟩

/-- A response with the text `aaa`, compressed. -/
def compressed : Response :=
  ⟨200, ⟨[("Content-Encoding", "compress"), ("content-length", "6"), ("Server", "h")], .plainText,
    .stored [0x1F, 0x9D, 0x89, 0x61, 0x02, 0x02]⟩⟩

/-- A request for the start page. -/
def pageRequest : Request :=
  .plain .get ⟨some "http", "h", none, "/", none⟩

/-- The compressed text is rewritten and compressed again. -/
theorem rewrite_carries_doubling :
    (doubling.rewrite pageRequest compressed).status = 200 ∧
      Payload.Carries .standard "aaaaaa" compressed.payload
        (doubling.rewrite pageRequest compressed).payload := by
  have codings : compressed.payload.codings = ["compress"] := by
    decide +kernel
  have decoded : CodingRegistry.standard.decodeChain compressed.payload.codings
      [0x1F, 0x9D, 0x89, 0x61, 0x02, 0x02] = .ok [0x61, 0x61, 0x61] := by
    rw [codings]
    decide +kernel
  have spelt : Bytes.toText? [0x61, 0x61, 0x61] = some "aaa" := by
    decide +kernel
  have matched : ∃ rule ∈ doubling.rewrites.body,
      rule.finder.isMatch pageRequest "aaa" = true :=
    ⟨_, List.mem_singleton_self _, by decide⟩
  have applied : doubling.rewrites.applied pageRequest "aaa" = "aaaaaa" := by
    decide +kernel
  have packed : ∃ encoded, CodingRegistry.standard.encodeChain compressed.payload.codings
      (Bytes.ofText (doubling.rewrites.applied pageRequest "aaa")) = .ok encoded := by
    rw [codings]
    exact ⟨_, rfl⟩
  have libraries : ∀ name ∈ compressed.payload.codings, ∀ c,
      CodingRegistry.standard.get name = .ok c → c.IsOwn ∨ c.Reversible := by
    rw [codings]
    intro name hname c hc
    rw [List.mem_singleton.mp hname] at hc
    have found : CodingRegistry.standard.get "compress" = .ok (Coding.compress Lzw.maxWidth) := by
      rfl
    rw [found] at hc
    cases hc
    exact .inl (.compress Lzw.maxWidth)
  obtain ⟨encoded, packed⟩ := packed
  have result := rewrite_carries (p := doubling) (r := compressed) rfl (by decide) rfl decoded spelt
    matched packed libraries
  rwa [applied] at result

end Player

end Playback
