import Playback.Proofs.Player.Rewrite

/-! # Responses that the body rules leave alone -/

namespace Playback

namespace Player

/-- The body of a payload spells a text once its codings are undone. -/
def Spells (p : Player) (d : Payload) (text : String) : Prop :=
  ∃ raw bytes, d.body.read = .ok raw ∧ p.matcher.registry.decodeChain d.codings raw = .ok bytes ∧
    Bytes.toText? bytes = some text

/-- Why a payload is left as it is by the body rules of a player: there are none, it is not textual,
its body cannot be opened, its codings cannot be undone, it is no text, no rule matches the text, or
the codings cannot be put on again. -/
inductive LeavesAlone (p : Player) (live : Request) (d : Payload) : Prop
  | noRules (none : p.rewrites.body = [])
  | notTextual (other : d.mediaType.isTextual = false)
  | unreadable {reason : String} (failed : d.body.read = .error reason)
  | undecodable {raw : Bytes} {fault : CodingFault} (opened : d.body.read = .ok raw)
      (failed : p.matcher.registry.decodeChain d.codings raw = .error fault)
  | noText {raw bytes : Bytes} (opened : d.body.read = .ok raw)
      (decoded : p.matcher.registry.decodeChain d.codings raw = .ok bytes)
      (failed : Bytes.toText? bytes = none)
  | unmatched {text : String} (spelt : p.Spells d text)
      (failed : ∀ rule ∈ p.rewrites.body, rule.finder.isMatch live text = false)
  | unpackable {text : String} {fault : CodingFault} (spelt : p.Spells d text)
      (failed : p.matcher.registry.encodeChain d.codings
        (Bytes.ofText (p.rewrites.applied live text)) = .error fault)

/-- A payload `d` goes out as `q`: with its text after all rules, in the codings it had, and with the
length that it has in them. -/
def Rewritten (p : Player) (live : Request) (d q : Payload) : Prop :=
  ∃ text body, p.Spells d text ∧
    p.matcher.registry.encodeChain d.codings (Bytes.ofText (p.rewrites.applied live text)) =
      .ok body ∧
    q = d.edit [.body fun _ => .stored body, .setHeader "Content-Length" (toString body.length)]

variable {p : Player} {live : Request} {d : Payload} {text : String}

theorem Spells.rewrittenBody?_eq (h : p.Spells d text) :
    p.rewrittenBody? live d = (p.rewrites.rewriteText? live text).bind fun changed =>
      (p.matcher.registry.encodeChain d.codings (Bytes.ofText changed)).toOption := by
  obtain ⟨raw, bytes, opened, decoded, spelt⟩ := h
  simp [rewrittenBody?, opened, decoded, spelt, Except.toOption]

theorem rewriteBody_of_leavesAlone (h : p.LeavesAlone live d) : p.rewriteBody live d = d := by
  have kept (none : p.rewrittenBody? live d = none) : p.rewriteBody live d = d := by
    rw [rewriteBody, none]
    split <;> rfl
  cases h with
  | noRules none => simp [rewriteBody, none]
  | notTextual other => simp [rewriteBody, other]
  | unreadable failed => exact kept (by simp [rewrittenBody?, failed, Except.toOption])
  | undecodable opened failed =>
      exact kept (by simp [rewrittenBody?, opened, failed, Except.toOption])
  | noText opened decoded failed =>
      exact kept (by simp [rewrittenBody?, opened, decoded, failed, Except.toOption])
  | unmatched spelt failed =>
      refine kept ?_
      rw [spelt.rewrittenBody?_eq, (p.rewrites.rewriteText?_eq_none live _).mpr failed, Option.bind_none]
  | unpackable spelt failed =>
      refine kept ?_
      rw [spelt.rewrittenBody?_eq, Option.bind_eq_none_iff]
      intro changed h
      obtain ⟨-, rfl⟩ := (p.rewrites.rewriteText?_eq_some live _).mp h
      rw [failed]
      rfl

theorem rewritten_of_not_leavesAlone (h : ¬p.LeavesAlone live d) :
    p.Rewritten live d (p.rewriteBody live d) := by
  have ruled : p.rewrites.body ≠ [] := fun none => h (.noRules none)
  have textual : d.mediaType.isTextual = true := by
    by_contra other
    exact h (.notTextual (by simpa using other))
  cases opened : d.body.read with
  | error reason => exact absurd (.unreadable opened) h
  | ok raw =>
  cases decoded : p.matcher.registry.decodeChain d.codings raw with
  | error fault => exact absurd (.undecodable opened decoded) h
  | ok bytes =>
  cases spelt : Bytes.toText? bytes with
  | none => exact absurd (.noText opened decoded spelt) h
  | some text =>
  have spells : p.Spells d text := ⟨raw, bytes, opened, decoded, spelt⟩
  cases changed : p.rewrites.rewriteText? live text with
  | none => exact absurd (.unmatched spells ((p.rewrites.rewriteText?_eq_none live text).mp changed)) h
  | some after =>
  obtain ⟨-, rfl⟩ := (p.rewrites.rewriteText?_eq_some live text).mp changed
  cases packed : p.matcher.registry.encodeChain d.codings
      (Bytes.ofText (p.rewrites.applied live text)) with
  | error fault => exact absurd (.unpackable spells packed) h
  | ok body =>
      refine ⟨text, body, spells, packed, ?_⟩
      rw [rewriteBody, if_neg (by simp [ruled, textual]), spells.rewrittenBody?_eq, changed,
        Option.bind_some, packed]
      rfl

/-- A response whose payload the body rules leave alone goes out as the header rules have left it, and
any other goes out with its whole text rewritten. The rules leave a text alone just if none of them
matches it, and a variable without a value matches no text. -/
theorem rewrite_all_or_nothing (p : Player) (live : Request) (r : Response) :
    (p.LeavesAlone live (p.rewriteHeaders live r.payload) →
      p.rewrite live r = ⟨r.status, p.rewriteHeaders live r.payload⟩) ∧
    (¬p.LeavesAlone live (p.rewriteHeaders live r.payload) →
      (p.rewrite live r).status = r.status ∧
        p.Rewritten live (p.rewriteHeaders live r.payload) (p.rewrite live r).payload) ∧
    (∀ text, p.rewrites.rewriteText? live text = none ↔
      ∀ rule ∈ p.rewrites.body, rule.finder.isMatch live text = false) ∧
    ∀ v : Variable, v.resolve live = "" → ∀ text, (Finder.reference v).isMatch live text = false := by
  refine ⟨fun alone => ?_, fun touched => ⟨rfl, ?_⟩, p.rewrites.rewriteText?_eq_none live,
    fun v empty => Finder.isMatch_reference_of_empty empty⟩
  · rw [rewrite, rewriteBody_of_leavesAlone alone]
  · exact rewritten_of_not_leavesAlone touched

/-- A coding that packs up to three bytes. -/
def narrow : Coding :=
  ⟨"narrow", id, .ok, fun b => if 3 < b.length then some "too long" else none⟩

/-- A player that doubles a letter and knows the narrow coding. -/
def narrowed : Player :=
  { doubling with
    matcher := { doubling.matcher with registry := CodingRegistry.standard.register "narrow" narrow } }

/-- A response with the text `aaa` that claims to be in a coding. -/
def claiming (coding : String) : Response :=
  ⟨200, ⟨[("Content-Encoding", coding)], .plainText, .stored [0x61, 0x61, 0x61]⟩⟩

/-- Of three bodies, one is not in the coding that it claims to be in, one cannot be packed again, and
one is rewritten. -/
theorem rewrite_all_or_nothing_three :
    doubling.rewrite pageRequest (claiming "gzip") = claiming "gzip" ∧
      narrowed.rewrite pageRequest (claiming "narrow") = claiming "narrow" ∧
      doubling.Rewritten pageRequest (claiming "identity").payload
        (doubling.rewrite pageRequest (claiming "identity")).payload := by
  have garbled : CodingRegistry.standard.decodeChain (claiming "gzip").payload.codings
      [0x61, 0x61, 0x61] = .error (.corrupt "gzip" "corrupt stream") := by
    decide +kernel
  have spelt : narrowed.Spells (claiming "narrow").payload "aaa" :=
    ⟨[0x61, 0x61, 0x61], [0x61, 0x61, 0x61], rfl, by decide +kernel, by decide +kernel⟩
  have refused : narrowed.matcher.registry.encodeChain (claiming "narrow").payload.codings
      (Bytes.ofText (narrowed.rewrites.applied pageRequest "aaa")) =
        .error (.refused "narrow" "too long") := by
    decide +kernel
  have touched : ¬doubling.LeavesAlone pageRequest (claiming "identity").payload := by
    intro alone
    have length := congrArg (Payload.headerValues · "content-length")
      (rewriteBody_of_leavesAlone alone)
    revert length
    decide +kernel
  exact ⟨(rewrite_all_or_nothing doubling pageRequest (claiming "gzip")).1 (.undecodable rfl garbled),
    (rewrite_all_or_nothing narrowed pageRequest (claiming "narrow")).1 (.unpackable spelt refused),
    ((rewrite_all_or_nothing doubling pageRequest (claiming "identity")).2.1 touched).2⟩

end Player

end Playback
