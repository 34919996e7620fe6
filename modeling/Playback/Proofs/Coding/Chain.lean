import Playback.Coding.Basic
import Playback.Proofs.Lzw.RoundTrip
import Playback.Proofs.Outcome

/-! # Chains of codings -/

namespace Playback

namespace Coding

/-- All bytes can be packed, and unpacking undoes it. -/
def Lossless (c : Coding) : Prop :=
  ∀ b, (c.pack b >>= c.decode) = .ok b

/-- Unpacking undoes packing, where bytes can be packed. -/
def Reversible (c : Coding) : Prop :=
  ∀ b packed, c.pack b = .ok packed → c.decode packed = .ok b

theorem Lossless.reversible {c : Coding} (h : c.Lossless) : c.Reversible := by
  intro b packed hpacked
  have undone := h b
  rwa [hpacked] at undone

/-- The codings that no library has a part in. -/
inductive IsOwn : Coding → Prop where
  | identity : IsOwn Coding.identity
  | compress (width : Nat) : IsOwn (Coding.compress width)

theorem IsOwn.lossless {c : Coding} (h : c.IsOwn) : c.Lossless := by
  cases h with
  | identity => exact fun _ => rfl
  | compress width =>
      intro b
      simp only [Coding.compress, pack, bind, Except.bind, Lzw.decode_encode]

end Coding

namespace CodingRegistry

variable {r : CodingRegistry} {name : String} {names : List String} {data : Bytes}

theorem get_empty (name : String) : empty.get name = .error (.unknown name) := rfl

/-- A coding that is registered hides others of its name, and no more. -/
theorem get_register (r : CodingRegistry) (name other : String) (c : Coding) :
    (r.register name c).get other = if key other = key name then .ok c else r.get other := by
  have others : ∀ entries : List (String × Coding), key other ≠ key name →
      (entries.filter fun e => e.1 != key name).lookup (key other) =
        entries.lookup (key other) := by
    intro entries differ
    induction entries with
    | nil => rfl
    | cons e entries ih =>
        obtain ⟨known, d⟩ := e
        by_cases hidden : known = key name
        · simp [hidden, List.lookup_cons, beq_false_of_ne differ, ih]
        · simp [hidden, List.lookup_cons, ih]
  by_cases same : key other = key name
  · simp [register, get, same]
  · simp [register, get, List.lookup_cons, beq_false_of_ne same, same, others r.entries same]

theorem decodeChain_cons (name : String) (names : List String) (data : Bytes) :
    r.decodeChain (name :: names) data = (do
      let bytes ← r.decodeChain names data
      let c ← r.get name
      c.decode bytes) := rfl

theorem encodeChain_cons (name : String) (names : List String) (data : Bytes) :
    r.encodeChain (name :: names) data = (do
      let c ← r.get name
      let bytes ← c.pack data
      r.encodeChain names bytes) := by
  rw [encodeChain, List.foldlM_cons, bind_assoc]
  rfl

theorem encodeChain_append (names others : List String) (data : Bytes) :
    r.encodeChain (names ++ others) data =
      (r.encodeChain names data >>= r.encodeChain others) :=
  List.foldlM_append

theorem decodeChain_append (names others : List String) (data : Bytes) :
    r.decodeChain (names ++ others) data =
      (r.decodeChain others data >>= r.decodeChain names) := by
  induction names with
  | nil => exact (bind_pure _).symm
  | cons name names ih =>
      rw [List.cons_append, decodeChain_cons, ih, bind_assoc]
      rfl

theorem decodeChain_of_encodeChain
    (reversible : ∀ name ∈ names, ∀ c, r.get name = .ok c → c.Reversible) {b encoded : Bytes}
    (h : r.encodeChain names b = .ok encoded) : r.decodeChain names encoded = .ok b := by
  induction names generalizing b with
  | nil => exact h.symm
  | cons name names ih =>
      obtain ⟨undoes, others⟩ := List.forall_mem_cons.mp reversible
      rw [encodeChain_cons] at h
      obtain ⟨c, hc, h⟩ := exists_ok_of_bind_eq_ok h
      obtain ⟨bytes, hbytes, h⟩ := exists_ok_of_bind_eq_ok h
      rw [decodeChain_cons, ih others h]
      simpa only [bind, Except.bind, hc] using undoes c hc b bytes hbytes

/-- A chain of codings that are known and lose nothing can be applied, and it is undone. -/
theorem exists_encodeChain (lossless : ∀ name ∈ names, ∃ c, r.get name = .ok c ∧ c.Lossless)
    (b : Bytes) :
    ∃ encoded, r.encodeChain names b = .ok encoded ∧ r.decodeChain names encoded = .ok b := by
  have applied : ∃ encoded, r.encodeChain names b = .ok encoded := by
    induction names generalizing b with
    | nil => exact ⟨b, rfl⟩
    | cons name names ih =>
        obtain ⟨⟨c, hc, undoes⟩, others⟩ := List.forall_mem_cons.mp lossless
        obtain ⟨bytes, hbytes, -⟩ := exists_ok_of_bind_eq_ok (undoes b)
        obtain ⟨encoded, hencoded⟩ := ih others bytes
        rw [encodeChain_cons, hc]
        exact ⟨encoded, by simpa only [bind, Except.bind, hbytes] using hencoded⟩
  obtain ⟨encoded, h⟩ := applied
  refine ⟨encoded, h, decodeChain_of_encodeChain (fun name hname c hc => ?_) h⟩
  obtain ⟨d, hd, undoes⟩ := lossless name hname
  obtain rfl : d = c := Except.ok.inj (hd.symm.trans hc)
  exact undoes.reversible

theorem encodeChain_of_error {fault : CodingFault} {before : List String} {unknown : String}
    (lossless : ∀ name ∈ before, ∃ c, r.get name = .ok c ∧ c.Lossless)
    (fails : r.get unknown = .error fault) (after : List String) (data : Bytes) :
    r.encodeChain (before ++ unknown :: after) data = .error fault := by
  obtain ⟨bytes, hbytes, -⟩ := exists_encodeChain lossless data
  rw [encodeChain_append, hbytes]
  change r.encodeChain (unknown :: after) bytes = _
  rw [encodeChain_cons, fails]
  rfl

end CodingRegistry

end Playback
