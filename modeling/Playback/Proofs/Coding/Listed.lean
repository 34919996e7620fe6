import Playback.Proofs.Coding.Standard
import Playback.Proofs.Text.Pieces
import Playback.Proofs.Text.Trim

/-! # Codings that a header lists -/

namespace Playback

/-- The items that commas divide are read in lower case and without blanks, but for those that are
empty or change nothing. -/
theorem listedCodings_join {items : List String} (h : ∀ item ∈ items, ',' ∉ item.toList) :
    listedCodings (Text.join "," items) =
      (items.map CodingRegistry.key).filter fun name => !name.isEmpty && name != "identity" := by
  by_cases none : items = []
  · rw [none]
    decide
  · rw [listedCodings, Text.pieces_join rfl h none]
    rfl

namespace CodingRegistry

variable {r : CodingRegistry} {name item : String} {names items : List String} {data : Bytes}

/-! ## Chains that cannot be undone -/

/-- Whether undoing a chain of codings comes to a coding that is not known, or whose data are
corrupt. -/
def FailsOn (r : CodingRegistry) (names : List String) (data : Bytes) : Prop :=
  ∃ before name after bytes, names = before ++ name :: after ∧
    r.decodeChain after data = .ok bytes ∧
    (r.get name = .error (.unknown name) ∨
      ∃ c fault, r.get name = .ok c ∧ c.decode bytes = .error fault)

theorem get_eq_error {fault : CodingFault} (h : r.get name = .error fault) :
    fault = .unknown name := by
  unfold get at h
  split at h
  · cases h
  · cases h
    rfl

theorem decodeChain_of_error {fault : CodingFault} (h : r.decodeChain names data = .error fault)
    (before : List String) : r.decodeChain (before ++ names) data = .error fault := by
  rw [decodeChain_append, h]
  rfl

theorem failsOn_iff : r.FailsOn names data ↔ ∃ fault, r.decodeChain names data = .error fault := by
  constructor
  · rintro ⟨before, name, after, bytes, rfl, undone, stuck⟩
    obtain ⟨fault, failed⟩ : ∃ fault, r.decodeChain (name :: after) data = .error fault := by
      rw [decodeChain_cons, undone]
      rcases stuck with unknown | ⟨c, fault, known, corrupt⟩
      · exact ⟨.unknown name, by simp only [bind, Except.bind, unknown]⟩
      · exact ⟨fault, by simp only [bind, Except.bind, known, corrupt]⟩
    exact ⟨fault, decodeChain_of_error failed before⟩
  · rintro ⟨fault, failed⟩
    induction names generalizing fault with
    | nil => cases failed
    | cons name names ih =>
        cases undone : r.decodeChain names data with
        | error other =>
            obtain ⟨before, stuck, after, bytes, rfl, rest⟩ := ih other undone
            exact ⟨name :: before, stuck, after, bytes, rfl, rest⟩
        | ok bytes =>
            rw [decodeChain_cons, undone] at failed
            refine ⟨[], name, names, bytes, rfl, undone, ?_⟩
            cases known : r.get name with
            | error unknown => exact .inl (get_eq_error known ▸ rfl)
            | ok c =>
                simp only [bind, Except.bind, known] at failed
                exact .inr ⟨c, fault, rfl, failed⟩

/-! ## Chains that are listed -/

theorem get_key {c : Coding} (stable : key (key name) = key name) (h : r.get name = .ok c) :
    r.get (key name) = .ok c := by
  unfold get at h ⊢
  rw [stable]
  split at h
  · assumption
  · cases h

section Standard

variable {gzip deflate brotli : Coding}

theorem comma_notMem (known : key item ∈ standardNames) : ',' ∉ item.toList := by
  have none : ∀ name ∈ standardNames, ',' ∉ name.toList := by decide
  intro comma
  refine none _ known ?_
  have kept : ',' ∈ Text.trimmed item.toList := Text.mem_stripEnds (by decide) comma
  simpa [key, Text.lowerAscii, Text.trim] using ⟨',', kept, by decide⟩

theorem key_mem_standardNames {c : Coding} (h : (standardWith gzip deflate brotli).get name = .ok c) :
    key name ∈ standardNames := by
  by_contra unknown
  rw [get_standardWith_of_notMem gzip deflate brotli unknown] at h
  cases h

theorem get_identity (h : key name = "identity") :
    (standardWith gzip deflate brotli).get name = .ok Coding.identity := by
  have keys := key_of_mem_standardNames
  simp only [standardNames, List.mem_cons, List.not_mem_nil, or_false] at keys
  simp [standardWith, get_register, keys, h]

/-- The chain that is read from a header undoes what the chain did that was listed. -/
theorem decodeChain_listed
    (known : ∀ name ∈ names, ∃ c, (standardWith gzip deflate brotli).get name = .ok c)
    (same : items.map key = names.map key) (data : Bytes) :
    (standardWith gzip deflate brotli).decodeChain (listedCodings (Text.join "," items)) data =
      (standardWith gzip deflate brotli).decodeChain names data := by
  have commas : ∀ item ∈ items, ',' ∉ item.toList := by
    intro item mem
    have listed : key item ∈ names.map key := same ▸ List.mem_map_of_mem mem
    obtain ⟨name, hname, keys⟩ := List.mem_map.mp listed
    obtain ⟨c, hc⟩ := known name hname
    exact comma_notMem (keys ▸ key_mem_standardNames hc)
  rw [listedCodings_join commas, same]
  clear same commas
  induction names with
  | nil => rfl
  | cons name names ih =>
      obtain ⟨⟨c, hc⟩, others⟩ := List.forall_mem_cons.mp known
      have standard := key_mem_standardNames hc
      rw [decodeChain_cons, ← ih others, List.map_cons]
      by_cases unchanged : key name = "identity"
      · rw [List.filter_cons_of_neg (by simp [unchanged]), get_identity unchanged]
        exact (bind_pure _).symm
      · have some : key name ≠ "" := fun empty => absurd (empty ▸ standard) (by decide)
        rw [List.filter_cons_of_pos (by simp [unchanged, some]), decodeChain_cons,
          get_key (key_of_mem_standardNames _ standard) hc, hc]

end Standard

end CodingRegistry

end Playback
