import Playback.Proofs.Coding.Brotli
import Playback.Proofs.Coding.Chain
import Playback.Proofs.Coding.Stored

/-! # The codings known from the start -/

namespace Playback

namespace Coding

theorem gzip_lossless : gzip.Lossless := by
  intro b
  simp only [gzip, pack, bind, Except.bind, Gzip.decode_encode, orCorrupt]

theorem deflate_lossless : deflate.Lossless := by
  intro b
  simp only [deflate, pack, bind, Except.bind, Zlib.decode_encode, orCorrupt]

theorem brotli_lossless : brotli.Lossless := by
  intro b
  simp only [brotli, pack, bind, Except.bind, Brotli.decode_encode, orCorrupt]

end Coding

namespace CodingRegistry

/-- The names of the codings known from the start. -/
def standardNames : List String :=
  ["identity", "gzip", "x-gzip", "deflate", "br", "compress", "x-compress"]

theorem key_of_mem_standardNames : ∀ name ∈ standardNames, key name = name := by decide

section Standard

variable {gzip deflate brotli : Coding} {name : String}

theorem exists_get_standardWith (hgzip : gzip.Lossless) (hdeflate : deflate.Lossless)
    (hbrotli : brotli.Lossless) (known : key name ∈ standardNames) :
    ∃ c, (standardWith gzip deflate brotli).get name = .ok c ∧ c.Lossless := by
  have keys := key_of_mem_standardNames
  have hidentity := Coding.IsOwn.identity.lossless
  have hcompress := (Coding.IsOwn.compress Lzw.maxWidth).lossless
  simp only [standardNames, List.mem_cons, List.not_mem_nil, or_false] at keys known
  -- Every name was registered once, so the coding under it is not hidden by another.
  rcases known with h | h | h | h | h | h | h <;>
    simp [standardWith, get_register, keys, h, hidentity, hgzip, hdeflate, hbrotli, hcompress]

theorem get_standardWith_of_notMem (gzip deflate brotli : Coding)
    (unknown : key name ∉ standardNames) :
    (standardWith gzip deflate brotli).get name = .error (.unknown name) := by
  have keys := key_of_mem_standardNames
  simp only [standardNames, List.mem_cons] at keys unknown
  simp_all [standardWith, get_register, get_empty]

/-- Chains of the codings known from the start: those without other names are undone as a whole, the
first other name is what a chain fails with, and what is put after a chain is undone before it. The
libraries that pack as `gzip`, `deflate` and `br` are only known to lose nothing. -/
theorem standardWith_chains (hgzip : gzip.Lossless) (hdeflate : deflate.Lossless)
    (hbrotli : brotli.Lossless) (names : List String) (data : Bytes) :
    ((∀ name ∈ names, key name ∈ standardNames) →
      ∃ encoded, (standardWith gzip deflate brotli).encodeChain names data = .ok encoded ∧
        (standardWith gzip deflate brotli).decodeChain names encoded = .ok data) ∧
    (∀ unknown, names.find? (fun name => key name ∉ standardNames) = some unknown →
      (standardWith gzip deflate brotli).encodeChain names data = .error (.unknown unknown)) ∧
    ∀ others, (standardWith gzip deflate brotli).decodeChain (names ++ others) data =
      ((standardWith gzip deflate brotli).decodeChain others data >>=
        (standardWith gzip deflate brotli).decodeChain names) := by
  have lossless : ∀ {chain : List String}, (∀ name ∈ chain, key name ∈ standardNames) →
      ∀ name ∈ chain, ∃ c, (standardWith gzip deflate brotli).get name = .ok c ∧ c.Lossless :=
    fun known name mem => exists_get_standardWith hgzip hdeflate hbrotli (known name mem)
  refine ⟨fun known => exists_encodeChain (lossless known) data, ?_,
    fun others => decodeChain_append names others data⟩
  intro unknown h
  obtain ⟨outside, before, after, rfl, inside⟩ := List.find?_eq_some_iff_append.mp h
  exact encodeChain_of_error (lossless (by simpa using inside))
    (get_standardWith_of_notMem gzip deflate brotli (of_decide_eq_true outside)) after data

/-- With codings that store, a chain in which names differ in case and a coding occurs twice. -/
theorem standardWith_chains_mixed :
    (Coding.gzip.Lossless ∧ Coding.deflate.Lossless ∧ Coding.brotli.Lossless) ∧
      (∃ encoded, standard.encodeChain ["gzip", " X-Compress ", "BR", "identity", "gzip"]
          [84, 79, 66, 69, 79, 82, 78, 79, 84] = .ok encoded ∧
        standard.decodeChain ["gzip", " X-Compress ", "BR", "identity", "gzip"] encoded =
          .ok [84, 79, 66, 69, 79, 82, 78, 79, 84]) ∧
      standard.encodeChain ["gzip", "Deflate", " zstd", "br", "lzma"] [84, 79] =
        .error (.unknown " zstd") := by
  have chains := standardWith_chains Coding.gzip_lossless Coding.deflate_lossless
    Coding.brotli_lossless
  exact ⟨⟨Coding.gzip_lossless, Coding.deflate_lossless, Coding.brotli_lossless⟩,
    (chains _ _).1 (by decide), (chains _ _).2.1 " zstd" (by decide)⟩

end Standard

end CodingRegistry

end Playback
