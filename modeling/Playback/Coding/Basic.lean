import Playback.Coding.Brotli.Decoder
import Playback.Coding.Brotli.Encoder
import Playback.Coding.Gzip
import Playback.Coding.Lzw.Decoder
import Playback.Coding.Zlib
import Playback.Text.Basic

/-!
# Content codings

A content coding packs the bytes of a body and unpacks them again. Codings are kept in a registry
under their names, and the codings of a message are a chain in the order they were applied.
-/

namespace Playback

/-- Why a body cannot be packed or unpacked. -/
inductive CodingFault where
  | unknown (name : String)
  | corrupt (coding : String) (reason : String)
  | refused (coding : String) (reason : String)
deriving DecidableEq, Repr

namespace CodingFault

def message : CodingFault → String
  | unknown name => "unsupported content encoding: " ++ name
  | corrupt coding reason => coding ++ " decompression failed: " ++ reason
  | refused coding reason => coding ++ " compression failed: " ++ reason

end CodingFault

/-- A content coding with its canonical name. Bytes that it refuses to pack have a `refusal?`, the
reason why. -/
structure Coding where
  name : String
  encode : Bytes → Bytes
  decode : Bytes → Except CodingFault Bytes
  refusal? : Bytes → Option String

namespace Coding

/-- The packed bytes, unless the coding refuses them. -/
def pack (c : Coding) (b : Bytes) : Except CodingFault Bytes :=
  match c.refusal? b with
  | none => .ok (c.encode b)
  | some reason => .error (.refused c.name reason)

/-- The coding that changes nothing. -/
def identity : Coding :=
  ⟨"identity", id, .ok, fun _ => none⟩

/-- What a coding reports on data that is not its own. -/
def orCorrupt (name : String) (decoded : Option Bytes) : Except CodingFault Bytes :=
  match decoded with
  | some bytes => .ok bytes
  | none => .error (.corrupt name "corrupt stream")

def gzip : Coding :=
  ⟨"gzip", Gzip.encode, fun b => orCorrupt "gzip" (Gzip.decode b), fun _ => none⟩

/-- Zlib, and bare deflated data when reading. -/
def deflate : Coding :=
  ⟨"deflate", Zlib.encode, fun b => orCorrupt "deflate" (Zlib.decode b), fun _ => none⟩

def brotli : Coding :=
  ⟨"br", Brotli.encode, fun b => orCorrupt "br" (Brotli.decode b), fun _ => none⟩

/-- LZW with codes of at most `width` bits when writing. -/
def compress (width : Nat) : Coding :=
  ⟨"compress", Lzw.encode width,
    fun b =>
      match Lzw.decode b with
      | .ok bytes => .ok bytes
      | .error fault => .error (.corrupt "compress" fault.message),
    fun _ => none⟩

end Coding

/-- Codings under their lower-case names; a later entry of a name hides an earlier one. -/
structure CodingRegistry where
  entries : List (String × Coding)

namespace CodingRegistry

def empty : CodingRegistry := ⟨[]⟩

/-- The form of a name that codings are registered under. -/
def key (name : String) : String :=
  Text.lowerAscii (Text.trim name)

/-- Registers a coding, in place of any other of the same name. -/
def register (r : CodingRegistry) (name : String) (c : Coding) : CodingRegistry :=
  ⟨(key name, c) :: r.entries.filter fun e => e.1 != key name⟩

/-- The coding of a name, in any letter case. -/
def get (r : CodingRegistry) (name : String) : Except CodingFault Coding :=
  match r.entries.lookup (key name) with
  | some c => .ok c
  | none => .error (.unknown name)

/-- The registered names in alphabetical order. -/
def names (r : CodingRegistry) : List String :=
  (r.entries.map Prod.fst).mergeSort

/-- The codings known from the start, on top of codings that pack as `gzip`, `deflate` and `brotli`
do. -/
def standardWith (gzip deflate brotli : Coding) : CodingRegistry :=
  [("identity", Coding.identity), ("gzip", gzip), ("x-gzip", gzip), ("deflate", deflate),
    ("br", brotli), ("compress", Coding.compress Lzw.maxWidth),
    ("x-compress", Coding.compress Lzw.maxWidth)].foldl
    (fun r e => r.register e.1 e.2) empty

/-- The codings known from the start. -/
def standard : CodingRegistry :=
  standardWith Coding.gzip Coding.deflate Coding.brotli

/-- Undoes codings, given in the order they were applied. -/
def decodeChain (r : CodingRegistry) (names : List String) (data : Bytes) :
    Except CodingFault Bytes :=
  names.foldr
    (fun name decoded => do
      let bytes ← decoded
      let c ← r.get name
      c.decode bytes)
    (.ok data)

/-- Applies codings one after the other. -/
def encodeChain (r : CodingRegistry) (names : List String) (data : Bytes) :
    Except CodingFault Bytes :=
  names.foldlM (fun bytes name => do
    let c ← r.get name
    c.pack bytes) data

end CodingRegistry

/-- The codings that a header lists, without empty items and `identity`. -/
def listedCodings (header : String) : List String :=
  ((Text.pieces ',' header).map fun item => Text.lowerAscii (Text.trim item)).filter
    fun name => !name.isEmpty && name != "identity"

end Playback
