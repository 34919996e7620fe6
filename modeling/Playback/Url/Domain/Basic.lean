import Playback.Bytes.Basic
import Playback.Text.Percent
import Playback.Text.Quoted.Table
import Playback.Text.Word
import Playback.Url.Domain.Composition
import Playback.Url.Domain.Mapping
import Playback.Url.Domain.Punycode

/-!
# Domain names

The ASCII form of a domain name. Characters are mapped and composed first; then every label with
characters outside ASCII is written in Punycode after `xn--`.
-/

namespace Playback.Url.Domain

open Text

/-- The full stops of all scripts that separate labels. -/
def isStop (c : Char) : Bool :=
  c = '.' || c = '\u3002' || c = '\uFF0E' || c = '\uFF61'

/-- What a character of a domain name is replaced by, or `none` if it is refused. -/
def mapChar (c : Char) : Option (List Char) :=
  let n := c.toNat
  if n < 128 then some [c.toLower]
  else if isStop c then some ['.']
  else if dropped.covers n then some []
  else if refused.covers n then none
  else match shifted? shifts n with
    | some m => some [Char.ofNat m]
    | none =>
      match replacements.find? fun r => r.1 == n with
      | some (_, m) => some [Char.ofNat m]
      | none =>
        match expansions.find? fun r => r.1 == n with
        | some (_, ms) => some (ms.map Char.ofNat)
        | none => some [c]

/-- The ASCII characters that a domain name may not hold. -/
def isForbidden (c : Char) : Bool :=
  c.toNat ≤ 0x20 || c.toNat == 0x7F ||
    ['"', '#', '%', '/', ':', '<', '>', '?', '@', '[', '\\', ']', '^', '\x60', '\x7b', '|',
      '\x7d'].contains c

/-- The combining marks, which start no label. -/
def isMark (c : Char) : Bool :=
  Quoted.shapeless.covers c.toNat && isWord c

/-- The joiners, which depend on the letters around them and are refused in labels. -/
def isJoiner (c : Char) : Bool :=
  c = '\u200C' || c = '\u200D'

/-- The marker of labels in Punycode. -/
def marker : List Char := ['x', 'n', '-', '-']

/-- Whether a label outside ASCII stands unchanged under mapping and composition. -/
def isStable (label : List Char) : Bool :=
  label.all (fun c => mapChar c == some [c] && !isForbidden c && !isJoiner c && c != '.') &&
    compose label == label &&
    match label with
    | c :: _ => !isMark c
    | [] => false

/-- The ASCII form of one mapped label. -/
def labelToAscii (label : List Char) : Option (List Char) :=
  if marker.isPrefixOf label then
    match Punycode.decode? (label.drop marker.length) with
    | some decoded =>
      if isStable decoded && decoded.any fun c => 128 ≤ c.toNat then some label else none
    | none => none
  else if label.all fun c => c.toNat < 128 then some label
  else if isStable label then some (marker ++ Punycode.encode label)
  else none

/-- The ASCII form of a percent-coded domain name, or `none` if it is no domain name. -/
def toAscii (name : List Char) : Option (List Char) := do
  let s ← Bytes.toText? (Percent.decode (Bytes.ofText (String.ofList name)))
  let mapped ← s.toList.mapM mapChar
  let labels ← ((compose mapped.flatten).splitOn '.').mapM labelToAscii
  let result := ['.'].intercalate labels
  if result.any fun c => isForbidden c || 128 ≤ c.toNat then none else some result

end Playback.Url.Domain
