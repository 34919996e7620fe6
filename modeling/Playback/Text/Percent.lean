import Playback.Bytes.Basic
import Playback.Text.Basic

/-!
# Percent coding

A byte is written `%XX`, two hexadecimal digits after a percent sign. Decoding leaves alone every
percent sign that no two digits follow.
-/

namespace Playback.Text.Percent

def sign : UInt8 := 0x25

/-- The value of a byte that is an ASCII hexadecimal digit. -/
def digit? (b : UInt8) : Option Nat :=
  hexDigit? (Char.ofNat b.toNat)

/-- The capital hexadecimal digit of a number below sixteen. -/
def digitChar (n : Nat) : Char :=
  if n < 10 then Char.ofNat ('0'.toNat + n) else Char.ofNat ('A'.toNat + (n - 10))

/-- Undoes percent coding. -/
def decode : Bytes → Bytes
  | [] => []
  | [a] => [a]
  | [a, b] => [a, b]
  | a :: b :: c :: rest =>
    if a = sign then
      match digit? b, digit? c with
      | some high, some low => UInt8.ofNat (16 * high + low) :: decode rest
      | _, _ => a :: decode (b :: c :: rest)
    else a :: decode (b :: c :: rest)

/-- A byte as a percent sign and two digits. -/
def encodeByte (b : UInt8) : List Char :=
  ['%', digitChar (b.toNat / 16), digitChar (b.toNat % 16)]

/-- Writes the bytes satisfying `keep` as characters and codes the others. -/
def encode (keep : UInt8 → Bool) (b : Bytes) : List Char :=
  b.flatMap fun x => if keep x then [Char.ofNat x.toNat] else encodeByte x

end Playback.Text.Percent
