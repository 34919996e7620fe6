import Playback.Text.Basic

/-!
# IPv4 addresses in host names

A host whose last label is a number is an address of up to four parts, each decimal, octal after
`0` or hexadecimal after `0x`; the last part fills all the bytes that are left.
-/

namespace Playback.Url.Ipv4

open Text

/-- The value of digits to a base, if all of them are digits of that base. -/
def digitsValue? (base : Nat) (digits : List Char) : Option Nat :=
  digits.foldlM (fun n c =>
    match hexDigit? c with
    | some d => if d < base then some (base * n + d) else none
    | none => none) 0

/-- The value of a part of an address; nothing but a base mark counts as zero. -/
def number? (part : List Char) : Option Nat :=
  match part with
  | [] => none
  | '0' :: 'x' :: digits => digitsValue? 16 digits
  | '0' :: 'X' :: digits => digitsValue? 16 digits
  | '0' :: d :: digits => digitsValue? 8 (d :: digits)
  | digits => digitsValue? 10 digits

/-- The parts of an address; a full stop at the end adds none. -/
def parts (host : List Char) : List (List Char) :=
  let labels := host.splitOn '.'
  if labels.getLast? = some [] then labels.dropLast else labels

/-- Whether the last label is a number, so that the host must be an address. -/
def endsInNumber (host : List Char) : Bool :=
  match (parts host).getLast? with
  | none => false
  | some last => (!last.isEmpty && last.all Char.isDigit) || (number? last).isSome

/-- The address of a host, as a number below `2 ^ 32`. -/
def parse? (host : List Char) : Option Nat := do
  let labels := parts host
  if labels.length > 4 then none
  else
    let numbers ← labels.mapM number?
    let last ← numbers.getLast?
    let leading := numbers.dropLast
    if last ≥ 256 ^ (4 - leading.length) then none
    else if leading.any (· > 255) then none
    else
      let high := leading.foldl (fun n d => 256 * n + d) 0
      some (high * 256 ^ (4 - leading.length) + last)

/-- The address in four decimal parts. -/
def print (address : Nat) : List Char :=
  let part (i : Nat) : List Char := (toString (address / 256 ^ i % 256)).toList
  part 3 ++ '.' :: part 2 ++ '.' :: part 1 ++ '.' :: part 0

end Playback.Url.Ipv4
