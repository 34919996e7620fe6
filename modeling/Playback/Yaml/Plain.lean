import Playback.Json.Basic
import Playback.Text.Decimal

/-!
# Plain scalars

A scalar without quotes means null, a truth value or a number if it looks like one, and a text
otherwise.
-/

namespace Playback.Yaml

open Text

/-- Whether a text, without its sign, is a run of digits that begins with a zero it could do
without. -/
def isPadded (cs : List Char) : Bool :=
  match cs with
  | '0' :: d :: rest => (d :: rest).all Char.isDigit
  | _ => false

/-- The value of digits in a base, of which there must be some. -/
def inBase? (base : Nat) (digits : List Char) : Option Nat :=
  if digits.isEmpty then none
  else digits.foldlM (fun n d =>
    match hexDigit? d with
    | some v => if v < base then some (base * n + v) else none
    | none => none) 0

/-- A whole number without a sign: decimal without padding, or in another base after a mark. -/
def natural? (cs : List Char) : Option Nat :=
  let marked :=
    match cs with
    | '0' :: 'x' :: digits => inBase? 16 digits
    | '0' :: 'o' :: digits => inBase? 8 digits
    | '0' :: 'b' :: digits => inBase? 2 digits
    | _ => none
  marked.or (if isPadded cs then none else inBase? 10 cs)

def integer? (cs : List Char) : Option Int :=
  match cs with
  | '+' :: rest => (natural? rest).map Int.ofNat
  | '-' :: rest => (natural? rest).map fun n => -(n : Int)
  | _ => (natural? cs).map Int.ofNat

/-- The words for infinity and for what is no number. -/
def isNumberWord (s : String) : Bool :=
  [".inf", ".Inf", ".INF", "+.inf", "+.Inf", "+.INF", "-.inf", "-.Inf", "-.INF", ".nan", ".NaN",
    ".NAN"].contains s

/-- A number with a point or an exponent, within the range of binary floating point. -/
def real? (cs : List Char) : Option Json :=
  let (negative, unsigned) :=
    match cs with
    | '+' :: rest => (false, rest)
    | '-' :: rest => (true, rest)
    | _ => (false, cs)
  if isPadded unsigned then none
  else
    match Decimal.parse? unsigned with
    | none => none
    | some d =>
      if d.toBits Decimal.double = Decimal.double.infinity then none
      else some (.real (if negative then -(d.digits : Int) else d.digits) d.exponent)

/-- What a plain scalar means. -/
def plainValue (cs : List Char) : Json :=
  let s := String.ofList cs
  if s.isEmpty then .blank
  else if ["null", "Null", "NULL", "~"].contains s then .null
  else if ["true", "True", "TRUE"].contains s then .bool true
  else if ["false", "False", "FALSE"].contains s then .bool false
  else
    match integer? cs with
    | some n => .int n
    | none => if isNumberWord s then .real 0 0 else (real? cs).getD (.string s)

end Playback.Yaml
