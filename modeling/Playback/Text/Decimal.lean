import Playback.Text.Basic

/-!
# Decimal numbers

Numbers as texts spell them, a whole number times a power of ten, and their nearest binary
representation.
-/

namespace Playback.Text

/-- The number `digits * 10 ^ exponent`, without a sign. -/
structure Decimal where
  digits : Nat
  exponent : Int
deriving DecidableEq, Repr

namespace Decimal

/-- Digits before and after a point; there must be one at least. -/
def mantissa? (cs : List Char) : Option (Decimal × List Char) :=
  let whole := cs.takeWhile Char.isDigit
  let rest := cs.dropWhile Char.isDigit
  let (part, rest) :=
    match rest with
    | '.' :: rest => (rest.takeWhile Char.isDigit, rest.dropWhile Char.isDigit)
    | _ => ([], rest)
  if whole.isEmpty && part.isEmpty then none
  else some (⟨digitsValue 0 (whole ++ part), -(part.length : Int)⟩, rest)

/-- An exponent after `e` or `E`, if the text goes on with one; its digits must be there. -/
def exponent? (cs : List Char) : Option (Int × List Char) :=
  match cs with
  | e :: rest =>
    if e = 'e' || e = 'E' then
      let (negative, rest) :=
        match rest with
        | '-' :: rest => (true, rest)
        | '+' :: rest => (false, rest)
        | _ => (false, rest)
      let digits := rest.takeWhile Char.isDigit
      if digits.isEmpty then none
      else
        let n : Int := digitsValue 0 digits
        some (if negative then -n else n, rest.dropWhile Char.isDigit)
    else some (0, cs)
  | [] => some (0, [])

/-- Reads a number that fills a text: digits with at most one point, and perhaps an exponent. -/
def parse? (cs : List Char) : Option Decimal := do
  let (m, rest) ← mantissa? cs
  let (e, rest) ← exponent? rest
  if rest.isEmpty then some ⟨m.digits, m.exponent + e⟩ else none

/-- The quotient rounded to the nearest whole number, a half to the even one. -/
def roundDiv (a b : Nat) : Nat :=
  let q := a / b
  let r := a % b
  if 2 * r < b then q
  else if b < 2 * r then q + 1
  else if q % 2 = 0 then q else q + 1

/-- A binary floating-point format: the bits of the mantissa after the first one, the least
exponent of a unit in the last place, and the pattern of infinity. -/
structure Format where
  mantissaBits : Nat
  leastExponent : Int
  infinity : Nat

def single : Format := ⟨23, -149, 0x7F800000⟩

def double : Format := ⟨52, -1074, 0x7FF0000000000000⟩

/-- The bit pattern of the binary number nearest to a quotient, without a sign. -/
def nearest (f : Format) (a b : Nat) : Nat :=
  if a = 0 then 0
  else
    let size : Int := (Nat.log2 a : Int) - Nat.log2 b
    let fits (e : Int) : Bool :=
      if 0 ≤ e then 2 ^ f.mantissaBits * b * 2 ^ e.toNat ≤ a
      else 2 ^ f.mantissaBits * b ≤ a * 2 ^ (-e).toNat
    let e := size - f.mantissaBits
    let e := max f.leastExponent (if fits e then e else e - 1)
    let q :=
      if 0 ≤ e then roundDiv a (b * 2 ^ e.toNat) else roundDiv (a * 2 ^ (-e).toNat) b
    min f.infinity ((e - f.leastExponent).toNat * 2 ^ f.mantissaBits + q)

/-- The bit pattern of the nearest number of a format. Numbers with very many digits before or after
the point are beyond all finite formats, or nothing. -/
def toBits (f : Format) (d : Decimal) : Nat :=
  let size : Int := (toString d.digits).length + d.exponent
  if d.digits = 0 ∨ size < -400 then 0
  else if 400 < size then f.infinity
  else if 0 ≤ d.exponent then nearest f (d.digits * 10 ^ d.exponent.toNat) 1
  else nearest f d.digits (10 ^ (-d.exponent).toNat)

end Decimal

end Playback.Text
