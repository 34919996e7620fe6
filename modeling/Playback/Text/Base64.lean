import Playback.Bytes.Basic

/-!
# Base64

The standard alphabet with padding. Only the canonical spelling is read: the padding must be there
and the bits that belong to no byte must be zero.
-/

namespace Playback.Text.Base64

/-- The digit of a value below 64. -/
def digitChar (n : Nat) : Char :=
  if n < 26 then Char.ofNat ('A'.toNat + n)
  else if n < 52 then Char.ofNat ('a'.toNat + (n - 26))
  else if n < 62 then Char.ofNat ('0'.toNat + (n - 52))
  else if n = 62 then '+' else '/'

def digitValue? (c : Char) : Option Nat :=
  if 'A' ≤ c ∧ c ≤ 'Z' then some (c.toNat - 'A'.toNat)
  else if 'a' ≤ c ∧ c ≤ 'z' then some (c.toNat - 'a'.toNat + 26)
  else if '0' ≤ c ∧ c ≤ '9' then some (c.toNat - '0'.toNat + 52)
  else if c = '+' then some 62
  else if c = '/' then some 63
  else none

/-- Three bytes at a time become four digits; the last group is padded. -/
def encode : Bytes → List Char
  | [] => []
  | [a] =>
    [digitChar (a.toNat / 4), digitChar (a.toNat % 4 * 16), '=', '=']
  | [a, b] =>
    [digitChar (a.toNat / 4), digitChar (a.toNat % 4 * 16 + b.toNat / 16),
      digitChar (b.toNat % 16 * 4), '=']
  | a :: b :: c :: rest =>
    digitChar (a.toNat / 4) :: digitChar (a.toNat % 4 * 16 + b.toNat / 16) ::
      digitChar (b.toNat % 16 * 4 + c.toNat / 64) :: digitChar (c.toNat % 64) :: encode rest

/-- What is wrong with a base64 text. Places and values are those of UTF-8 bytes. -/
inductive Fault where
  /-- A byte that is no digit, and its place. -/
  | invalidByte (place : Nat) (byte : UInt8)
  /-- A number of digits that encodes no whole number of bytes. -/
  | invalidLength (length : Nat)
  /-- A last digit with bits beyond the last byte, and its place. -/
  | invalidLastSymbol (place : Nat) (byte : UInt8)
  /-- Missing or wrong padding. -/
  | invalidPadding
deriving DecidableEq, Repr

namespace Fault

def message : Fault → String
  | invalidByte place byte => s!"Invalid symbol {byte}, offset {place}."
  | invalidLength length => s!"Invalid input length: {length}"
  | invalidLastSymbol place byte => s!"Invalid last symbol {byte}, offset {place}."
  | invalidPadding => "Invalid padding"

end Fault

def pad : UInt8 := 0x3D

/-- The value of a byte that is a digit. -/
def value? (b : UInt8) : Option Nat :=
  if b < 0x80 then digitValue? (Char.ofNat b.toNat) else none

/-- The value of the digit at a place, which must be one. -/
def digit (place : Nat) (b : UInt8) : Except Fault Nat :=
  match value? b with
  | some d => .ok d
  | none => .error (.invalidByte place b)

/-- The digits of the last group and the number of padding characters after them. Padding comes
after two digits at least and runs to the end. -/
def lastDigits (start index : Nat) : Bytes → Except Fault (List Nat × Nat)
  | [] => .ok ([], 0)
  | b :: rest =>
    if b = pad then
      if index < 2 || rest.any (· != pad) then .error (.invalidByte (start + index) pad)
      else .ok ([], rest.length + 1)
    else do
      let d ← digit (start + index) b
      let (ds, padding) ← lastDigits start (index + 1) rest
      .ok (d :: ds, padding)

def byte (n : Nat) : UInt8 :=
  UInt8.ofNat n

/-- Decodes the last group, of at most four characters. -/
def decodeLast (start : Nat) (b : Bytes) : Except Fault Bytes := do
  let (digits, padding) ← lastDigits start 0 b
  if !b.isEmpty && digits.length < 2 then
    .error (.invalidLength (start + digits.length))
  else if (digits.length + padding) % 4 ≠ 0 then .error .invalidPadding
  else
    match digits with
    | [p, q] =>
      if q % 16 = 0 then .ok [byte (p * 4 + q / 16)]
      else .error (.invalidLastSymbol (start + 1) (b.getD 1 0))
    | [p, q, r] =>
      if r % 4 = 0 then .ok [byte (p * 4 + q / 16), byte (q % 16 * 16 + r / 4)]
      else .error (.invalidLastSymbol (start + 2) (b.getD 2 0))
    | [p, q, r, s] =>
      .ok [byte (p * 4 + q / 16), byte (q % 16 * 16 + r / 4), byte (r % 4 * 64 + s)]
    | _ => .ok []

/-- Decodes the groups from the place `start` on. -/
def decodeFrom (start : Nat) : Bytes → Except Fault Bytes
  | a :: b :: c :: d :: e :: rest => do
    let p ← digit start a
    let q ← digit (start + 1) b
    let r ← digit (start + 2) c
    let s ← digit (start + 3) d
    let bytes ← decodeFrom (start + 4) (e :: rest)
    .ok (byte (p * 4 + q / 16) :: byte (q % 16 * 16 + r / 4) :: byte (r % 4 * 64 + s) :: bytes)
  | b => decodeLast start b

/-- Decodes a base64 text. A lone character after whole groups is reported before any other fault
if it is no base64 character. -/
def decode (b : Bytes) : Except Fault Bytes :=
  match b.getLast? with
  | none => .ok []
  | some last =>
    if b.length % 4 = 1 ∧ last ≠ pad ∧ value? last = none then
      .error (.invalidByte (b.length - 1) last)
    else decodeFrom 0 b

end Playback.Text.Base64
