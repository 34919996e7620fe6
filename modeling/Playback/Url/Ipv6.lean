import Playback.Text.Basic

/-!
# IPv6 addresses in host names

Eight hexadecimal pieces between colons. `::` stands for as many zero pieces as are missing, and the
last two pieces may be written as an IPv4 address.
-/

namespace Playback.Url.Ipv6

open Text

/-- A byte of the IPv4 notation: decimal, without leading zeros. -/
def byte? (digits : List Char) : Option Nat :=
  if digits.isEmpty || !digits.all Char.isDigit then none
  else if digits.length > 3 || (digits.length > 1 && digits.head? == some '0') then none
  else
    let n := digitsValue 0 digits
    if n > 255 then none else some n

/-- The two pieces of an IPv4 notation. -/
def ipv4Tail? (cs : List Char) : Option (List Nat) :=
  match (cs.splitOn '.').mapM byte? with
  | some [a, b, c, d] => some [256 * a + b, 256 * c + d]
  | _ => none

/-- The value of hexadecimal digits. -/
def pieceValue (digits : List Char) : Nat :=
  digits.foldl (fun n c => 16 * n + (hexDigit? c).getD 0) 0

/-- Reads pieces while there is `room` for them. `gap` is the number of pieces up to and with the
one that `::` stands for. -/
def pieces? (room : Nat) (pieces : List Nat) (gap : Option Nat) (cs : List Char) :
    Option (List Nat × Option Nat) :=
  match cs with
  | [] => some (pieces, gap)
  | ':' :: rest =>
    match room, gap with
    | room + 1, none => pieces? room (pieces ++ [0]) (some (pieces.length + 1)) rest
    | _, _ => none
  | _ =>
    match room with
    | 0 => none
    | room + 1 =>
      let digits := (cs.take 4).takeWhile fun c => (hexDigit? c).isSome
      match cs.drop digits.length with
      | [] => some (pieces ++ [pieceValue digits], gap)
      | '.' :: _ =>
        if digits.isEmpty || pieces.length > 6 then none
        else (ipv4Tail? cs).map fun tail => (pieces ++ tail, gap)
      | ':' :: rest =>
        if rest.isEmpty then none
        else pieces? room (pieces ++ [pieceValue digits]) gap rest
      | _ => none

/-- The eight pieces of an address. -/
def parse? (cs : List Char) : Option (List Nat) :=
  if cs.length < 2 then none
  else
    let read :=
      match cs with
      | ':' :: ':' :: rest => pieces? 7 [0] (some 1) rest
      | ':' :: _ => none
      | _ => pieces? 8 [] none cs
    match read with
    | some (pieces, some gap) =>
      if pieces.length ≤ 8 then
        some (pieces.take gap ++ List.replicate (8 - pieces.length) 0 ++ pieces.drop gap)
      else none
    | some (pieces, none) => if pieces.length = 8 then some pieces else none
    | none => none

/-- The number of zero pieces at the start. -/
def leadingZeros (pieces : List Nat) : Nat :=
  (pieces.takeWhile (· == 0)).length

/-- The first longest run of zero pieces, as its place and length. -/
def longestGap (pieces : List Nat) : Nat × Nat :=
  (List.range pieces.length).foldl
    (fun best i =>
      let n := leadingZeros (pieces.drop i)
      if n > best.2 then (i, n) else best)
    (0, 0)

/-- Pieces in hexadecimal between colons. -/
def joinPieces (pieces : List Nat) : List Char :=
  [':'].intercalate (pieces.map (Nat.toDigits 16))

/-- The shortest notation of an address: its longest run of two or more zero pieces is `::`. -/
def print (pieces : List Nat) : List Char :=
  let (place, length) := longestGap pieces
  if length < 2 then joinPieces pieces
  else joinPieces (pieces.take place) ++ [':', ':'] ++ joinPieces (pieces.drop (place + length))

end Playback.Url.Ipv6
