import Playback.Message.Method
import Playback.Message.Query
import Playback.Message.Rejection
import Playback.Url.Basic

/-!
# Request targets

A target is an absolute address or, for `CONNECT`, an authority `host:port` without a scheme. Its
text is what two requests are compared by.
-/

namespace Playback

/-- What a request is addressed to. -/
structure Target where
  scheme : Option String
  host : String
  port : Option Nat
  path : String
  query : Option String
deriving DecidableEq, Repr

namespace Target

/-- The target of an absolute address that names a host. -/
def ofUrl? (u : Url) : Option Target :=
  u.host.map fun host => ⟨some u.scheme, host, u.port, u.path, u.query⟩

/-- The reason for refusing what names no host. -/
def missingHost : String := "missing host"

/-- Reads an absolute address. -/
def parse (urls : UrlReader) (raw : String) : Except Rejection Target :=
  match urls raw with
  | .error reason => .error (.malformedUrl raw reason)
  | .ok u =>
    match ofUrl? u with
    | some t => .ok t
    | none => .error (.malformedUrl raw missingHost)

/-- Why the port of an authority is refused. -/
inductive PortFault where
  | empty
  | invalidDigit
  | tooLarge
deriving DecidableEq, Repr

namespace PortFault

def message : PortFault → String
  | empty => "cannot parse integer from empty string"
  | invalidDigit => "invalid digit found in string"
  | tooLarge => "number too large to fit in target type"

end PortFault

/-- Reads on in a port number: after `n`, every character must be a digit and the number must stay
below `2 ^ 16`. -/
def portFrom (n : Nat) : List Char → Except PortFault Nat
  | [] => .ok n
  | c :: cs =>
    if !c.isDigit then .error .invalidDigit
    else
      let m := 10 * n + (c.toNat - '0'.toNat)
      if m > 65535 then .error .tooLarge else portFrom m cs

/-- The port of an authority: decimal digits, with a plus sign in front if need be. -/
def authorityPort : List Char → Except PortFault Nat
  | [] => .error .empty
  | ['+'] => .error .invalidDigit
  | '+' :: digits => portFrom 0 digits
  | digits => portFrom 0 digits

def authority (text : List Char) : Except String Target := do
  let (host, port) ←
    match Text.cutAtLast ':' text with
    | some (host, port) =>
      let n ← (authorityPort port).mapError PortFault.message
      pure (host, some n)
    | none => pure (text, none)
  if host.isEmpty then throw missingHost
  pure ⟨none, Text.lowerAscii (String.ofList host), port, "", none⟩

/-- The port that a scheme stands for when it is asked to connect. -/
def connectPort? (scheme : String) : Option Nat :=
  if scheme == "http" then some 80
  else if scheme == "ftp" then some 21
  else if scheme == "https" then some 443
  else none

/-- Reads the target of a request. `CONNECT` takes an authority, or an address whose port is then
made explicit. -/
def resolve (urls : UrlReader) (method : Method) (raw : String) : Except Rejection Target :=
  if method ≠ .connect then parse urls raw
  else if raw.toList.contains '/' then do
    let t ← parse urls raw
    pure { t with port := t.port.or (t.scheme.bind connectPort?) }
  else
    match authority raw.toList with
    | .ok t => .ok t
    | .error reason => .error (.malformedUrl raw reason)

def print (t : Target) : String :=
  let scheme := match t.scheme with | some s => s ++ "://" | none => ""
  let port := match t.port with | some n => ":" ++ toString n | none => ""
  let query := match t.query with | some q => "?" ++ q | none => ""
  scheme ++ t.host ++ port ++ t.path ++ query

def parameters (t : Target) : Query :=
  match t.query with
  | some q => Query.parse q
  | none => Multimap.empty

end Target

end Playback
