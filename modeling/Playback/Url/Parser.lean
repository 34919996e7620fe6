import Playback.Url.Basic
import Playback.Url.Domain.Basic
import Playback.Url.Fault
import Playback.Url.Ipv4
import Playback.Url.Ipv6
import Playback.Url.Path

/-!
# Reading of absolute addresses

Reading of `scheme://host:port/path?query`. The special schemes of the web forgive backslashes and
a wrong number of slashes, know their default ports and canonicalise the host; files have a host
without a port; in all other schemes the host is taken as it stands.
-/

namespace Playback

namespace Url

open Text

/-- How an address is read, by its scheme. -/
inductive Manner where
  | web
  | file
  | opaqueHost
deriving DecidableEq, Repr

/-- The port that a scheme uses when none is given. -/
def defaultPort? (scheme : String) : Option Nat :=
  if scheme == "http" || scheme == "ws" then some 80
  else if scheme == "https" || scheme == "wss" then some 443
  else if scheme == "ftp" then some 21
  else none

namespace Manner

def ofScheme (scheme : String) : Manner :=
  if scheme == "file" then .file
  else if (defaultPort? scheme).isSome then .web
  else .opaqueHost

/-- Whether backslashes separate like slashes. -/
def isSpecial : Manner → Bool
  | .opaqueHost => false
  | _ => true

end Manner

/-- Drops controls and spaces from the ends, and tabs and line breaks everywhere. -/
def clean (raw : String) : List Char :=
  (stripEnds (fun c => c ≤ ' ') raw.toList).filter fun c => c != '\t' && c != '\n' && c != '\r'

/-- The scheme in small letters and what follows its colon. -/
def scheme? (cs : List Char) : Option (String × List Char) :=
  let isSchemeChar (c : Char) : Bool := c.isAlphanum || c = '+' || c = '-' || c = '.'
  match cs with
  | [] => none
  | c :: _ =>
    if c.isAlpha then
      match cs.dropWhile isSchemeChar with
      | ':' :: rest => some (lowerAscii (String.ofList (cs.takeWhile isSchemeChar)), rest)
      | _ => none
    else none

/-- Whether a character ends the authority. -/
def endsAuthority (special : Bool) (c : Char) : Bool :=
  c = '/' || c = '?' || c = '#' || (special && c = '\\')

/-- The text up to the first colon outside brackets, and the rest. -/
def splitHost (bracketed : Bool) : List Char → List Char × List Char
  | [] => ([], [])
  | c :: cs =>
    if c = ':' && !bracketed then ([], c :: cs)
    else
      let (host, rest) := splitHost (if c = '[' then true else if c = ']' then false else bracketed) cs
      (c :: host, rest)

/-- The host between brackets. -/
def bracketedHost (host : List Char) : Except Fault (List Char) :=
  if host.getLast? = some ']' then
    match Ipv6.parse? (host.tail.dropLast) with
    | some pieces => .ok ('[' :: Ipv6.print pieces ++ [']'])
    | none => .error .invalidIpv6
  else .error .invalidIpv6

/-- The canonical host of a web address. -/
def webHost (host : List Char) : Except Fault (List Char) :=
  if host.head? = some '[' then bracketedHost host
  else
    match Domain.toAscii host with
    | none => .error .invalidDomain
    | some [] => .error .emptyHost
    | some name =>
      if Ipv4.endsInNumber name then
        match Ipv4.parse? name with
        | some address => .ok (Ipv4.print address)
        | none => .error .invalidIpv4
      else .ok name

/-- The characters that a host may not hold in any scheme. -/
def isForbiddenHostChar (c : Char) : Bool :=
  ['\x00', '\t', '\n', '\r', ' ', '#', '/', ':', '<', '>', '?', '@', '[', '\\', ']', '^',
    '|'].contains c

/-- The host of an address whose scheme is not special. -/
def opaqueHost (host : List Char) : Except Fault (List Char) :=
  if host.head? = some '[' then bracketedHost host
  else if host.any isForbiddenHostChar then .error .invalidHostCharacter
  else .ok (Path.code (fun b => !Path.isControl b) host)

/-- The port at the start of a text, and the rest; no digits are no port. -/
def port? (cs : List Char) : Except Fault (Option Nat × List Char) :=
  let digits := cs.takeWhile Char.isDigit
  let rest := cs.dropWhile Char.isDigit
  let n := digitsValue 0 digits
  if n > 65535 then .error .invalidPort
  else
    match rest with
    | [] => .ok (if digits.isEmpty then none else some n, rest)
    | c :: _ =>
      if c = '/' || c = '\\' || c = '?' || c = '#' then
        .ok (if digits.isEmpty then none else some n, rest)
      else .error .invalidPort

/-- Whether user information leaves a trace in the address; a lone colon leaves none. -/
def isUserInfo (info : List Char) : Bool :=
  !info.isEmpty && info != [':']

/-- Host and port of an authority, and what is left of `after`, the text behind it. -/
def authority (manner : Manner) (scheme : String) (text after : List Char) :
    Except Fault (List Char × Option Nat × List Char) := do
  let (info, hostAndPort) := (cutAtLast '@' text).getD ([], text)
  if (cutAtLast '@' text).isSome && info.isEmpty && hostAndPort.isEmpty && !after.isEmpty then
    throw .emptyHost
  let (hostText, rest) := splitHost false hostAndPort
  let host ←
    match manner with
    | .opaqueHost => opaqueHost hostText
    | _ => if hostText.isEmpty then throw .emptyHost else webHost hostText
  if host.isEmpty && !rest.isEmpty then throw .emptyHost
  let (port, rest) ← match rest with
    | ':' :: digits => port? (digits ++ after)
    | _ => pure (none, rest ++ after)
  if host.isEmpty && isUserInfo info then throw .emptyHost
  let port := if port == defaultPort? scheme then none else port
  pure (host, port, rest)

/-- The query after a path, coded; a fragment ends it. -/
def query? (special : Bool) (cs : List Char) : Option (List Char) :=
  match cs with
  | '?' :: rest =>
    let keep (b : UInt8) : Bool :=
      !Path.isControl b &&
        !([' ', '"', '#', '<', '>'].contains (Char.ofNat b.toNat) || (special && b == 0x27))
    some (Path.code keep (rest.takeWhile (· != '#')))
  | _ => none

/-- Whether a segment names a drive: a letter and a colon or bar. -/
def isDrive : List Char → Bool
  | [letter, mark] => letter.isAlpha && (mark = ':' || mark = '|')
  | _ => false

/-- The path of a web address or of one with an opaque host. -/
def pathOf (special : Bool) (cs : List Char) : List Char :=
  let text := cs.takeWhile fun c => c != '?' && c != '#'
  match text with
  | [] => if special then ['/'] else []
  | c :: rest =>
    let text := if c = '/' || (special && c = '\\') then rest else text
    Path.print (Path.resolve (fun _ => false) [] (Path.split special text))

/-- The path of a file, or `none` if it names a drive and so has no host. -/
def filePath? (cs : List Char) : Option (List Char) :=
  let text := cs.takeWhile fun c => c != '?' && c != '#'
  let text := match text with
    | c :: rest => if c = '/' || c = '\\' then rest else text
    | [] => []
  let segments := Path.split true text
  match segments with
  | first :: rest =>
    if isDrive first then none
    else
      let segments :=
        if isDrive (first.take 2) then first.take 2 :: first.drop 2 :: rest else segments
      let fixed (segment : List Char) : Bool :=
        isDrive segment && segment.getLast? == some ':'
      let resolved := (Path.resolve fixed [] segments).dropWhile List.isEmpty
      some (Path.print (if resolved.isEmpty then [[]] else resolved))
  | [] => some ['/']

/-- A file address; only one with a host is absolute here. -/
def parseFile (cs : List Char) : Except Fault Url := do
  match cs with
  | a :: b :: rest =>
    let isSlash (c : Char) : Bool := c = '/' || c = '\\'
    if isSlash a && isSlash b then
      let hostText := rest.takeWhile fun c => !endsAuthority true c
      let after := rest.dropWhile fun c => !endsAuthority true c
      if hostText.isEmpty || isDrive hostText then throw .missingHost
      let host ← webHost hostText
      if host == "localhost".toList then throw .missingHost
      match filePath? after with
      | none => throw .missingHost
      | some path =>
        pure
          { scheme := "file"
            host := some (String.ofList host)
            port := none
            path := String.ofList path
            query := (query? true (after.dropWhile fun c => c != '?' && c != '#')).map String.ofList }
    else throw .missingHost
  | _ => throw .missingHost

/-- Reads an absolute address that names a host. User information and fragment are dropped. -/
def parse (raw : String) : Except Fault Url := do
  match scheme? (clean raw) with
  | none => throw .relative
  | some (scheme, rest) =>
    let manner := Manner.ofScheme scheme
    let special := manner.isSpecial
    if manner = .file then parseFile rest
    else
      let rest ←
        match manner with
        | .web => pure (rest.dropWhile fun c => c = '/' || c = '\\')
        | _ =>
          match rest with
          | '/' :: '/' :: rest => pure rest
          | _ => throw .missingHost
      let text := rest.takeWhile fun c => !endsAuthority special c
      let after := rest.dropWhile fun c => !endsAuthority special c
      let (host, port, rest) ← authority manner scheme text after
      if host.isEmpty then throw .missingHost
      pure
        { scheme
          host := some (String.ofList host)
          port
          path := String.ofList (pathOf special rest)
          query := (query? special (rest.dropWhile fun c => c != '?' && c != '#')).map String.ofList }

/-- The reader of the addresses that name a host. -/
def read : UrlReader := fun raw =>
  (parse raw).mapError Fault.message

end Url

end Playback
