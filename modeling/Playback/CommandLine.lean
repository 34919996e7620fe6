import Playback.Capture.Reading
import Playback.Player.Basic
import Playback.Settings.Reading

/-!
# Command line

A command reads settings and a capture, builds one request from its arguments, and prints the answers
that the request gets when it is made once or several times in one session.
-/

namespace Playback.CommandLine

inductive Key where
  | capture
  | config
  | method
  | header
  | data
  | repeated
deriving DecidableEq, Repr

namespace Key

/-- The options with their long names, and their letters where they have one. -/
def all : List (Key × String × Option Char) :=
  [(capture, "capture", some 'c'), (config, "config", none), (method, "method", some 'X'),
    (header, "header", some 'H'), (data, "data", some 'd'), (repeated, "repeat", some 'n')]

def ofName? (name : String) : Option Key :=
  (all.find? fun k => k.2.1 == name).map Prod.fst

def ofLetter? (letter : Char) : Option Key :=
  (all.find? fun k => k.2.2 == some letter).map Prod.fst

end Key

/-- An argument: the end of the options, an option that may hold its value, or a plain text. -/
inductive Argument where
  | separator
  | option (key : Key) (value : Option String)
  | plain (text : String)

namespace Argument

/-- The long option of a text without its hyphens; a value follows an equals sign. -/
def long? (cs : List Char) : Option Argument :=
  match Text.cutAt '=' cs with
  | some (name, value) =>
    (Key.ofName? (String.ofList name)).map fun k => option k (some (String.ofList value))
  | none => (Key.ofName? (String.ofList cs)).map fun k => option k none

/-- The option of a letter, with the value that follows it, perhaps after an equals sign. -/
def short? (letter : Char) (cs : List Char) : Option Argument :=
  (Key.ofLetter? letter).map fun k =>
    match cs with
    | [] => option k none
    | '=' :: value => option k (some (String.ofList value))
    | value => option k (some (String.ofList value))

/-- What an argument is; unknown options are none. A hyphen alone is a plain text. -/
def read (s : String) : Option Argument :=
  match s.toList with
  | ['-', '-'] => some separator
  | '-' :: '-' :: cs => long? cs
  | '-' :: letter :: cs => short? letter cs
  | _ => some (plain s)

end Argument

/-- Options with their values, and plain arguments. -/
structure Collected where
  options : List (Key × String)
  plain : List String

/-- Sorts arguments; `pending` is an option that waits for its value. -/
def collect (pending : Option Key) : List String → Option Collected
  | [] => if pending.isSome then none else some ⟨[], []⟩
  | arg :: args =>
    match Argument.read arg, pending with
    | some .separator, none => some ⟨[], args⟩
    | some (.plain text), some k =>
      (collect none args).map fun c => { c with options := (k, text) :: c.options }
    | some (.plain text), none =>
      (collect none args).map fun c => { c with plain := text :: c.plain }
    | some (.option k (some value)), none =>
      (collect none args).map fun c => { c with options := (k, value) :: c.options }
    | some (.option k none), none => collect (some k) args
    | _, _ => none

namespace Collected

def values (c : Collected) (k : Key) : List String :=
  (c.options.filter fun o => o.1 == k).map Prod.snd

/-- The value of an option that must not be repeated. -/
def value? (c : Collected) (k : Key) : Option (Option String) :=
  match c.values k with
  | [] => some none
  | [v] => some (some v)
  | _ => none

end Collected

/-- What a command is to do. -/
structure Arguments where
  capture : String
  config : Option String
  method : String
  headers : List String
  data : Option String
  repetitions : Nat
  target : String
deriving DecidableEq, Repr

/-- A count: decimal digits, perhaps after a plus sign, of at most 64 bits. -/
def count? (s : String) : Option Nat :=
  let digits := match s.toList with | '+' :: digits => digits | digits => digits
  let n := Text.digitsValue 0 digits
  if digits.isEmpty || !digits.all Char.isDigit || n ≥ 2 ^ 64 then none else some n

/-- The name of a file, which is not empty. -/
def fileName? (s : String) : Option String :=
  if s.isEmpty then none else some s

namespace Arguments

/-- Reads arguments: a capture and one target are needed. -/
def parse? (args : List String) : Option Arguments := do
  let c ← collect none args
  let capture ← fileName? (← ← c.value? .capture)
  let config ← (← c.value? .config).mapM fileName?
  let method ← c.value? .method
  let data ← c.value? .data
  let repetitions ← (← c.value? .repeated).mapM count?
  match c.plain with
  | [target] =>
    some ⟨capture, config, method.getD "GET", c.values .header, data, repetitions.getD 1, target⟩
  | _ => none

/-- The files that a command reads. -/
def files (a : Arguments) : List String :=
  a.config.toList ++ [a.capture]

end Arguments

/-- What a command leaves behind: its code, what it prints, and what it reports if it fails. -/
structure Outcome where
  code : Nat
  printed : String
  report : Option String
deriving DecidableEq, Repr

/-- Why a command fails. -/
inductive Failure where
  | unusableConfig (path : String)
  | unreadableCapture (path : String)
  | brokenCapture (path : String)
  | refusedSettings (fault : SettingsFault)
  | refusedRequest (rejection : Rejection)
  | invalidHeader (header : String)
deriving DecidableEq, Repr

namespace Failure

def message : Failure → String
  | unusableConfig path => "failed to load config " ++ path
  | unreadableCapture path => "failed to read capture " ++ path
  | brokenCapture path => "failed to parse capture " ++ path
  | refusedSettings fault => fault.message
  | refusedRequest rejection => rejection.message
  | invalidHeader header => "Invalid header '" ++ header ++ "'. Expected 'Name: value'"

end Failure

def loadSettings (patterns : PatternReader) (files : String → Option Bytes) (a : Arguments) :
    Except Failure Settings :=
  match a.config with
  | none => .ok Settings.default
  | some path =>
    match ((files path).bind Bytes.toText?).map (Settings.parse patterns) with
    | some (.ok settings) => .ok settings
    | _ => .error (.unusableConfig path)

def loadCapture (files : String → Option Bytes) (a : Arguments) :
    Except Failure (List Exchange) :=
  match (files a.capture).map Capture.parse with
  | some (.ok exchanges) => .ok exchanges
  | some (.error .notACapture) => .error (.brokenCapture a.capture)
  | _ => .error (.unreadableCapture a.capture)

/-- Adds a header that is written as a name, a colon and a value. -/
def addHeader (r : Request) (header : String) : Except Failure Request :=
  match Text.cutAt ':' header.toList with
  | none => .error (.invalidHeader header)
  | some (name, value) =>
    .ok (r.withHeader (String.ofList (Text.trimmed name)) (String.ofList (Text.trimmed value)))

/-- The request of a command. -/
def buildRequest (urls : UrlReader) (a : Arguments) : Except Failure Request := do
  let plain ←
    match Request.parse urls a.method a.target with
    | .ok r => pure r
    | .error rejection => throw (.refusedRequest rejection)
  let r ← a.headers.foldlM addHeader plain
  match a.data with
  | none => pure r
  | some data => pure (r.withBody (.stored (Bytes.ofText data)))

/-- What is printed of an answer. -/
def printAnswer (attempt : Nat) (r : Response) : String :=
  let fields := r.payload.headers.map fun f => f.1 ++ ": " ++ f.2 ++ "\n"
  let body :=
    match r.payload.body.read with
    | .ok bytes => Bytes.toTextReplacing bytes
    | .error _ => ""
  "#" ++ toString attempt ++ " " ++ toString r.status.toNat ++ "\n" ++ String.join fields ++ "\n" ++
    body ++ "\n"

/-- Makes a request `left` times more, after `attempt` answers, and prints the answers. -/
def repeatRequest (p : Player) (r : Request) : Nat → Nat → Session → String → Outcome
  | 0, _, _, printed => ⟨0, printed, none⟩
  | left + 1, attempt, session, printed =>
    match p.respond session r with
    | .ok (session, answer) =>
      repeatRequest p r left (attempt + 1) session
        (printed ++ printAnswer (attempt + 1) answer)
    | .error _ => ⟨101, printed, none⟩

/-- Carries out a command. -/
def perform (libraries : Libraries) (files : String → Option Bytes) (a : Arguments) :
    Except Failure Outcome := do
  let settings ← loadSettings libraries.patterns files a
  let exchanges ← loadCapture files a
  let player ←
    match Player.ofExchanges libraries exchanges settings with
    | .ok p => pure p
    | .error fault => throw (.refusedSettings fault)
  let r ← buildRequest libraries.urls a
  pure (repeatRequest player r a.repetitions 0 player.newSession "")

def run (libraries : Libraries) (files : String → Option Bytes) (args : List String) : Outcome :=
  match Arguments.parse? args with
  | none => ⟨2, "", none⟩
  | some a =>
    match perform libraries files a with
    | .ok outcome => outcome
    | .error failure => ⟨1, "", some ("Error: " ++ failure.message)⟩

end Playback.CommandLine
