import Playback.Yaml.Plain
import Playback.Yaml.Scalar

/-!
# Documents

A document is read into a data tree. Collections are written by indentation or in brackets, a value
can be given a name and be repeated by it, and one text holds one document.
-/

namespace Playback.Yaml

open Text

/-- What is left to read, and the values that were given names. -/
structure Source where
  rest : List Placed
  anchors : List (String × Json)

/-- Readers of parts of a document. -/
abbrev Reader := StateT Source Option

def remaining : Reader (List Placed) := do
  return (← get).rest

def goTo (rest : List Placed) : Reader Unit :=
  modify fun s => { s with rest }

/-- Gives a value a name, if there is one to give. -/
def nameAs (anchor : Option String) (v : Json) : Reader Json := do
  match anchor with
  | none => pure v
  | some name =>
    modify fun s => { s with anchors := (name, v) :: s.anchors }
    pure v

/-- Whether a character can stand in a name. -/
def isNameChar (c : Char) : Bool :=
  c.isAlphanum || c = '_' || c = '-'

def name : Reader String := do
  let cs ← remaining
  let word := cs.takeWhile fun p => isNameChar p.2
  if word.isEmpty then failure
  goTo (cs.drop word.length)
  pure (String.ofList (word.map Prod.snd))

/-- Goes on to the next content inside brackets. -/
def flowContent : Reader (List Placed) := do
  let (rest, _) ← toContent false false false (← remaining)
  if atMarker rest then failure
  goTo rest
  pure rest

/-- Goes on to the next content, and says whether a line ended on the way. -/
def blockContent (lineStart : Bool) : Reader (List Placed × Bool) := do
  let (rest, crossed) ← toContent lineStart false false (← remaining)
  goTo rest
  pure (rest, crossed)

/-- A tag; that of texts makes a plain scalar a text. -/
def tag : Reader Bool := do
  let cs ← remaining
  let word := cs.takeWhile fun p => !(p.2 = ' ' || p.2 = '\t' || p.2 = '\n' || isFlowMark p.2)
  goTo (cs.drop word.length)
  let s := String.ofList (word.map Prod.snd)
  pure (s == "!!str" || s == "!")

/-- A scalar between quotes, after the opening one. -/
def quotedScalar (quote : Char) (rest : List Placed) : Reader (List Char) := do
  let (text, rest) ←
    if quote = '"' then doubleQuoted (rest.length + 1) [] rest
    else singleQuoted (rest.length + 1) [] rest
  goTo rest
  pure text

/-- The value of a plain scalar. -/
def meaning (isText : Bool) (cs : List Char) : Json :=
  if isText then .string (String.ofList cs) else plainValue cs

mutual

/-- Reads a value inside brackets; its text is also given, in case it turns out to be a key. -/
def flowNode : Nat → Reader (Json × List Char)
  | 0 => failure
  | fuel + 1 => do
    let cs ← flowContent
    match cs with
    | [] => failure
    | (_, c) :: rest =>
      if c = '&' then
        goTo rest
        let anchor ← name
        let (v, text) ← flowNode fuel
        return (← nameAs (some anchor) v, text)
      else if c = '!' then
        let isText ← tag
        let (v, text) ← flowNode fuel
        return (if isText then .string (String.ofList text) else v, text)
      else if c = '*' then
        goTo rest
        match (← get).anchors.lookup (← name) with
        | some v => return (v, [])
        | none => failure
      else if c = '[' then
        goTo rest
        return (.array (← flowItems fuel []), [])
      else if c = '\x7b' then
        goTo rest
        return (.object (← flowMembers fuel []), [])
      else if c = '"' ∨ c = '\'' then
        let text ← quotedScalar c rest
        return (.string (String.ofList text), text)
      else if c = ',' ∨ c = ']' ∨ c = '\x7d' ∨ c = ':' && atGap rest then return (.blank, [])
      else if !startsPlain true c rest then failure
      else
        let (line, rest) := plainLine true false [] cs
        let (text, _, rest) := plainMore true 0 (rest.length + 1) false (withoutTail line) rest
        goTo rest
        return (plainValue text, text)

/-- The value after a key inside brackets; without a colon there is none. -/
def flowValue : Nat → Reader Json
  | 0 => failure
  | fuel + 1 => do
    match ← flowContent with
    | (_, ':') :: rest =>
      goTo rest
      return (← flowNode fuel).1
    | _ => return .blank

/-- The items of a list in brackets, up to its end. -/
def flowItems : Nat → List Json → Reader (List Json)
  | 0, _ => failure
  | fuel + 1, read => do
    match ← flowContent with
    | (_, ']') :: rest =>
      goTo rest
      return read.reverse
    | (_, ',') :: _ => failure
    | _ =>
      let (v, text) ← flowNode fuel
      let v ←
        match ← flowContent with
        | (_, ':') :: _ => do pure (Json.object [(String.ofList text, ← flowValue fuel)])
        | _ => pure v
      match ← flowContent with
      | (_, ',') :: rest =>
        goTo rest
        flowItems fuel (v :: read)
      | (_, ']') :: rest =>
        goTo rest
        return (v :: read).reverse
      | _ => failure

/-- The members of a mapping in braces, up to its end. -/
def flowMembers : Nat → List (String × Json) → Reader (List (String × Json))
  | 0, _ => failure
  | fuel + 1, read => do
    match ← flowContent with
    | (_, '\x7d') :: rest =>
      goTo rest
      return read.reverse
    | (_, ',') :: _ => failure
    | _ =>
      let (_, text) ← flowNode fuel
      let v ← flowValue fuel
      match ← flowContent with
      | (_, ',') :: rest =>
        goTo rest
        flowMembers fuel ((String.ofList text, v) :: read)
      | (_, '\x7d') :: rest =>
        goTo rest
        return ((String.ofList text, v) :: read).reverse
      | _ => failure

end

/-- A scalar or a collection in brackets, as it stands in a line: its value, its text, and whether a
plain scalar went on over more lines. The value is indented deeper than `indent`. -/
def inlineNode (fuel : Nat) (indent : Int) (isText : Bool) :
    Reader (Json × List Char × Bool) := do
  match ← remaining with
  | [] => failure
  | (column, c) :: rest =>
    if c = '[' ∨ c = '\x7b' ∨ c = '"' ∨ c = '\'' ∨ c = '*' then
      let (v, text) ← flowNode fuel
      return (v, text, false)
    else if !startsPlain false c rest then failure
    else
      let (line, rest) := plainLine false false [] ((column, c) :: rest)
      let line := withoutTail line
      match rest with
      | (_, ':') :: _ =>
        goTo rest
        return (.string (String.ofList line), line, false)
      | _ =>
        let (text, more, rest) := plainMore false indent (rest.length + 1) false line rest
        goTo rest
        return (meaning isText text, text, more)

/-- Whether a key ends here: a colon, and then a gap. -/
def endsKey : List Placed → Bool
  | (_, ':') :: rest => atGap rest
  | _ => false

def withoutBlanks (cs : List Placed) : List Placed :=
  cs.dropWhile fun p => p.2 = ' ' || p.2 = '\t'

def pastColon : Reader Unit := do
  match withoutBlanks (← remaining) with
  | (_, ':') :: rest => if atGap rest then goTo rest else failure
  | _ => failure

mutual

/-- Reads a value that belongs to a parent in the column `indent`. Collections by indentation begin
on a line of their own, or here if `fresh`; after a key, the items of a list may also stand in the
column of the parent. -/
def blockNode : Nat → Int → Bool → Bool → Bool → Option String → Reader Json
  | 0, _, _, _, _, _ => failure
  | fuel + 1, indent, afterKey, fresh, isText, anchor => do
    let (cs, crossed) ← blockContent fresh
    let fresh := fresh || crossed
    match cs with
    | [] => nameAs anchor (if isText then .string "" else .blank)
    | (column, c) :: rest =>
      let isItem := c = '-' && atGap rest
      if atMarker cs || ((column : Int) < indent ∨
          (column : Int) = indent ∧ !(afterKey && crossed && isItem)) then
        nameAs anchor (if isText then .string "" else .blank)
      else if isItem then
        if fresh then nameAs anchor (.array (← blockItems fuel column [])) else failure
      else if c = '&' then
        goTo rest
        let name ← name
        blockNode fuel indent afterKey fresh isText (some name)
      else if c = '!' then
        let isText ← tag
        blockNode fuel indent afterKey fresh isText anchor
      else if c = '|' ∨ c = '>' then
        let (text, rest) ← blockScalar (c = '|') indent rest
        goTo rest
        nameAs anchor (.string (String.ofList text))
      else
        let (v, text, more) ← inlineNode fuel indent isText
        if endsKey (withoutBlanks (← remaining)) then
          if !fresh || more then failure
          pastColon
          let first ← blockNode fuel column true false false none
          nameAs anchor (.object (← blockMembers fuel column [(String.ofList text, first)]))
        else nameAs anchor v

/-- The items of a list in a column. -/
def blockItems : Nat → Nat → List Json → Reader (List Json)
  | 0, _, _ => failure
  | fuel + 1, column, read => do
    let (cs, _) ← blockContent false
    match cs with
    | (k, '-') :: rest =>
      if k ≠ column ∨ !atGap rest ∨ atMarker cs then
        if k > column then failure else return read.reverse
      goTo rest
      let v ← blockNode fuel column false true false none
      blockItems fuel column (v :: read)
    | (k, _) :: _ => if k > column then failure else return read.reverse
    | [] => return read.reverse

/-- The members of a mapping in a column, after those already read. -/
def blockMembers : Nat → Nat → List (String × Json) → Reader (List (String × Json))
  | 0, _, _ => failure
  | fuel + 1, column, read => do
    let (cs, _) ← blockContent false
    match cs with
    | [] => return read.reverse
    | (k, _) :: _ =>
      if atMarker cs || k < column then return read.reverse
      if k > column then failure
      let (_, text, more) ← inlineNode fuel column false
      if more then failure
      pastColon
      let v ← blockNode fuel column true false false none
      blockMembers fuel column ((String.ofList text, v) :: read)

end

/-- Whether a handle of tags is well formed: an exclamation mark, or a name between two. -/
def isTagHandle (cs : List Char) : Bool :=
  match cs with
  | ['!'] => true
  | '!' :: rest => rest.getLast? = some '!' && rest.dropLast.all isNameChar
  | _ => false

/-- The words of a line, up to a comment. -/
def directiveWords (line : List Char) : List (List Char) :=
  let words := (String.ofList line).split (fun c => c = ' ' || c = '\t')
  ((words.toList.map fun w => w.toString.toList).filter (!·.isEmpty)).takeWhile (·.head? ≠ some '#')

/-- Reads the lines before a document that begin with a percent sign: at most one with the version,
1.1 or 1.2, and any with handles of tags, each once. If there are any, three hyphens must follow.
`seen` holds the version line, if any, and the handles read so far. -/
def openDocument : Nat → List (List Char) → List Placed → Option (List Placed)
  | 0, _, _ => none
  | fuel + 1, seen, cs => do
    let (content, _) ← toContent true false false cs
    match content with
    | (0, '%') :: _ =>
      let line := content.takeWhile fun p => p.2 ≠ '\n'
      let rest := content.drop line.length
      match directiveWords (line.map Prod.snd) with
      | [['%', 'Y', 'A', 'M', 'L'], ['1', '.', minor]] =>
        if (minor = '1' || minor = '2') && !seen.contains [] then openDocument fuel ([] :: seen) rest
        else none
      | [['%', 'T', 'A', 'G'], handle, _] =>
        if isTagHandle handle && !seen.contains handle then openDocument fuel (handle :: seen) rest
        else none
      | _ => none
    | (0, '-') :: _ :: _ :: rest =>
      if atMarker content then some rest else if seen.isEmpty then some cs else none
    | _ => if seen.isEmpty then some cs else none

/-- Reads the only document of a text. -/
def document (fuel : Nat) : Reader Json := do
  goTo (← openDocument fuel [] (← remaining))
  let v ← blockNode fuel (-1) false true false none
  let (rest, _) ← blockContent false
  match rest with
  | [] => return v
  | (_, '.') :: rest =>
    goTo (rest.drop 2)
    match ← blockContent false with
    | ([], _) => return v
    | _ => failure
  | _ => failure

/-- Reads a text that holds one document. -/
def parse? (s : String) : Option Json := do
  let cs := match s.toList with | '\uFEFF' :: cs => cs | cs => cs
  if !cs.all isPrintable then none
  let source := placed 0 (unixLines cs)
  let (v, _) ← (document (4 * source.length + 4)).run ⟨source, []⟩
  some v

end Playback.Yaml
