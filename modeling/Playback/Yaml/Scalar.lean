import Playback.Text.Basic

/-!
# Characters in their columns, and scalars

A document is read as characters with their columns, since indentation tells how its parts belong
together. Scalars come plain, between quotes, or as blocks of lines.
-/

namespace Playback.Yaml

open Text

/-- A character with its column. -/
abbrev Placed := Nat × Char

/-- The characters of a text in their columns. -/
def placed (column : Nat) : List Char → List Placed
  | [] => []
  | c :: cs => (column, c) :: placed (if c = '\n' then 0 else column + 1) cs

/-- A text with every line break written as a line feed. -/
def unixLines : List Char → List Char
  | [] => []
  | '\r' :: '\n' :: cs => '\n' :: unixLines cs
  | c :: cs => (if c = '\r' then '\n' else c) :: unixLines cs

/-- Whether a document may contain a character. -/
def isPrintable (c : Char) : Bool :=
  let n := c.toNat
  n == 9 || n == 10 || n == 13 || (0x20 ≤ n && n ≤ 0x7E) || n == 0x85 ||
    (0xA0 ≤ n && n != 0xFEFF && n != 0xFFFE && n != 0xFFFF)

/-- Whether a line ends or a blank stands here. -/
def atGap : List Placed → Bool
  | [] => true
  | (_, c) :: _ => c = ' ' || c = '\t' || c = '\n'

/-- Whether a character has a meaning of its own inside brackets. -/
def isFlowMark (c : Char) : Bool :=
  c = ',' || c = '[' || c = ']' || c = '\x7b' || c = '\x7d'

/-- Whether a line of three hyphens or dots begins here, which ends a document. -/
def atMarker : List Placed → Bool
  | (0, a) :: (_, b) :: (_, c) :: rest =>
    ((a = '-' && b = '-' && c = '-') || (a = '.' && b = '.' && c = '.')) && atGap rest
  | _ => false

/-- Goes on to the next content. Tabs must not stand where a line is indented. Also says whether a
line ended on the way. -/
def toContent (lineStart inComment crossed : Bool) : List Placed → Option (List Placed × Bool)
  | [] => some ([], crossed)
  | (column, c) :: cs =>
    if c = '\n' then toContent true false true cs
    else if inComment then toContent lineStart true crossed cs
    else if c = ' ' then toContent lineStart false crossed cs
    else if c = '\t' then if lineStart then none else toContent false false crossed cs
    else if c = '#' then toContent lineStart true crossed cs
    else some ((column, c) :: cs, crossed)

/-- Whether a plain scalar ends before these characters; `flow` says that it stands in brackets. -/
def endsPlain (flow afterBlank : Bool) (c : Char) (rest : List Placed) : Bool :=
  c = '\n' || (c = '#' && afterBlank) || (flow && isFlowMark c) ||
    (c = ':' && (atGap rest || (flow && rest.head?.any fun p => isFlowMark p.2)))

/-- The part of a plain scalar that stands on this line, in reverse and with blanks after it. -/
def plainLine (flow afterBlank : Bool) (read : List Char) :
    List Placed → List Char × List Placed
  | [] => (read, [])
  | (column, c) :: cs =>
    if endsPlain flow afterBlank c cs then (read, (column, c) :: cs)
    else plainLine flow (c = ' ' || c = '\t') (c :: read) cs

/-- The text of a part of a plain scalar. -/
def withoutTail (read : List Char) : List Char :=
  (read.dropWhile fun c => c = ' ' || c = '\t').reverse

/-- Counts the line breaks before the next content. -/
def lineBreaks (n : Nat) : List Placed → Nat × List Placed
  | [] => (n, [])
  | (column, c) :: cs =>
    if c = '\n' then lineBreaks (n + 1) cs
    else if c = ' ' || c = '\t' then lineBreaks n cs
    else (n, (column, c) :: cs)

/-- What folded line breaks become: one a space, more of them one less. -/
def folded (breaks : Nat) : List Char :=
  if breaks ≤ 1 then [' '] else List.replicate (breaks - 1) '\n'

/-- The lines that a plain scalar goes on with, which are indented deeper than `indent`. Also says
whether there were any. -/
def plainMore (flow : Bool) (indent : Int) :
    Nat → Bool → List Char → List Placed → List Char × Bool × List Placed
  | 0, more, text, cs => (text, more, cs)
  | fuel + 1, more, text, cs =>
    match lineBreaks 0 cs with
    | (_ + 1, (column, c) :: rest) =>
      let next := (column, c) :: rest
      if (!flow && (column : Int) ≤ indent) || c = '#' || atMarker next then (text, more, cs)
      else
        match plainLine flow true [] next with
        | ([], _) => (text, more, cs)
        | (line, rest) =>
          plainMore flow indent fuel true
            (text ++ folded (lineBreaks 0 cs).1 ++ withoutTail line) rest
    | _ => (text, more, cs)

/-- Whether a plain scalar can begin here. -/
def startsPlain (flow : Bool) (c : Char) (rest : List Placed) : Bool :=
  if c = '-' || c = '?' || c = ':' then
    !atGap rest && !(flow && rest.head?.any fun p => isFlowMark p.2)
  else !(isFlowMark c || ['#', '&', '*', '!', '|', '>', '\'', '"', '%', '@', '\x60'].contains c)

/-- A scalar between single quotes, of which two stand for one. -/
def singleQuoted : Nat → List Char → List Placed → Option (List Char × List Placed)
  | 0, _, _ => none
  | fuel + 1, read, cs =>
    match cs with
    | [] => none
    | (_, '\'') :: (_, '\'') :: rest => singleQuoted fuel ('\'' :: read) rest
    | (_, '\'') :: rest => some (read.reverse, rest)
    | (column, c) :: rest =>
      if atMarker cs then none
      else if c = '\n' then
        let (breaks, rest) := lineBreaks 0 ((column, c) :: rest)
        let read := read.dropWhile fun c => c = ' ' || c = '\t'
        singleQuoted fuel ((folded breaks).reverse ++ read) rest
      else singleQuoted fuel (c :: read) rest

/-- Escapes of one letter between double quotes. -/
def shortEscape? (c : Char) : Option Char :=
  [('0', '\x00'), ('a', '\x07'), ('b', '\x08'), ('t', '\t'), ('\t', '\t'), ('n', '\n'),
    ('v', '\x0B'), ('f', '\x0C'), ('r', '\r'), ('e', '\x1B'), (' ', ' '), ('"', '"'), ('/', '/'),
    ('\\', '\\'), ('N', '\u0085'), ('_', '\u00A0'), ('L', '\u2028'), ('P', '\u2029')].lookup c

/-- The number of digits that an escape by code point has. -/
def escapeDigits? (c : Char) : Option Nat :=
  [('x', 2), ('u', 4), ('U', 8)].lookup c

/-- The character of a code point in hexadecimal digits. -/
def codePoint? (digits : List Char) : Option Char := do
  let n ← digits.foldlM (fun n d => (hexDigit? d).map fun v => 16 * n + v) 0
  if n < 0xD800 ∨ (0xDFFF < n ∧ n ≤ 0x10FFFF) then some (Char.ofNat n) else none

/-- A scalar between double quotes. -/
def doubleQuoted : Nat → List Char → List Placed → Option (List Char × List Placed)
  | 0, _, _ => none
  | fuel + 1, read, cs =>
    match cs with
    | [] => none
    | (_, '"') :: rest => some (read.reverse, rest)
    | (_, '\\') :: (_, c) :: rest =>
      if c = '\n' then
        let (breaks, rest) := lineBreaks 0 rest
        doubleQuoted fuel (List.replicate breaks '\n' ++ read) rest
      else
        match escapeDigits? c with
        | some n => do
          if rest.length < n then none
          let d ← codePoint? ((rest.take n).map Prod.snd)
          doubleQuoted fuel (d :: read) (rest.drop n)
        | none => do doubleQuoted fuel ((← shortEscape? c) :: read) rest
    | (column, c) :: rest =>
      if atMarker cs then none
      else if c = '\n' then
        let (breaks, rest) := lineBreaks 0 ((column, c) :: rest)
        let read := read.dropWhile fun c => c = ' ' || c = '\t'
        doubleQuoted fuel ((folded breaks).reverse ++ read) rest
      else doubleQuoted fuel (c :: read) rest

/-- What becomes of the line breaks at the end of a block. -/
inductive Chomping where
  | strip
  | clip
  | keep
deriving DecidableEq, Repr

/-- How the end of a block is treated after a mark. -/
def chomping? (c : Char) : Option Chomping :=
  if c = '-' then some .strip else if c = '+' then some .keep else none

/-- The indentation that a digit gives. -/
def indentation? (c : Char) : Option Nat :=
  if '1' ≤ c ∧ c ≤ '9' then some (c.toNat - '0'.toNat) else none

/-- The marks after the sign of a block, in either order: how its end is treated, and its
indentation. -/
def blockMarks (cs : List Placed) : Chomping × Option Nat × List Placed :=
  match cs with
  | [] => (.clip, none, [])
  | (_, a) :: rest =>
    let b? := rest.head?.map Prod.snd
    match chomping? a, indentation? a with
    | some chomping, _ =>
      match b?.bind indentation? with
      | some n => (chomping, some n, rest.drop 1)
      | none => (chomping, none, rest)
    | none, some n =>
      match b?.bind chomping? with
      | some chomping => (chomping, some n, rest.drop 1)
      | none => (.clip, some n, rest)
    | none, none => (.clip, none, cs)

/-- The rest of a line without its end, and what follows it. -/
def restOfLine : List Placed → List Char × List Placed
  | [] => ([], [])
  | (_, c) :: cs =>
    if c = '\n' then ([], cs)
    else
      let (line, rest) := restOfLine cs
      (c :: line, rest)

def dropSpaces : Nat → List Placed → List Placed
  | n + 1, (_, ' ') :: cs => dropSpaces n cs
  | _, cs => cs

/-- The first column of content after empty lines. -/
def contentColumn : List Placed → Nat
  | [] => 0
  | (column, c) :: cs => if c = ' ' || c = '\n' then contentColumn cs else column

/-- The lines of a block: those that are empty or indented by at least `indent`. -/
def blockLines (indent : Nat) : Nat → List (List Char) → List Placed →
    List (List Char) × List Placed
  | 0, read, cs => (read.reverse, cs)
  | fuel + 1, read, cs =>
    match dropSpaces indent cs with
    | [] => (read.reverse, [])
    | (column, c) :: rest =>
      if c = '\n' then blockLines indent fuel ([] :: read) rest
      else if column < indent || atMarker cs then (read.reverse, cs)
      else
        let (line, rest) := restOfLine ((column, c) :: rest)
        blockLines indent fuel (line :: read) rest

/-- Whether a line of a folded block keeps its line breaks. -/
def isMoreIndented (line : List Char) : Bool :=
  line.head?.any fun c => c = ' ' || c = '\t'

/-- Joins the lines of a folded block; `empties` counts the empty lines before the next. -/
def foldLines : Option (List Char) → Nat → List (List Char) → List Char
  | _, _, [] => []
  | previous, empties, line :: lines =>
    if line.isEmpty then foldLines previous (empties + 1) lines
    else
      let join :=
        match previous with
        | none => List.replicate empties '\n'
        | some before =>
          if isMoreIndented before || isMoreIndented line then List.replicate (empties + 1) '\n'
          else if empties = 0 then [' '] else List.replicate empties '\n'
      join ++ line ++ foldLines (some line) 0 lines

/-- A block of lines, after its sign; it is indented deeper than `indent`. -/
def blockScalar (literal : Bool) (indent : Int) (cs : List Placed) :
    Option (List Char × List Placed) := do
  let (chomping, given, rest) := blockMarks cs
  let (header, body) := restOfLine rest
  let trailing := header.dropWhile fun c => c = ' ' || c = '\t'
  if !(trailing.isEmpty || (trailing.head? = some '#' && trailing.length < header.length)) then none
  let base := (max indent 0).toNat
  let column : Nat := match given with | some n => base + n | none => contentColumn body
  if !given.isSome && (column : Int) ≤ indent then
    some ([], body)
  else
    let (lines, rest) := blockLines column (body.length + 1) [] body
    let kept := (lines.reverse.dropWhile List.isEmpty).reverse
    let text :=
      if literal then (kept.intersperse ['\n']).flatten else foldLines none 0 kept
    let tail :=
      match chomping with
      | .strip => []
      | .clip => if kept.isEmpty then [] else ['\n']
      | .keep => List.replicate (lines.length - kept.length + if kept.isEmpty then 0 else 1) '\n'
    some (text ++ tail, rest)

end Playback.Yaml
