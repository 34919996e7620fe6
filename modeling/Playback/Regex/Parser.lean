import Playback.Regex.Node

/-!
# Reading patterns

The written form of patterns: literals and escapes, classes in brackets, groups, flags, alternation
and repetition. A pattern that cannot be read has no meaning at all.
-/

namespace Playback.Regex

open Text

/-- The flags in force: letter case does not matter, anchors also match at line breaks, a dot also
matches a line break, blanks and comments mean nothing, and greedy and lazy change places. -/
structure Flags where
  caseless : Bool
  multiline : Bool
  dotAll : Bool
  extended : Bool
  swapped : Bool
deriving DecidableEq, Repr

namespace Flags

def none : Flags := ⟨false, false, false, false, false⟩

/-- Sets or clears the flag of a letter. Patterns are always read as Unicode, which `u` asks for. -/
def set (f : Flags) (letter : Char) (on : Bool) : Option Flags :=
  match letter with
  | 'i' => some { f with caseless := on }
  | 'm' => some { f with multiline := on }
  | 's' => some { f with dotAll := on }
  | 'x' => some { f with extended := on }
  | 'U' => some { f with swapped := on }
  | 'u' => if on then some f else Option.none
  | _ => Option.none

/-- A set as it is under the flags. -/
def fold (f : Flags) (s : CharSet) : CharSet :=
  if f.caseless then .folded s else s

/-- Reads flag letters up to a colon or a closing parenthesis, which is left. No letter stands twice,
and a minus sign, of which there is at most one, has a letter after it. -/
def read (f : Flags) (used : List Char) : List Char → Option (Flags × List Char)
  | [] => Option.none
  | c :: cs =>
    if c = ':' ∨ c = ')' then
      if used.head? = some '-' then Option.none else some (f, c :: cs)
    else if used.contains c then Option.none
    else if c = '-' then read f (c :: used) cs
    else (f.set c (!used.contains '-')).bind fun f => read f (c :: used) cs

end Flags

/-- Drops a comment up to the end of its line, and blanks and comments that follow. -/
def skipIgnored (inComment : Bool) : List Char → List Char
  | [] => []
  | c :: cs =>
    if inComment then skipIgnored (c ≠ '\n') cs
    else if isBlank c then skipIgnored false cs
    else if c = '#' then skipIgnored true cs
    else c :: cs

/-- Drops what means nothing under the flags. -/
def skip (f : Flags) (cs : List Char) : List Char :=
  if f.extended then skipIgnored false cs else cs

/-- Whether a character can stand for itself after a backslash. -/
def isEscapable (c : Char) : Bool :=
  c.toNat < 128 && !c.isAlphanum && c != '<' && c != '>'

/-- The character of a code point. -/
def scalar? (n : Nat) : Option Char :=
  if n < 0xD800 ∨ (0xDFFF < n ∧ n ≤ 0x10FFFF) then some (Char.ofNat n) else none

def hexValue? (digits : List Char) : Option Nat :=
  digits.foldlM (fun n d => (hexDigit? d).map fun v => 16 * n + v) 0

/-- A character by its code point: in braces, or with a fixed number of digits. -/
def codePoint? (digits : Nat) : List Char → Option (Char × List Char)
  | '\x7b' :: cs => do
    let (inside, rest) ← cutAt '\x7d' cs
    if inside.isEmpty then none
    some (← scalar? (← hexValue? inside), rest)
  | cs => do
    if cs.length < digits then none
    some (← scalar? (← hexValue? (cs.take digits)), cs.drop digits)

/-- What an escape stands for. -/
inductive Escape where
  | literal (c : Char)
  | set (s : CharSet)
  | look (l : Look)

namespace Escape

/-- The word boundaries with names. -/
def boundary? (name : String) : Option Look :=
  [("start", Look.wordStart), ("end", .wordEnd), ("start-half", .wordStartHalf),
    ("end-half", .wordEndHalf)].lookup name

/-- Reads on after `\b`: braces that begin with a letter or a hyphen hold the name of a boundary. -/
def readBoundary (cs : List Char) : Option (Escape × List Char) :=
  match cs with
  | '\x7b' :: inside =>
    if inside.head?.any fun c => c.isAlpha || c == '-' then do
      let (name, rest) ← cutAt '\x7d' inside
      some (look (← boundary? (String.ofList name)), rest)
    else if inside.isEmpty then none
    else some (look .wordBoundary, cs)
  | _ => some (look .wordBoundary, cs)

/-- Escapes that stand for a control character. -/
def control? (c : Char) : Option Char :=
  [('a', '\x07'), ('f', '\x0C'), ('t', '\t'), ('n', '\n'), ('r', '\r'), ('v', '\x0B')].lookup c

/-- Escapes that stand for a set of characters. -/
def set? (c : Char) : Option CharSet :=
  [('d', CharSet.digit), ('D', .complement .digit), ('s', .blank), ('S', .complement .blank),
    ('w', .word), ('W', .complement .word)].lookup c

/-- Escapes that stand for a condition. -/
def look? (c : Char) : Option Look :=
  [('A', Look.textStart), ('z', .textEnd), ('B', .notWordBoundary), ('<', .wordStart),
    ('>', .wordEnd)].lookup c

/-- Reads what follows a backslash. -/
def read : List Char → Option (Escape × List Char)
  | [] => none
  | c :: cs =>
    if c = 'x' then (codePoint? 2 cs).map fun (c, rest) => (literal c, rest)
    else if c = 'u' then (codePoint? 4 cs).map fun (c, rest) => (literal c, rest)
    else if c = 'U' then (codePoint? 8 cs).map fun (c, rest) => (literal c, rest)
    else if c = 'b' then readBoundary cs
    else if isEscapable c then some (literal c, cs)
    else
      match control? c, set? c, look? c with
      | some d, _, _ => some (literal d, cs)
      | _, some s, _ => some (set s, cs)
      | _, _, some l => some (look l, cs)
      | _, _, _ => none

end Escape

/-- Reads an item of a class: a character or an escape. -/
def readItem : List Char → Option (Escape × List Char)
  | [] => none
  | '\\' :: cs => Escape.read cs
  | c :: cs => some (.literal c, cs)

/-- Reads an item or a range. A hyphen before the end of the class, or before another hyphen, makes no
range. -/
def readRange (f : Flags) (cs : List Char) : Option (CharSet × List Char) := do
  let (first, rest) ← readItem cs
  let alone : Option (CharSet × List Char) :=
    match first with
    | .literal c => some (CharSet.single c, skip f rest)
    | .set s => some (s, skip f rest)
    | .look _ => none
  match skip f rest with
  | [] => none
  | '-' :: rest =>
    match skip f rest with
    | [] => none
    | ']' :: _ | '-' :: _ => alone
    | rest =>
      match first, ← readItem rest with
      | .literal a, (.literal b, rest) =>
        if a ≤ b then some (.range a.toNat b.toNat, rest) else none
      | _, _ => none
  | _ => alone

/-- Reads the name of an ASCII class, after `[:`. -/
def asciiClass? (cs : List Char) : Option (CharSet × List Char) := do
  let (name, rest) ← cutAt ':' cs
  match rest with
  | ']' :: rest =>
    match name with
    | '^' :: name => some (.complement (← CharSet.named? (String.ofList name)), rest)
    | name => some (← CharSet.named? (String.ofList name), rest)
  | _ => none

/-- The left side of a set operation, waiting for its right side. -/
abbrev Pending := Option (SetOp × CharSet)

/-- Carries out a waiting operation. -/
def settle (f : Flags) (left : Pending) (right : CharSet) : CharSet :=
  match left with
  | some (op, left) => .combined op (f.fold left) (f.fold right)
  | none => right

/-- The set operation that a class goes on with. -/
def setOp? : List Char → Option (SetOp × List Char)
  | '&' :: '&' :: rest => some (.intersection, rest)
  | '-' :: '-' :: rest => some (.difference, rest)
  | '~' :: '~' :: rest => some (.symmetricDifference, rest)
  | _ => none

/-- The hyphens that a class begins with, and a closing bracket if no hyphen comes before it. -/
def readLeading (f : Flags) : List Char → CharSet × List Char
  | ']' :: rest => (.single ']', skip f rest)
  | cs =>
    let rest := (skip f cs)
    let hyphens := rest.takeWhile (· = '-')
    if hyphens.isEmpty then (.empty, rest)
    else (.single '-', skip f (rest.drop hyphens.length))

/-- Reads whether a class is negated, and the characters that mean themselves at its start. -/
def openClass (f : Flags) (cs : List Char) : Bool × CharSet × List Char :=
  match skip f cs with
  | '^' :: rest => (true, readLeading f (skip f rest))
  | rest => (false, readLeading f rest)

/-- A class as it is under the flags. -/
def closeClass (f : Flags) (negated : Bool) (s : CharSet) : CharSet :=
  if negated then .complement (f.fold s) else f.fold s

/-- Reads a class up to its closing bracket. -/
def readClass (f : Flags) : Nat → Pending → CharSet → List Char → Option (CharSet × List Char)
  | 0, _, _, _ => none
  | fuel + 1, left, read, cs =>
    match skip f cs with
    | [] => none
    | ']' :: rest => some (settle f left read, rest)
    | '[' :: rest =>
      let ascii :=
        match rest with
        | ':' :: name => asciiClass? name
        | _ => none
      match ascii with
      | some (s, rest) => readClass f fuel left (read.union s) rest
      | none => do
        let (negated, start, rest) := openClass f rest
        let (inner, rest) ← readClass f fuel none start rest
        readClass f fuel left (read.union (closeClass f negated inner)) rest
    | cs =>
      match setOp? cs with
      | some (op, rest) => readClass f fuel (some (op, settle f left read)) .empty rest
      | none => do
        let (s, rest) ← readRange f cs
        readClass f fuel left (read.union s) rest

/-- The bounds of a repetition. -/
structure Bounds where
  least : Nat
  most : Option Nat
deriving DecidableEq, Repr

namespace Bounds

/-- A pattern repeated within the bounds. -/
def apply (b : Bounds) (greedy : Bool) (e : Node) : Node :=
  match b.most with
  | none => .atLeast b.least greedy e
  | some most => .followedBy (Node.times b.least e) (.upTo (most - b.least) greedy e)

/-- Reads a number between blanks. -/
def number? (cs : List Char) : Option (Nat × List Char) :=
  let cs := cs.dropWhile isBlank
  let digits := cs.takeWhile Char.isDigit
  let n := digitsValue 0 digits
  if digits.isEmpty || n ≥ 2 ^ 32 then none
  else some (n, (cs.drop digits.length).dropWhile isBlank)

/-- Reads bounds after their opening brace. -/
def read (f : Flags) (cs : List Char) : Option (Bounds × List Char) := do
  let (least, rest) ← number? cs
  match rest with
  | '\x7d' :: rest => some (⟨least, some least⟩, rest)
  | ',' :: rest =>
    match skip f rest with
    | '\x7d' :: rest => some (⟨least, none⟩, rest)
    | rest =>
      let (most, rest) ← number? rest
      match rest with
      | '\x7d' :: rest => if least ≤ most then some (⟨least, some most⟩, rest) else none
      | _ => none
  | _ => none

end Bounds

/-- What a parenthesis opens. -/
inductive Opening where
  | flags (f : Flags)
  | group (name : Option String) (f : Flags)

namespace Opening

/-- Whether a character can stand in the name of a group. -/
def isNameChar (first : Bool) (c : Char) : Bool :=
  c == '_' || (if c.toNat < 128 then c.isAlpha else isWord c) ||
    (!first && (c == '.' || c == '[' || c == ']' || c.isDigit))

/-- Reads the name of a group up to its closing angle. -/
def name? (cs : List Char) : Option (String × List Char) := do
  let (name, rest) ← cutAt '>' cs
  match name with
  | [] => none
  | c :: more =>
    if isNameChar true c && more.all (isNameChar false) then some (String.ofList name, rest)
    else none

/-- Reads what stands after an opening parenthesis. Conditions on what comes before or after a place
are not part of the language. -/
def read (f : Flags) (cs : List Char) : Option (Opening × List Char) :=
  match skip f cs with
  | '?' :: '=' :: _ | '?' :: '!' :: _ | '?' :: '<' :: '=' :: _ | '?' :: '<' :: '!' :: _ => none
  | '?' :: 'P' :: '<' :: rest => (name? rest).map fun (n, rest) => (group (some n) f, rest)
  | '?' :: '<' :: rest => (name? rest).map fun (n, rest) => (group (some n) f, rest)
  | '?' :: rest =>
    match f.read [] rest with
    | some (g, ')' :: after) => if rest.head? = some ')' then none else some (flags g, after)
    | some (g, _ :: after) => some (group none g, after)
    | _ => none
  | rest => some (group none f, rest)

end Opening

/-- The repetition that a pattern goes on with: its bounds, whether it is greedy, and the rest. The
outer `none` means that there is one that cannot be read. -/
def repetition? (f : Flags) : List Char → Option (Option (Bounds × Bool × List Char))
  | [] => some none
  | c :: cs =>
    let lazyAfter (b : Bounds) (rest : List Char) : Option (Option (Bounds × Bool × List Char)) :=
      match rest with
      | '?' :: rest => some (some (b, f.swapped, rest))
      | rest => some (some (b, !f.swapped, rest))
    if c = '*' then lazyAfter ⟨0, none⟩ cs
    else if c = '+' then lazyAfter ⟨1, none⟩ cs
    else if c = '?' then lazyAfter ⟨0, some 1⟩ cs
    else if c = '\x7b' then
      match Bounds.read f cs with
      | some (b, rest) => lazyAfter b (skip f rest)
      | none => none
    else some none

/-- What a single character means outside of classes. -/
def Flags.meaning (f : Flags) (c : Char) : Node :=
  if c = '.' then .one (if f.dotAll then .any else .complement (.single '\n'))
  else if c = '^' then .look (if f.multiline then .lineStart else .textStart)
  else if c = '$' then .look (if f.multiline then .lineEnd else .textEnd)
  else .one (f.fold (.single c))

/-- What an escape means outside of classes. -/
def Flags.escaped (f : Flags) : Escape → Node
  | .literal c => .one (f.fold (.single c))
  | .set s => .one s
  | .look l => .look l

/-- The alternatives that were read, in reverse, as one pattern. Items without a pattern are flags. -/
def close (alternatives : List Node) (items : List (Option Node)) : Node :=
  Node.firstOf ((Node.sequence (items.reverse.filterMap id) :: alternatives).reverse)

/-- Reads a pattern up to the end or a closing parenthesis, which is left. `items` are those of the
present alternative and `alternatives` those before it, the last first. -/
def readNode (fuel : Nat) (f : Flags) (alternatives : List Node) (items : List (Option Node))
    (cs : List Char) : Option (Node × List Char) :=
  match fuel with
  | 0 => none
  | fuel + 1 => do
    let cs := skip f cs
    match ← repetition? f cs with
    | some (bounds, greedy, rest) =>
      match items with
      | some e :: items =>
        readNode fuel f alternatives (some (bounds.apply greedy e) :: items) rest
      | _ => none
    | none =>
      match cs with
      | [] => some (close alternatives items, [])
      | ')' :: _ => some (close alternatives items, cs)
      | '|' :: rest =>
        readNode fuel f (Node.sequence (items.reverse.filterMap id) :: alternatives) [] rest
      | '(' :: rest =>
        match ← Opening.read f rest with
        | (.flags g, rest) => readNode fuel g alternatives (none :: items) rest
        | (.group name g, rest) =>
          let (e, rest) ← readNode fuel g [] [] rest
          match rest with
          | ')' :: rest =>
            let e := match name with | some n => .named n e | none => e
            readNode fuel f alternatives (some e :: items) rest
          | _ => none
      | '[' :: rest =>
        let (negated, start, rest) := openClass f rest
        let (s, rest) ← readClass f (rest.length + 1) none start rest
        readNode fuel f alternatives (some (.one (closeClass f negated s)) :: items) rest
      | '\\' :: rest =>
        let (escape, rest) ← Escape.read rest
        readNode fuel f alternatives (some (f.escaped escape) :: items) rest
      | c :: rest => readNode fuel f alternatives (some (f.meaning c) :: items) rest

/-- The largest cost of a pattern that is accepted. -/
def maxCost : Nat := 300000

/-- Reads a pattern. No two groups have the same name, and repetitions do not multiply without
measure. -/
def Node.parse? (s : String) : Option Node := do
  let cs := s.toList
  match ← readNode (cs.length + 1) Flags.none [] [] cs with
  | (e, []) => if e.names.eraseDups.length = e.names.length ∧ e.cost ≤ maxCost then some e else none
  | _ => none

end Playback.Regex
