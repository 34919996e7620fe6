import Playback.Json.Basic

/-!
# Writing JSON

The shortest form: no blanks between tokens, and escapes only where the grammar asks for them.
-/

namespace Playback.Json

/-- A character inside a string. -/
def escaped (c : Char) : List Char :=
  if c = '"' then ['\\', '"']
  else if c = '\\' then ['\\', '\\']
  else if c = '\n' then ['\\', 'n']
  else if c = '\r' then ['\\', 'r']
  else if c = '\t' then ['\\', 't']
  else if c < ' ' then
    ['\\', 'u', '0', '0', (c.toNat / 16).digitChar, (c.toNat % 16).digitChar]
  else [c]

def quote (s : String) : List Char :=
  '"' :: s.toList.flatMap escaped ++ ['"']

mutual

def chars : Json → List Char
  | null | blank => "null".toList
  | bool true => "true".toList
  | bool false => "false".toList
  | int n => (toString n).toList
  | real n e => (toString n ++ "e" ++ toString e).toList
  | string s => quote s
  | array items => '[' :: itemChars items ++ [']']
  | object members => '\x7b' :: memberChars members ++ ['\x7d']

/-- The items of a list between commas. -/
def itemChars : List Json → List Char
  | [] => []
  | [item] => chars item
  | item :: items => chars item ++ ',' :: itemChars items

/-- Named members between commas. -/
def memberChars : List (String × Json) → List Char
  | [] => []
  | [(name, item)] => quote name ++ ':' :: chars item
  | (name, item) :: members => quote name ++ ':' :: chars item ++ ',' :: memberChars members

end

def print (v : Json) : String :=
  String.ofList (chars v)

end Playback.Json
