import Playback.Text.Basic

/-!
# Media types

`type/subtype; name=value` as content types declare it. Reading folds the case of the type and of
parameter names and takes quotes off values; printing quotes the values that need it.
-/

namespace Playback

/-- A media type with its parameters in order. -/
structure MediaType where
  kind : String
  subtype : String
  parameters : List (String × String)
deriving DecidableEq, Repr

namespace MediaType

/-- A media type without parameters. -/
def plain (kind subtype : String) : MediaType :=
  ⟨Text.lowerAscii kind, Text.lowerAscii subtype, []⟩

/-- The type of content about which nothing is known. -/
def octetStream : MediaType :=
  plain "application" "octet-stream"

/-- Reads a parameter; segments without an equals sign or a name hold none. -/
def parameter? (segment : List Char) : Option (String × String) :=
  match Text.cutAt '=' segment with
  | none => none
  | some (name, value) =>
    let name := Text.trimmed name
    if name.isEmpty then none
    else some (Text.lowerAscii (String.ofList name), String.ofList (Text.unquoted (Text.trimmed value)))

/-- Reads a media type, if the text starts with a type and a subtype. -/
def parse? (s : String) : Option MediaType :=
  match s.toList.splitOn ';' with
  | [] => none
  | essence :: segments =>
    match Text.cutAt '/' (Text.trimmed essence) with
    | none => none
    | some (kind, subtype) =>
      let kind := Text.trimmed kind
      let subtype := Text.trimmed subtype
      if kind.isEmpty || subtype.isEmpty then none
      else some
        { plain (String.ofList kind) (String.ofList subtype) with
          parameters := segments.filterMap parameter? }

/-- Reads a media type; what cannot be read is an octet stream. -/
def parseOrDefault (s : Option String) : MediaType :=
  (s.bind parse?).getD octetStream

/-- Sets a parameter, which then stands last. -/
def withParameter (m : MediaType) (name value : String) : MediaType :=
  let name := Text.lowerAscii name
  { m with parameters := (m.parameters.filter fun p => p.1 != name) ++ [(name, value)] }

/-- Text in UTF-8. -/
def plainText : MediaType :=
  (plain "text" "plain").withParameter "charset" "utf-8"

/-- Type and subtype, without parameters. -/
def essence (m : MediaType) : String :=
  m.kind ++ "/" ++ m.subtype

/-- The first parameter of a name. -/
def parameter (m : MediaType) (name : String) : Option String :=
  (m.parameters.find? fun p => Text.equalsIgnoringCase p.1 name).map Prod.snd

/-- The declared character set. -/
def charset (m : MediaType) : Option String :=
  m.parameter "charset"

/-- Whether this is the type of form-coded parameters. -/
def isFormUrlencoded (m : MediaType) : Bool :=
  m.essence == "application/x-www-form-urlencoded"

/-- Whether this is the type of forms sent in parts. -/
def isMultipartFormData (m : MediaType) : Bool :=
  m.essence == "multipart/form-data"

/-- Whether the content is text for human readers, whose bodies may be rewritten. -/
def isTextual (m : MediaType) : Bool :=
  if m.kind == "text" then true
  else if m.kind != "application" then false
  else
    ["json", "javascript", "ecmascript", "x-javascript", "xml", "xhtml+xml"].contains m.subtype ||
      "+json".toList.isSuffixOf m.subtype.toList || "+xml".toList.isSuffixOf m.subtype.toList

/-- The characters that a value may hold only between quotes, blanks apart. -/
def separators : List Char :=
  ['(', ')', '<', '>', '@', ',', ';', ':', '\\', '"', '/', '[', ']', '?', '=']

/-- Whether a parameter value is printed between quotes. -/
def needsQuotes (value : List Char) : Bool :=
  value.isEmpty || value.any fun c => Text.isBlank c || separators.contains c

/-- A parameter as it is printed after the essence. -/
def printParameter (p : String × String) : List Char :=
  let value := p.2.toList
  [';', ' '] ++ p.1.toList ++ ['='] ++ if needsQuotes value then '"' :: value ++ ['"'] else value

def print (m : MediaType) : String :=
  String.ofList (m.kind.toList ++ ['/'] ++ m.subtype.toList ++ m.parameters.flatMap printParameter)

end MediaType

end Playback
