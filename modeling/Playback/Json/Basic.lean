/-!
# Data trees

The data that captures and settings are written in: null, truth values, numbers, texts, lists, and
named members in order.
-/

namespace Playback

/-- A data tree. Numbers that are not written as whole numbers keep their decimal form. `blank` is a
value that was left out where one could stand; JSON has none. -/
inductive Json where
  | null
  | blank
  | bool (value : Bool)
  | int (value : Int)
  | real (digits : Int) (exponent : Int)
  | string (value : String)
  | array (items : List Json)
  | object (members : List (String × Json))

namespace Json

/-- The first member of a name. -/
def member? (name : String) : Json → Option Json
  | object members => members.lookup name
  | _ => none

end Json

end Playback
