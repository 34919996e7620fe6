import Playback.Json.Basic

/-!
# Records as data trees

A record is written as named members or as the list of its fields in order. Members of other names
mean nothing, but a field may not be given twice, and a list may not have more items than the record
has fields.
-/

namespace Playback.Json

/-- The members of a name, if there is at most one. -/
def memberOnce? (members : List (String × Json)) (name : String) : Option (Option Json) :=
  match members.filter fun m => m.1 == name with
  | [] => some none
  | [m] => some (some m.2)
  | _ => none

/-- The fields of a record in order, `none` for those that are missing. -/
def record? (names : List String) : Json → Option (List (Option Json))
  | object members => names.mapM (memberOnce? members)
  | array items =>
    if items.length ≤ names.length then
      some (items.map some ++ List.replicate (names.length - items.length) none)
    else none
  | blank => some (List.replicate names.length none)
  | _ => none

def string? : Json → Option String
  | string s => some s
  | _ => none

def bool? : Json → Option Bool
  | bool b => some b
  | _ => none

/-- A whole number of 16 bits without sign. -/
def uint16? : Json → Option UInt16
  | int n => if 0 ≤ n ∧ n < 2 ^ 16 then some (UInt16.ofNat n.toNat) else none
  | _ => none

/-- A whole number of 64 bits with sign. -/
def int64? : Json → Option Int64
  | int n => if -2 ^ 63 ≤ n ∧ n < 2 ^ 63 then some (Int64.ofInt n) else none
  | _ => none

/-- A list whose items can all be read. -/
def list? {α : Type} (read : Json → Option α) : Json → Option (List α)
  | array items => items.mapM read
  | blank => some []
  | _ => none

/-- A value that may be null. -/
def nullable? {α : Type} (read : Json → Option α) : Json → Option (Option α)
  | null | blank => some none
  | v => (read v).map some

/-- A field that may be missing or null. -/
def optional? {α : Type} (read : Json → Option α) : Option Json → Option (Option α)
  | none => some none
  | some v => nullable? read v

/-- A field that has a value of its own where it is missing. -/
def orElse? {α : Type} (missing : α) (read : Json → Option α) : Option Json → Option α
  | none => some missing
  | some v => read v

/-- A member that is written only if it has a value. -/
def memberOf {α : Type} (name : String) (write : α → Json) : Option α → List (String × Json)
  | none => []
  | some a => [(name, write a)]

end Playback.Json
