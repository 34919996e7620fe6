import Playback.Text.LowerCase.Idempotence

/-!
# Multimaps with caseless keys

Query parameters and request headers repeat names, in any letter case, and their order counts. Keys
are stored in lower case and looked up in lower case.
-/

namespace Playback

/-- Entries in the order they were added, under lower-case keys. -/
structure Multimap (α : Type) where
  entries : List (String × α)
  lowered : ∀ e ∈ entries, Text.lower e.1 = e.1
deriving DecidableEq, Repr

namespace Multimap

variable {α : Type}

def empty : Multimap α := ⟨[], by simp⟩

/-- Adds an entry after all others. -/
def insert (m : Multimap α) (key : String) (value : α) : Multimap α where
  entries := m.entries ++ [(Text.lower key, value)]
  lowered e he := by
    rcases List.mem_append.mp he with he | he
    · exact m.lowered e he
    · rw [List.mem_singleton.mp he]
      exact Text.lower_lower key

def ofList (pairs : List (String × α)) : Multimap α where
  entries := pairs.map fun (key, value) => (Text.lower key, value)
  lowered e he := by
    obtain ⟨p, -, rfl⟩ := List.mem_map.mp he
    exact Text.lower_lower p.1

/-- The entries with their lower-case keys, in order. -/
def toList (m : Multimap α) : List (String × α) := m.entries

def size (m : Multimap α) : Nat := m.entries.length

def isEmpty (m : Multimap α) : Bool := m.entries.isEmpty

/-- All values under a key, in order. -/
def getAll (m : Multimap α) (key : String) : List α :=
  let key := Text.lower key
  (m.entries.filter fun e => e.1 == key).map Prod.snd

/-- The first value under a key. -/
def first? (m : Multimap α) (key : String) : Option α :=
  (m.getAll key).head?

/-- Whether some entry has the key. -/
def contains (m : Multimap α) (key : String) : Bool :=
  (m.first? key).isSome

/-- The distinct keys, in the order of their first entries. -/
def keys (m : Multimap α) : List String :=
  (m.entries.map Prod.fst).eraseDups

@[simp] theorem toList_empty : (empty : Multimap α).toList = [] := rfl

@[simp] theorem toList_insert (m : Multimap α) (key : String) (value : α) :
    (m.insert key value).toList = m.toList ++ [(Text.lower key, value)] := rfl

/-- A list of entries is the multimap that inserts them one after the other. -/
theorem foldl_insert (pairs : List (String × α)) (m : Multimap α) :
    (pairs.foldl (fun m p => m.insert p.1 p.2) m).toList = m.toList ++ (ofList pairs).toList := by
  induction pairs generalizing m with
  | nil => simp [toList, ofList]
  | cons p ps ih =>
    rw [List.foldl_cons, ih, toList_insert]
    simp [toList, ofList]

end Multimap

end Playback
