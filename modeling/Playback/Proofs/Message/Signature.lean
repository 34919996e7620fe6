import Playback.Proofs.Message.Target
import Playback.Proofs.Selection.Tally
import Playback.Proofs.Url.Parsed
import Playback.Selection.Session

/-! # Signatures tell request lines apart -/

namespace Playback

variable {urls : UrlReader}

theorem Target.print_eq_iff (regular : urls.IsRegular) {m n : Method} {rawT rawU : String}
    {t u : Target} (ht : resolve urls m rawT = .ok t) (hu : resolve urls n rawU = .ok u) :
    t.print = u.print ↔
      t.scheme = u.scheme ∧ t.host = u.host ∧ t.port = u.port ∧ t.path = u.path ∧
        t.query = u.query := by
  constructor
  · intro same
    obtain rfl := (resolve_wellFormed regular ht).print_inj (resolve_wellFormed regular hu) same
    exact ⟨rfl, rfl, rfl, rfl, rfl⟩
  · intro agree
    exact congrArg print (by cases t; cases u; simpa using agree)

/-- The number of the last thing in a list is how often it stands before. -/
theorem Position.getLast?_numbers_concat {α : Type} [BEq α] [LawfulBEq α] (l : List α) (a : α) :
    (numbers (l ++ [a])).getLast? = some (l.count a) := by
  rw [List.getLast?_eq_getElem?, length_numbers, getElem?_numbers]
  simp

namespace Request

/-- Requests with one request line: the method and all parts of the target agree. -/
def SameLine (a b : Request) : Prop :=
  a.method = b.method ∧ a.target.scheme = b.target.scheme ∧ a.target.host = b.target.host ∧
    a.target.port = b.target.port ∧ a.target.path = b.target.path ∧ a.target.query = b.target.query

instance (a b : Request) : Decidable (a.SameLine b) :=
  inferInstanceAs (Decidable (_ ∧ _))

variable {a b : Request} {rawA rawB : String}

theorem signature_eq_iff (regular : urls.IsRegular)
    (ha : Target.resolve urls a.method rawA = .ok a.target)
    (hb : Target.resolve urls b.method rawB = .ok b.target) :
    a.signature = b.signature ↔ a.SameLine b := by
  rw [SameLine, ← Target.print_eq_iff regular ha hb, signature, signature, Signature.mk.injEq]

/-- Requests whose targets were read are told apart by their texts and by their signatures exactly as
their request lines are. So a request raises the count of another one in a session, and the position
of another one behind it, just if it has the same request line. -/
theorem signature_tells_lines_apart (regular : urls.IsRegular)
    (ha : Target.resolve urls a.method rawA = .ok a.target)
    (hb : Target.resolve urls b.method rawB = .ok b.target) :
    (a.target.print = b.target.print ↔
      a.target.scheme = b.target.scheme ∧ a.target.host = b.target.host ∧
        a.target.port = b.target.port ∧ a.target.path = b.target.path ∧
        a.target.query = b.target.query) ∧
      (a.signature = b.signature ↔ a.SameLine b) ∧
      (∀ tally, ((Session.counting tally).register a).occurrence b =
        (Session.counting tally).occurrence b + if a.SameLine b then 1 else 0) ∧
      ∀ before between : List Signature,
        (Position.numbers (before ++ a.signature :: between ++ [b.signature])).getLast? =
          (Position.numbers (before ++ between ++ [b.signature])).getLast?.map
            fun position => position + if a.SameLine b then 1 else 0 := by
  have same := signature_eq_iff regular ha hb
  have counted : (if a.signature == b.signature then 1 else 0) = if a.SameLine b then 1 else 0 := by
    simp only [beq_iff_eq, same]
  refine ⟨Target.print_eq_iff regular ha hb, same, ?_, ?_⟩
  · intro tally
    rw [Session.register, Session.occurrence, Session.occurrence, Tally.count_add, counted]
    by_cases line : a.SameLine b
    · simp only [if_pos line]
      omega
    · simp only [if_neg line]
      omega
  · intro before between
    rw [Position.getLast?_numbers_concat, Position.getLast?_numbers_concat, Option.map_some,
      List.count_append, List.count_cons, counted, List.count_append, Nat.add_assoc]

/-- A request without a query. -/
def withoutQuery : Request :=
  .plain .get ⟨some "http", "[::1]", none, "/a", none⟩

/-- A request with a query that is empty. -/
def withEmptyQuery : Request :=
  .plain .get ⟨some "http", "[::1]", none, "/a", some ""⟩

/-- No query is not the empty query. -/
theorem signature_tells_lines_apart_emptyQuery :
    Target.resolve Url.read .get "http://[::1]/a" = .ok withoutQuery.target ∧
      Target.resolve Url.read .get "HTTP://[0:0::1]:80/b/../a?#f" = .ok withEmptyQuery.target ∧
      withoutQuery.signature ≠ withEmptyQuery.signature ∧
      ∀ tally, ((Session.counting tally).register withoutQuery).occurrence withEmptyQuery =
        (Session.counting tally).occurrence withEmptyQuery := by
  have absent : Target.resolve Url.read .get "http://[::1]/a" = .ok withoutQuery.target := by
    decide +kernel
  have empty : Target.resolve Url.read .get "HTTP://[0:0::1]:80/b/../a?#f" =
      .ok withEmptyQuery.target := by
    decide +kernel
  have differ : ¬withoutQuery.SameLine withEmptyQuery := by
    decide
  obtain ⟨-, signatures, counts, -⟩ := signature_tells_lines_apart (a := withoutQuery)
    (b := withEmptyQuery) Url.read_isRegular absent empty
  refine ⟨absent, empty, fun same => differ (signatures.mp same), fun tally => ?_⟩
  rw [counts, if_neg differ, Int.add_zero]

end Request

end Playback
