import Mathlib.Data.List.Perm.Basic
import Playback.Message.Target
import Playback.Proofs.Bytes.Lenient
import Playback.Proofs.Message.Multimap

/-! # Segments of queries -/

namespace Playback

namespace Query

/-- The segments of a query between its ampersands. -/
def segments (s : String) : List (List Char) :=
  s.toList.splitOn '&'

theorem segments_ne_nil (s : String) : segments s ≠ [] :=
  List.splitOn_ne_nil _ _

theorem entries_parse_perm {s s' : String} (same : (segments s).Perm (segments s')) :
    (parse s).entries.Perm (parse s').entries :=
  ((((same.filter _).map _).filter _).map _)

end Query

namespace Target

/-- The segments of the query of a target, if it has one. -/
def segments (t : Target) : List (List Char) :=
  (t.query.map Query.segments).getD []

theorem entries_parameters_perm {t t' : Target} (same : t.segments.Perm t'.segments) :
    t.parameters.entries.Perm t'.parameters.entries := by
  unfold segments at same
  unfold parameters
  cases h : t.query with
  | none =>
      cases h' : t'.query with
      | none => exact List.Perm.refl _
      | some q' =>
          rw [h, h'] at same
          exact absurd same.symm.eq_nil (Query.segments_ne_nil q')
  | some q =>
      cases h' : t'.query with
      | none =>
          rw [h, h'] at same
          exact absurd same.eq_nil (Query.segments_ne_nil q)
      | some q' =>
          rw [h, h'] at same
          exact Query.entries_parse_perm same

end Target

namespace Bytes

/-- The fields of a form between its ampersands. -/
def fields (b : Bytes) : List Bytes :=
  b.splitOn 0x26

theorem segments_toTextReplacing (b : Bytes) :
    Query.segments (toTextReplacing b) =
      b.fields.flatMap fun field => Query.segments (toTextReplacing field) := by
  simp only [Query.segments, toList_toTextReplacing]
  exact splitOn_replacing (x := 0x26) (by decide) b

theorem isEmpty_iff_fields {b : Bytes} : b.isEmpty = true ↔ b.fields = [[]] := by
  rw [List.isEmpty_iff]
  constructor
  · rintro rfl
    exact List.splitOn_nil _
  · intro h
    have whole : [0x26].intercalate b.fields = b := List.intercalate_splitOn 0x26
    rw [h] at whole
    exact whole.symm

variable {b b' : Bytes} (same : b.fields.Perm b'.fields)

include same

theorem isEmpty_of_fields_perm : b.isEmpty = b'.isEmpty := by
  rw [Bool.eq_iff_iff, isEmpty_iff_fields, isEmpty_iff_fields]
  constructor
  · intro h
    exact List.perm_singleton.mp (h ▸ same).symm
  · intro h
    exact List.perm_singleton.mp (h ▸ same)

theorem segments_perm_of_fields_perm :
    (Query.segments (toTextReplacing b)).Perm (Query.segments (toTextReplacing b')) := by
  rw [segments_toTextReplacing, segments_toTextReplacing]
  exact same.flatMap_right _

end Bytes

end Playback
