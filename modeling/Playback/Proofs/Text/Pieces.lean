import Playback.Text.Basic

/-! # Pieces of texts -/

namespace Playback.Text

variable {sep : Char} {mark : String} {items : List String} {item s : String}

theorem pieces_join_eq_flatMap (same : mark.toList = [sep]) (some : items ≠ []) :
    pieces sep (join mark items) = items.flatMap (pieces sep) := by
  induction items with
  | nil => exact absurd rfl some
  | cons item items ih =>
      cases items with
      | nil => simp [join]
      | cons next items =>
          have divided : (join mark (item :: next :: items)).toList =
              item.toList ++ sep :: (join mark (next :: items)).toList := by
            simp [join, same]
          rw [pieces, divided, List.splitOn_append_cons_self, List.map_append,
            List.flatMap_cons, ← ih (List.cons_ne_nil _ _)]
          rfl

theorem pieces_eq_singleton (h : sep ∉ s.toList) : pieces sep s = [s] := by
  rw [pieces, List.splitOn_eq_singleton h]
  simp

theorem pieces_join (same : mark.toList = [sep]) (h : ∀ item ∈ items, sep ∉ item.toList)
    (some : items ≠ []) : pieces sep (join mark items) = items := by
  rw [pieces_join_eq_flatMap same some]
  clear some
  induction items with
  | nil => rfl
  | cons item items ih =>
      rw [List.forall_mem_cons] at h
      rw [List.flatMap_cons, pieces_eq_singleton h.1, ih h.2, List.singleton_append]

/-- A text that is written item by item, each behind a separator, is divided into the items. -/
theorem splitOn_append_flatMap {α : Type} {first : List Char} {items : List α} {f : α → List Char}
    (hfirst : sep ∉ first) (h : ∀ a ∈ items, sep ∉ f a) :
    (first ++ items.flatMap fun a => sep :: f a).splitOn sep = first :: items.map f := by
  induction items generalizing first with
  | nil => simp [List.splitOn_eq_singleton hfirst]
  | cons a items ih =>
      rw [List.forall_mem_cons] at h
      rw [List.flatMap_cons, List.cons_append, List.splitOn_append_cons_self_of_not_mem hfirst,
        ih h.1 h.2, List.map_cons]

theorem notMem_of_mem_splitOn {cs piece : List Char} (h : piece ∈ cs.splitOn sep) : sep ∉ piece := by
  induction cs generalizing piece with
  | nil =>
      rw [List.splitOn_nil, List.mem_singleton] at h
      simp [h]
  | cons c cs ih =>
      obtain ⟨first, others, divided⟩ := List.exists_cons_of_ne_nil (List.splitOn_ne_nil sep cs)
      rw [List.splitOn_cons_eq_if_modifyHead, divided] at h
      rw [divided] at ih
      split at h
      case isTrue =>
        rcases List.mem_cons.mp h with rfl | h
        · simp
        · exact ih h
      case isFalse other =>
        rcases List.mem_cons.mp h with rfl | h
        · have := ih (List.mem_cons_self)
          simp only [List.mem_cons, not_or]
          exact ⟨fun e => other (by simp [e]), this⟩
        · exact ih (List.mem_cons_of_mem _ h)

theorem notMem_of_mem_pieces (h : item ∈ pieces sep s) : sep ∉ item.toList := by
  obtain ⟨piece, hpiece, rfl⟩ := List.mem_map.mp h
  rw [String.toList_ofList]
  exact notMem_of_mem_splitOn hpiece

end Playback.Text
