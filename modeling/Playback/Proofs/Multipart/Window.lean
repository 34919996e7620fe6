import Playback.Multipart.Window
import Playback.Proofs.Bytes.Search

/-! # Searches in windows -/

namespace Playback.Multipart

open Bytes

variable {needle : Bytes}

theorem windowOccurrences_eq (h : BorderFree needle) (place : Nat) (b : Bytes) :
    windowOccurrences needle place b =
      startsIn needle place (b.take windowSize) (b.drop windowSize) := by
  have inside : (startsIn needle 0 (b.take windowSize) ((b.drop windowSize).take needle.length)).filter
      (· < windowSize) =
        startsIn needle 0 (b.take windowSize) ((b.drop windowSize).take needle.length) := by
    rw [List.filter_eq_self]
    intro p hp
    have := (bounds_of_mem_startsIn hp).2
    rw [List.length_take] at this
    simp only [decide_eq_true_eq]
    omega
  have beyond : (startsIn needle (0 + (b.take windowSize).length)
      ((b.drop windowSize).take needle.length) []).filter (· < windowSize) = [] := by
    rw [List.filter_eq_nil_iff]
    intro p hp
    obtain ⟨low, high⟩ := bounds_of_mem_startsIn hp
    simp only [List.length_take, List.length_drop] at low high
    simp only [decide_eq_true_eq]
    omega
  rw [windowOccurrences, h.occurrences_eq, List.take_add, startsIn_append, List.append_nil,
    List.filter_append, inside, beyond, List.append_nil, startsIn_take]
  exact startsIn_add.symm

/-- All windows together find all places. -/
theorem occurrencesByWindow_eq (h : BorderFree needle) (place : Nat) (b : Bytes) :
    occurrencesByWindow needle place b = startsIn needle place b [] := by
  induction place, b using occurrencesByWindow.induct with
  | case1 place =>
      rw [occurrencesByWindow]
      rfl
  | case2 place b nonempty ih =>
      rw [occurrencesByWindow, dif_neg nonempty, windowOccurrences_eq h, ih]
      have next : startsIn needle (place + windowSize) (b.drop windowSize) [] =
          startsIn needle (place + (b.take windowSize).length) (b.drop windowSize) [] := by
        rcases Nat.le_total windowSize b.length with long | short
        · rw [List.length_take_of_le long]
        · rw [List.drop_eq_nil_of_le short]
          rfl
      have whole : startsIn needle place (b.take windowSize ++ b.drop windowSize) [] =
          startsIn needle place (b.take windowSize) (b.drop windowSize ++ []) ++
            startsIn needle (place + (b.take windowSize).length) (b.drop windowSize) [] :=
        startsIn_append
      rw [List.take_append_drop, List.append_nil] at whole
      rw [next, whole]

end Playback.Multipart
