import Playback.Bytes.Search

/-!
# Search in windows

A body is searched for a delimiter window by window. A window shows as many bytes past its end as the
delimiter is long, so that occurrences that begin in it are seen whole.
-/

namespace Playback.Multipart

/-- The distance from one window to the next. -/
def windowSize : Nat := 4096

/-- The occurrences that begin in the first window of `b`, which begins at `place`. -/
def windowOccurrences (needle : Bytes) (place : Nat) (b : Bytes) : List Nat :=
  ((Bytes.occurrences needle (b.take (windowSize + needle.length))).filter (· < windowSize)).map
    (place + ·)

/-- The occurrences of `needle` from `place` on, each window searched by itself. -/
def occurrencesByWindow (needle : Bytes) (place : Nat) (b : Bytes) : List Nat :=
  if _ : b = [] then []
  else
    windowOccurrences needle place b ++
      occurrencesByWindow needle (place + windowSize) (b.drop windowSize)
termination_by b.length
decreasing_by
  have := List.length_pos_iff.mpr ‹¬b = []›
  simp only [List.length_drop, windowSize]
  omega

/-- The places where the delimiter of a body begins. -/
def delimiterPlaces (delimiter body : Bytes) : List Nat :=
  occurrencesByWindow delimiter 0 body

end Playback.Multipart
