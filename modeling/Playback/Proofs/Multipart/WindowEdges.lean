import Playback.Proofs.Bytes.Scan
import Playback.Proofs.Multipart.Parts

/-! # Searches that start anew at windows -/

namespace Playback.Multipart

open Bytes

variable {needle b : Bytes} {place other p q : Nat}

/-- Whether two places lie in one window. -/
def SameWindow (p q : Nat) : Prop :=
  p / windowSize = q / windowSize

theorem sameWindow_add_iff : SameWindow (windowSize + p) (windowSize + q) ↔ SameWindow p q := by
  simp only [SameWindow, windowSize]
  omega

/-! ## What windows find -/

theorem occurrencesByWindow_of_ne_nil (nonempty : b ≠ []) : occurrencesByWindow needle place b =
    windowOccurrences needle place b ++
      occurrencesByWindow needle (place + windowSize) (b.drop windowSize) := by
  rw [occurrencesByWindow, dif_neg nonempty]

theorem occurrencesByWindow_add : occurrencesByWindow needle (place + other) b =
    (occurrencesByWindow needle other b).map (place + ·) := by
  induction other, b using occurrencesByWindow.induct with
  | case1 other => simp [occurrencesByWindow]
  | case2 other b nonempty ih =>
      have window : windowOccurrences needle (place + other) b =
          (windowOccurrences needle other b).map (place + ·) := by
        simp [windowOccurrences, Function.comp_def, Nat.add_assoc]
      have first : occurrencesByWindow needle other b = _ := occurrencesByWindow_of_ne_nil nonempty
      rw [occurrencesByWindow_of_ne_nil nonempty, first, window, Nat.add_assoc, ih, List.map_append]

theorem mem_windowOccurrences : p ∈ windowOccurrences needle 0 b ↔
    p ∈ occurrences needle (b.take (windowSize + needle.length)) ∧ p < windowSize := by
  simp [windowOccurrences]

theorem begins_window_iff (nonempty : needle ≠ []) (inside : p < windowSize) :
    needle <+: (b.take (windowSize + needle.length)).drop p ↔ needle <+: b.drop p := by
  rw [begins_take_iff nonempty, and_iff_left (by omega)]

section

variable {rest : List Nat} (later : IsScan SameWindow needle (b.drop windowSize) rest)

include later

theorem begins_of_mem_windows (nonempty : needle ≠ [])
    (hp : p ∈ windowOccurrences needle 0 b ++ rest.map (windowSize + ·)) : needle <+: b.drop p := by
  rcases List.mem_append.mp hp with hp | hp
  · obtain ⟨hp, inside⟩ := mem_windowOccurrences.mp hp
    exact (begins_window_iff nonempty inside).mp ((isScan_occurrences nonempty _).begins p hp)
  · obtain ⟨r, hr, rfl⟩ := List.mem_map.mp hp
    rw [← List.drop_drop]
    exact later.begins r hr

theorem apart_windows (nonempty : needle ≠ []) :
    (windowOccurrences needle 0 b ++ rest.map (windowSize + ·)).Pairwise
      fun p q => p < q ∧ (SameWindow p q → p + needle.length ≤ q) := by
  refine List.pairwise_append.mpr ⟨?_, ?_, fun p hp q hq => ?_⟩
  · have within : (occurrences needle (b.take (windowSize + needle.length))).Pairwise
        fun p q => p < q ∧ (SameWindow p q → p + needle.length ≤ q) :=
      (isScan_occurrences nonempty _).apart.imp fun h => ⟨h.1, fun _ => h.2 trivial⟩
    simpa [windowOccurrences] using within.filter (· < windowSize)
  · exact later.apart.map _ fun p q h => ⟨by omega, fun same => by
      have := h.2 (sameWindow_add_iff.mp same)
      omega⟩
  · obtain ⟨-, inside⟩ := mem_windowOccurrences.mp hp
    obtain ⟨r, -, rfl⟩ := List.mem_map.mp hq
    refine ⟨by omega, fun same => ?_⟩
    simp only [SameWindow, windowSize] at same inside
    omega

theorem reached_windows (nonempty : needle ≠ []) (hq : needle <+: b.drop q) :
    ∃ p ∈ windowOccurrences needle 0 b ++ rest.map (windowSize + ·),
      p ≤ q ∧ q < p + needle.length ∧ SameWindow p q := by
  by_cases inside : q < windowSize
  · obtain ⟨p, hp, low, high, -⟩ := (isScan_occurrences nonempty _).reached q
      ((begins_window_iff nonempty inside).mpr hq)
    have hp := mem_windowOccurrences.mpr ⟨hp, Nat.lt_of_le_of_lt low inside⟩
    refine ⟨p, List.mem_append_left _ hp, low, high, ?_⟩
    simp only [SameWindow, windowSize] at inside ⊢
    omega
  · obtain ⟨r, rfl⟩ := Nat.exists_eq_add_of_le (Nat.not_lt.mp inside)
    rw [← List.drop_drop] at hq
    obtain ⟨p, hp, low, high, same⟩ := later.reached r hq
    exact ⟨windowSize + p, List.mem_append_right _ (List.mem_map_of_mem hp), by omega, by omega,
      sameWindow_add_iff.mpr same⟩

end

/-- The windows together are a search that starts anew at each of them. -/
theorem isScan_occurrencesByWindow (nonempty : needle ≠ []) (b : Bytes) :
    IsScan SameWindow needle b (occurrencesByWindow needle 0 b) := by
  induction h : b.length using Nat.strong_induction_on generalizing b with
  | h n ih =>
  by_cases empty : b = []
  · subst empty
    rw [occurrencesByWindow, dif_pos rfl]
    exact ⟨by simp, List.Pairwise.nil, by simp [nonempty]⟩
  · have later := ih _ (by
      have := List.length_pos_iff.mpr empty
      rw [List.length_drop, windowSize]
      omega) (b.drop windowSize) rfl
    rw [occurrencesByWindow_of_ne_nil empty, Nat.add_comm, occurrencesByWindow_add]
    exact ⟨fun _ => begins_of_mem_windows later nonempty, apart_windows later nonempty,
      fun _ => reached_windows later nonempty⟩

/-! ## Where both searches find the same -/

variable (nonempty : needle ≠ [])

include nonempty

theorem delimiterPlaces_eq_iff_apart : delimiterPlaces needle b = occurrences needle b ↔
    (delimiterPlaces needle b).Pairwise fun p q => p + needle.length ≤ q := by
  have windows : IsScan SameWindow needle b (delimiterPlaces needle b) :=
    isScan_occurrencesByWindow nonempty b
  constructor
  · intro same
    rw [same]
    exact pairwise_occurrencesFrom nonempty
  · intro apart
    have whole : IsScan (fun _ _ => True) needle b (delimiterPlaces needle b) :=
      ⟨windows.begins, windows.apart.imp₂ (fun _ _ h far => ⟨h.1, fun _ => far⟩) apart,
        fun q hq => by
          obtain ⟨p, hp, low, high, -⟩ := windows.reached q hq
          exact ⟨p, hp, low, high, trivial⟩⟩
    exact whole.eq (isScan_occurrences nonempty b)

theorem delimiterPlaces_eq_iff_sameWindow : delimiterPlaces needle b = occurrences needle b ↔
    ∀ p ∈ occurrences needle b, ∀ q ∈ placesOf needle b, p < q → q < p + needle.length →
      SameWindow p q := by
  have windows : IsScan SameWindow needle b (delimiterPlaces needle b) :=
    isScan_occurrencesByWindow nonempty b
  have whole := isScan_occurrences nonempty b
  constructor
  · intro same p hp q hq before inside
    obtain ⟨r, hr, low, high, together⟩ := windows.reached q (mem_placesOf.mp hq).2
    rw [same] at hr
    rcases Nat.lt_trichotomy p r with order | rfl | order
    · have := whole.le_of_lt hp hr order trivial
      omega
    · exact together
    · have := whole.le_of_lt hr hp order trivial
      omega
  · intro together
    refine windows.eq ⟨whole.begins, whole.apart.imp fun h => ⟨h.1, fun _ => h.2 trivial⟩, ?_⟩
    intro q hq
    obtain ⟨p, hp, low, high, -⟩ := whole.reached q hq
    refine ⟨p, hp, low, high, ?_⟩
    rcases Nat.lt_or_eq_of_le low with before | rfl
    · exact together p hp q (mem_placesOf_of_begins nonempty hq) before high
    · rfl

/-- If the needle begins again within its occurrence, there is a text where the first occurrence
begins in one window and the next one with the next window. -/
theorem exists_delimiterPlaces_ne {start : Bytes} (moved : start ≠ [])
    (shorter : start.length < needle.length) (overlap : needle <+: start ++ needle) :
    ∃ b, delimiterPlaces needle b ≠ occurrences needle b := by
  have pos := List.length_pos_iff.mpr moved
  obtain ⟨other, differs⟩ : ∃ other, needle.head? ≠ some other := by
    rcases eq_or_ne needle.head? (some 0) with zero | differs
    · exact ⟨1, by rw [zero]; decide⟩
    · exact ⟨0, differs⟩
  let before := List.replicate (windowSize * start.length - start.length) other
  have length : before.length = windowSize * start.length - start.length := List.length_replicate
  refine ⟨before ++ (start ++ needle), fun same => ?_⟩
  have scan := isScan_occurrences nonempty (before ++ (start ++ needle))
  have first : needle <+: (before ++ (start ++ needle)).drop before.length := by
    rwa [List.drop_left]
  have next : needle <+: (before ++ (start ++ needle)).drop (before.length + start.length) := by
    rw [← List.append_assoc, ← List.length_append, List.drop_left]
  have noneBefore : NoneBegins needle before (start ++ needle) :=
    NoneBegins.of_head (fun x hx => List.eq_of_mem_replicate hx ▸ differs) nonempty
  obtain ⟨p, hp, low, -⟩ := scan.reached _ first
  have found : p = before.length := by
    by_contra earlier
    refine noneBefore p (by omega) ?_
    rw [← List.drop_append_of_le_length low]
    exact scan.begins p hp
  have together := (delimiterPlaces_eq_iff_sameWindow nonempty).mp same p hp _
    (mem_placesOf_of_begins nonempty next) (by omega) (by omega)
  simp only [SameWindow, windowSize] at together length
  omega

theorem delimiterPlaces_eq_iff_borderFree :
    (∀ b, delimiterPlaces needle b = occurrences needle b) ↔ BorderFree needle := by
  constructor
  · intro same
    by_contra overlaps
    obtain ⟨start, moved, shorter, overlap⟩ := exists_overlap_of_not_borderFree overlaps
    obtain ⟨b, differ⟩ := exists_delimiterPlaces_ne nonempty moved shorter overlap
    exact differ (same b)
  · intro h b
    refine (delimiterPlaces_eq_iff_sameWindow nonempty).mpr fun p hp q hq before inside => ?_
    have begins := (isScan_occurrences nonempty b).begins p hp
    have := h.le_of_lt (mem_placesOf_of_begins nonempty begins) hq before
    omega

/-- The search in windows finds what one search over the whole finds exactly where that search passes
over no place in a later window than the occurrence that covers it, which is where the places found
are a needle's length apart. That is so in every text exactly if the needle has no border. -/
theorem windows_agree_iff :
    (∀ b, (delimiterPlaces needle b = occurrences needle b ↔
        ∀ p ∈ occurrences needle b, ∀ q ∈ placesOf needle b, p < q → q < p + needle.length →
          SameWindow p q) ∧
      (delimiterPlaces needle b = occurrences needle b ↔
        (delimiterPlaces needle b).Pairwise fun p q => p + needle.length ≤ q)) ∧
    ((∀ b, delimiterPlaces needle b = occurrences needle b) ↔ BorderFree needle) :=
  ⟨fun _ => ⟨delimiterPlaces_eq_iff_sameWindow nonempty, delimiterPlaces_eq_iff_apart nonempty⟩,
    delimiterPlaces_eq_iff_borderFree nonempty⟩

omit nonempty

/-- Windows hide nothing of a delimiter that ends with a letter, and something of a row of hyphens. -/
theorem windows_agree_iff_hyphens :
    delimiter "x" ≠ [] ∧ (∀ b, delimiterPlaces (delimiter "x") b = occurrences (delimiter "x") b) ∧
      delimiter "-" ≠ [] ∧
        ∃ b, delimiterPlaces (delimiter "-") b ≠ occurrences (delimiter "-") b := by
  refine ⟨by decide, (windows_agree_iff (by decide)).2.mpr (by decide), by decide, ?_⟩
  by_contra same
  push Not at same
  exact absurd ((windows_agree_iff (by decide)).2.mp same) (by decide)

/-- A form whose last delimiter begins with the last byte of a window. -/
def lateForm : Bytes :=
  List.replicate (windowSize - 17) 112 ++ ofText "\r\n---\r\n\r\nhello\r\n-----\r\n"

/-- The last delimiter of a form is found twice, so the form is not read at all. -/
theorem delimiterPlaces_lateForm :
    occurrences (delimiter "-") lateForm = [4081, 4095] ∧
      delimiterPlaces (delimiter "-") lateForm = [4081, 4095, 4096] ∧
      (partsAt lateForm (delimiter "-").length (occurrences (delimiter "-") lateForm)).toOption.map
        (·.map Part.content) = some [ofText "hello"] ∧
      (decode (formType "-") lateForm).toOption.map (·.map Part.content) = none := by
  decide +kernel

end Playback.Multipart
