import Playback.Proofs.Outcome
import Playback.Proofs.Selection.Tally
import Playback.Proofs.Selection.Top
import Playback.Selection.Matcher

/-! # Contenders -/

namespace Playback

open Rating

/-! ## Occurrences -/

namespace Session

theorem foldl_register_counting (calls : List Request) (t : Tally Signature) :
    calls.foldl register (counting t) =
      counting ((calls.map Request.signature).foldl Tally.add t) := by
  induction calls generalizing t with
  | nil => rfl
  | cons live calls ih => exact ih (t.add live.signature)

theorem occurrence_register_foldl (calls : List Request) (live : Request) :
    ((calls.foldl register fresh).register live).occurrence live =
      ((calls.map Request.signature).count live.signature : Nat) := by
  rw [fresh, foldl_register_counting]
  simp only [register, occurrence, Tally.count_add_self, Tally.count_foldl_add, Tally.count_empty]
  omega

end Session

/-! ## Ratings with positions -/

/-- A recording with its position among its equals and its rating for a live request. -/
structure Contender where
  recording : Recording
  position : Nat
  rating : Int

namespace Contender

/-- Whether a contender is rated at all and its position is the occurrence. -/
def InTurn (occurrence : Int) (c : Contender) : Prop :=
  0 < c.rating ∧ (c.position : Int) = occurrence

/-- A contender with the rating that it competes by. -/
def entry (s : Scale) (occurrence : Int) (c : Contender) : Rated Recording :=
  ⟨c.recording, Matcher.boosted s occurrence c.position c.rating⟩

/-- A contender with its rating as it is. -/
def unboosted (c : Contender) : Rated Recording :=
  ⟨c.recording, c.rating⟩

variable {s : Scale} {occurrence : Int} {c : Contender}

theorem entry_of_inTurn (h : c.InTurn occurrence) :
    c.entry s occurrence = ⟨c.recording, s.add c.rating s.increment⟩ :=
  congrArg (Rated.mk c.recording) (if_pos h)

theorem entry_of_not_inTurn (h : ¬c.InTurn occurrence) :
    c.entry s occurrence = ⟨c.recording, c.rating⟩ :=
  congrArg (Rated.mk c.recording) (if_neg h)

theorem rating_le_entry (h : c.rating ≤ s.add c.rating s.increment) :
    c.rating ≤ (c.entry s occurrence).rating := by
  by_cases turn : c.InTurn occurrence
  · rw [entry_of_inTurn turn]
    exact h
  · exact Int.le_of_eq (congrArg Rated.rating (entry_of_not_inTurn turn)).symm

end Contender

namespace Matcher

/-- The contenders among recordings, numbered after those in a tally. -/
def contendersFrom (seen : Tally Signature) (recordings : List Recording) (ratings : List Int) :
    List Contender :=
  List.zipWith (fun numbered rating => ⟨numbered.1, numbered.2, rating⟩)
    (recordings.zip (Position.numbersFrom seen (recordings.map fun r => r.request.signature)))
    ratings

/-- The contenders for a live request that has these ratings. -/
def contenders (m : Matcher) (ratings : List Int) : List Contender :=
  contendersFrom Tally.empty m.recordings ratings

theorem contendersFrom_cons (seen : Tally Signature) (r : Recording) (recordings : List Recording)
    (x : Int) (ratings : List Int) :
    contendersFrom seen (r :: recordings) (x :: ratings) =
      ⟨r, seen.count r.request.signature, x⟩ ::
        contendersFrom (seen.add r.request.signature) recordings ratings := rfl

theorem map_entry_contendersFrom (s : Scale) (occurrence : Int) (recordings : List Recording)
    (seen : Tally Signature) (ratings : List Int) :
    (contendersFrom seen recordings ratings).map (Contender.entry s occurrence) =
      List.zipWith Rated.mk recordings
        (List.zipWith (boosted s occurrence)
          (Position.numbersFrom seen (recordings.map fun r => r.request.signature)) ratings) := by
  induction recordings generalizing seen ratings with
  | nil => rfl
  | cons r recordings ih =>
      cases ratings with
      | nil => simp [contendersFrom]
      | cons x ratings =>
          rw [contendersFrom_cons, List.map_cons, ih]
          rfl

theorem map_unboosted_contendersFrom (recordings : List Recording) (seen : Tally Signature)
    (ratings : List Int) :
    (contendersFrom seen recordings ratings).map Contender.unboosted =
      List.zipWith Rated.mk recordings ratings := by
  induction recordings generalizing seen ratings with
  | nil => rfl
  | cons r recordings ih =>
      cases ratings with
      | nil => simp [contendersFrom]
      | cons x ratings =>
          rw [contendersFrom_cons, List.map_cons, ih]
          rfl

theorem map_recording_contendersFrom {recordings : List Recording} {ratings : List Int}
    {rated : Recording → Int → Prop} (h : List.Forall₂ rated recordings ratings)
    (seen : Tally Signature) :
    (contendersFrom seen recordings ratings).map Contender.recording = recordings := by
  induction h generalizing seen with
  | nil => rfl
  | cons _ _ ih => rw [contendersFrom_cons, List.map_cons, ih]

theorem mem_contendersFrom {recordings : List Recording} {ratings : List Int}
    {rated : Recording → Int → Prop} (h : List.Forall₂ rated recordings ratings)
    (seen : Tally Signature) {c : Contender} (hc : c ∈ contendersFrom seen recordings ratings) :
    c.recording ∈ recordings ∧ rated c.recording c.rating := by
  induction h generalizing seen with
  | nil => simp [contendersFrom] at hc
  | cons first _ ih =>
      rw [contendersFrom_cons, List.mem_cons] at hc
      rcases hc with rfl | hc
      · exact ⟨by simp, first⟩
      · obtain ⟨mem, found⟩ := ih _ hc
        exact ⟨List.mem_cons_of_mem _ mem, found⟩

theorem exists_mem_contendersFrom {recordings : List Recording} {ratings : List Int}
    {rated : Recording → Int → Prop} (h : List.Forall₂ rated recordings ratings)
    (seen : Tally Signature) {r : Recording} (hr : r ∈ recordings) :
    ∃ c ∈ contendersFrom seen recordings ratings, c.recording = r := by
  induction h generalizing seen with
  | nil => cases hr
  | cons first _ ih =>
      rw [contendersFrom_cons]
      rcases List.mem_cons.mp hr with rfl | hr
      · exact ⟨_, List.mem_cons_self, rfl⟩
      · obtain ⟨c, mem, same⟩ := ih (seen.add _) hr
        exact ⟨c, List.mem_cons_of_mem _ mem, same⟩

section

variable {m : Matcher} {live : Request} {ratings : List Int}

theorem recording_mem (rated : m.ratings live = .ok ratings) {c : Contender}
    (hc : c ∈ m.contenders ratings) : c.recording ∈ m.recordings :=
  (mem_contendersFrom (forall₂_of_mapM_eq_ok rated) Tally.empty hc).1

theorem rate_contender (rated : m.ratings live = .ok ratings) {c : Contender}
    (hc : c ∈ m.contenders ratings) :
    rate m.scale m.registry c.recording.request live = .ok c.rating :=
  (mem_contendersFrom (forall₂_of_mapM_eq_ok rated) Tally.empty hc).2

theorem exists_contender (rated : m.ratings live = .ok ratings) {r : Recording}
    (hr : r ∈ m.recordings) : ∃ c ∈ m.contenders ratings, c.recording = r :=
  exists_mem_contendersFrom (forall₂_of_mapM_eq_ok rated) Tally.empty hr

end

/-- A matcher that plays sequences back selects the first best of the contenders. -/
theorem select_eq_ok {m : Matcher} (aware : m.sequenceAware = true) {live : Request}
    {ratings : List Int} (rated : m.ratings live = .ok ratings) (session : Session) :
    m.select session live = .ok (Rated.top m.threshold
      ((m.contenders ratings).map (Contender.entry m.scale (session.occurrence live)))) := by
  rw [contenders, map_entry_contendersFrom]
  simp only [select, rated, competing, aware, if_true]
  rfl

end Matcher

end Playback
