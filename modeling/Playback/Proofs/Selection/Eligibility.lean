import Playback.Proofs.Rating.Best
import Playback.Proofs.Selection.Boost

/-! # Who is eligible -/

namespace Playback

open Rating

namespace Matcher

variable {m : Matcher} {live : Request}

/-- The same recordings without regard to sequences. -/
def withoutSequences (m : Matcher) : Matcher :=
  { m with sequenceAware := false }

/-- Whether some recording is selected for a live request. -/
def Selects (m : Matcher) (session : Session) (live : Request) : Prop :=
  ∃ chosen, m.select session live = .ok (some chosen)

instance (m : Matcher) (session : Session) (live : Request) : Decidable (m.Selects session live) :=
  match h : m.select session live with
  | .ok (some chosen) => .isTrue ⟨chosen, h⟩
  | .ok none => .isFalse fun ⟨_, other⟩ => nomatch h.symm.trans other
  | .error _ => .isFalse fun ⟨_, other⟩ => nomatch h.symm.trans other

/-- Whether a contender is one of those for a live request. -/
def Contends (m : Matcher) (live : Request) (c : Contender) : Prop :=
  ∃ ratings, m.ratings live = .ok ratings ∧ c ∈ m.contenders ratings

/-- Whether a contender that its rating leaves at or below the threshold is lifted above it by its
turn. -/
structure LiftsAbove (m : Matcher) (occurrence : Int) (c : Contender) : Prop where
  inTurn : c.InTurn occurrence
  below : c.rating ≤ m.threshold
  above : m.threshold < c.rating + m.scale.increment

/-- Whether recordings are rated for a live request as they are without bounds, and one more
increment stays in the range of ratings as well. -/
structure StaysInRange (m : Matcher) (live : Request) : Prop where
  rated : ∀ r ∈ m.recordings, rate m.scale m.registry r.request live =
    rate (Scale.exact m.scale.increment) m.registry r.request live
  boosted : ∀ ratings, m.ratings live = .ok ratings →
    Contender.InRange m.scale (m.contenders ratings)

/-- A contender with the rating that it competes by for the given occurrence. -/
def competitor (m : Matcher) (occurrence : Int) (c : Contender) : Rated Recording :=
  if m.sequenceAware then c.entry m.scale occurrence else c.unboosted

theorem zipWith_competing (m : Matcher) (occurrence : Int) (ratings : List Int) :
    List.zipWith Rated.mk m.recordings (m.competing occurrence ratings) =
      (m.contenders ratings).map (m.competitor occurrence) := by
  unfold competing competitor
  cases m.sequenceAware with
  | true => exact (map_entry_contendersFrom _ _ _ _ _).symm
  | false => exact (map_unboosted_contendersFrom _ _ _).symm

theorem select_eq_ok_competitor {ratings : List Int} (rated : m.ratings live = .ok ratings)
    (session : Session) :
    m.select session live = .ok (Rated.top m.threshold
      ((m.contenders ratings).map (m.competitor (session.occurrence live)))) := by
  rw [← zipWith_competing]
  simp only [select, rated]
  rfl

theorem exists_contends_of_select {session : Session} {chosen : Rated Recording}
    (h : m.select session live = .ok (some chosen)) :
    ∃ c, m.Contends live c ∧ chosen = m.competitor (session.occurrence live) c ∧
      m.threshold < chosen.rating := by
  obtain ⟨ratings, rated, -⟩ := exists_ok_of_bind_eq_ok h
  rw [select_eq_ok_competitor rated] at h
  obtain ⟨good, front, back, best⟩ := Rated.top_eq_some_iff.mp (Except.ok.inj h)
  obtain ⟨c, hc, rfl⟩ := List.mem_map.mp best.mem
  exact ⟨c, ⟨ratings, rated, hc⟩, rfl, good⟩

/-- Some recording is selected exactly where a contender competes by more than the threshold. -/
theorem selects_iff_exists_contends {session : Session} :
    m.Selects session live ↔ ∃ c, m.Contends live c ∧
      m.threshold < (m.competitor (session.occurrence live) c).rating := by
  constructor
  · rintro ⟨chosen, hchosen⟩
    obtain ⟨c, hc, rfl, good⟩ := exists_contends_of_select hchosen
    exact ⟨c, hc, good⟩
  · rintro ⟨c, ⟨ratings, rated, hc⟩, good⟩
    obtain ⟨chosen, htop⟩ := Rated.exists_top_iff.mpr ⟨_, List.mem_map.mpr ⟨c, hc, rfl⟩, good⟩
    exact ⟨chosen, by rw [select_eq_ok_competitor rated, htop]⟩

theorem withoutSequences_selects_iff {session : Session} :
    m.withoutSequences.Selects session live ↔ ∃ c, m.Contends live c ∧ m.threshold < c.rating :=
  selects_iff_exists_contends

/-- A contender competes by more than the threshold by its rating alone or by its turn. -/
theorem lt_entry_iff (increment_pos : 0 < m.scale.increment) (range : m.StaysInRange live)
    {c : Contender} (hc : m.Contends live c) {occurrence : Int} :
    m.threshold < (c.entry m.scale occurrence).rating ↔
      m.threshold < c.rating ∨ m.LiftsAbove occurrence c := by
  obtain ⟨ratings, rated, hc⟩ := hc
  have range := range.boosted ratings rated
  constructor
  · intro good
    by_cases below : c.rating ≤ m.threshold
    · right
      by_cases turn : c.InTurn occurrence
      · rw [range.entry_of_inTurn hc turn] at good
        exact ⟨turn, below, good⟩
      · rw [Contender.entry_of_not_inTurn turn] at good
        exact absurd good (Int.not_lt.mpr below)
    · exact .inl (Int.not_le.mp below)
  · rintro (good | ⟨turn, -, above⟩)
    · exact Int.lt_of_lt_of_le good (range.rating_le_entry increment_pos hc)
    · rw [range.entry_of_inTurn hc turn]
      exact above

theorem rating_eq_zero_or_le (accepted : Scale.isIncrement m.scale.increment = true)
    (range : m.StaysInRange live) {c : Contender} (hc : m.Contends live c) :
    c.rating = 0 ∨ m.scale.increment ≤ c.rating := by
  obtain ⟨ratings, rated, hc⟩ := hc
  have hrate := rate_contender rated hc
  rw [range.rated _ (recording_mem rated hc)] at hrate
  exact rate_eq_zero_or_le accepted hrate

theorem not_liftsAbove (accepted : Scale.isIncrement m.scale.increment = true)
    (range : m.StaysInRange live) (low : m.threshold < m.scale.increment) {c : Contender}
    (hc : m.Contends live c) (occurrence : Int) : ¬m.LiftsAbove occurrence c := by
  rintro ⟨⟨positive, -⟩, below, -⟩
  have := rating_eq_zero_or_le accepted range hc
  omega

theorem exists_of_select (aware : m.sequenceAware = true) (increment_pos : 0 < m.scale.increment)
    (range : m.StaysInRange live) {session : Session} {chosen : Rated Recording}
    (h : m.select session live = .ok (some chosen)) :
    ∃ c, m.Contends live c ∧ chosen.item = c.recording ∧
      (m.threshold < c.rating ∨ m.LiftsAbove (session.occurrence live) c) := by
  obtain ⟨c, hc, rfl, good⟩ := exists_contends_of_select h
  rw [competitor, if_pos aware] at good ⊢
  exact ⟨c, hc, rfl, (lt_entry_iff increment_pos range hc).mp good⟩

theorem selects_iff_of_aware (aware : m.sequenceAware = true)
    (increment_pos : 0 < m.scale.increment) (range : m.StaysInRange live) (session : Session) :
    m.Selects session live ↔ m.withoutSequences.Selects session live ∨
      ∃ c, m.Contends live c ∧ m.LiftsAbove (session.occurrence live) c := by
  rw [withoutSequences_selects_iff, ← exists_or, selects_iff_exists_contends]
  apply exists_congr
  intro c
  rw [← and_or_left, competitor, if_pos aware]
  exact and_congr_right fun hc => lt_entry_iff increment_pos range hc

/-- Playing sequences back answers what is answered without, and else the requests for which the turn
of a candidate makes up for what it lacks. If the threshold is less than an increment, none lacks
anything. -/
theorem selects_iff (aware : m.sequenceAware = true)
    (accepted : Scale.isIncrement m.scale.increment = true) (threshold_nonneg : 0 ≤ m.threshold)
    (range : m.StaysInRange live) (session : Session) :
    (m.Selects session live ↔
      m.withoutSequences.Selects session live ∨
        ∃ c, m.Contends live c ∧ m.LiftsAbove (session.occurrence live) c) ∧
    (∀ chosen, m.select session live = .ok (some chosen) →
      ∃ c, m.Contends live c ∧ chosen.item = c.recording ∧ 0 < c.rating ∧
        (m.threshold < c.rating ∨ m.LiftsAbove (session.occurrence live) c)) ∧
    (m.threshold < m.scale.increment →
      (m.Selects session live ↔ m.withoutSequences.Selects session live) ∧
        ∀ chosen, m.select session live = .ok (some chosen) →
          ∃ c, m.Contends live c ∧ chosen.item = c.recording ∧ m.threshold < c.rating) := by
  have increment_pos := Scale.increment_pos accepted
  have both := selects_iff_of_aware aware increment_pos range session
  refine ⟨both, fun chosen hchosen => ?_, fun low => ⟨?_, fun chosen hchosen => ?_⟩⟩
  · obtain ⟨c, hc, same, good⟩ := exists_of_select aware increment_pos range hchosen
    refine ⟨c, hc, same, ?_, good⟩
    rcases good with good | lifted
    · exact Int.lt_of_le_of_lt threshold_nonneg good
    · exact lifted.inTurn.1
  · rw [both, or_iff_left]
    rintro ⟨c, hc, lifted⟩
    exact not_liftsAbove accepted range low hc _ lifted
  · obtain ⟨c, hc, same, good⟩ := exists_of_select aware increment_pos range hchosen
    exact ⟨c, hc, same, good.resolve_right (not_liftsAbove accepted range low hc _)⟩

/-- A recording of an address with a parameter. -/
def ofOneParameter (threshold : Int) : Matcher :=
  ⟨Recording.ofExchanges Url.read
      [⟨⟨"GET", "http://h/a?x=1", [], none⟩, ⟨200, [], ⟨none, "a", none⟩⟩⟩],
    Scale.inWords 100, threshold, true, CodingRegistry.standard, EncodingPolicy.asIs⟩

/-- A request with another value of the parameter. -/
def otherValue : Request :=
  .plain .get ⟨some "http", "h", none, "/a", some "x=2"⟩

theorem ratings_ofOneParameter (threshold : Int) :
    (ofOneParameter threshold).ratings otherValue = .ok [100] := by
  have : (ofOneParameter 0).ratings otherValue = .ok [100] := by
    decide +kernel
  exact this

theorem staysInRange_ofOneParameter (threshold : Int) :
    (ofOneParameter threshold).StaysInRange otherValue := by
  constructor
  · have : ∀ r ∈ (ofOneParameter 0).recordings,
        rate (Scale.inWords 100) CodingRegistry.standard r.request otherValue =
          rate (Scale.exact 100) CodingRegistry.standard r.request otherValue := by
      decide +kernel
    exact this
  · intro ratings rated
    obtain rfl := Except.ok.inj ((ratings_ofOneParameter threshold).symm.trans rated)
    have : ∀ c ∈ (ofOneParameter 0).contenders [100],
        (Scale.inWords 100).add c.rating 100 = c.rating + 100 := by
      decide +kernel
    exact this

/-- The first request with the other value is answered at a threshold of 150 because its turn makes up
for what it lacks, and at a threshold of 50 as it is without sequences. -/
theorem selects_iff_ofOneParameter :
    (∃ c, (ofOneParameter 150).Contends otherValue c ∧ (ofOneParameter 150).LiftsAbove
        ((Session.fresh.register otherValue).occurrence otherValue) c) ∧
      (ofOneParameter 50).withoutSequences.Selects (Session.fresh.register otherValue)
        otherValue := by
  constructor
  · have answered : (ofOneParameter 150).Selects (Session.fresh.register otherValue) otherValue := by
      decide +kernel
    have notWithout : ¬(ofOneParameter 150).withoutSequences.Selects
        (Session.fresh.register otherValue) otherValue := by
      decide +kernel
    exact ((selects_iff rfl (by decide) (by decide) (staysInRange_ofOneParameter 150) _).1.mp
      answered).resolve_left notWithout
  · have answered : (ofOneParameter 50).Selects (Session.fresh.register otherValue) otherValue := by
      decide +kernel
    exact ((selects_iff rfl (by decide) (by decide) (staysInRange_ofOneParameter 50) _).2.2
      (by decide)).1.mp answered

/-- A recording rated 100 is selected above a threshold of 150, which without sequences it is not. -/
theorem selects_ofOneParameter :
    (ofOneParameter 150).ratings otherValue = .ok [100] ∧
      (ofOneParameter 150).Selects (Session.fresh.register otherValue) otherValue ∧
      ¬(ofOneParameter 150).withoutSequences.Selects (Session.fresh.register otherValue)
        otherValue := by
  decide +kernel

end Matcher

end Playback
