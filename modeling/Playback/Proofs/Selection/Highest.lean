import Playback.Proofs.Selection.Candidates

/-! # The first of the highest rated -/

namespace Playback

open Rating

namespace Rated

variable {α : Type}

/-- The thing at a place of a list that no other of the list beats, and that none before it equals. -/
structure HighestAt (l : List (Rated α)) (i : Nat) (b : Rated α) : Prop where
  here : l[i]? = some b
  highest : ∀ c ∈ l, c.rating ≤ b.rating
  first : ∀ (j : Nat) (c : Rated α), l[j]? = some c → c.rating = b.rating → i ≤ j

variable {l : List (Rated α)} {b : Rated α}

theorem FirstBest.highestAt {front back : List (Rated α)} (h : FirstBest b l front back) :
    HighestAt l front.length b := by
  refine ⟨by simp [h.split], fun c hc => h.rating_le hc, fun j c hj same => ?_⟩
  by_contra earlier
  rw [h.split, List.getElem?_append_left (Nat.not_le.mp earlier)] at hj
  have := h.above c (List.mem_of_getElem? hj)
  omega

theorem HighestAt.firstBest {i : Nat} (h : HighestAt l i b) :
    FirstBest b l (l.take i) (l.drop (i + 1)) := by
  obtain ⟨hi, rfl⟩ := List.getElem?_eq_some_iff.mp h.here
  refine ⟨?_, fun c hc => ?_, fun c hc => h.highest c (List.mem_of_mem_drop hc)⟩
  · rw [← List.drop_eq_getElem_cons hi, List.take_append_drop]
  · obtain ⟨j, hj⟩ := List.mem_iff_getElem?.mp hc
    have earlier : j < i := by
      have := (List.getElem?_eq_some_iff.mp hj).1
      rw [List.length_take] at this
      omega
    rw [List.getElem?_take_of_lt earlier] at hj
    refine lt_of_le_of_ne (h.highest c (List.mem_of_getElem? hj)) fun same => ?_
    exact absurd (h.first j c hj same) (Nat.not_le.mpr earlier)

theorem top_eq_none_iff {threshold : Int} :
    top threshold l = none ↔ ∀ c ∈ l, c.rating ≤ threshold := by
  refine ⟨top_eq_none, fun low => ?_⟩
  rw [Option.eq_none_iff_forall_ne_some]
  intro b hb
  obtain ⟨c, hc, good⟩ := exists_top_iff.mp ⟨b, hb⟩
  exact absurd good (Int.not_lt.mpr (low c hc))

theorem top_eq_some_iff_highestAt {threshold : Int} :
    top threshold l = some b ↔ threshold < b.rating ∧ ∃ i, HighestAt l i b := by
  rw [top_eq_some_iff]
  refine and_congr_right fun _ => ⟨?_, ?_⟩
  · rintro ⟨front, back, h⟩
    exact ⟨front.length, h.highestAt⟩
  · rintro ⟨i, h⟩
    exact ⟨l.take i, l.drop (i + 1), h.firstBest⟩

theorem getElem?_zipWith_mk {ε : Type} {f : α → Except ε Int} {l : List α} {ratings : List Int}
    (h : l.mapM f = .ok ratings) {i : Nat} {c : Rated α} :
    (List.zipWith Rated.mk l ratings)[i]? = some c ↔
      l[i]? = some c.item ∧ f c.item = .ok c.rating := by
  have rated := forall₂_of_mapM_eq_ok h
  clear h
  induction rated generalizing i with
  | nil => simp
  | @cons a x _ _ first _ ih =>
      cases i with
      | zero =>
          simp only [List.zipWith_cons_cons, List.getElem?_cons_zero, Option.some.injEq]
          constructor
          · rintro rfl
            exact ⟨rfl, first⟩
          · rintro ⟨rfl, given⟩
            rw [Except.ok.inj (first.symm.trans given)]
      | succ i => simpa only [List.zipWith_cons_cons, List.getElem?_cons_succ] using ih

end Rated

namespace Matcher

/-- The recording at a place that is rated highest for a live request, with none before it rated as
high. -/
structure HighestAt (m : Matcher) (live : Request) (i : Nat) (r : Recording) (rating : Int) :
    Prop where
  here : m.recordings[i]? = some r
  rated : rate m.scale m.registry r.request live = .ok rating
  highest : ∀ other ∈ m.recordings, ∃ lower ≤ rating,
    rate m.scale m.registry other.request live = .ok lower
  first : ∀ (j : Nat) (other : Recording), m.recordings[j]? = some other →
    rate m.scale m.registry other.request live = .ok rating → i ≤ j

variable {m : Matcher} {live : Request}

theorem HighestAt.unique {i j : Nat} {r s : Recording} {x y : Int} (hr : m.HighestAt live i r x)
    (hs : m.HighestAt live j s y) : i = j ∧ r = s ∧ x = y := by
  have atMost {i j : Nat} {r s : Recording} {x y : Int} (hr : m.HighestAt live i r x)
      (hs : m.HighestAt live j s y) : x ≤ y := by
    obtain ⟨lower, le, given⟩ := hs.highest r (List.mem_of_getElem? hr.here)
    rwa [Except.ok.inj (hr.rated.symm.trans given)]
  obtain rfl : x = y := Int.le_antisymm (atMost hr hs) (atMost hs hr)
  obtain rfl : i = j :=
    Nat.le_antisymm (hr.first j s hs.here hs.rated) (hs.first i r hr.here hr.rated)
  exact ⟨rfl, Option.some.inj (hr.here.symm.trans hs.here), rfl⟩

section

variable {ratings : List Int} (rated : m.ratings live = .ok ratings)

include rated

theorem exists_mem_rated {r : Recording} (hr : r ∈ m.recordings) :
    ∃ x, rate m.scale m.registry r.request live = .ok x ∧
      (⟨r, x⟩ : Rated Recording) ∈ List.zipWith Rated.mk m.recordings ratings := by
  obtain ⟨c, hc, rfl⟩ := exists_contender rated hr
  have given := rate_contender rated hc
  obtain ⟨i, hi⟩ := List.mem_iff_getElem?.mp hr
  exact ⟨c.rating, given, List.mem_of_getElem? ((Rated.getElem?_zipWith_mk rated).mpr ⟨hi, given⟩)⟩

theorem highestAt_of_rated {i : Nat} {b : Rated Recording}
    (h : Rated.HighestAt (List.zipWith Rated.mk m.recordings ratings) i b) :
    m.HighestAt live i b.item b.rating := by
  obtain ⟨here, given⟩ := (Rated.getElem?_zipWith_mk rated).mp h.here
  refine ⟨here, given, fun other hother => ?_, fun j other hj same => ?_⟩
  · obtain ⟨x, hx, mem⟩ := exists_mem_rated rated hother
    exact ⟨x, h.highest _ mem, hx⟩
  · exact h.first j ⟨other, b.rating⟩ ((Rated.getElem?_zipWith_mk rated).mpr ⟨hj, same⟩) rfl

/-- Without regard to sequences, recordings compete by their ratings as they are. -/
theorem select_of_unaware (unaware : m.sequenceAware = false) (session : Session) :
    m.select session live =
      .ok (Rated.top m.threshold (List.zipWith Rated.mk m.recordings ratings)) := by
  simp only [select, rated, competing, unaware]
  rfl

end

theorem answer_of_select {session : Session} {chosen : Option (Rated Recording)}
    (h : m.select session live = .ok chosen) :
    m.answer session live = .ok (chosen.bind fun r => m.serve live r.item) := by
  rw [answer, h]
  rfl

theorem select_of_isGivenUp (h : ∃ r ∈ m.recordings, IsGivenUp m.registry r.request live)
    (session : Session) : m.select session live = .error .overlappingDelimiters := by
  obtain ⟨r, hr, givenUp⟩ := h
  have failed : m.ratings live = .error .overlappingDelimiters := by
    cases rated : m.ratings live with
    | ok ratings =>
        obtain ⟨x, given, -⟩ := exists_mem_rated rated hr
        rw [rate_of_isGivenUp givenUp] at given
        cases given
    | error fault =>
        -- Another recording may have failed before, but ratings fail in one way only.
        obtain ⟨s, -, hs⟩ := exists_error_of_mapM rated
        have givenUp : IsGivenUp m.registry s.request live := by
          by_contra given
          obtain ⟨x, hx⟩ := exists_rate_iff.mpr given
          rw [hs] at hx
          cases hx
        rw [rate_of_isGivenUp givenUp] at hs
        exact congrArg Except.error (Except.error.inj hs).symm
  rw [select, failed]
  rfl

/-- Of rated things none is chosen just if no rating is above the threshold, and else the one that stands
first among those of the highest rating. So, unless a rating is given up, the first recording that is
rated highest is selected for a live request and answers it, if that rating is above the threshold, and
if none is, no recording is. -/
theorem answer_first_of_highest (unaware : m.sequenceAware = false) (session : Session)
    (live : Request) :
    (∀ {α : Type} (threshold : Int) (rated : List (Rated α)),
      (Rated.top threshold rated = none ↔ ∀ c ∈ rated, c.rating ≤ threshold) ∧
        ∀ b, Rated.top threshold rated = some b ↔
          threshold < b.rating ∧ ∃ i, Rated.HighestAt rated i b) ∧
      ((∃ r ∈ m.recordings, IsGivenUp m.registry r.request live) →
        m.select session live = .error .overlappingDelimiters ∧
          m.answer session live = .error .overlappingDelimiters) ∧
      ((∀ r ∈ m.recordings, ¬IsGivenUp m.registry r.request live) →
        ((∀ r ∈ m.recordings, ∃ rating ≤ m.threshold,
            rate m.scale m.registry r.request live = .ok rating) ∧
          m.select session live = .ok none ∧ m.answer session live = .ok none) ∨
        ∃ i r rating, m.HighestAt live i r rating ∧ m.threshold < rating ∧
          m.select session live = .ok (some ⟨r, rating⟩) ∧
          m.answer session live = .ok (m.serve live r)) := by
  refine ⟨fun threshold rated => ⟨Rated.top_eq_none_iff, fun b => Rated.top_eq_some_iff_highestAt⟩,
    fun givenUp => ?_, fun given => ?_⟩
  · have failed := select_of_isGivenUp givenUp session
    exact ⟨failed, by rw [answer, failed]; rfl⟩
  · obtain ⟨ratings, rated⟩ := exists_ratings given
    have selected := select_of_unaware rated unaware session
    cases top : Rated.top m.threshold (List.zipWith Rated.mk m.recordings ratings) with
    | none =>
        rw [top] at selected
        left
        refine ⟨fun r hr => ?_, selected, answer_of_select selected⟩
        obtain ⟨x, hx, mem⟩ := exists_mem_rated rated hr
        exact ⟨x, Rated.top_eq_none_iff.mp top _ mem, hx⟩
    | some b =>
        rw [top] at selected
        right
        obtain ⟨good, i, highest⟩ := Rated.top_eq_some_iff_highestAt.mp top
        exact ⟨i, b.item, b.rating, highestAt_of_rated rated highest, good, selected,
          answer_of_select selected⟩

/-- Recordings of one value of a parameter and twice of another. -/
def ofThreeValues : Matcher :=
  let exchange (value text : String) : Exchange :=
    ⟨⟨"GET", "http://h/a?x=" ++ value, [], none⟩, ⟨200, [], ⟨none, text, none⟩⟩⟩
  ⟨Recording.ofExchanges Url.read [exchange "1" "a", exchange "2" "b", exchange "2" "c"],
    Scale.inWords 100, 0, false, CodingRegistry.standard, EncodingPolicy.asIs⟩

theorem exists_ofThreeValues : ∃ a b c, ofThreeValues.recordings = [a, b, c] ∧
    ofThreeValues.HighestAt otherValue 1 b 200 := by
  have rates : (ofThreeValues.recordings.map fun r =>
      rate ofThreeValues.scale ofThreeValues.registry r.request otherValue) =
        [.ok 100, .ok 200, .ok 200] := by
    decide +kernel
  obtain ⟨a, rest, split, ha, hrest⟩ := List.map_eq_cons_iff.mp rates
  obtain ⟨b, rest, rfl, hb, hrest⟩ := List.map_eq_cons_iff.mp hrest
  obtain ⟨c, rest, rfl, hc, hrest⟩ := List.map_eq_cons_iff.mp hrest
  obtain rfl := List.map_eq_nil_iff.mp hrest
  refine ⟨a, b, c, split, by rw [split]; rfl, hb, ?_, ?_⟩
  · rw [split]
    simp [ha, hb, hc]
  · intro j other hj same
    by_contra earlier
    obtain rfl : j = 0 := by omega
    rw [split] at hj
    obtain rfl : a = other := Option.some.inj hj
    cases ha.symm.trans same

/-- Of two recordings that agree with the live request, the one that stands first answers it. -/
theorem answer_first_of_highest_ofThreeValues :
    ofThreeValues.sequenceAware = false ∧ ∃ a b c, ofThreeValues.recordings = [a, b, c] ∧
      ofThreeValues.select Session.fresh otherValue = .ok (some ⟨b, 200⟩) ∧
      ofThreeValues.answer Session.fresh otherValue = .ok (ofThreeValues.serve otherValue b) := by
  obtain ⟨a, b, c, split, second⟩ := exists_ofThreeValues
  have given : ∀ r ∈ ofThreeValues.recordings,
      ¬IsGivenUp ofThreeValues.registry r.request otherValue := by
    rintro r - ⟨-, carriesBody, -⟩
    cases carriesBody
  refine ⟨rfl, a, b, c, split, ?_⟩
  rcases (answer_first_of_highest (m := ofThreeValues) rfl Session.fresh otherValue).2.2 given with
    ⟨low, -⟩ | ⟨i, r, rating, highest, -, selected, answered⟩
  · obtain ⟨x, le, given⟩ := low b (by simp [split])
    obtain rfl : 200 = x := Except.ok.inj (second.rated.symm.trans given)
    exact absurd le (by decide)
  · obtain ⟨-, rfl, rfl⟩ := highest.unique second
    exact ⟨selected, answered⟩

end Matcher

end Playback
