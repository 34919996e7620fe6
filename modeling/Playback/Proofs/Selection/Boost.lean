import Mathlib.Order.Basic
import Playback.Proofs.Selection.Contender
import Playback.Url.Parser

/-! # Who is passed over -/

namespace Playback

open Rating

/-- Whether the recording that is selected for a live request is rated lower than another one. -/
def Matcher.PassesOver (m : Matcher) (session : Session) (live : Request) : Prop :=
  ∃ chosen rating other higher,
    m.select session live = .ok (some chosen) ∧
      rate m.scale m.registry chosen.item.request live = .ok rating ∧
      other ∈ m.recordings ∧ rate m.scale m.registry other.request live = .ok higher ∧
      rating < higher

/-- A contender `c` that its turn lifts over all contenders rated highest, of which `d` is one. -/
structure Lifted (increment threshold occurrence : Int) (front : List Contender) (c : Contender)
    (back : List Contender) (d : Contender) : Prop where
  inTurn : c.InTurn occurrence
  above : threshold < c.rating + increment
  mem : d ∈ front ++ c :: back
  highest : ∀ e ∈ front ++ c :: back, e.rating ≤ d.rating
  below : c.rating < d.rating
  reaches : d.rating ≤ c.rating + increment
  alone : ∀ e ∈ front ++ c :: back, e.rating = d.rating → ¬e.InTurn occurrence
  first : d.rating = c.rating + increment → ∀ e ∈ front, e.rating ≠ d.rating

namespace Contender

variable {s : Scale} {threshold occurrence : Int} {cs : List Contender}

theorem exists_highest (h : cs ≠ []) : ∃ d ∈ cs, ∀ e ∈ cs, e.rating ≤ d.rating := by
  obtain ⟨best, front, back, -, hbest⟩ := Rated.exists_firstBest
    (l := cs.map fun c => ⟨c, c.rating⟩) (by simpa using h)
  obtain ⟨d, hd, rfl⟩ := List.mem_map.mp hbest.mem
  exact ⟨d, hd, fun e he => hbest.rating_le (List.mem_map.mpr ⟨e, he, rfl⟩)⟩

/-- The first of the best entries is that of a contender, with the other entries around it. -/
theorem exists_of_firstBest_map {b : Rated Recording} {front back : List (Rated Recording)}
    (h : Rated.FirstBest b (cs.map (entry s occurrence)) front back) :
    ∃ before c after, cs = before ++ c :: after ∧ b = c.entry s occurrence ∧
      (∀ e ∈ before, (e.entry s occurrence).rating < b.rating) ∧
      ∀ e ∈ cs, (e.entry s occurrence).rating ≤ b.rating := by
  obtain ⟨before, rest, rfl, rfl, hrest⟩ := List.map_eq_append_iff.mp h.split
  obtain ⟨c, after, rfl, rfl, rfl⟩ := List.map_eq_cons_iff.mp hrest
  exact ⟨before, c, after, rfl, rfl, fun e he => h.above _ (List.mem_map.mpr ⟨e, he, rfl⟩),
    fun e he => h.rating_le (List.mem_map.mpr ⟨e, he, rfl⟩)⟩

/-- The increments of contenders stay in the range of ratings. -/
def InRange (s : Scale) (cs : List Contender) : Prop :=
  ∀ c ∈ cs, s.add c.rating s.increment = c.rating + s.increment

theorem InRange.rating_le_entry (range : InRange s cs) (increment_pos : 0 < s.increment)
    {c : Contender} (hc : c ∈ cs) : c.rating ≤ (c.entry s occurrence).rating := by
  apply Contender.rating_le_entry
  rw [range c hc]
  exact Int.le_of_lt (Int.lt_add_of_pos_right c.rating increment_pos)

theorem InRange.entry_of_inTurn (range : InRange s cs) {c : Contender} (hc : c ∈ cs)
    (turn : c.InTurn occurrence) :
    c.entry s occurrence = ⟨c.recording, c.rating + s.increment⟩ := by
  rw [Contender.entry_of_inTurn turn, range c hc]

/-- A selected contender that is rated lower than another was lifted by its turn. -/
theorem exists_lifted (range : InRange s cs) (increment_pos : 0 < s.increment)
    {b : Rated Recording} (h : Rated.top threshold (cs.map (entry s occurrence)) = some b) :
    ∃ before c after, cs = before ++ c :: after ∧ b = c.entry s occurrence ∧
      ((∀ e ∈ cs, e.rating ≤ c.rating) ∨
        ∃ d, Lifted s.increment threshold occurrence before c after d) := by
  obtain ⟨good, front, back, hbest⟩ := Rated.top_eq_some_iff.mp h
  obtain ⟨before, c, after, rfl, rfl, earlier, best⟩ := exists_of_firstBest_map hbest
  refine ⟨before, c, after, rfl, rfl, ?_⟩
  have nonempty : before ++ c :: after ≠ [] := by simp
  obtain ⟨d, hd, highest⟩ := exists_highest nonempty
  by_cases below : c.rating < d.rating
  · right
    -- The highest rated competes by its rating at least, so `c` owes its place to the increment.
    have reached := Int.le_trans (range.rating_le_entry increment_pos hd) (best d hd)
    have inTurn : c.InTurn occurrence := by
      by_contra notInTurn
      rw [entry_of_not_inTurn notInTurn] at reached
      exact absurd below (Int.not_lt.mpr reached)
    rw [range.entry_of_inTurn (by simp) inTurn] at good reached earlier best
    refine ⟨d, inTurn, good, hd, highest, below, reached, ?_, ?_⟩
    · intro e he same turn
      have := best e he
      rw [range.entry_of_inTurn he turn] at this
      dsimp only at this
      omega
    · intro level e he same
      have he' : e ∈ before ++ c :: after := List.mem_append_left _ he
      have := Int.lt_of_le_of_lt (range.rating_le_entry increment_pos he') (earlier e he)
      dsimp only at this
      omega
  · left
    intro e he
    exact Int.le_trans (highest e he) (Int.not_lt.mp below)

theorem exists_selected_of_lifted {before after : List Contender} {c d : Contender}
    (range : InRange s (before ++ c :: after))
    (lifted : Lifted s.increment threshold occurrence before c after d) :
    ∃ chosen ∈ before ++ c :: after, chosen.rating < d.rating ∧
      Rated.top threshold ((before ++ c :: after).map (entry s occurrence)) =
        some (chosen.entry s occurrence) := by
  have hc := range.entry_of_inTurn (by simp) lifted.inTurn
  cases h : Rated.top threshold ((before ++ c :: after).map (entry s occurrence)) with
  | none =>
      have := Rated.top_eq_none h _ (List.mem_map.mpr ⟨c, by simp, rfl⟩)
      rw [hc] at this
      exact absurd lifted.above (Int.not_lt.mpr this)
  | some b =>
      obtain ⟨-, front, back, hbest⟩ := Rated.top_eq_some_iff.mp h
      obtain ⟨front, chosen, back, split, rfl, earlier, best⟩ := exists_of_firstBest_map hbest
      have mem : chosen ∈ before ++ c :: after := by simp [split]
      refine ⟨chosen, mem, ?_, rfl⟩
      by_contra notBelow
      have equal : chosen.rating = d.rating :=
        Int.le_antisymm (lifted.highest chosen mem) (Int.not_lt.mp notBelow)
      -- One of the highest competes by its rating alone, so `c` draws level with it.
      have unlifted := entry_of_not_inTurn (s := s) (lifted.alone chosen mem equal)
      have level : d.rating = c.rating + s.increment := by
        have := best c (by simp)
        rw [hc, unlifted] at this
        exact Int.le_antisymm lifted.reaches (equal ▸ this)
      rcases List.append_eq_append_iff.mp split with ⟨as, rfl, tail⟩ | ⟨as, rfl, tail⟩
      · cases as with
        | nil =>
            obtain ⟨rfl, -⟩ := List.cons.inj tail
            exact absurd lifted.below (by omega)
        | cons a as =>
            obtain ⟨rfl, -⟩ := List.cons.inj tail
            have := earlier c (by simp)
            rw [hc, unlifted] at this
            dsimp only at this
            omega
      · cases as with
        | nil =>
            obtain ⟨rfl, -⟩ := List.cons.inj tail
            exact absurd lifted.below (by omega)
        | cons a as =>
            obtain ⟨rfl, -⟩ := List.cons.inj tail
            exact lifted.first level chosen (by simp) equal

end Contender

namespace Matcher

/-- The highest rated recordings are passed over exactly where a contender is lifted over them. -/
theorem passesOver_iff {m : Matcher} (aware : m.sequenceAware = true)
    (increment_pos : 0 < m.scale.increment) {live : Request} {ratings : List Int}
    (rated : m.ratings live = .ok ratings)
    (range : Contender.InRange m.scale (m.contenders ratings)) (session : Session) :
    m.PassesOver session live ↔ ∃ before c after d,
      m.contenders ratings = before ++ c :: after ∧
        Lifted m.scale.increment m.threshold (session.occurrence live) before c after d := by
  have selected := select_eq_ok aware rated session
  constructor
  · rintro ⟨chosen, rating, other, higher, hchosen, hrating, hother, hhigher, lower⟩
    rw [hchosen] at selected
    obtain ⟨before, c, after, split, rfl, highest | ⟨d, lifted⟩⟩ :=
      Contender.exists_lifted range increment_pos (Except.ok.inj selected).symm
    · obtain ⟨e, he, rfl⟩ := exists_contender rated hother
      have same : e.rating = higher := Except.ok.inj ((rate_contender rated he).symm.trans hhigher)
      have base : c.rating = rating :=
        Except.ok.inj ((rate_contender rated (by simp [split])).symm.trans hrating)
      have := highest e he
      omega
    · exact ⟨before, c, after, d, split, lifted⟩
  · rintro ⟨before, c, after, d, split, lifted⟩
    obtain ⟨chosen, mem, below, htop⟩ :=
      Contender.exists_selected_of_lifted (split ▸ range) lifted
    rw [← split] at mem htop
    have hd : d ∈ m.contenders ratings := split ▸ lifted.mem
    rw [htop] at selected
    exact ⟨_, _, _, _, selected, rate_contender rated mem, recording_mem rated hd,
      rate_contender rated hd, below⟩

/-- Two recordings of one address that were sent different bodies. -/
def ofTwoBodies : Matcher :=
  let exchange (text : String) : Exchange :=
    ⟨⟨"POST", "http://h/a", [], some ⟨none, text, none⟩⟩, ⟨200, [], ⟨none, text, none⟩⟩⟩
  ⟨Recording.ofExchanges Url.read [exchange "x", exchange "y"], Scale.inWords 100, 0, true,
    CodingRegistry.standard, EncodingPolicy.asIs⟩

/-- A request that sends the second body. -/
def secondBody : Request :=
  (Request.plain .post ⟨some "http", "h", none, "/a", none⟩).withBody (.stored (Bytes.ofText "y"))

theorem lifted_ofTwoBodies :
    ∃ before c after d,
      ofTwoBodies.contenders [200, 300] = before ++ c :: after ∧
        Lifted 100 0 0 before c after d := by
  have numbered : (ofTwoBodies.contenders [200, 300]).map
      (fun c => (c.position, c.rating)) = [(0, 200), (1, 300)] := by
    decide +kernel
  obtain ⟨c, rest, split, hc, hrest⟩ := List.map_eq_cons_iff.mp numbered
  obtain ⟨d, rest, rfl, hd, hrest⟩ := List.map_eq_cons_iff.mp hrest
  obtain rfl := List.map_eq_nil_iff.mp hrest
  obtain ⟨position_c, rating_c⟩ := Prod.mk.inj hc
  obtain ⟨position_d, rating_d⟩ := Prod.mk.inj hd
  refine ⟨[], c, [d], d, split, ⟨by omega, by omega⟩, ?_, ?_, ?_, ?_, ?_, ?_, ?_⟩
  · omega
  · simp
  · simp [rating_c, rating_d]
  · omega
  · omega
  · intro e he same turn
    have := turn.2
    simp only [List.nil_append, List.mem_cons, List.not_mem_nil, or_false] at he
    rcases he with rfl | rfl <;> omega
  · simp

theorem passesOver_iff_ofTwoBodies :
    ofTwoBodies.ratings secondBody = .ok [200, 300] ∧
      Contender.InRange ofTwoBodies.scale (ofTwoBodies.contenders [200, 300]) ∧
      ofTwoBodies.PassesOver (Session.fresh.register secondBody) secondBody := by
  have rated : ofTwoBodies.ratings secondBody = .ok [200, 300] := by
    decide +kernel
  have range : Contender.InRange ofTwoBodies.scale (ofTwoBodies.contenders [200, 300]) := by
    unfold Contender.InRange
    decide +kernel
  have occurrence : (Session.fresh.register secondBody).occurrence secondBody = 0 := by
    decide +kernel
  refine ⟨rated, range, (passesOver_iff rfl (by decide) rated range _).mpr ?_⟩
  rw [occurrence]
  exact lifted_ofTwoBodies

/-- The first request with the second body is answered by the recording of the first body. -/
theorem passesOver_ofTwoBodies :
    ofTwoBodies.PassesOver (Session.fresh.register secondBody) secondBody := by
  have found : ∃ r ∈ ofTwoBodies.recordings,
      rate (Scale.inWords 100) CodingRegistry.standard r.request secondBody = .ok 300 := by
    decide +kernel
  -- The rating of the recording that is selected, evaluated as a whole.
  have selected : (ofTwoBodies.select (Session.fresh.register secondBody)
      secondBody).toOption.join.map (fun chosen =>
        rate (Scale.inWords 100) CodingRegistry.standard chosen.item.request secondBody) =
      some (.ok 200) := by
    decide +kernel
  cases h : ofTwoBodies.select (Session.fresh.register secondBody) secondBody with
  | error fault =>
      rw [h] at selected
      cases selected
  | ok answer =>
      cases answer with
      | none =>
          rw [h] at selected
          cases selected
      | some chosen =>
          rw [h] at selected
          obtain ⟨other, mem, higher⟩ := found
          exact ⟨chosen, 200, other, 300, h, Option.some.inj selected, mem, higher, by decide⟩

end Matcher

end Playback
