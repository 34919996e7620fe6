import Playback.Proofs.Rating.Best
import Playback.Proofs.Rating.Overlap
import Playback.Proofs.Selection.Eligibility

/-! # Candidates are eligible -/

namespace Playback

open Rating

/-- Whether a recorded request has the method, the host and the path of a live one. -/
def Request.SharesEndpoint (recorded live : Request) : Prop :=
  recorded.method = live.method ∧ recorded.target.host = live.target.host ∧
    recorded.target.path = live.target.path
deriving Decidable

theorem Rating.rating_eq_zero_iff {n : Int} (accepted : Scale.isIncrement n = true)
    {registry : CodingRegistry} {recorded live : Request} {rating : Int}
    (hrate : rate (Scale.exact n) registry recorded live = .ok rating) :
    rating = 0 ↔ ¬recorded.SharesEndpoint live := by
  have pos := Scale.increment_pos accepted
  rw [Request.SharesEndpoint, ← isCandidate_iff]
  constructor
  · intro zero candidate
    have := increment_le_rating accepted candidate hrate
    omega
  · intro differs
    rw [rate_of_not_isCandidate (by simpa using differs)] at hrate
    exact (Except.ok.inj hrate).symm

namespace Matcher

/-- The recordings that are eligible for a live request, in order, with the ratings that they compete
by. -/
def eligible (m : Matcher) (session : Session) (live : Request) :
    Except Multipart.Fault (List (Rated Recording)) := do
  let ratings ← m.ratings live
  let competing := m.competing (session.occurrence live) ratings
  pure ((List.zipWith Rated.mk m.recordings competing).filter fun r => m.threshold < r.rating)

theorem select_eq_eligible (m : Matcher) (session : Session) (live : Request) :
    m.select session live =
      (m.eligible session live).map fun rated => rated.foldl Rated.better none := by
  unfold select eligible
  cases m.ratings live <;> rfl

section

variable {m : Matcher} {live : Request}

theorem eligible_eq_ok_competitor {ratings : List Int} (rated : m.ratings live = .ok ratings)
    (session : Session) :
    m.eligible session live =
      .ok (((m.contenders ratings).map (m.competitor (session.occurrence live))).filter
        fun r => m.threshold < r.rating) := by
  rw [← zipWith_competing]
  simp only [eligible, rated]
  rfl

theorem item_competitor (occurrence : Int) (c : Contender) :
    (m.competitor occurrence c).item = c.recording := by
  unfold competitor
  split <;> rfl

variable {n : Int}

/-- A candidate competes by more than a threshold of less than an increment, whether or not it is in
turn, and nobody else does. -/
theorem lt_competitor_iff (accepted : Scale.isIncrement n = true) (scale : m.scale = Scale.exact n)
    (nonneg : 0 ≤ m.threshold) (low : m.threshold < n) {c : Contender}
    (hrate : rate m.scale m.registry c.recording.request live = .ok c.rating) (occurrence : Int) :
    m.threshold < (m.competitor occurrence c).rating ↔ c.recording.request.SharesEndpoint live := by
  have pos := Scale.increment_pos accepted
  rw [scale] at hrate
  by_cases shares : c.recording.request.SharesEndpoint live
  · have least := increment_le_rating accepted (isCandidate_iff.mpr shares) hrate
    have kept : c.rating ≤ (m.competitor occurrence c).rating := by
      unfold competitor
      split
      · apply Contender.rating_le_entry
        rw [scale, Scale.add_exact, Scale.increment_exact]
        omega
      · exact Int.le_refl _
    exact iff_of_true (by omega) shares
  · have zero := (rating_eq_zero_iff accepted hrate).mpr shares
    have notInTurn : ¬c.InTurn occurrence := fun turn => by
      have := turn.1
      omega
    have kept : (m.competitor occurrence c).rating = c.rating := by
      unfold competitor
      split
      · rw [Contender.entry_of_not_inTurn notInTurn]
      · rfl
    exact iff_of_false (by omega) shares

theorem exists_ratings (given : ∀ r ∈ m.recordings, ¬IsGivenUp m.registry r.request live) :
    ∃ ratings, m.ratings live = .ok ratings := by
  cases rated : m.ratings live with
  | ok ratings => exact ⟨ratings, rfl⟩
  | error fault =>
      obtain ⟨r, hr, failed⟩ := exists_error_of_mapM rated
      obtain ⟨rating, hrating⟩ := exists_rate_iff.mpr (given r hr)
      rw [hrating] at failed
      cases failed

theorem map_item_eligible (accepted : Scale.isIncrement n = true) (scale : m.scale = Scale.exact n)
    (nonneg : 0 ≤ m.threshold) (low : m.threshold < n) {session : Session}
    {rated : List (Rated Recording)} (h : m.eligible session live = .ok rated) :
    rated.map Rated.item = m.recordings.filter fun r => r.request.SharesEndpoint live := by
  obtain ⟨ratings, hratings, -⟩ := exists_ok_of_bind_eq_ok h
  rw [eligible_eq_ok_competitor hratings] at h
  obtain rfl := Except.ok.inj h
  have above : ∀ c ∈ m.contenders ratings,
      decide (m.threshold < (m.competitor (session.occurrence live) c).rating) =
        decide (c.recording.request.SharesEndpoint live) := by
    intro c hc
    rw [decide_eq_decide]
    exact lt_competitor_iff accepted scale nonneg low (rate_contender hratings hc) _
  have competing : (((m.contenders ratings).map (m.competitor (session.occurrence live))).filter
        fun r => m.threshold < r.rating) =
      ((m.contenders ratings).filter fun c => c.recording.request.SharesEndpoint live).map
        (m.competitor (session.occurrence live)) := by
    rw [List.filter_map]
    congr 1
    exact List.filter_congr above
  have items : Rated.item ∘ m.competitor (session.occurrence live) = Contender.recording :=
    funext fun c => item_competitor _ c
  have recordings : (m.contenders ratings).map Contender.recording = m.recordings :=
    map_recording_contendersFrom (forall₂_of_mapM_eq_ok hratings) _
  rw [competing, List.map_map, items, ← recordings, List.filter_map]
  rfl

end

/-- Unless a rating is given up, it is zero exactly if the method, the host or the path differ, and
else one increment at least. So at a threshold of less than an increment, zero for example, the eligible
are exactly the recordings of the live request's method, host and path, of whom the first best is
selected. -/
theorem eligible_iff_sharesEndpoint {n : Int} (accepted : Scale.isIncrement n = true) :
    (∀ (registry : CodingRegistry) (recorded live : Request),
      ¬IsGivenUp registry recorded live →
      ∃ rating, rate (Scale.exact n) registry recorded live = .ok rating ∧
        (rating = 0 ↔ ¬recorded.SharesEndpoint live) ∧
        (recorded.SharesEndpoint live → n ≤ rating)) ∧
    ∀ (m : Matcher) (session : Session) (live : Request),
      m.scale = Scale.exact n → 0 ≤ m.threshold → m.threshold < n →
      (∀ r ∈ m.recordings, ¬IsGivenUp m.registry r.request live) →
      ∃ rated, m.eligible session live = .ok rated ∧
        rated.map Rated.item = m.recordings.filter (fun r => r.request.SharesEndpoint live) ∧
        m.select session live = .ok (rated.foldl Rated.better none) := by
  constructor
  · intro registry recorded live given
    obtain ⟨rating, hrate⟩ := exists_rate_iff.mpr given
    refine ⟨rating, hrate, rating_eq_zero_iff accepted hrate, fun shares => ?_⟩
    exact increment_le_rating accepted (isCandidate_iff.mpr shares) hrate
  · intro m session live scale nonneg low given
    obtain ⟨ratings, rated⟩ := exists_ratings given
    have heligible := eligible_eq_ok_competitor rated session
    refine ⟨_, heligible, map_item_eligible accepted scale nonneg low heligible, ?_⟩
    rw [select_eq_eligible, heligible]
    rfl

/-- Recordings of one path and of another, with other parameters, ports and schemes. -/
def ofFourExchanges : Matcher :=
  let exchange (method url text : String) : Exchange :=
    ⟨⟨method, url, [⟨"Content-Type", "application/x-www-form-urlencoded"⟩],
        some ⟨none, text, none⟩⟩, ⟨200, [], ⟨none, "", none⟩⟩⟩
  ⟨Recording.ofExchanges Url.read
      [exchange "POST" "http://h/a?x=1" "u=1", exchange "POST" "http://h/b" "u=1",
      exchange "PUT" "http://h/a" "u=1", exchange "POST" "https://h:8443/a?x=2&y" "v=2"],
    Scale.exact 100, 0, true, CodingRegistry.standard, EncodingPolicy.asIs⟩

/-- A request whose body cannot be opened. -/
def unopenedRequest : Request :=
  (Request.plain .post ⟨some "http", "h", none, "/a", some "z=3&z=4"⟩).withBody
    (.deferred (.error "gone"))

/-- A request without a body, by another scheme and for another port. -/
def bareRequest : Request :=
  .plain .post ⟨some "https", "h", some 8443, "/a", none⟩

theorem eligible_iff_sharesEndpoint_unopened :
    (∃ rating, rate (Scale.exact 100) CodingRegistry.standard bareRequest unopenedRequest =
      .ok rating ∧ 100 ≤ rating) ∧
    ∃ rated, ofFourExchanges.eligible Session.fresh unopenedRequest = .ok rated ∧
      rated.map (fun r => r.item.request.target.print) =
        ["http://h/a?x=1", "https://h:8443/a?x=2&y"] := by
  have given (recorded : Request) :
      ¬IsGivenUp CodingRegistry.standard recorded unopenedRequest := by
    rintro ⟨-, -, bytes, bytes', -, held, -⟩
    cases held
  have shared : (ofFourExchanges.recordings.filter fun r =>
      r.request.SharesEndpoint unopenedRequest).map (fun r => r.request.target.print) =
        ["http://h/a?x=1", "https://h:8443/a?x=2&y"] := by
    decide +kernel
  obtain ⟨ratings, eligibles⟩ := eligible_iff_sharesEndpoint (n := 100) (by decide)
  obtain ⟨rating, hrate, -, least⟩ := ratings _ _ _ (given bareRequest)
  obtain ⟨rated, heligible, items, -⟩ := eligibles ofFourExchanges Session.fresh unopenedRequest rfl
    (by decide) (by decide) fun r _ => given r.request
  refine ⟨⟨rating, hrate, least (by decide)⟩, rated, heligible, ?_⟩
  rw [← shared, ← items, List.map_map]
  rfl

end Matcher

end Playback
