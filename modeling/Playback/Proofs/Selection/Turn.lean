import Playback.Proofs.Rating.Basic
import Playback.Proofs.Selection.Contender

/-! # Taking turns -/

namespace Playback

open Rating

namespace Matcher

/-- The recordings of the live request's method, host and path. -/
def candidates (m : Matcher) (live : Request) : List Recording :=
  m.recordings.filter fun r => isCandidate r.request live

/-- Candidates that only their order tells apart: there are some, all of one signature and one
rating, which is enough to be selected by. -/
structure Alike (m : Matcher) (live : Request) (signature : Signature) (rating : Int) : Prop where
  nonempty : m.candidates live ≠ []
  signature_eq : ∀ r ∈ m.candidates live, r.request.signature = signature
  rate_eq : ∀ r ∈ m.candidates live, rate m.scale m.registry r.request live = .ok rating
  above : m.threshold < rating

/-- The rating of each recording, when all candidates have the same. -/
def commonRating (live : Request) (rating : Int) (r : Recording) : Int :=
  if isCandidate r.request live then rating else 0

theorem Alike.ratings_eq {m : Matcher} {live : Request} {signature : Signature} {rating : Int}
    (h : m.Alike live signature rating) :
    m.ratings live = .ok (m.recordings.map (commonRating live rating)) := by
  apply mapM_eq_ok
  intro r hr
  cases candidate : isCandidate r.request live with
  | true =>
      rw [h.rate_eq r (List.mem_filter.mpr ⟨hr, candidate⟩)]
      simp [commonRating, candidate]
  | false =>
      rw [rate_of_not_isCandidate candidate]
      simp [commonRating, candidate]

/-! ## The contenders above the threshold -/

/-- A candidate as a contender. -/
def contender (rating : Int) (numbered : Recording × Nat) : Contender :=
  ⟨numbered.1, numbered.2, rating⟩

/-- Where exactly the candidates have a signature, those above the threshold are the candidates,
numbered from the count of that signature on. -/
theorem filter_contendersFrom {live : Request} {signature : Signature}
    {rating increment threshold occurrence : Int} {recordings : List Recording}
    (increment_pos : 0 < increment) (threshold_nonneg : 0 ≤ threshold) (above : threshold < rating)
    (same : ∀ r ∈ recordings, isCandidate r.request live = true ↔ r.request.signature = signature)
    (seen : Tally Signature) :
    (contendersFrom seen recordings (recordings.map (commonRating live rating))).filter
        (fun c => threshold < (c.entry (Scale.exact increment) occurrence).rating) =
      ((recordings.filter fun r => isCandidate r.request live).zipIdx (seen.count signature)).map
        (contender rating) := by
  induction recordings generalizing seen with
  | nil => rfl
  | cons r recordings ih =>
      have rest := ih fun r hr => same r (List.mem_cons_of_mem _ hr)
      rw [List.map_cons, contendersFrom_cons, List.filter_cons, List.filter_cons]
      cases candidate : isCandidate r.request live with
      | true =>
          have hsig : r.request.signature = signature := (same r (by simp)).mp candidate
          have hrating : commonRating live rating r = rating := by simp [commonRating, candidate]
          have passes : threshold < (Contender.entry (Scale.exact increment) occurrence
              ⟨r, seen.count signature, rating⟩).rating :=
            Int.lt_of_lt_of_le above (Contender.rating_le_entry
              (Int.le_of_lt (Int.lt_add_of_pos_right rating increment_pos)))
          rw [hsig, hrating, if_pos (by simpa using passes), if_pos rfl, rest,
            Tally.count_add_self, List.zipIdx_cons, List.map_cons]
          rfl
      | false =>
          have hsig : r.request.signature ≠ signature := by
            intro h
            simp [(same r (by simp)).mpr h] at candidate
          have hrating : commonRating live rating r = 0 := by simp [commonRating, candidate]
          have fails : ¬(Contender.InTurn occurrence ⟨r, seen.count r.request.signature, 0⟩) :=
            fun turn => absurd turn.1 (Int.lt_irrefl 0)
          rw [hrating, if_neg, if_neg (by simp), rest, Tally.count_add_of_ne _ hsig]
          rw [Contender.entry_of_not_inTurn fails]
          simpa using threshold_nonneg

/-! ## The first best of them -/

/-- Candidates of one rating as they compete, numbered from `k` on. -/
def entriesFrom (rating increment : Int) (n k : Nat) (candidates : List Recording) :
    List (Rated Recording) :=
  ((candidates.zipIdx k).map (contender rating)).map (Contender.entry (Scale.exact increment) n)

section

variable {rating increment : Int} {n k : Nat}

theorem entriesFrom_cons (r : Recording) (candidates : List Recording) :
    entriesFrom rating increment n k (r :: candidates) =
      (contender rating (r, k)).entry (Scale.exact increment) n ::
        entriesFrom rating increment n (k + 1) candidates := rfl

theorem entriesFrom_append (front back : List Recording) :
    entriesFrom rating increment n k (front ++ back) =
      entriesFrom rating increment n k front ++
        entriesFrom rating increment n (k + front.length) back := by
  simp [entriesFrom, List.zipIdx_append]

theorem entry_contender_of_eq (positive : 0 < rating) (r : Recording) :
    (contender rating (r, n)).entry (Scale.exact increment) n = ⟨r, rating + increment⟩ :=
  Contender.entry_of_inTurn ⟨positive, rfl⟩

theorem entry_contender_of_ne {i : Nat} (other : i ≠ n) (r : Recording) :
    (contender rating (r, i)).entry (Scale.exact increment) n = ⟨r, rating⟩ :=
  Contender.entry_of_not_inTurn fun h => other (Int.ofNat_inj.mp h.2)

theorem rating_of_mem_entriesFrom {candidates : List Recording} {c : Rated Recording}
    (hc : c ∈ entriesFrom rating increment n k candidates)
    (others : n < k ∨ k + candidates.length ≤ n) : c.rating = rating := by
  simp only [entriesFrom, List.map_map, List.mem_map] at hc
  obtain ⟨⟨r, i⟩, hmem, rfl⟩ := hc
  have low := List.le_snd_of_mem_zipIdx hmem
  have high := List.snd_lt_of_mem_zipIdx hmem
  dsimp only at low high
  simp only [Function.comp_apply]
  rw [entry_contender_of_ne (by omega)]

end

/-- The candidate whose turn it is: the `n`-th, or the first when there are not so many. -/
def turn (candidates : List Recording) (n : Nat) : Option Recording :=
  if n < candidates.length then candidates[n]? else candidates[0]?

theorem exists_turn {candidates : List Recording} (h : candidates ≠ []) (n : Nat) :
    ∃ r, turn candidates n = some r := by
  obtain ⟨first, others, rfl⟩ := List.exists_cons_of_ne_nil h
  by_cases hn : n < (first :: others).length
  · exact ⟨(first :: others)[n], by rw [turn, if_pos hn, List.getElem?_eq_getElem hn]⟩
  · exact ⟨first, by rw [turn, if_neg hn, List.getElem?_cons_zero]⟩

theorem exists_append_of_turn {candidates : List Recording} {n : Nat} {r : Recording}
    (h : turn candidates n = some r) (hn : n < candidates.length) :
    ∃ front back, candidates = front ++ r :: back ∧ front.length = n := by
  rw [turn, if_pos hn, List.getElem?_eq_getElem hn] at h
  obtain rfl := Option.some.inj h
  refine ⟨candidates.take n, candidates.drop (n + 1), ?_, by simp [Nat.le_of_lt hn]⟩
  rw [← List.drop_eq_getElem_cons hn, List.take_append_drop]

theorem exists_cons_of_turn {candidates : List Recording} {n : Nat} {r : Recording}
    (h : turn candidates n = some r) (hn : candidates.length ≤ n) :
    ∃ others, candidates = r :: others := by
  rw [turn, if_neg (Nat.not_lt.mpr hn), ← List.head?_eq_getElem?] at h
  obtain ⟨others, rfl⟩ := List.head?_eq_some_iff.mp h
  exact ⟨others, rfl⟩

/-- Of candidates of one rating, the one whose turn it is competes best, and if there is none, the
first. -/
theorem firstBest_turn {candidates : List Recording} {rating increment : Int} {n : Nat}
    {r : Recording} (positive : 0 < rating) (increment_pos : 0 < increment)
    (h : turn candidates n = some r) :
    ∃ front back, Rated.FirstBest
      ⟨r, if n < candidates.length then rating + increment else rating⟩
      (entriesFrom rating increment n 0 candidates) front back := by
  rcases Nat.lt_or_ge n candidates.length with hn | hn
  · rw [if_pos hn]
    obtain ⟨front, back, rfl, rfl⟩ := exists_append_of_turn h hn
    refine ⟨entriesFrom rating increment front.length 0 front,
      entriesFrom rating increment front.length (front.length + 1) back, ?_, ?_, ?_⟩
    · rw [entriesFrom_append, entriesFrom_cons, Nat.zero_add, entry_contender_of_eq positive]
    · intro c hc
      rw [rating_of_mem_entriesFrom hc (by omega)]
      exact Int.lt_add_of_pos_right rating increment_pos
    · intro c hc
      rw [rating_of_mem_entriesFrom hc (by omega)]
      exact Int.le_of_lt (Int.lt_add_of_pos_right rating increment_pos)
  · rw [if_neg (Nat.not_lt.mpr hn)]
    obtain ⟨others, rfl⟩ := exists_cons_of_turn h hn
    rw [List.length_cons] at hn
    refine ⟨[], entriesFrom rating increment n 1 others, ?_, by simp, ?_⟩
    · rw [entriesFrom_cons, entry_contender_of_ne (by omega)]
      rfl
    · intro c hc
      exact Int.le_of_eq (rating_of_mem_entriesFrom hc (by omega))

theorem select_eq_turn {m : Matcher} {live : Request} {signature : Signature} {rating : Int}
    (aware : m.sequenceAware = true) (exact : m.scale = Scale.exact m.scale.increment)
    (increment_pos : 0 < m.scale.increment) (threshold_nonneg : 0 ≤ m.threshold)
    (alike : m.Alike live signature rating)
    (others : ∀ r ∈ m.recordings, r.request.signature = signature →
      isCandidate r.request live = true)
    {session : Session} {n : Nat} (hn : session.occurrence live = n) {r : Recording}
    (h : turn (m.candidates live) n = some r) :
    m.select session live = .ok (some
      ⟨r, if n < (m.candidates live).length then rating + m.scale.increment else rating⟩) := by
  have same : ∀ r ∈ m.recordings,
      isCandidate r.request live = true ↔ r.request.signature = signature := fun r hr =>
    ⟨fun candidate => alike.signature_eq r (List.mem_filter.mpr ⟨hr, candidate⟩), others r hr⟩
  have positive : 0 < rating := Int.lt_of_le_of_lt threshold_nonneg alike.above
  obtain ⟨front, back, best⟩ := firstBest_turn positive increment_pos h
  rw [select_eq_ok aware alike.ratings_eq, hn, exact]
  refine congrArg Except.ok (Rated.foldl_better_eq_some_iff.mpr ⟨front, back, ?_⟩)
  rw [List.filter_map]
  have filtered : (m.contenders (m.recordings.map (commonRating live rating))).filter
      ((fun c => decide (m.threshold < c.rating)) ∘
        Contender.entry (Scale.exact m.scale.increment) n) =
      ((m.candidates live).zipIdx 0).map (contender rating) :=
    filter_contendersFrom increment_pos threshold_nonneg alike.above same Tally.empty
  rw [filtered]
  exact best

end Matcher

end Playback
