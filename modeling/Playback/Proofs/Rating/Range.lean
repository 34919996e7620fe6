import Playback.Proofs.Rating.Capacity

/-! # Ratings in machine words -/

namespace Playback.Rating

/-! ## Sums that are cut off -/

/-- Whether losses sink so far below the range of words that they come up as a gain. -/
def Sinks (gain : Int) : Prop :=
  gain < -2 ^ 63 ∧ 0 < Scale.toWord gain

instance : DecidablePred Sinks :=
  fun _ => inferInstanceAs (Decidable (_ ∧ _))

/-- Whether a score in words stands to the exact one as a sum does that is cut off at zero. -/
structure Follows (word exact : Int) (sinks : Prop) : Prop where
  nonneg : 0 ≤ exact
  le (small : exact < 2 ^ 63) : exact ≤ word
  lt (small : exact < 2 ^ 63) : word < exact + 2 ^ 63
  eq_iff (small : exact < 2 ^ 63) : word = exact ↔ ¬sinks

theorem follows_max (gain : Int) :
    Follows (max (Scale.toWord gain) 0) (max gain 0) (Sinks gain) := by
  have word := Scale.isWord_toWord gain
  have same := Scale.toWord_eq_iff (k := gain)
  unfold Scale.IsWord at word same
  constructor
  · omega
  · omega
  · omega
  · unfold Sinks
    omega

theorem Follows.of_not {score : Int} {sinks : Prop} (nonneg : 0 ≤ score) (h : ¬sinks) :
    Follows score score sinks where
  nonneg := nonneg
  le _ := Int.le_refl score
  lt _ := by omega
  eq_iff _ := by simpa using h

/-- A sum of such scores comes out exact just if it is a word and none of them sinks. -/
theorem toWord_eq_iff_of_follows {base word word' score score' : Int} {sinks sinks' : Prop}
    (nonneg : 0 ≤ base) (h : Follows word score sinks) (h' : Follows word' score' sinks') :
    Scale.toWord (base + word + word') = base + score + score' ↔
      base + score + score' < 2 ^ 63 ∧ ¬sinks ∧ ¬sinks' := by
  have := h.nonneg
  have := h'.nonneg
  obtain ⟨q, hq⟩ := Scale.exists_toWord_eq (base + word + word')
  have range := Scale.isWord_toWord (base + word + word')
  unfold Scale.IsWord at range
  by_cases small : base + score + score' < 2 ^ 63
  · have small_score : score < 2 ^ 63 := by omega
    have small_score' : score' < 2 ^ 63 := by omega
    rw [← h.eq_iff small_score, ← h'.eq_iff small_score']
    -- Each score exceeds its exact one by less than half of what reducing takes off, so that the two
    -- cannot make up for it.
    have := h.le small_score
    have := h.lt small_score
    have := h'.le small_score'
    have := h'.lt small_score'
    omega
  · omega

/-! ## Scores -/

theorem parametersGain_of_isEmpty {s : Scale} {recorded live : Query}
    (both : recorded.isEmpty = true ∧ live.isEmpty = true) : parametersGain s recorded live = 0 := by
  rw [parametersGain, Multimap.keys_eq_nil_iff.mpr both.1, Multimap.keys_eq_nil_iff.mpr both.2]
  rfl

theorem not_sinks_zero : ¬Sinks 0 := by
  unfold Sinks
  omega

/-- What the fields of two forms add up to; nothing where the bodies are not compared as forms. -/
def fieldsGain (n : Int) (recordedType liveType : MediaType) (recorded live : Bytes) : Int :=
  if recordedType.isFormUrlencoded && liveType.isFormUrlencoded then
    parametersGain (Scale.exact n) (formOf recorded) (formOf live)
  else 0

/-- What the fields of two bodies add up to, where there are two and both can be read. -/
def bodyGain (n : Int) (registry : CodingRegistry) (recorded live : Request) : Int :=
  match recorded.content? registry, live.content? registry with
  | some bytes, some bytes' => fieldsGain n recorded.bodyType live.bodyType bytes bytes'
  | _, _ => 0

section

variable {n : Int} (h : Scale.isIncrement n = true)

include h

theorem parametersScore_follows (recorded live : Query) :
    Follows (parametersScore (Scale.inWords n) recorded live)
      (parametersScore (Scale.exact n) recorded live)
      (Sinks (parametersGain (Scale.exact n) recorded live)) := by
  by_cases both : recorded.isEmpty = true ∧ live.isEmpty = true
  · rw [parametersGain_of_isEmpty both, parametersScore_of_both_isEmpty both,
      parametersScore_of_both_isEmpty both]
    exact Follows.of_not (Int.le_of_lt (Scale.increment_pos h)) not_sinks_zero
  · rw [parametersScore_eq (Scale.coherent_inWords n) both, parametersScore_exact both]
    exact follows_max _

theorem contentScore_follows {recordedType liveType : MediaType} {recorded live : Bytes}
    {score : Int}
    (hscore : contentScore (Scale.exact n) recordedType liveType recorded live = .ok score) :
    ∃ word, contentScore (Scale.inWords n) recordedType liveType recorded live = .ok word ∧
      Follows word score (Sinks (fieldsGain n recordedType liveType recorded live)) := by
  have nonneg := contentScore_nonneg h hscore
  unfold contentScore at hscore ⊢
  unfold fieldsGain
  split at hscore
  · next empty =>
      rw [if_pos empty]
      rw [Bool.and_eq_true, List.isEmpty_iff, List.isEmpty_iff] at empty
      refine ⟨score, hscore, Follows.of_not nonneg ?_⟩
      rw [empty.1, empty.2, parametersGain_of_isEmpty (by decide +kernel), ite_self]
      exact not_sinks_zero
  · next some =>
      rw [if_neg some]
      split at hscore
      · next forms =>
          cases hscore
          rw [if_pos forms, if_pos forms]
          exact ⟨_, rfl, parametersScore_follows h (formOf recorded) (formOf live)⟩
      · next others =>
          rw [if_neg others, if_neg others]
          exact ⟨score, hscore, Follows.of_not nonneg not_sinks_zero⟩

variable {registry : CodingRegistry} {recorded live : Request} {score rating : Int}

theorem bodyScore_follows
    (hscore : bodyScore (Scale.exact n) registry recorded live = .ok score) :
    ∃ word, bodyScore (Scale.inWords n) registry recorded live = .ok word ∧
      Follows word score (Sinks (bodyGain n registry recorded live)) := by
  have nonneg := bodyScore_nonneg h hscore
  rcases content?_cases registry recorded live with missing | ⟨bytes, bytes', content, content'⟩
  · have nothing : bodyGain n registry recorded live = 0 := by
      rcases missing with missing | missing <;> simp [bodyGain, missing]
    rw [bodyScore_of_no_content _ missing] at hscore ⊢
    rw [nothing]
    exact ⟨score, hscore, Follows.of_not nonneg not_sinks_zero⟩
  · rw [bodyGain, content, content']
    rw [bodyScore_of_content _ content content'] at hscore ⊢
    exact contentScore_follows h hscore

omit h in
theorem headScore_inWords (recorded live : Request) :
    headScore (Scale.inWords n) recorded live =
      Scale.toWord (n + headersScore (Scale.exact n) recorded.headers live.headers +
        parametersScore (Scale.inWords n) recorded.query live.query) := by
  have coherent := Scale.coherent_inWords n
  rw [headScore, headersScore_eq coherent, headersScore_exact, Scale.add, Scale.add,
    coherent.add, Int.add_comm _ ((Scale.inWords n).reduce _), coherent.add, ← Int.add_assoc,
    Scale.increment_inWords, Int.add_comm _ n]
  rfl

/-! ## Ratings -/

theorem rate_inWords_iff (candidate : isCandidate recorded live = true)
    (hrate : rate (Scale.exact n) registry recorded live = .ok rating) :
    rate (Scale.inWords n) registry recorded live = .ok rating ↔
      rating < 2 ^ 63 ∧ ¬Sinks (parametersGain (Scale.exact n) recorded.query live.query) ∧
        (live.method.carriesBody = true → ¬Sinks (bodyGain n registry recorded live)) := by
  have parameters := parametersScore_follows h recorded.query live.query
  have nonneg : 0 ≤ n + headersScore (Scale.exact n) recorded.headers live.headers := by
    have := Scale.increment_pos h
    have := headersScore_nonneg h recorded.headers live.headers
    omega
  have head : headScore (Scale.exact n) recorded live =
      n + headersScore (Scale.exact n) recorded.headers live.headers +
        parametersScore (Scale.exact n) recorded.query live.query := by
    rw [headScore_exact]
    omega
  rcases (rate_eq_ok_iff candidate).mp hrate with ⟨body, rfl⟩ | ⟨body, score, hscore, rfl⟩
  · rw [rate_of_no_body candidate body, headScore_inWords, head, Except.ok.injEq]
    simpa [body] using toWord_eq_iff_of_follows nonneg parameters
      (Follows.of_not (Int.le_refl 0) not_false)
  · obtain ⟨word, hword, content⟩ := bodyScore_follows h hscore
    rw [rate_of_body candidate body, headScore_inWords, head, hword, Except.map, Except.ok.injEq,
      Scale.add_exact, Scale.add_inWords, Scale.toWord_add]
    simpa [body] using toWord_eq_iff_of_follows nonneg parameters content

theorem boosted_inWords_iff {occurrence : Int} {position : Nat} (positive : 0 < rating) :
    Matcher.boosted (Scale.inWords n) occurrence position rating =
        Matcher.boosted (Scale.exact n) occurrence position rating ↔
      ((position : Int) = occurrence → rating + n < 2 ^ 63) := by
  have increment_pos := Scale.increment_pos h
  unfold Matcher.boosted
  by_cases turn : (position : Int) = occurrence
  · rw [if_pos ⟨positive, turn⟩, if_pos ⟨positive, turn⟩, Scale.add_inWords, Scale.add_exact,
      Scale.increment_inWords, Scale.increment_exact, Scale.toWord_eq_iff, Scale.IsWord]
    omega
  · rw [if_neg (mt And.right turn), if_neg (mt And.right turn)]
    simp [turn]

end

/-- The rating of a candidate in words is the exact one just if this is a word and no losses come up
as a gain, and it is boosted exactly just if the boosted one is a word. The exact rating is one
increment at least. With few names for the increment no sum is anything but a word. -/
theorem word_rating_iff {n rating : Int} (accepted : Scale.isIncrement n = true)
    {registry : CodingRegistry} {recorded live : Request}
    (candidate : isCandidate recorded live = true)
    (hrate : rate (Scale.exact n) registry recorded live = .ok rating) :
    (rate (Scale.inWords n) registry recorded live = .ok rating ↔
      rating < 2 ^ 63 ∧ ¬Sinks (parametersGain (Scale.exact n) recorded.query live.query) ∧
        (live.method.carriesBody = true → ¬Sinks (bodyGain n registry recorded live))) ∧
    (∀ (occurrence : Int) (position : Nat),
      Matcher.boosted (Scale.inWords n) occurrence position rating =
          Matcher.boosted (Scale.exact n) occurrence position rating ↔
        ((position : Int) = occurrence → rating + n < 2 ^ 63)) ∧
    n ≤ rating ∧
    ((nameCount registry recorded + nameCount registry live + 4) * n < 2 ^ 63 →
      ∀ s : Scale, s.increment = n → s.KeepsWords →
        rate s registry recorded live = .ok rating ∧
          ∀ (occurrence : Int) (position : Nat), Matcher.boosted s occurrence position rating =
            Matcher.boosted (Scale.exact n) occurrence position rating) := by
  have least := increment_le_rating accepted candidate hrate
  have positive : 0 < rating := Int.lt_of_lt_of_le (Scale.increment_pos accepted) least
  refine ⟨rate_inWords_iff accepted candidate hrate, ?_, least, ?_⟩
  · intro occurrence position
    exact boosted_inWords_iff accepted positive
  · rintro few s rfl keeps
    obtain ⟨same, boosted⟩ := rate_of_few_names keeps accepted few
    rw [hrate] at same
    exact ⟨same, boosted rating same⟩

/-- A request for a page with parameters. -/
def pageRequest (parameters : Option String) : Request :=
  Request.plain .get ⟨some "http", "h", none, "/a", parameters⟩

/-- Of two parameters one is recorded. All sums are words, that of the boost as well. -/
theorem word_rating_iff_page :
    rate (Scale.inWords 100) CodingRegistry.standard (pageRequest (some "x=1"))
        (pageRequest (some "x=1&y=2")) = .ok 150 ∧
      Matcher.boosted (Scale.inWords 100) 1 1 150 = 250 := by
  have exact_rating : rate (Scale.exact 100) CodingRegistry.standard (pageRequest (some "x=1"))
      (pageRequest (some "x=1&y=2")) = .ok 150 := by
    decide +kernel
  have words := word_rating_iff (n := 100) (by decide) (by decide +kernel) exact_rating
  obtain ⟨given, boosted⟩ := words.2.2.2 (by decide +kernel) (Scale.inWords 100) rfl
    (Scale.keepsWords_inWords 100)
  exact ⟨given, boosted 1 1⟩

/-- Three parameters that are not recorded cost more than a word can hold. They come up as a gain, and
the sum with it leaves the range once more. -/
theorem word_rating_sunk :
    Scale.isIncrement (2 ^ 63 - 2) = true ∧
      isCandidate (pageRequest none) (pageRequest (some "x=1&y=2&z=3")) = true ∧
      Sinks (parametersGain (Scale.exact (2 ^ 63 - 2)) (pageRequest none).query
        (pageRequest (some "x=1&y=2&z=3")).query) ∧
      rate (Scale.exact (2 ^ 63 - 2)) CodingRegistry.standard (pageRequest none)
        (pageRequest (some "x=1&y=2&z=3")) = .ok (2 ^ 63 - 2) ∧
      rate (Scale.inWords (2 ^ 63 - 2)) CodingRegistry.standard (pageRequest none)
        (pageRequest (some "x=1&y=2&z=3")) = .ok (-2 ^ 62 + 1) := by
  decide +kernel

end Playback.Rating
