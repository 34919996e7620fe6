import Playback.Proofs.Rating.Best
import Playback.Selection.Matcher

/-! # Room for names -/

namespace Playback.Rating

/-! ## Sums of few gains -/

/-- While nothing leaves the range of words, adding gains one by one is adding their sum. -/
theorem foldl_eq_add_sum {α : Type} {step : Int → α → Int} {gain : α → Int} {c : Int}
    (hstep : ∀ score a, Scale.IsWord (score + gain a) → step score a = score + gain a)
    (hgain : ∀ a, -c ≤ gain a ∧ gain a ≤ c) (l : List α) {score bound : Int}
    (hscore : -bound ≤ score ∧ score ≤ bound) (small : bound + l.length * c < 2 ^ 63) :
    l.foldl step score = score + (l.map gain).sum ∧
      -(bound + l.length * c) ≤ l.foldl step score ∧
      l.foldl step score ≤ bound + l.length * c := by
  induction l generalizing score bound with
  | nil => simpa using hscore
  | cons a l ih =>
      have gained := hgain a
      have rest : 0 ≤ l.length * c := Int.mul_nonneg (Int.natCast_nonneg _) (by omega)
      have length : bound + (a :: l).length * c = (bound + c) + l.length * c := by
        rw [List.length_cons, Int.natCast_succ, Int.add_mul]
        omega
      have word : Scale.IsWord (score + gain a) := by
        unfold Scale.IsWord
        omega
      rw [List.foldl_cons, hstep score a word, length, List.map_cons, List.sum_cons,
        ← Int.add_assoc]
      exact ih (by omega) (by omega)

section

variable {s : Scale} (keeps : s.KeepsWords) (h : Scale.isIncrement s.increment = true)

include keeps h

omit h in
theorem withParameter_of_isWord {recorded live : Query} {score : Int} {name : String}
    (word : Scale.IsWord (score + liveGain s recorded live name)) :
    withParameter s recorded live score name = score + liveGain s recorded live name := by
  unfold withParameter liveGain at *
  split at word
  · next alone =>
      rw [if_pos alone, if_pos alone]
      exact keeps _ word
  · next paired =>
      rw [if_neg paired, if_neg paired]
      split at word
      · next same =>
          rw [if_pos same, if_pos same]
          exact keeps _ word
      · next other =>
          rw [if_neg other, if_neg other, Int.add_zero]

omit h in
theorem withoutPartner_of_isWord {live : Query} {score : Int} {name : String}
    (word : Scale.IsWord (score + recordedGain s live name)) :
    withoutPartner s live score name = score + recordedGain s live name := by
  unfold withoutPartner recordedGain at *
  split at word
  · next paired => rw [if_pos paired, if_pos paired, Int.add_zero]
  · next alone =>
      rw [if_neg alone, if_neg alone]
      exact keeps _ word

theorem parametersScore_of_few {recorded live : Query}
    (few : (live.keys.length + recorded.keys.length) * s.increment < 2 ^ 63) :
    parametersScore s recorded live = parametersScore (Scale.exact s.increment) recorded live := by
  have pos := Scale.increment_pos h
  have half : 0 < s.half := Scale.half_pos h
  have half_le : s.half ≤ s.increment := Scale.half_le h
  have liveGain_bound (name : String) :
      -s.increment ≤ liveGain s recorded live name ∧
        liveGain s recorded live name ≤ s.increment := by
    unfold liveGain
    split <;> [skip; split] <;> omega
  have recordedGain_bound (name : String) :
      -s.increment ≤ recordedGain s live name ∧ recordedGain s live name ≤ s.increment := by
    unfold recordedGain
    split <;> omega
  rw [Int.add_mul] at few
  have nonneg := Scale.times_nonneg h recorded.keys.length
  by_cases both : recorded.isEmpty = true ∧ live.isEmpty = true
  · rw [parametersScore_of_both_isEmpty both, parametersScore_of_both_isEmpty both]
    rfl
  · have start : -(0 : Int) ≤ 0 ∧ (0 : Int) ≤ 0 := by omega
    obtain ⟨gained, bounds⟩ := foldl_eq_add_sum (fun _ _ => withParameter_of_isWord keeps)
      liveGain_bound live.keys start (by omega)
    obtain ⟨lost, -⟩ := foldl_eq_add_sum (fun _ _ => withoutPartner_of_isWord keeps)
      recordedGain_bound recorded.keys bounds (by omega)
    rw [parametersScore_exact both, parametersScore, if_neg (by simpa using both)]
    dsimp only
    rw [lost, gained, Int.zero_add]
    rfl

theorem headersScore_of_few {recorded live : Multimap String}
    (few : live.keys.length * s.increment < 2 ^ 63) :
    headersScore s recorded live = headersScore (Scale.exact s.increment) recorded live := by
  have pos := Scale.increment_pos h
  have fewer := Int.mul_le_mul_of_nonneg_right
    (Int.ofNat_le.mpr (List.length_filter_le (sameHeader recorded live) live.keys))
    (Int.le_of_lt pos)
  have start : -(0 : Int) ≤ 0 ∧ (0 : Int) ≤ 0 := by omega
  have adds (score : Int) (_ : String) (word : Scale.IsWord (score + s.increment)) :
      s.add score s.increment = score + s.increment := keeps.add word
  have bounds (_ : String) : -s.increment ≤ s.increment ∧ s.increment ≤ s.increment := by
    omega
  obtain ⟨added, -⟩ := foldl_eq_add_sum adds bounds
    (live.keys.filter (sameHeader recorded live)) start (by omega)
  rw [headersScore, added, headersScore_exact]
  simp

theorem contentScore_of_few {recordedType liveType : MediaType} {recorded live : Bytes}
    (few : recordedType.isFormUrlencoded = true → liveType.isFormUrlencoded = true →
      ((formOf live).keys.length + (formOf recorded).keys.length) * s.increment < 2 ^ 63) :
    contentScore s recordedType liveType recorded live =
      contentScore (Scale.exact s.increment) recordedType liveType recorded live := by
  unfold contentScore
  split
  · rfl
  · split
    · next forms =>
        rw [Bool.and_eq_true] at forms
        rw [parametersScore_of_few keeps h (few forms.1 forms.2)]
    · rfl

end

section

variable {n : Int} (h : Scale.isIncrement n = true)

include h

theorem parametersScore_le (recorded live : Query) :
    parametersScore (Scale.exact n) recorded live ≤ (live.keys.length + 1) * n := by
  have pos := Scale.increment_pos h
  have most := parametersScore_le_self h recorded live
  have nonneg := Scale.times_nonneg h live.keys.length
  rw [parametersScore_self h] at most
  rw [Int.add_mul, Int.one_mul]
  split at most <;> omega

theorem headersScore_le (recorded live : Multimap String) :
    headersScore (Scale.exact n) recorded live ≤ live.keys.length * n := by
  rw [← headersScore_self]
  exact headersScore_le_self h recorded live

theorem headScore_le (recorded live : Request) :
    headScore (Scale.exact n) recorded live ≤
      (live.query.keys.length + live.headers.keys.length + 2) * n := by
  have parameters := parametersScore_le h recorded.query live.query
  have headers := headersScore_le h recorded.headers live.headers
  simp only [Int.add_mul] at parameters ⊢
  rw [headScore_exact]
  omega

end

/-! ## Ratings by few names -/

/-- How many names a body is compared by. -/
def fieldNames (registry : CodingRegistry) (r : Request) : Nat :=
  match r.content? registry with
  | some bytes => if r.bodyType.isFormUrlencoded then (formOf bytes).keys.length else 0
  | none => 0

/-- How many names a request is compared by. -/
def nameCount (registry : CodingRegistry) (r : Request) : Nat :=
  r.query.keys.length + r.headers.keys.length + fieldNames registry r

section

variable {n : Int} {registry : CodingRegistry} {recorded live : Request}

theorem bodyScore_le (h : Scale.isIncrement n = true) {score : Int}
    (hscore : bodyScore (Scale.exact n) registry recorded live = .ok score) :
    score ≤ (fieldNames registry live + 1) * n := by
  have pos := Scale.increment_pos h
  have nonneg := Scale.times_nonneg h (fieldNames registry live)
  have half_le := Scale.half_le h
  rw [Int.add_mul, Int.one_mul]
  rcases content?_cases registry recorded live with missing | ⟨bytes, bytes', content, content'⟩
  · rw [bodyScore_of_no_content _ missing] at hscore
    cases hscore
    split <;> omega
  · rw [bodyScore_of_content _ content content', contentScore] at hscore
    split at hscore
    · cases hscore
      rw [Scale.increment_exact]
      omega
    · split at hscore
      · next forms =>
          rw [Bool.and_eq_true] at forms
          cases hscore
          have most := parametersScore_le h (formOf bytes) (formOf bytes')
          rw [Int.add_mul, Int.one_mul] at most
          simpa [fieldNames, content', forms.2] using most
      · split at hscore
        · unfold partsScore at hscore
          split at hscore <;> cases hscore
          omega
        · cases hscore
          rw [Scale.increment_exact]
          split <;> omega

end

section

variable {s : Scale} (keeps : s.KeepsWords) (h : Scale.isIncrement s.increment = true)
  (registry : CodingRegistry) (recorded live : Request)

include keeps h

theorem bodyScore_of_few
    (few : (fieldNames registry live + fieldNames registry recorded) * s.increment < 2 ^ 63) :
    bodyScore s registry recorded live =
      bodyScore (Scale.exact s.increment) registry recorded live := by
  rcases content?_cases registry recorded live with missing | ⟨bytes, bytes', content, content'⟩
  · rw [bodyScore_of_no_content _ missing, bodyScore_of_no_content _ missing]
    rfl
  · rw [bodyScore_of_content _ content content', bodyScore_of_content _ content content']
    apply contentScore_of_few keeps h
    intro form form'
    simpa [fieldNames, content, content', form, form'] using few

theorem headScore_of_few
    (few : (recorded.query.keys.length + live.query.keys.length + live.headers.keys.length + 2) *
      s.increment < 2 ^ 63) :
    headScore s recorded live = headScore (Scale.exact s.increment) recorded live := by
  have pos := Scale.increment_pos h
  have := Scale.times_nonneg h recorded.query.keys.length
  have := Scale.times_nonneg h live.query.keys.length
  have := Scale.times_nonneg h live.headers.keys.length
  have parameters := parametersScore_le h recorded.query live.query
  have headers := headersScore_le h recorded.headers live.headers
  have parameters_nonneg := parametersScore_nonneg h recorded.query live.query
  have headers_nonneg := headersScore_nonneg h recorded.headers live.headers
  simp only [Int.add_mul] at few parameters
  rw [headScore, parametersScore_of_few keeps h (by rw [Int.add_mul]; omega),
    headersScore_of_few keeps h (by omega), headScore_exact]
  generalize parametersScore (Scale.exact s.increment) recorded.query live.query = score at *
  have base : s.add s.increment score = s.increment + score := keeps.add ⟨by omega, by omega⟩
  rw [base, keeps.add ⟨by omega, by omega⟩]

theorem rate_of_few
    (few : (nameCount registry recorded + nameCount registry live + 3) * s.increment < 2 ^ 63) :
    rate s registry recorded live = rate (Scale.exact s.increment) registry recorded live := by
  have pos := Scale.increment_pos h
  have := Scale.times_nonneg h recorded.query.keys.length
  have := Scale.times_nonneg h recorded.headers.keys.length
  have := Scale.times_nonneg h (fieldNames registry recorded)
  have := Scale.times_nonneg h live.query.keys.length
  have := Scale.times_nonneg h live.headers.keys.length
  have := Scale.times_nonneg h (fieldNames registry live)
  simp only [nameCount, Int.natCast_add, Int.add_mul] at few
  have head := headScore_of_few keeps h recorded live (by simp only [Int.add_mul]; omega)
  cases candidate : isCandidate recorded live with
  | false => rw [rate_of_not_isCandidate candidate, rate_of_not_isCandidate candidate]
  | true =>
      cases body : live.method.carriesBody with
      | false => rw [rate_of_no_body candidate body, rate_of_no_body candidate body, head]
      | true =>
          have content := bodyScore_of_few keeps h registry recorded live
            (by rw [Int.add_mul]; omega)
          rw [rate_of_body candidate body, rate_of_body candidate body, head, content]
          cases hscore : bodyScore (Scale.exact s.increment) registry recorded live with
          | error fault => rfl
          | ok score =>
              have most := bodyScore_le h hscore
              have nonneg := bodyScore_nonneg h hscore
              have head_le := headScore_le h recorded live
              have head_nonneg := increment_le_headScore h recorded live
              simp only [Int.add_mul] at most head_le
              rw [Except.map, Except.map, keeps.add ⟨by omega, by omega⟩]
              rfl

end

theorem rate_le {n rating : Int} (h : Scale.isIncrement n = true) {registry : CodingRegistry}
    {recorded live : Request}
    (hrate : rate (Scale.exact n) registry recorded live = .ok rating) :
    rating ≤ (nameCount registry live + 3) * n := by
  have pos := Scale.increment_pos h
  have := Scale.times_nonneg h live.query.keys.length
  have := Scale.times_nonneg h live.headers.keys.length
  have := Scale.times_nonneg h (fieldNames registry live)
  have head := headScore_le h recorded live
  simp only [nameCount, Int.natCast_add, Int.add_mul] at head ⊢
  cases candidate : isCandidate recorded live with
  | false =>
      rw [rate_of_not_isCandidate candidate] at hrate
      cases hrate
      omega
  | true =>
      rcases (rate_eq_ok_iff candidate).mp hrate with ⟨-, rfl⟩ | ⟨-, score, hscore, rfl⟩
      · omega
      · have most := bodyScore_le h hscore
        rw [Int.add_mul] at most
        rw [Scale.add_exact]
        omega

/-- With few names for the increment no sum of a rating leaves the range of words, nor that of its
boost: each comes out exact, whatever would become of those that did. -/
theorem rate_of_few_names {s : Scale} (keeps : s.KeepsWords)
    (h : Scale.isIncrement s.increment = true) {registry : CodingRegistry} {recorded live : Request}
    (few : (nameCount registry recorded + nameCount registry live + 4) * s.increment < 2 ^ 63) :
    rate s registry recorded live = rate (Scale.exact s.increment) registry recorded live ∧
      ∀ rating, rate s registry recorded live = .ok rating →
        ∀ (occurrence : Int) (position : Nat), Matcher.boosted s occurrence position rating =
          Matcher.boosted (Scale.exact s.increment) occurrence position rating := by
  have pos := Scale.increment_pos h
  have := Scale.times_nonneg h (nameCount registry recorded)
  simp only [Int.add_mul] at few
  have same := rate_of_few keeps h registry recorded live (by simp only [Int.add_mul]; omega)
  refine ⟨same, ?_⟩
  intro rating hrate occurrence position
  have most := rate_le h (same ▸ hrate)
  simp only [Int.add_mul] at most
  unfold Matcher.boosted
  split
  · next turn => exact keeps.add ⟨by omega, by omega⟩
  · rfl

end Playback.Rating
