import Playback.Proofs.Message.Multimap
import Playback.Proofs.Rating.Scale
import Playback.Proofs.Rating.Values
import Playback.Rating.Names

/-! # The best score of parameters and headers -/

namespace Playback.Rating

/-! ## Parameters -/

/-- Whether each name of either side has the same values on both. -/
def SameParameters (recorded live : Query) : Prop :=
  ∀ name, name ∈ recorded.keys ∨ name ∈ live.keys →
    SameValues (recorded.getAll name) (live.getAll name)

/-- What a live parameter adds to a score. -/
def liveGain (s : Scale) (recorded live : Query) (name : String) : Int :=
  if !recorded.contains name then -s.half
  else if sameParameter recorded live name then s.increment
  else 0

/-- What a recorded parameter adds to a score. -/
def recordedGain (s : Scale) (live : Query) (name : String) : Int :=
  if live.contains name then 0 else -s.half

/-- What all parameters add up to. -/
def parametersGain (s : Scale) (recorded live : Query) : Int :=
  (live.keys.map (liveGain s recorded live)).sum + (recorded.keys.map (recordedGain s live)).sum

section

variable {n : Int} {recorded live : Query} {name : String}

theorem parametersScore_of_both_isEmpty {s : Scale}
    (both : recorded.isEmpty = true ∧ live.isEmpty = true) :
    parametersScore s recorded live = s.increment := by
  rw [parametersScore, if_pos (by simpa using both)]

section

variable {s : Scale} (coherent : s.Coherent)

include coherent

theorem withParameter_reduce (score : Int) (name : String) :
    withParameter s recorded live (s.reduce score) name =
      s.reduce (score + liveGain s recorded live name) := by
  unfold withParameter liveGain
  split
  · exact coherent.sub score s.half
  · split
    · exact coherent.add score s.increment
    · rw [Int.add_zero]

theorem withoutPartner_reduce (score : Int) (name : String) :
    withoutPartner s live (s.reduce score) name =
      s.reduce (score + recordedGain s live name) := by
  unfold withoutPartner recordedGain
  split
  · rw [Int.add_zero]
  · exact coherent.sub score s.half

theorem parametersScore_eq (h : ¬(recorded.isEmpty = true ∧ live.isEmpty = true)) :
    parametersScore s recorded live = max (s.reduce (parametersGain s recorded live)) 0 := by
  have gained : live.keys.foldl (withParameter s recorded live) 0 =
      s.reduce (live.keys.map (liveGain s recorded live)).sum := by
    rw [← coherent.zero, foldl_eq_reduce_sum (withParameter_reduce coherent), Int.zero_add]
  rw [parametersScore, if_neg (by simpa using h), gained]
  dsimp only
  rw [foldl_eq_reduce_sum (withoutPartner_reduce coherent), parametersGain]

end

theorem parametersScore_exact (h : ¬(recorded.isEmpty = true ∧ live.isEmpty = true)) :
    parametersScore (Scale.exact n) recorded live =
      max (parametersGain (Scale.exact n) recorded live) 0 :=
  parametersScore_eq (Scale.coherent_exact n) h

theorem liveGain_le (h : Scale.isIncrement n = true) :
    liveGain (Scale.exact n) recorded live name ≤ n := by
  have := Scale.increment_pos h
  have := Scale.half_pos h
  unfold liveGain
  split
  · omega
  · split
    · exact Int.le_refl n
    · omega

theorem liveGain_eq_iff (h : Scale.isIncrement n = true) :
    liveGain (Scale.exact n) recorded live name = n ↔
      recorded.contains name = true ∧
        SameValues (recorded.getAll name) (live.getAll name) := by
  have := Scale.increment_pos h
  have := Scale.half_pos h
  rw [← sameValues_iff, liveGain, sameParameter]
  cases recorded.contains name with
  | false =>
      simp only [Bool.not_false, if_true, Bool.false_eq_true, false_and, iff_false]
      omega
  | true =>
      cases sameValues (recorded.getAll name) (live.getAll name) with
      | false =>
          simp only [Bool.not_true, Bool.false_eq_true, if_false, and_false, iff_false]
          omega
      | true => simp

theorem recordedGain_nonpos (h : Scale.isIncrement n = true) :
    recordedGain (Scale.exact n) live name ≤ 0 := by
  have := Scale.half_pos h
  unfold recordedGain
  split <;> omega

theorem recordedGain_eq_zero_iff (h : Scale.isIncrement n = true) :
    recordedGain (Scale.exact n) live name = 0 ↔ live.contains name = true := by
  have := Scale.half_pos h
  rw [recordedGain]
  cases live.contains name with
  | false =>
      simp only [Bool.false_eq_true, if_false, iff_false]
      omega
  | true => simp

theorem sum_liveGain_le (h : Scale.isIncrement n = true) (recorded live : Query) :
    (live.keys.map (liveGain (Scale.exact n) recorded live)).sum ≤ live.keys.length * n :=
  sum_map_le fun _ _ => liveGain_le h

theorem sum_recordedGain_nonpos (h : Scale.isIncrement n = true) (recorded live : Query) :
    (recorded.keys.map (recordedGain (Scale.exact n) live)).sum ≤ 0 := by
  have lost : (recorded.keys.map (recordedGain (Scale.exact n) live)).sum ≤
      recorded.keys.length * 0 :=
    sum_map_le fun _ _ => recordedGain_nonpos h
  rwa [Int.mul_zero] at lost

/-- All live parameters gain their increment only if each of them is recorded with its values. -/
theorem sum_liveGain_eq_iff (h : Scale.isIncrement n = true) :
    (live.keys.map (liveGain (Scale.exact n) recorded live)).sum = live.keys.length * n ↔
      ∀ name ∈ live.keys, recorded.contains name = true ∧
        SameValues (recorded.getAll name) (live.getAll name) := by
  rw [sum_map_eq_iff fun _ _ => liveGain_le h]
  simp only [liveGain_eq_iff h]

theorem sum_recordedGain_eq_zero_iff (h : Scale.isIncrement n = true) :
    (recorded.keys.map (recordedGain (Scale.exact n) live)).sum = 0 ↔
      ∀ name ∈ recorded.keys, live.contains name = true := by
  rw [← Int.mul_zero recorded.keys.length, sum_map_eq_iff fun _ _ => recordedGain_nonpos h]
  simp only [recordedGain_eq_zero_iff h]

theorem parametersGain_le (h : Scale.isIncrement n = true) (recorded live : Query) :
    parametersGain (Scale.exact n) recorded live ≤ live.keys.length * n := by
  have gained := sum_liveGain_le h recorded live
  have lost := sum_recordedGain_nonpos h recorded live
  unfold parametersGain
  omega

/-- Values agree for the names of both sides where each live name is recorded with its values and no
other name is recorded. -/
theorem sameParameters_iff :
    SameParameters recorded live ↔
      (∀ name ∈ live.keys, recorded.contains name = true ∧
        SameValues (recorded.getAll name) (live.getAll name)) ∧
      ∀ name ∈ recorded.keys, live.contains name = true := by
  constructor
  · intro same
    constructor
    · intro name hname
      have values := same name (.inr hname)
      have held := Multimap.contains_iff_getAll.mp (Multimap.contains_of_mem_keys hname)
      exact ⟨Multimap.contains_iff_getAll.mpr (mt values.eq_nil_iff.mp held), values⟩
    · intro name hname
      have values := same name (.inl hname)
      have held := Multimap.contains_iff_getAll.mp (Multimap.contains_of_mem_keys hname)
      exact Multimap.contains_iff_getAll.mpr (mt values.eq_nil_iff.mpr held)
  · rintro ⟨found, only⟩ name (hname | hname)
    · have live_name := Multimap.contains_iff.mp (only name hname)
      rw [Multimap.lower_of_mem_keys hname] at live_name
      exact (found name live_name).2
    · exact (found name hname).2

theorem parametersGain_eq_iff (h : Scale.isIncrement n = true) :
    parametersGain (Scale.exact n) recorded live = live.keys.length * n ↔
      SameParameters recorded live := by
  have gained := sum_liveGain_le h recorded live
  have lost := sum_recordedGain_nonpos h recorded live
  rw [sameParameters_iff, ← sum_liveGain_eq_iff h, ← sum_recordedGain_eq_zero_iff h,
    parametersGain]
  omega

theorem sameParameters_refl (live : Query) : SameParameters live live :=
  fun _ _ => SameValues.refl _

theorem sameParameters_iff_of_isEmpty (empty : live.isEmpty = true) :
    SameParameters recorded live ↔ recorded.isEmpty = true := by
  have nothing := Multimap.keys_eq_nil_iff.mpr empty
  rw [← Multimap.keys_eq_nil_iff, sameParameters_iff, nothing]
  constructor
  · rintro ⟨-, only⟩
    rw [List.eq_nil_iff_forall_not_mem]
    intro name hname
    have held := Multimap.contains_iff.mp (only name hname)
    rw [nothing] at held
    exact List.not_mem_nil held
  · intro none
    simp [none]

theorem parametersScore_of_isEmpty (h : Scale.isIncrement n = true) (empty : live.isEmpty = true) :
    parametersScore (Scale.exact n) recorded live = if recorded.isEmpty then n else 0 := by
  by_cases none : recorded.isEmpty = true
  · rw [parametersScore, if_pos (by simp [none, empty]), if_pos none]
    rfl
  · rw [parametersScore_exact (fun both => none both.1), if_neg none]
    have := parametersGain_le h recorded live
    rw [Multimap.keys_eq_nil_iff.mpr empty, List.length_nil, Int.natCast_zero, Int.zero_mul] at this
    omega

/-- The parameters of the live request score an increment for each name, or one for having none. -/
theorem parametersScore_self (h : Scale.isIncrement n = true) :
    parametersScore (Scale.exact n) live live =
      if live.isEmpty then n else live.keys.length * n := by
  have := Scale.increment_pos h
  by_cases empty : live.isEmpty = true
  · rw [parametersScore_of_isEmpty h empty, if_pos empty, if_pos empty]
  · rw [parametersScore_exact (fun both => empty both.1), if_neg empty,
      (parametersGain_eq_iff h).mpr (sameParameters_refl live)]
    exact Int.max_eq_left (Int.mul_nonneg (Int.natCast_nonneg _) (Int.le_of_lt this))

theorem increment_le_parametersScore_self (h : Scale.isIncrement n = true) (live : Query) :
    n ≤ parametersScore (Scale.exact n) live live := by
  rw [parametersScore_self h]
  split
  · exact Int.le_refl n
  · next empty =>
      have some : live.keys ≠ [] := mt Multimap.keys_eq_nil_iff.mp empty
      have : (1 : Int) ≤ live.keys.length := by
        have := List.length_pos_iff.mpr some
        omega
      exact le_mul_of_one_le_left (Int.le_of_lt (Scale.increment_pos h)) this

theorem parametersScore_nonneg (h : Scale.isIncrement n = true) (recorded live : Query) :
    0 ≤ parametersScore (Scale.exact n) recorded live := by
  by_cases both : recorded.isEmpty = true ∧ live.isEmpty = true
  · rw [parametersScore, if_pos (by simpa using both)]
    exact Int.le_of_lt (Scale.increment_pos h)
  · rw [parametersScore_exact both]
    exact Int.le_max_right _ _

theorem parametersScore_le_self (h : Scale.isIncrement n = true) (recorded live : Query) :
    parametersScore (Scale.exact n) recorded live ≤ parametersScore (Scale.exact n) live live := by
  have pos := Scale.increment_pos h
  have least := increment_le_parametersScore_self h live
  by_cases empty : live.isEmpty = true
  · rw [parametersScore_of_isEmpty h empty]
    split <;> omega
  · have most := parametersGain_le h recorded live
    rw [parametersScore_self h, if_neg empty] at least ⊢
    rw [parametersScore_exact (fun both => empty both.2)]
    omega

theorem parametersScore_eq_self_iff (h : Scale.isIncrement n = true) :
    parametersScore (Scale.exact n) recorded live = parametersScore (Scale.exact n) live live ↔
      SameParameters recorded live := by
  have pos := Scale.increment_pos h
  by_cases empty : live.isEmpty = true
  · rw [parametersScore_of_isEmpty h empty, parametersScore_of_isEmpty h empty, if_pos empty,
      sameParameters_iff_of_isEmpty empty]
    constructor
    · intro equal
      by_contra some
      rw [if_neg some] at equal
      exact Int.ne_of_lt pos equal
    · exact fun none => if_pos none
  · have least := increment_le_parametersScore_self h live
    rw [parametersScore_self h, if_neg empty] at least ⊢
    rw [parametersScore_exact (fun both => empty both.2), ← parametersGain_eq_iff h]
    omega

end

/-! ## Headers -/

/-- Whether each live header is recorded with the same values. -/
def SameHeaders (recorded live : Multimap String) : Prop :=
  ∀ name ∈ live.keys, recorded.contains name = true ∧
    SameValues ((recorded.getAll name).map some) ((live.getAll name).map some)

section

variable {n : Int} {recorded live : Multimap String}

/-- Headers score an increment for each live one that is recorded with the same values. -/
theorem headersScore_eq {s : Scale} (coherent : s.Coherent) :
    headersScore s recorded live =
      s.reduce ((live.keys.filter (sameHeader recorded live)).length * s.increment) := by
  have added : (live.keys.filter (sameHeader recorded live)).foldl
      (fun score _ => s.add score s.increment) 0 =
      s.reduce ((live.keys.filter (sameHeader recorded live)).map fun _ => s.increment).sum := by
    conv_lhs => rw [← coherent.zero]
    rw [foldl_eq_reduce_sum fun score _ => coherent.add score s.increment, Int.zero_add]
  simpa [headersScore] using added

theorem headersScore_exact :
    headersScore (Scale.exact n) recorded live =
      (live.keys.filter (sameHeader recorded live)).length * n :=
  headersScore_eq (Scale.coherent_exact n)

theorem sameHeader_iff {name : String} :
    sameHeader recorded live name = true ↔ recorded.contains name = true ∧
      SameValues ((recorded.getAll name).map some) ((live.getAll name).map some) := by
  rw [sameHeader, Bool.and_eq_true, sameValues_iff]

theorem sameHeaders_refl (live : Multimap String) : SameHeaders live live :=
  fun _ hname => ⟨Multimap.contains_of_mem_keys hname, SameValues.refl _⟩

theorem sameHeaders_iff : SameHeaders recorded live ↔
    (live.keys.filter (sameHeader recorded live)).length = live.keys.length := by
  simp only [List.length_filter_eq_length_iff, sameHeader_iff, SameHeaders]

theorem headersScore_self : headersScore (Scale.exact n) live live = live.keys.length * n := by
  rw [headersScore_exact, sameHeaders_iff.mp (sameHeaders_refl live)]

theorem headersScore_nonneg (h : Scale.isIncrement n = true) (recorded live : Multimap String) :
    0 ≤ headersScore (Scale.exact n) recorded live := by
  rw [headersScore_exact]
  exact Int.mul_nonneg (Int.natCast_nonneg _) (Int.le_of_lt (Scale.increment_pos h))

theorem headersScore_le_self (h : Scale.isIncrement n = true) (recorded live : Multimap String) :
    headersScore (Scale.exact n) recorded live ≤ headersScore (Scale.exact n) live live := by
  rw [headersScore_self, headersScore_exact]
  have := List.length_filter_le (sameHeader recorded live) live.keys
  exact Int.mul_le_mul_of_nonneg_right (by omega) (Int.le_of_lt (Scale.increment_pos h))

theorem headersScore_eq_self_iff (h : Scale.isIncrement n = true) :
    headersScore (Scale.exact n) recorded live = headersScore (Scale.exact n) live live ↔
      SameHeaders recorded live := by
  rw [headersScore_self, headersScore_exact, sameHeaders_iff,
    Int.mul_eq_mul_right_iff (Int.ne_of_gt (Scale.increment_pos h)), Int.natCast_inj]

end

end Playback.Rating
