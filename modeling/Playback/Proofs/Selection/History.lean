import Mathlib.Data.Finset.Card
import Playback.Proofs.Selection.Tally
import Playback.Selection.Session

/-! # Sessions by their histories -/

namespace Playback

theorem Tally.Counts.size_eq {α : Type} [BEq α] [DecidableEq α] {t : Tally α} {l : List α}
    (h : t.Counts l) : t.size = l.toFinset.card := by
  have same : (t.counts.map Prod.fst).toFinset = l.toFinset := by
    ext a
    rw [List.mem_toFinset, List.mem_toFinset, h.mem_iff]
  rw [← same, List.toFinset_card_of_nodup h.nodup, List.length_map, size]

namespace Session

/-- What is done with a session. -/
inductive Step where
  | register (r : Request)
  | query (r : Request)
  | reset
  | distinct

namespace Step

/-- Whether a step only asks. -/
def asks : Step → Bool
  | query _ | distinct => true
  | register _ | reset => false

def isReset : Step → Bool
  | reset => true
  | _ => false

/-- The signature that a step registers. -/
def signature? : Step → Option Signature
  | register r => some r.signature
  | _ => none

end Step

/-- The session after a step, and the number that the step asks for. -/
def step (s : Session) : Step → Session × Option Int
  | .register r => (s.register r, none)
  | .query r => (s, some (s.occurrence r))
  | .reset => (s.reset, none)
  | .distinct => (s, some s.distinctRequests)

/-- The session after steps in a row, and what each of them was answered. -/
def run (s : Session) : List Step → Session × List (Option Int)
  | [] => (s, [])
  | first :: others =>
    let next := s.step first
    let final := run next.1 others
    (final.1, next.2 :: final.2)

/-- The signatures registered since the last reset, the latest first. -/
def registered (history : List Step) : List Signature :=
  (history.reverse.takeWhile fun step => !step.isReset).filterMap Step.signature?

/-- The answer that a history calls for. -/
def answerAfter (history : List Step) : Step → Option Int
  | .query r => some ((registered history).count r.signature - 1)
  | .distinct => some (registered history).toFinset.card
  | .register _ | .reset => none

/-! ## One step -/

/-- A session that counts what a history has registered. -/
def Remembers (s : Session) (history : List Step) : Prop :=
  ∃ tally : Tally Signature, s = counting tally ∧ tally.Counts (registered history)

variable {s : Session} {history : List Step}

theorem remembers_fresh : fresh.Remembers [] :=
  ⟨Tally.empty, rfl, Tally.counts_empty⟩

theorem registered_concat (step : Step) : registered (history ++ [step]) =
    if step.isReset then [] else step.signature?.toList ++ registered history := by
  rw [registered, List.reverse_append, List.reverse_singleton, List.singleton_append,
    List.takeWhile_cons]
  cases step <;> rfl

/-- A step goes on with the history and is answered from it. -/
theorem Remembers.step (h : s.Remembers history) (step : Step) :
    (s.step step).1.Remembers (history ++ [step]) ∧
      (s.step step).2 = answerAfter history step := by
  obtain ⟨tally, rfl, counts⟩ := h
  rw [Remembers, registered_concat]
  cases step with
  | register r => exact ⟨⟨_, rfl, counts.add r.signature⟩, rfl⟩
  | query r =>
      refine ⟨⟨_, rfl, counts⟩, ?_⟩
      rw [Session.step, occurrence, counts.count_eq, answerAfter]
  | reset => exact ⟨⟨_, rfl, Tally.counts_empty⟩, rfl⟩
  | distinct =>
      refine ⟨⟨_, rfl, counts⟩, ?_⟩
      rw [Session.step, distinctRequests, counts.size_eq, answerAfter]

/-! ## Steps in a row -/

theorem Remembers.run (h : s.Remembers history) (steps : List Step) :
    (s.run steps).1.Remembers (history ++ steps) ∧
      ∀ i : Nat, (s.run steps).2[i]? =
        steps[i]?.map (answerAfter (history ++ steps.take i)) := by
  induction steps generalizing s history with
  | nil => exact ⟨by rwa [List.append_nil], fun i => rfl⟩
  | cons first others ih =>
      obtain ⟨next, answer⟩ := h.step first
      obtain ⟨final, answers⟩ := ih next
      rw [List.append_assoc] at final
      refine ⟨final, fun i => ?_⟩
      cases i with
      | zero => simp [Session.run, answer]
      | succ i => simpa [Session.run] using answers i

theorem run_append (s : Session) (front back : List Step) :
    s.run (front ++ back) =
      (((s.run front).1.run back).1, (s.run front).2 ++ ((s.run front).1.run back).2) := by
  induction front generalizing s with
  | nil => rfl
  | cons first front ih => rw [List.cons_append, run, run, ih]; rfl

theorem length_answers (s : Session) (steps : List Step) :
    (s.run steps).2.length = steps.length := by
  induction steps generalizing s with
  | nil => rfl
  | cons first others ih => rw [run, List.length_cons, ih, List.length_cons]

theorem step_of_asks {question : Step} (h : question.asks = true) : (s.step question).1 = s := by
  cases question with
  | query | distinct => rfl
  | register | reset => cases h

/-- A question that is left out leaves the session and all other answers as they are. -/
theorem run_without {question : Step} (asks : question.asks = true) (s : Session)
    (before after : List Step) :
    (s.run (before ++ question :: after)).1 = (s.run (before ++ after)).1 ∧
      (s.run (before ++ question :: after)).2.eraseIdx before.length =
        (s.run (before ++ after)).2 := by
  rw [run_append, run_append, run, step_of_asks asks]
  refine ⟨rfl, ?_⟩
  rw [List.eraseIdx_append_of_length_le (by rw [length_answers]), length_answers, Nat.sub_self,
    List.eraseIdx_cons_zero]

/-- In a session that starts fresh, every request is answered with how often its signature was
registered since the last reset less one, and the number of different requests with how many
signatures those are. A request that was not registered since then, and no other, is answered with
`-1`. Asking changes nothing. -/
theorem run_fresh_answers (steps : List Step) :
    (∀ i : Nat, (fresh.run steps).2[i]? = steps[i]?.map (answerAfter (steps.take i))) ∧
      (∀ r, (fresh.run steps).1.occurrence r = (registered steps).count r.signature - 1) ∧
      (∀ r, (fresh.run steps).1.occurrence r = -1 ↔ r.signature ∉ registered steps) ∧
      (fresh.run steps).1.distinctRequests = (registered steps).toFinset.card ∧
      ∀ before question after, question.asks = true → steps = before ++ question :: after →
        (fresh.run steps).1 = (fresh.run (before ++ after)).1 ∧
          (fresh.run steps).2.eraseIdx before.length = (fresh.run (before ++ after)).2 := by
  obtain ⟨⟨tally, final, counts⟩, answers⟩ := remembers_fresh.run steps
  rw [List.nil_append] at counts
  have occurrence (r : Request) :
      (fresh.run steps).1.occurrence r = (registered steps).count r.signature - 1 := by
    rw [final, Session.occurrence, counts.count_eq]
  refine ⟨answers, occurrence, fun r => ?_, ?_, ?_⟩
  · rw [occurrence, ← List.count_eq_zero]
    omega
  · rw [final, distinctRequests, counts.size_eq]
  · rintro before question after asks rfl
    exact run_without asks fresh before after

/-- A request for a page. -/
def pageRequest : Request :=
  .plain .get ⟨some "http", "h", none, "/a", none⟩

/-- The same request as a `POST`. -/
def postRequest : Request :=
  .plain .post ⟨some "http", "h", none, "/a", none⟩

/-- Steps with a reset among them. -/
def someSteps : List Step :=
  [.register pageRequest, .reset, .register pageRequest, .register postRequest,
    .register pageRequest, .query pageRequest, .distinct]

/-- What was registered before the reset does not count, and a question may be left out. -/
theorem run_fresh_answers_someSteps :
    (fresh.run someSteps).2[5]? = some (some 1) ∧ (fresh.run someSteps).2[6]? = some (some 2) ∧
      (fresh.run someSteps).1 = (fresh.run (someSteps.eraseIdx 5)).1 := by
  obtain ⟨answers, -, -, -, without⟩ := run_fresh_answers someSteps
  refine ⟨?_, ?_, (without (someSteps.take 5) (.query pageRequest) [.distinct] rfl rfl).1⟩
  · rw [answers]
    decide +kernel
  · rw [answers]
    decide +kernel

end Session

end Playback
