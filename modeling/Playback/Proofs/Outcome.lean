import Mathlib.Data.List.Forall2

/-! # Results that may fail -/

namespace Playback

variable {ε α β : Type}

/-- A chain that succeeds, succeeds step by step. -/
theorem exists_ok_of_bind_eq_ok {x : Except ε α} {f : α → Except ε β} {b : β}
    (h : (x >>= f) = .ok b) : ∃ a, x = .ok a ∧ f a = .ok b := by
  cases x with
  | error e => cases h
  | ok a => exact ⟨a, rfl, h⟩

theorem exists_ok_of_isOk {x : Except ε α} (h : x.isOk = true) : ∃ a, x = .ok a := by
  cases x with
  | error e => cases h
  | ok a => exact ⟨a, rfl⟩

/-- A function that fails with one fault only, fails on a list that has an element it fails on. -/
theorem mapM_eq_ite {f : α → Except ε β} {g : α → β} {p : α → Prop} [DecidablePred p] {fault : ε}
    {l : List α} (h : ∀ a ∈ l, f a = if p a then .ok (g a) else .error fault) :
    l.mapM f = if ∀ a ∈ l, p a then .ok (l.map g) else .error fault := by
  induction l with
  | nil => rfl
  | cons a l ih =>
      rw [List.mapM_cons, h a List.mem_cons_self, ih fun b hb => h b (List.mem_cons_of_mem a hb)]
      by_cases first : p a
      · rw [if_pos first]
        by_cases others : ∀ b ∈ l, p b
        · rw [if_pos others, if_pos (List.forall_mem_cons.mpr ⟨first, others⟩)]
          rfl
        · rw [if_neg others, if_neg fun all => others (List.forall_mem_cons.mp all).2]
          rfl
      · rw [if_neg first, if_neg fun all => first (List.forall_mem_cons.mp all).1]
        rfl

theorem mapM_eq_pure {m : Type → Type} [Monad m] [LawfulMonad m] {f : α → m β} {g : α → β}
    {l : List α} (h : ∀ a ∈ l, f a = pure (g a)) : l.mapM f = pure (l.map g) := by
  induction l with
  | nil => rfl
  | cons a l ih =>
      rw [List.mapM_cons, h a (by simp), ih fun b hb => h b (by simp [hb])]
      simp

theorem mapM_eq_ok {f : α → Except ε β} {g : α → β} {l : List α}
    (h : ∀ a ∈ l, f a = .ok (g a)) : l.mapM f = .ok (l.map g) :=
  mapM_eq_pure h

theorem mapM_congr {f g : α → Except ε β} {l : List α} (h : ∀ a ∈ l, f a = g a) :
    l.mapM f = l.mapM g := by
  induction l with
  | nil => rfl
  | cons a l ih =>
      rw [List.mapM_cons, List.mapM_cons, h a (by simp), ih fun b hb => h b (by simp [hb])]

theorem forall₂_of_mapM_eq_ok {f : α → Except ε β} {l : List α} {results : List β}
    (h : l.mapM f = .ok results) : List.Forall₂ (fun a b => f a = .ok b) l results := by
  induction l generalizing results with
  | nil =>
      cases h
      exact .nil
  | cons a l ih =>
      rw [List.mapM_cons] at h
      obtain ⟨b, hb, h⟩ := exists_ok_of_bind_eq_ok h
      obtain ⟨bs, hbs, h⟩ := exists_ok_of_bind_eq_ok h
      cases h
      exact .cons hb (ih hbs)

theorem exists_error_of_mapM {f : α → Except ε β} {l : List α} {fault : ε}
    (h : l.mapM f = .error fault) : ∃ a ∈ l, f a = .error fault := by
  induction l with
  | nil => cases h
  | cons a l ih =>
      rw [List.mapM_cons] at h
      cases first : f a with
      | error e =>
          rw [first] at h
          cases h
          exact ⟨a, List.mem_cons_self, first⟩
      | ok b =>
          cases others : l.mapM f with
          | error e =>
              rw [first, others] at h
              cases h
              obtain ⟨c, hc, failed⟩ := ih others
              exact ⟨c, List.mem_cons_of_mem a hc, failed⟩
          | ok bs =>
              rw [first, others] at h
              cases h

end Playback
