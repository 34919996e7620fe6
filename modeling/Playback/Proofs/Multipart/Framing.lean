import Playback.Multipart.Decode
import Playback.Proofs.Bytes.Search

/-! # Framed regions -/

namespace Playback.Multipart

open Bytes

variable {needle last : Bytes} {regions : List Bytes}

/-- Regions with a delimiter before each of them, then the delimiter that ends them, then `last`. -/
def framed (needle : Bytes) (regions : List Bytes) (last : Bytes) : Bytes :=
  (regions.flatMap fun region => needle ++ region) ++ (needle ++ last)

theorem framed_nil : framed needle [] last = needle ++ last := rfl

theorem framed_cons (region : Bytes) :
    framed needle (region :: regions) last =
      needle ++ (region ++ framed needle regions last) := by
  simp [framed, List.append_assoc]

theorem exists_framed (needle : Bytes) (regions : List Bytes) (last : Bytes) :
    ∃ rest, framed needle regions last = needle ++ rest := by
  cases regions with
  | nil => exact ⟨last, rfl⟩
  | cons region regions => exact ⟨_, framed_cons region⟩

/-- The places of delimiters of length `n`, the first of which stands at `place`. -/
def framePlaces (n place : Nat) : List Bytes → List Nat
  | [] => [place]
  | region :: regions => place :: framePlaces n (place + n + region.length) regions

theorem exists_framePlaces (n place : Nat) (regions : List Bytes) :
    ∃ places, framePlaces n place regions = place :: places := by
  cases regions with
  | nil => exact ⟨[], rfl⟩
  | cons region regions => exact ⟨_, rfl⟩

/-- The needle begins where the delimiters stand, and nowhere else. -/
theorem startsIn_framed (h : BorderFree needle) (nonempty : needle ≠ [])
    (inside : ∀ region ∈ regions, ∀ rest, NoneBegins needle region rest)
    (after : NoneBegins needle last []) {place : Nat} :
    startsIn needle place (framed needle regions last) [] =
      framePlaces needle.length place regions := by
  induction regions generalizing place with
  | nil =>
      rw [framed_nil, startsIn_append, h.startsIn_self nonempty, after.startsIn_eq_nil]
      rfl
  | cons region regions ih =>
      have first := inside region List.mem_cons_self (framed needle regions last ++ [])
      rw [framed_cons, startsIn_append, h.startsIn_self nonempty, startsIn_append,
        first.startsIn_eq_nil, List.nil_append,
        ih fun r hr => inside r (List.mem_cons_of_mem region hr)]
      rfl

theorem partBetween_append (front region rest : Bytes) :
    partBetween (front ++ (needle ++ (region ++ rest))) needle.length front.length
        (front.length + needle.length + region.length) = decodePart region := by
  have before : (front ++ (needle ++ (region ++ rest))).drop (front.length + needle.length) =
      region ++ rest := by
    rw [← List.append_assoc, ← List.length_append, List.drop_left]
  rw [partBetween, if_neg (by omega), before, Nat.add_sub_cancel_left, List.take_left]

theorem partsAt_cons_cons (body : Bytes) (n first next : Nat) (places : List Nat) :
    partsAt body n (first :: next :: places) = (do
      let part ← partBetween body n first next
      let parts ← partsAt body n (next :: places)
      pure (part :: parts)) := by
  simp [partsAt, List.mapM_cons]

/-- The parts of a framed text are read from its regions in order. -/
theorem partsAt_framed (front : Bytes) :
    partsAt (front ++ framed needle regions last) needle.length
        (framePlaces needle.length front.length regions) = regions.mapM decodePart := by
  induction regions generalizing front with
  | nil => rfl
  | cons region regions ih =>
      have shift : front ++ framed needle (region :: regions) last =
          (front ++ needle ++ region) ++ framed needle regions last := by
        simp [framed_cons]
      have later := ih (front ++ needle ++ region)
      rw [← shift, List.length_append, List.length_append] at later
      obtain ⟨places, next⟩ := exists_framePlaces needle.length
        (front.length + needle.length + region.length) regions
      rw [framePlaces, next, partsAt_cons_cons, ← next, later, framed_cons, partBetween_append,
        List.mapM_cons]

end Playback.Multipart
