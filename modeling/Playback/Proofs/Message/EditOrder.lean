import Mathlib.Data.List.FinRange
import Playback.Message.Edit

/-! # Edits in turn and in another order -/

namespace Playback

/-- A part of a payload. -/
inductive Payload.Part where
  | headers
  | mediaType
  | body
deriving DecidableEq, Repr

namespace Edit

/-- The parts that an edit changes. -/
def parts : Edit → List Payload.Part
  | body _ => [.body]
  | mediaType _ => [.mediaType]
  | headers _ => [.headers]
  | contentType _ => [.mediaType, .headers]

/-- Whether two edits change the same part. -/
def SharePart (d e : Edit) : Prop :=
  ∃ part ∈ d.parts, part ∈ e.parts

instance (d e : Edit) : Decidable (d.SharePart e) :=
  inferInstanceAs (Decidable (∃ part ∈ d.parts, part ∈ e.parts))

/-! ## What an edit does to each part -/

def onHeaders : Edit → List Field → List Field
  | headers change, fields => change fields
  | contentType type, fields => Payload.replaceHeader "Content-Type" type.print fields
  | _, fields => fields

def onMediaType : Edit → MediaType → MediaType
  | mediaType change, type => change type
  | contentType type, _ => type
  | _, type => type

def onBody : Edit → Body → Body
  | body change, b => change b
  | _, b => b

section

variable {e : Edit}

theorem onHeaders_eq_self (h : .headers ∉ e.parts) (fields : List Field) :
    e.onHeaders fields = fields := by
  cases e with
  | headers | contentType => simp [parts] at h
  | body | mediaType => rfl

theorem onMediaType_eq_self (h : .mediaType ∉ e.parts) (type : MediaType) :
    e.onMediaType type = type := by
  cases e with
  | mediaType | contentType => simp [parts] at h
  | body | headers => rfl

theorem onBody_eq_self (h : .body ∉ e.parts) (b : Body) : e.onBody b = b := by
  cases e with
  | body => simp [parts] at h
  | mediaType | headers | contentType => rfl

end

end Edit

namespace Payload

variable (p : Payload) (edits : List Edit)

/-- A payload after one edit. -/
def after (p : Payload) (e : Edit) : Payload :=
  ⟨e.onHeaders p.headers, e.onMediaType p.mediaType, e.onBody p.body⟩

/-- An edit that is added to the queues is carried out after the others. -/
theorem run_push (q : EditQueues) (e : Edit) : (q.push e).run p = (q.run p).after e := by
  cases e <;> simp [EditQueues.push, EditQueues.run, after, Edit.onHeaders, Edit.onMediaType,
    Edit.onBody]

theorem run_foldl_push (q : EditQueues) :
    (edits.foldl EditQueues.push q).run p = edits.foldl after (q.run p) := by
  induction edits generalizing q with
  | nil => rfl
  | cons e edits ih => rw [List.foldl_cons, ih, run_push, List.foldl_cons]

theorem edit_eq_foldl_after : p.edit edits = edits.foldl after p :=
  run_foldl_push p edits EditQueues.empty

theorem edit_singleton (e : Edit) : p.edit [e] = p.after e := by
  rw [edit_eq_foldl_after, List.foldl_cons, List.foldl_nil]

theorem edit_eq_foldl_edit : p.edit edits = edits.foldl (fun p e => p.edit [e]) p := by
  simp only [edit_singleton, edit_eq_foldl_after p edits]

/-- The edits of one part, in order. -/
def touching (part : Part) (edits : List Edit) : List Edit :=
  edits.filter fun e => part ∈ e.parts

/-- A part is made by the edits that change it. -/
theorem foldl_touching {α : Type} (part : Part) (change : Edit → α → α)
    (other : ∀ e : Edit, part ∉ e.parts → ∀ a, change e a = a) (a : α) :
    (touching part edits).foldl (fun a e => change e a) a =
      edits.foldl (fun a e => change e a) a := by
  induction edits generalizing a with
  | nil => rfl
  | cons e edits ih =>
      rw [touching, List.filter_cons]
      split
      case isTrue => exact ih _
      case isFalse untouched =>
        rw [List.foldl_cons, other e (by simpa using untouched)]
        exact ih a

theorem foldl_after (edits : List Edit) :
    edits.foldl after p = ⟨edits.foldl (fun fields e => e.onHeaders fields) p.headers,
      edits.foldl (fun type e => e.onMediaType type) p.mediaType,
      edits.foldl (fun body e => e.onBody body) p.body⟩ := by
  induction edits generalizing p with
  | nil => rfl
  | cons e edits ih =>
      rw [List.foldl_cons, ih]
      rfl

/-- Whether edits that change the same part are in the order they had. -/
def KeepsOrder (edits : List Edit) (σ : Equiv.Perm (Fin edits.length)) : Prop :=
  ∀ j k, j < k → edits[σ j].SharePart edits[σ k] → σ j < σ k

variable {edits} {σ : Equiv.Perm (Fin edits.length)}

/-- In both orders the places of the edits of a part rise, and they are the same places. -/
theorem places_reordered (part : Part) (ordered : KeepsOrder edits σ) :
    (List.ofFn σ).filter (fun i => part ∈ edits[i].parts) =
      (List.finRange edits.length).filter fun i => part ∈ edits[i].parts := by
  have same : (List.ofFn σ).Perm (List.finRange edits.length) := by
    rw [List.ofFn_eq_map]
    exact σ.map_finRange_perm
  have shared : (List.ofFn σ).Pairwise fun i j => edits[i].SharePart edits[j] → i < j :=
    List.pairwise_ofFn.mpr ordered
  have rising : ((List.ofFn σ).filter fun i => part ∈ edits[i].parts).Pairwise (· < ·) := by
    refine (shared.filter _).imp_of_mem fun hi hj less => less ⟨part, ?_, ?_⟩
    · simpa using (List.mem_filter.mp hi).2
    · simpa using (List.mem_filter.mp hj).2
  have counted := (List.pairwise_lt_finRange edits.length).filter fun i => part ∈ edits[i].parts
  exact List.Perm.eq_of_pairwise (fun i j _ _ less greater => absurd less (lt_asymm greater))
    rising counted (same.filter _)

theorem touching_reordered (part : Part) (ordered : KeepsOrder edits σ) :
    touching part (List.ofFn fun k => edits[σ k]) = touching part edits := by
  have chosen (places : List (Fin edits.length)) :
      touching part (places.map fun i => edits[i]) =
        (places.filter fun i => part ∈ edits[i].parts).map fun i => edits[i] := by
    rw [touching, List.filter_map]
    rfl
  have given : (List.finRange edits.length).map (fun i => edits[i]) = edits :=
    List.map_getElem_finRange edits
  have reordered : (List.ofFn σ).map (fun i => edits[i]) = List.ofFn fun k => edits[σ k] :=
    List.map_ofFn
  rw [← reordered, chosen, places_reordered part ordered, ← chosen, given]

theorem edit_congr {edits edits' : List Edit}
    (h : ∀ part, touching part edits' = touching part edits) : p.edit edits' = p.edit edits := by
  have same {α : Type} (part : Part) (change : Edit → α → α)
      (other : ∀ e : Edit, part ∉ e.parts → ∀ a, change e a = a) (a : α) :
      edits'.foldl (fun a e => change e a) a = edits.foldl (fun a e => change e a) a := by
    rw [← foldl_touching edits' part change other, h, foldl_touching edits part change other]
  rw [edit_eq_foldl_after, edit_eq_foldl_after, foldl_after, foldl_after,
    same .headers Edit.onHeaders fun _ => Edit.onHeaders_eq_self,
    same .mediaType Edit.onMediaType fun _ => Edit.onMediaType_eq_self,
    same .body Edit.onBody fun _ => Edit.onBody_eq_self]

/-- Edits carried out together do to every part what each of them does to it in turn. So they come to
the same as edits carried out one at a time, and to the same as in any order that keeps those that change
the same part in order. -/
theorem edit_in_turn (p : Payload) (edits : List Edit) :
    p.edit edits = edits.foldl after p ∧
      p.edit edits = edits.foldl (fun p e => p.edit [e]) p ∧
      ∀ σ, KeepsOrder edits σ → p.edit (List.ofFn fun k => edits[σ k]) = p.edit edits :=
  ⟨edit_eq_foldl_after p edits, edit_eq_foldl_edit p edits, fun _ ordered =>
    edit_congr p fun part => touching_reordered part ordered⟩

/-- Edits of all parts. -/
def someEdits : List Edit :=
  [.body fun _ => .stored [0x61], .setHeader "Content-Length" "1", .contentType .octetStream,
    .headers List.reverse]

/-- The first two edits change places. -/
theorem edit_in_turn_swapped :
    KeepsOrder someEdits (Equiv.swap ⟨0, by decide⟩ ⟨1, by decide⟩) ∧
      Response.notFound.payload.edit
          [.setHeader "Content-Length" "1", .body fun _ => .stored [0x61],
            .contentType .octetStream, .headers List.reverse] =
        Response.notFound.payload.edit someEdits := by
  have ordered : KeepsOrder someEdits (Equiv.swap ⟨0, by decide⟩ ⟨1, by decide⟩) := by
    unfold KeepsOrder
    decide
  exact ⟨ordered, (edit_in_turn Response.notFound.payload someEdits).2.2 _ ordered⟩

end Payload

end Playback
