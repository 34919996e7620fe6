import Playback.Coding.Lzw.Encoder
import Playback.Proofs.Lzw.Bits

/-! # Codes in groups read back -/

namespace Playback.Lzw

/-! ## Moves over a bit string -/

/-- A code of a width, or the rest of a group at a width. -/
inductive Move where
  | code (n width : Nat)
  | fill (width : Nat)

namespace Move

/-- The code that a move writes. -/
def code? : Move → Option Nat
  | code n _ => some n
  | fill _ => none

/-- Whether the width of a move is one of those that codes have, and its code is not wider. -/
def Fits : Move → Prop
  | code n width => n < 2 ^ width ∧ minWidth ≤ width ∧ width ≤ maxWidth
  | fill width => minWidth ≤ width ∧ width ≤ maxWidth

instance : DecidablePred Fits
  | code _ _ => inferInstanceAs (Decidable (_ ∧ _ ∧ _))
  | fill _ => inferInstanceAs (Decidable (_ ∧ _))

/-- The slot that a move leads to. -/
def slotAfter (slot : Nat) : Move → Nat
  | code _ _ => (slot + 1) % groupSize
  | fill _ => 0

/-- The bits of a move that is made at a slot. -/
def bits (slot : Nat) : Move → List Bool
  | code n width => lowBits n width
  | fill width => List.replicate ((groupSize - slot) % groupSize * width) false

end Move

/-- The bits of moves in a row, the first of them made at a slot. -/
def bitsOfMoves (slot : Nat) : List Move → List Bool
  | [] => []
  | m :: moves => m.bits slot ++ bitsOfMoves (m.slotAfter slot) moves

/-! ## Writing -/

namespace BitWriter

def move (w : BitWriter) : Move → BitWriter
  | .code n width => w.write n width
  | .fill width => w.padGroup width

/-- Whether a writer holds all the bits that it was given, and the word that it puts a code into, above
the bits that wait, has room for any code. -/
structure Keeps (w : BitWriter) (given : List Bool) : Prop where
  bits_eq : bitsOfBytes w.output.toList ++ lowBits w.waiting.toNat w.count = given
  waiting_lt : w.waiting.toNat < 2 ^ w.count
  room : ∀ n width, n < 2 ^ width → width ≤ maxWidth → ∃ word : UInt64,
    word.toNat = w.waiting.toNat + n * 2 ^ w.count ∧
      w.write n width = drain w.output word (w.count + width) ((w.slot + 1) % groupSize)

variable {w : BitWriter} {m : Move} {moves : List Move}

theorem Ready.keeps (hw : w.Ready) : w.Keeps w.bits := by
  refine ⟨rfl, hw.waiting_lt, fun n width hn hwidth => ⟨_, ?_, rfl⟩⟩
  rw [waiting_write hw hn hwidth, Nat.or_comm, ← Nat.shiftLeft_add_eq_or_of_lt hw.waiting_lt,
    Nat.shiftLeft_eq, Nat.add_comm]

theorem move_spec (hw : w.Ready) (fits : m.Fits) :
    (w.move m).bits = w.bits ++ m.bits w.slot ∧ (w.move m).slot = m.slotAfter w.slot ∧
      (w.move m).Ready := by
  cases m with
  | code n width => exact write_spec hw fits.1 fits.2.2
  | fill width => exact padGroup_spec hw fits.2

theorem foldl_move_spec (hw : w.Ready) (fits : ∀ m ∈ moves, m.Fits) :
    (moves.foldl move w).bits = w.bits ++ bitsOfMoves w.slot moves ∧ (moves.foldl move w).Ready := by
  induction moves generalizing w with
  | nil => exact ⟨by simp [bitsOfMoves], hw⟩
  | cons m moves ih =>
      obtain ⟨hbits, hslot, hready⟩ := move_spec hw (fits m List.mem_cons_self)
      obtain ⟨hrest, hlast⟩ := ih hready fun other hother =>
        fits other (List.mem_cons_of_mem m hother)
      refine ⟨?_, hlast⟩
      rw [List.foldl_cons, hrest, hbits, hslot, bitsOfMoves, List.append_assoc]

end BitWriter

/-! ## Reading -/

namespace BitReader

/-- The codes that a reader meets where moves write one, and the reader after the moves; `none` if a code
is missing. -/
def follow (r : BitReader) : List Move → Option (List Nat × BitReader)
  | [] => some ([], r)
  | .code _ width :: moves => do
    let (n, next) ← r.read? width
    let (codes, last) ← next.follow moves
    pure (n :: codes, last)
  | .fill width :: moves => (r.skipGroup width).follow moves

/-- A reader that has the bits of moves before it meets their codes, and the bits after them are left. -/
theorem follow_of_remaining {r : BitReader} {moves : List Move} {later : List Bool}
    (fits : ∀ m ∈ moves, m.Fits) (h : r.remaining = bitsOfMoves r.slot moves ++ later) :
    ∃ last : BitReader, r.follow moves = some (moves.filterMap Move.code?, last) ∧
      last.remaining = later := by
  induction moves generalizing r with
  | nil => exact ⟨r, rfl, h⟩
  | cons m moves ih =>
      have others : ∀ other ∈ moves, other.Fits := fun other hother =>
        fits other (List.mem_cons_of_mem m hother)
      rw [bitsOfMoves, List.append_assoc] at h
      -- The bits before the reader are those of the moves to come, counted from its own slot; each move
      -- takes its bits off and leads to the slot that the others are counted from.
      cases m with
      | code n width =>
          obtain ⟨small, least, -⟩ := fits (.code n width) List.mem_cons_self
          have positive : 0 < width := Nat.lt_of_lt_of_le (by decide) least
          obtain ⟨next, hread, hremaining, hslot⟩ := read?_of_remaining positive small h
          obtain ⟨last, hfollow, hlast⟩ := ih (r := next) others (by rw [hremaining, hslot]; rfl)
          refine ⟨last, ?_, hlast⟩
          simp [follow, hread, hfollow, Move.code?]
      | fill width =>
          have skipped : (r.skipGroup width).remaining = bitsOfMoves 0 moves ++ later :=
            remaining_skipGroup List.length_replicate h
          exact ih (r := r.skipGroup width) others skipped

/-- What moves have written behind a header, the same moves read: all codes, in order, and nothing is
left for another one. No bit is lost on the way, whatever waits in the word of the writer. -/
theorem follow_finish {moves : List Move} (fits : ∀ m ∈ moves, m.Fits) (header : Bytes) :
    (∃ (body : Bytes) (last : BitReader),
      (moves.foldl BitWriter.move (BitWriter.after header)).finish = header ++ body ∧
        (start body).follow moves = some (moves.filterMap Move.code?, last) ∧
        ∀ width, minWidth ≤ width → last.read? width = none) ∧
      ∀ taken, taken <+: moves →
        (taken.foldl BitWriter.move (BitWriter.after header)).Keeps
          (bitsOfBytes header ++ bitsOfMoves 0 taken) := by
  constructor
  · obtain ⟨hbits, hready⟩ := BitWriter.foldl_move_spec (BitWriter.ready_after header) fits
    obtain ⟨spare, short, hfinish⟩ := BitWriter.finish_spec hready
    rw [hbits, BitWriter.bits_after, List.append_assoc] at hfinish
    obtain ⟨body, whole, hbody⟩ := bitsOfBytes_eq_append hfinish
    obtain ⟨last, hfollow, hlast⟩ := follow_of_remaining (r := start body) fits
      (by rw [remaining_start, hbody]; rfl)
    refine ⟨body, last, whole, hfollow, fun width least => read?_eq_none ?_⟩
    rw [hlast]
    exact Nat.lt_of_lt_of_le short (Nat.le_trans (by decide) least)
  · intro taken htaken
    obtain ⟨hbits, hready⟩ := BitWriter.foldl_move_spec (BitWriter.ready_after header)
      fun m hm => fits m (htaken.subset hm)
    rw [BitWriter.bits_after] at hbits
    exact hbits ▸ hready.keeps

/-- Codes of three widths, and groups that are filled up at widths of their own. -/
def someMoves : List Move :=
  [.code 0x1FF 9, .fill 16, .fill 9, .code 0x8001 16, .code 0x200 10, .fill 10]

/-- The second filling finds its group begun anew and writes nothing; after the third, which ends in the
middle of a byte, too little is left for a code. -/
theorem follow_finish_someMoves :
    (∀ m ∈ someMoves, m.Fits) ∧
      ∃ (body : Bytes) (last : BitReader),
        (someMoves.foldl BitWriter.move (BitWriter.after marker)).finish = marker ++ body ∧
          (start body).follow someMoves = some ([0x1FF, 0x8001, 0x200], last) ∧
          last.read? 9 = none := by
  have fits : ∀ m ∈ someMoves, m.Fits := by
    decide
  obtain ⟨⟨body, last, whole, read, none⟩, -⟩ := follow_finish fits marker
  exact ⟨fits, body, last, whole, read, none 9 (by decide)⟩

end BitReader

end Playback.Lzw
