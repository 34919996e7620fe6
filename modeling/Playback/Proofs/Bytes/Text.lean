import Playback.Bytes.Basic

/-! # Texts as byte strings -/

namespace Playback.Bytes

theorem ofText_eq_flatMap (s : String) : ofText s = s.toList.flatMap String.utf8EncodeChar := by
  rw [ofText, ← String.utf8Encode_toList, List.utf8Encode, List.data_toByteArray]

@[simp] theorem ofText_ofList (cs : List Char) :
    ofText (String.ofList cs) = cs.flatMap String.utf8EncodeChar := by
  rw [ofText_eq_flatMap, String.toList_ofList]

@[simp] theorem ofText_append (s t : String) : ofText (s ++ t) = ofText s ++ ofText t := by
  simp [ofText_eq_flatMap]

theorem ofText_inj {s t : String} : ofText s = ofText t ↔ s = t := by
  refine ⟨fun h => ?_, fun h => h ▸ rfl⟩
  have := congrArg toText? h
  simpa using this

theorem utf8EncodeChar_of_ascii {c : Char} (h : c.toNat < 128) :
    String.utf8EncodeChar c = [UInt8.ofNat c.toNat] := by
  rw [String.utf8EncodeChar, show c.val.toNat = c.toNat from rfl, if_pos (Nat.le_of_lt_succ h)]

theorem utf8EncodeChar_of_mem {c : Char} {b : UInt8} (h : b ∈ String.utf8EncodeChar c)
    (hb : b < 0x80) : c = Char.ofNat b.toNat := by
  have hb' : b.toNat < 128 := hb
  have bound : c.toNat < 0x110000 := by
    have := c.valid
    simp only [UInt32.isValidChar, Nat.isValidChar] at this
    have same : c.val.toNat = c.toNat := rfl
    omega
  have toNat_ofNat {n : Nat} (hn : n < 256) : (UInt8.ofNat n).toNat = n := by
    simpa using Nat.mod_eq_of_lt hn
  rw [String.utf8EncodeChar, show c.val.toNat = c.toNat from rfl] at h
  split at h
  · rw [List.mem_singleton] at h
    rw [h, toNat_ofNat (by omega), Char.ofNat_toNat]
  -- In the longer forms the lead byte and the continuation bytes are all from 128 on.
  · exfalso
    split at h
    · simp only [List.mem_cons, List.not_mem_nil, or_false] at h
      rcases h with rfl | rfl <;> rw [toNat_ofNat (by omega)] at hb' <;> omega
    · split at h <;> simp only [List.mem_cons, List.not_mem_nil, or_false] at h
      · rcases h with rfl | rfl | rfl <;> rw [toNat_ofNat (by omega)] at hb' <;> omega
      · rcases h with rfl | rfl | rfl | rfl <;> rw [toNat_ofNat (by omega)] at hb' <;> omega

/-- A byte below 128 in the form of a text is one of its characters. -/
theorem mem_of_mem_ofText {s : String} {b : UInt8} (h : b ∈ ofText s) (hb : b < 0x80) :
    Char.ofNat b.toNat ∈ s.toList := by
  rw [ofText_eq_flatMap, List.mem_flatMap] at h
  obtain ⟨c, hc, hbc⟩ := h
  rwa [← utf8EncodeChar_of_mem hbc hb]

end Playback.Bytes
