import Playback.Capture.Exchange
import Playback.Proofs.Text.Base64.Reading

/-! # Recorded bodies in base64 -/

namespace Playback.CapturedContent

open Text (trim trimmed)

variable {c : CapturedContent} {encoding : String} {b : Bytes}

theorem bytes_of_base64 (h : c.encoding = some encoding)
    (base64 : Text.equalsIgnoringCase encoding "base64" = true) :
    c.bytes = (Text.Base64.decode (Bytes.ofText (trim c.text))).mapError .invalidBase64 := by
  rw [bytes, h]
  dsimp only
  rw [if_pos base64]
  cases Text.Base64.decode (Bytes.ofText (trim c.text)) <;> rfl

theorem bytes_eq_ok_iff (h : c.encoding = some encoding)
    (base64 : Text.equalsIgnoringCase encoding "base64" = true) :
    c.bytes = .ok b ↔ trim c.text = String.ofList (Text.Base64.encode b) := by
  rw [bytes_of_base64 h base64, ← Text.Base64.decode_ofText_eq_ok_iff]
  cases Text.Base64.decode (Bytes.ofText (trim c.text)) <;> simp [Except.mapError]

theorem bytes_eq_error_iff (h : c.encoding = some encoding)
    (base64 : Text.equalsIgnoringCase encoding "base64" = true) :
    (∃ fault, c.bytes = .error (.invalidBase64 fault)) ↔ ∀ b, c.bytes ≠ .ok b := by
  rw [bytes_of_base64 h base64]
  cases Text.Base64.decode (Bytes.ofText (trim c.text)) <;> simp [Except.mapError]

theorem trim_encode (b : Bytes) :
    trim (String.ofList (Text.Base64.encode b)) = String.ofList (Text.Base64.encode b) := by
  rw [trim, String.toList_ofList,
    (Text.isTrimmed_of_noBlank fun _ hc => (Text.Base64.ascii_of_mem_encode hc).2).trimmed_eq]

/-- Bytes come back from the text they are written with. Conversely a text is read just if it is, up
to blanks around it, the text that the bytes are written with, which is the one that spells their
bits; and it is refused just if it is not canonical: if a character is no digit, if the padding does
not fill up the last group, or if bits behind the last byte are not zero. -/
theorem bytes_binary_iff (mimeType : String) :
    (∀ b, (binary mimeType b).bytes = .ok b) ∧
      ∀ (c : CapturedContent) (encoding : String), c.encoding = some encoding →
        Text.equalsIgnoringCase encoding "base64" = true →
        (∀ b, c.bytes = .ok b ↔ trim c.text = (binary mimeType b).text) ∧
        (∀ b, c.bytes = .ok b ↔ Text.Base64.Spells (trimmed c.text.toList) b) ∧
        ((∃ fault, c.bytes = .error (.invalidBase64 fault)) ↔
          ¬∃ values padding, Text.Base64.Canonical (trimmed c.text.toList) values padding) := by
  have written (text : List Char) (b : Bytes) :
      String.ofList text = String.ofList (Text.Base64.encode b) ↔
        text = Text.Base64.encode b := String.ofList_inj
  refine ⟨fun b => ?_, fun c encoding h base64 => ⟨fun b => ?_, fun b => ?_, ?_⟩⟩
  · exact (bytes_eq_ok_iff rfl (by decide)).mpr (trim_encode b)
  · exact bytes_eq_ok_iff h base64
  · rw [bytes_eq_ok_iff h base64, trim, written, Text.Base64.spells_iff]
  · rw [bytes_eq_error_iff h base64, Text.Base64.exists_canonical_iff, not_exists]
    refine forall_congr' fun b => not_congr ?_
    rw [bytes_eq_ok_iff h base64, trim, written]

/-- Three bytes with blanks around their text. -/
def withBlanks : CapturedContent :=
  ⟨some "image/png", "\tAJ+S\n", some "Base64"⟩

theorem bytes_binary_iff_withBlanks :
    withBlanks.encoding = some "Base64" ∧ Text.equalsIgnoringCase "Base64" "base64" = true ∧
      trim withBlanks.text = (binary "image/png" [0, 159, 146]).text ∧
      withBlanks.bytes = .ok [0, 159, 146] := by
  have same : trim withBlanks.text = (binary "image/png" [0, 159, 146]).text := by
    decide +kernel
  have base64 : Text.equalsIgnoringCase "Base64" "base64" = true := by
    decide
  obtain ⟨-, converse⟩ := bytes_binary_iff "image/png"
  exact ⟨rfl, base64, same, ((converse withBlanks "Base64" rfl base64).1 _).mpr same⟩

-- Padding is missing, bits are left over, or a blank or a foreign character stands inside.
example :
    ["QQ=", "QR==", "QU JD", "QUJ_"].map (fun text => bytes ⟨none, text, some "base64"⟩) =
      [.invalidPadding, .invalidLastSymbol 1 0x52, .invalidByte 2 0x20, .invalidByte 3 0x5F].map
        (fun fault => .error (.invalidBase64 fault)) := by
  decide +kernel

end Playback.CapturedContent
