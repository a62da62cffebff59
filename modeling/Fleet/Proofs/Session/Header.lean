/-
The header that a credential is sent in holds the UTF-8 form of its text. The check of a credential
is on characters, and what breaks a header is bytes; no byte of a character that is not a control
character is a control byte (`printable_of_mem_utf8EncodeChar`), so every credential makes a header
(`fitsHeader`).
-/
import Fleet.Proofs.Session.Cookie

namespace Fleet

/-! ## Headers -/

/-- Whether a byte may stand in a header: it is no control byte, or it is the tab. -/
def isHeaderByte (b : UInt8) : Bool := b == 0x09 || (0x20 ≤ b && b != 0x7F)

namespace SessionCookie

/-- The UTF-8 form of a credential. -/
def bytes (cookie : SessionCookie) : List UInt8 := cookie.text.toUTF8.data.toList

/-- The header for a credential; there is none if one of the bytes may not stand in it. -/
def header? (cookie : SessionCookie) : Option (List UInt8) :=
  if cookie.bytes.all isHeaderByte then some cookie.bytes else none

/-- A byte that is no control byte, not even the tab. -/
def IsPrintable (b : UInt8) : Prop := 0x20 ≤ b ∧ b ≠ 0x7F

/-- The credential makes a header, and the header is the credential as it stands. -/
structure FitsHeader (cookie : SessionCookie) : Prop where
  printable : ∀ b ∈ cookie.bytes, IsPrintable b
  header : cookie.header? = some cookie.bytes
  /-- No white space stands at the ends, so none is lost on the way. -/
  tidy : Text.Tidy cookie.text

/-! ## From characters to bytes -/

theorem isHeaderByte_of_printable {b : UInt8} (h : IsPrintable b) : isHeaderByte b = true := by
  obtain ⟨low, delete⟩ := h
  simp [isHeaderByte, low, delete]

/-- The bytes of a character that is no control character are no control bytes: one byte is the
character itself, and several bytes are all above 0x7F. -/
theorem printable_of_mem_utf8EncodeChar {c : Char} (clean : Text.isControl c = false) {b : UInt8}
    (hb : b ∈ String.utf8EncodeChar c) : IsPrintable b := by
  have whole : c.val.toNat = c.toNat := rfl
  have apart : 0x20 ≤ c.toNat ∧ c.toNat ≠ 0x7F := by
    simp only [Text.isControl, Bool.or_eq_false_iff, Bool.and_eq_false_iff,
      decide_eq_false_iff_not] at clean
    omega
  suffices 0x20 ≤ b.toNat ∧ b.toNat ≠ 0x7F by
    constructor
    · exact UInt8.le_iff_toNat_le.2 this.1
    · rintro rfl
      exact this.2 rfl
  unfold String.utf8EncodeChar at hb
  simp only [whole] at hb
  repeat' split at hb
  all_goals
    simp only [List.mem_cons, List.not_mem_nil, or_false] at hb
    rcases hb with rfl | rfl | rfl | rfl <;>
      simp only [UInt8.toNat_ofNat'] <;> omega

theorem bytes_eq (cookie : SessionCookie) :
    cookie.bytes = cookie.text.toList.flatMap String.utf8EncodeChar := by
  have data := congrArg ByteArray.data (String.toByteArray_ofList (l := cookie.text.toList))
  rw [String.ofList_toList, List.utf8Encode, List.data_toByteArray] at data
  show cookie.text.toByteArray.data.toList = _
  rw [data]

theorem printable_of_mem_bytes {cookie : SessionCookie} {b : UInt8} (hb : b ∈ cookie.bytes) :
    IsPrintable b := by
  obtain ⟨-, -, clean⟩ := check_eq_ok_iff.1 cookie.checked
  rw [bytes_eq, List.mem_flatMap] at hb
  obtain ⟨c, hc, hb⟩ := hb
  exact printable_of_mem_utf8EncodeChar (clean c hc) hb

/-! ## Credentials -/

/-- Every credential makes a header. -/
theorem fitsHeader (cookie : SessionCookie) : cookie.FitsHeader where
  printable b := printable_of_mem_bytes
  header := if_pos (List.all_eq_true.2 fun _ hb =>
    isHeaderByte_of_printable (printable_of_mem_bytes hb))
  tidy := by
    obtain ⟨filled, -, -⟩ := check_eq_ok_iff.1 cookie.checked
    rw [← cookie.trimmed] at filled ⊢
    exact Text.tidy_trim (by simpa using filled)

end SessionCookie

end Fleet
