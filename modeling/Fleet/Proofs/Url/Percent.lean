/-
Percent-encoding and back. A text without a percent sign is what its encoded form decodes
to (`decodeText?_encode`), and a segment that counts as one dot or two decodes to them, however the
dots are written.
-/
import Fleet.Url.Segments
import Mathlib.Data.UInt

namespace Fleet.Url

/-! ## Bytes -/

theorem utf8EncodeChar_hexDigit : ∀ n < 16,
    String.utf8EncodeChar (hexDigit n) = [(hexDigit n).toUInt8] ∧
      hexValue? (hexDigit n).toUInt8 = some (UInt8.ofNat n) := by
  decide

theorem decode_cons_of_ne {b : UInt8} (h : b ≠ 0x25) (bytes : List UInt8) :
    decode (b :: bytes) = b :: decode bytes := by
  rcases bytes with - | ⟨high, - | ⟨low, rest⟩⟩
  · rfl
  · rfl
  · have plain : (b == 0x25) = false := by simpa using h
    rw [decode, plain]
    rfl

theorem decode_triple {high low h l : UInt8} (hh : hexValue? high = some h)
    (hl : hexValue? low = some l) (bytes : List UInt8) :
    decode (0x25 :: high :: low :: bytes) = (16 * h + l) :: decode bytes := by
  rw [decode]
  simp [hh, hl]

/-- An encoded byte decodes to the byte. -/
theorem decode_encodeByte (b : UInt8) (bytes : List UInt8) :
    decode ((encodeByte b).flatMap String.utf8EncodeChar ++ bytes) = b :: decode bytes := by
  have hb := b.toNat_lt
  obtain ⟨high, hh⟩ := utf8EncodeChar_hexDigit (b.toNat / 16) (by omega)
  obtain ⟨low, hl⟩ := utf8EncodeChar_hexDigit (b.toNat % 16) (by omega)
  have percent : String.utf8EncodeChar '%' = [0x25] := by decide
  have value : 16 * UInt8.ofNat (b.toNat / 16) + UInt8.ofNat (b.toNat % 16) = b := by
    rw [← UInt8.toNat_inj]
    simp
    omega
  simp only [encodeByte, List.flatMap_cons, List.flatMap_nil, percent, high, low, List.append_nil,
    List.cons_append, List.nil_append]
  rw [decode_triple hh hl, value]

theorem decode_encodeBytes (bs bytes : List UInt8) :
    decode ((bs.flatMap encodeByte).flatMap String.utf8EncodeChar ++ bytes) =
      bs ++ decode bytes := by
  induction bs with
  | nil => rfl
  | cons b bs ih =>
    rw [List.flatMap_cons, List.flatMap_append, List.append_assoc, decode_encodeByte, ih,
      List.cons_append]

/-! ## Texts -/

/-- What is not encoded in a path is one byte in UTF-8. -/
theorem utf8EncodeChar_of_not_pathSet {c : Char} (h : pathSet c = false) :
    String.utf8EncodeChar c = [c.val.toUInt8] ∧ c.toNat < 0x7F := by
  have small : c.toNat < 0x7F := by
    by_contra large
    have control : controlSet c = true := by
      unfold controlSet
      simp only [Bool.or_eq_true, decide_eq_true_eq]
      omega
    simp [pathSet, fragmentSet, control] at h
  refine ⟨String.utf8EncodeChar_eq_singleton (Char.utf8Size_eq_one_iff.2 ?_), small⟩
  rw [UInt32.le_iff_toNat_le]
  show c.toNat ≤ 127
  omega

/-- An encoded character decodes to the bytes of the character. -/
theorem decode_encodeChar {c : Char} (hc : c ≠ '%') (bytes : List UInt8) :
    decode ((encodeChar pathSet c).flatMap String.utf8EncodeChar ++ bytes) =
      String.utf8EncodeChar c ++ decode bytes := by
  unfold encodeChar
  split
  · exact decode_encodeBytes _ _
  · rename_i h
    obtain ⟨single, small⟩ := utf8EncodeChar_of_not_pathSet (Bool.eq_false_iff.2 h)
    rw [List.flatMap_cons, List.flatMap_nil, List.append_nil, single, List.cons_append,
      List.nil_append, decode_cons_of_ne, List.cons_append, List.nil_append]
    intro percent
    refine hc (Char.toNat_inj.1 ?_)
    have value := congrArg UInt8.toNat percent
    simp only [UInt32.toNat_toUInt8] at value
    have whole : c.val.toNat = c.toNat := rfl
    rw [whole, Nat.mod_eq_of_lt (by omega)] at value
    exact value

theorem decode_encode {cs : List Char} (h : '%' ∉ cs) :
    decode ((encode pathSet cs).flatMap String.utf8EncodeChar) =
      cs.flatMap String.utf8EncodeChar := by
  induction cs with
  | nil => rfl
  | cons c cs ih =>
    have hc : c ≠ '%' := fun hc => h (hc ▸ List.mem_cons_self)
    rw [encode, List.flatMap_cons, List.flatMap_append, decode_encodeChar hc, List.flatMap_cons]
    exact congrArg _ (ih fun hm => h (List.mem_cons_of_mem _ hm))

theorem fromUTF8?_eq_some_iff {bytes : ByteArray} {s : String} :
    String.fromUTF8? bytes = some s ↔ s.toByteArray = bytes := by
  unfold String.fromUTF8?
  constructor
  · intro h
    split at h
    · cases h
      rfl
    · cases h
  · rintro rfl
    rw [dif_pos s.isValidUTF8]
    rfl

/-- The text of some bytes is the one that has these bytes. -/
theorem decodeText?_eq_some {cs ds : List Char}
    (h : decode (cs.flatMap String.utf8EncodeChar) = ds.flatMap String.utf8EncodeChar) :
    decodeText? cs = some (String.ofList ds) := by
  rw [decodeText?, fromUTF8?_eq_some_iff, h, String.toByteArray_ofList]
  ext1
  rw [List.utf8Encode, List.data_toByteArray]

theorem decodeText?_encode {cs : List Char} (h : '%' ∉ cs) :
    decodeText? (encode pathSet cs) = some (String.ofList cs) :=
  decodeText?_eq_some (decode_encode h)

/-! ## Dots -/

theorem eq_nil_of_plainDots {segment : List Char} (h : plainDots segment = []) : segment = [] := by
  unfold plainDots at h
  split at h
  · split at h <;> cases h
  · cases h
  · rfl

/-- A segment that begins with a dot, however it is written, decodes to a dot and the rest. -/
theorem decode_of_plainDots {segment more : List Char} (h : plainDots segment = '.' :: more) :
    ∃ rest, plainDots rest = more ∧ decode (segment.flatMap String.utf8EncodeChar) =
      0x2E :: decode (rest.flatMap String.utf8EncodeChar) := by
  unfold plainDots at h
  split at h
  · rename_i c cs
    split at h
    · rename_i letter
      obtain ⟨-, rfl⟩ := List.cons.inj h
      refine ⟨cs, rfl, ?_⟩
      simp only [Bool.or_eq_true, beq_iff_eq] at letter
      have two : hexValue? 0x32 = some 2 := by decide
      rcases letter with rfl | rfl
      · exact decode_triple two (show hexValue? 0x65 = some 14 by decide) _
      · exact decode_triple two (show hexValue? 0x45 = some 14 by decide) _
    · cases h
  · obtain ⟨rfl, rfl⟩ := List.cons.inj h
    exact ⟨_, rfl, decode_cons_of_ne (by decide) _⟩
  · cases h

theorem decodeText?_of_isDot {segment : List Char} (h : isDot segment) :
    decodeText? segment = some "." := by
  simp only [isDot, beq_iff_eq] at h
  obtain ⟨rest, hr, decoded⟩ := decode_of_plainDots h
  rw [eq_nil_of_plainDots hr] at decoded
  have text : decodeText? segment = some (String.ofList ['.']) := decodeText?_eq_some decoded
  exact text

theorem decodeText?_of_isDoubleDot {segment : List Char} (h : isDoubleDot segment) :
    decodeText? segment = some ".." := by
  simp only [isDoubleDot, beq_iff_eq] at h
  obtain ⟨rest, hr, decoded⟩ := decode_of_plainDots h
  obtain ⟨last, hl, decoded'⟩ := decode_of_plainDots hr
  rw [eq_nil_of_plainDots hl] at decoded'
  rw [decoded'] at decoded
  have text : decodeText? segment = some (String.ofList ['.', '.']) := decodeText?_eq_some decoded
  exact text

end Fleet.Url
