/-
The texts of numbers hold digits, a sign, a point and the letter of an exponent, so there is no
white space in them (`Json.Number.solid_toText`, `Layout.solid_text`).
-/
import Fleet.Json.Printer
import Fleet.Proofs.Text.Tidy

namespace Fleet

/-! ## Characters of numerals -/

/-- The characters of the texts of numbers. -/
def isNumeralChar (c : Char) : Bool :=
  c.isDigit || c == '-' || c == '+' || c == '.' || c == 'e'

theorem isBlank_of_isNumeralChar {c : Char} (h : isNumeralChar c = true) :
    Text.isBlank c = false := by
  have digits : ∀ d : Char, d.isDigit = true → Text.isBlank d = false := by
    intro d hd
    simp only [Char.isDigit, ge_iff_le, Bool.and_eq_true, decide_eq_true_eq,
      UInt32.le_iff_toNat_le] at hd
    change 48 ≤ d.toNat ∧ d.toNat ≤ 57 at hd
    simp only [Text.isBlank, Bool.or_eq_false_iff, Bool.and_eq_false_iff, decide_eq_false_iff_not,
      beq_eq_false_iff_ne]
    omega
  simp only [isNumeralChar, Bool.or_eq_true, beq_iff_eq] at h
  rcases h with (((h | rfl) | rfl) | rfl) | rfl
  · exact digits c h
  all_goals decide

/-- A list of characters of numerals. -/
def IsNumeral (cs : List Char) : Prop := ∀ c ∈ cs, isNumeralChar c = true

theorem IsNumeral.append {as bs : List Char} (ha : IsNumeral as) (hb : IsNumeral bs) :
    IsNumeral (as ++ bs) := by
  intro c hc
  rcases List.mem_append.1 hc with hc | hc
  · exact ha c hc
  · exact hb c hc

theorem IsNumeral.cons {c : Char} {cs : List Char} (hc : isNumeralChar c = true)
    (h : IsNumeral cs) : IsNumeral (c :: cs) := by
  intro d hd
  rcases List.mem_cons.1 hd with rfl | hd
  · exact hc
  · exact h d hd

theorem isNumeral_nil : IsNumeral [] := fun _ h => absurd h List.not_mem_nil

theorem IsNumeral.sublist {as bs : List Char} (h : IsNumeral bs) (hs : as.Sublist bs) :
    IsNumeral as := fun c hc => h c (hs.subset hc)

theorem isNumeral_replicate_zero (n : Nat) : IsNumeral (List.replicate n '0') := by
  intro c hc
  rw [(List.mem_replicate.1 hc).2]
  rfl

theorem isNumeral_toDigits (n : Nat) : IsNumeral (Nat.toDigits 10 n) := by
  intro c hc
  have digit : c.isDigit = true := Nat.isDigit_of_mem_toDigits (by omega) (by omega) hc
  simp [isNumeralChar, digit]

theorem IsNumeral.solid {s : String} (h : IsNumeral s.toList) (hn : s.toList ≠ []) :
    Text.Solid s :=
  ⟨hn, fun c hc => isBlank_of_isNumeralChar (h c hc)⟩

/-! ## Binary numbers -/

namespace Layout

variable (layout : Layout) {digits : List Char} (hd : IsNumeral digits)
include hd

theorem isNumeral_positionalText (exponent : Int) :
    IsNumeral (layout.positionalText digits exponent) := by
  unfold positionalText
  split
  · refine (hd.append (isNumeral_replicate_zero _)).append ?_
    split
    · exact .cons rfl (.cons rfl isNumeral_nil)
    · exact isNumeral_nil
  · have padded := (isNumeral_replicate_zero ((-exponent).toNat + 1 - digits.length)).append hd
    exact (padded.sublist (List.take_sublist _ _)).append
      (.cons rfl (padded.sublist (List.drop_sublist _ _)))

theorem isNumeral_scientificText (leading : Int) : IsNumeral (scientificText digits leading) := by
  unfold scientificText
  refine (((hd.sublist (List.take_sublist _ _)).append ?_).append ?_).append (isNumeral_toDigits _)
  · split
    · exact isNumeral_nil
    · exact .cons rfl (hd.sublist (List.drop_sublist _ _))
  · refine .cons rfl (.cons ?_ isNumeral_nil)
    split <;> rfl

end Layout

theorem Layout.isNumeral_decimalText (layout : Layout) (d : Decimal) :
    IsNumeral (layout.decimalText d) := by
  unfold decimalText
  simp only
  split
  · exact layout.isNumeral_positionalText (isNumeral_toDigits _) _
  · exact isNumeral_scientificText (isNumeral_toDigits _) _

theorem Layout.decimalText_ne_nil (layout : Layout) (d : Decimal) : layout.decimalText d ≠ [] := by
  have hd : Nat.toDigits 10 d.digits ≠ [] := Nat.toDigits_ne_nil
  unfold decimalText positionalText scientificText
  simp only
  split
  · split <;> simp [hd]
  · simp

theorem Layout.isNumeral_text (layout : Layout) (x : Binary64) :
    IsNumeral (layout.text x).toList := by
  rw [text, String.toList_ofList]
  refine .append ?_ (layout.isNumeral_decimalText _)
  split
  · exact .cons rfl isNumeral_nil
  · exact isNumeral_nil

/-- The text of a number holds no white space. -/
theorem Layout.solid_text (layout : Layout) (x : Binary64) : Text.Solid (layout.text x) := by
  refine (layout.isNumeral_text x).solid ?_
  rw [text, String.toList_ofList]
  simp [layout.decimalText_ne_nil]

/-! ## Integers -/

theorem toList_toString_int (n : Int) :
    (toString n).toList = (if n < 0 then ['-'] else []) ++ Nat.toDigits 10 n.natAbs := by
  have digits : ∀ m : Nat, (Nat.repr m).toList = Nat.toDigits 10 m := fun m => by
    rw [Nat.repr, String.toList_ofList]
  cases n with
  | ofNat m => exact digits m
  | negSucc m =>
    show ("-" ++ Nat.repr (m + 1)).toList = _
    rw [String.toList_append, digits, if_pos (Int.negSucc_lt_zero m)]
    rfl

theorem isNumeral_toString_int (n : Int) : IsNumeral (toString n).toList := by
  rw [toList_toString_int]
  refine .append ?_ (isNumeral_toDigits _)
  split
  · exact .cons rfl isNumeral_nil
  · exact isNumeral_nil

theorem solid_toString_int (n : Int) : Text.Solid (toString n) := by
  refine (isNumeral_toString_int n).solid ?_
  rw [toList_toString_int]
  simp [Nat.toDigits_ne_nil]

theorem Json.Number.solid_toText (n : Json.Number) : Text.Solid n.toText := by
  cases n with
  | integer n => exact solid_toString_int n
  | binary x => exact amount.solid_text x

end Fleet
