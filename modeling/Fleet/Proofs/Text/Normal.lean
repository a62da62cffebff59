/-
The end of a text in normal form. A character from the start of the code table belongs neither to
the marks before it nor to what they are composed with, so a text that ends with one still does in
normal form (`suffix_normalForm`).
-/
import Fleet.Text.Normal

namespace Fleet.Text

/-! ## Order -/

section

variable {k : Classed} (base : k.order = 0)
include base

/-- No mark is put behind a base character at the end. -/
theorem insertMark_concat (c : Classed) (cs : List Classed) :
    insertMark c (cs ++ [k]) = insertMark c cs ++ [k] := by
  induction cs with
  | nil => simp [insertMark, base]
  | cons d rest ih =>
    rw [List.cons_append, insertMark, insertMark]
    split
    · rw [ih, List.cons_append]
    · rfl

theorem orderMarks_concat (cs : List Classed) : orderMarks (cs ++ [k]) = orderMarks cs ++ [k] := by
  induction cs with
  | nil => rfl
  | cons c cs ih =>
    show insertMark c (orderMarks (cs ++ [k])) = insertMark c (orderMarks cs) ++ [k]
    rw [ih, insertMark_concat base]

/-! ## Composing -/

variable (low : k.char.toNat < 0x300)
include low

/-- A base character below all marks is not composed with what is in front of it. -/
theorem suffix_composeAfter (first : Char) (kept cs : List Classed) :
    [k.char] <:+ composeAfter first kept (cs ++ [k]) := by
  induction cs generalizing first kept with
  | nil =>
    have apart : composite? first k.char = none := if_pos low
    unfold composeAfter
    simp only [List.nil_append, apart, ite_self, if_pos base, composeAfter]
    exact List.suffix_append _ _
  | cons c cs ih =>
    unfold composeAfter
    simp only [List.cons_append]
    split
    · exact ih _ _
    · split
      · exact ((ih _ _).trans (List.suffix_append _ _)).trans (List.suffix_cons _ _)
      · exact ih _ _

theorem suffix_composeAll (cs : List Classed) : [k.char] <:+ composeAll (cs ++ [k]) := by
  induction cs with
  | nil =>
    rw [List.nil_append, composeAll, if_pos base]
    exact List.suffix_refl _
  | cons c cs ih =>
    rw [List.cons_append, composeAll]
    split
    · exact suffix_composeAfter base low _ _ _
    · exact ih.trans (List.suffix_cons _ _)

end

/-! ## Normal form -/

theorem suffix_normalForm {c : Char} (low : c.toNat < 0xC0) (cs : List Char) :
    [c] <:+ normalForm (cs ++ [c]) := by
  unfold normalForm
  split
  · exact List.suffix_append _ _
  · -- it is one of its parts, the last one, and a base
    have alone : parts c = [c] := if_pos low
    have base : (Classed.of c).order = 0 := if_pos (by omega)
    rw [List.flatMap_append, List.map_append, List.flatMap_singleton, alone, List.map_singleton,
      orderMarks_concat base]
    exact suffix_composeAll base (show c.toNat < 0x300 by omega) _

end Fleet.Text
