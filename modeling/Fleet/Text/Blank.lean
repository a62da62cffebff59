/-
White space, control characters and trimming. A character is blank when it has the Unicode
property White_Space; trimming removes blanks at both ends and nothing else, and a text that
holds only blanks counts as no text at all (`nonBlank?`).
-/
namespace Fleet.Text

/-! ## Character classes -/

/-- The characters with the property White_Space. -/
def isBlank (c : Char) : Bool :=
  let n := c.toNat
  (0x09 ≤ n && n ≤ 0x0D) || n == 0x20 || n == 0x85 || n == 0xA0 || n == 0x1680 ||
    (0x2000 ≤ n && n ≤ 0x200A) || n == 0x2028 || n == 0x2029 || n == 0x202F || n == 0x205F ||
    n == 0x3000

/-- The characters of the general category Cc. -/
def isControl (c : Char) : Bool :=
  let n := c.toNat
  n ≤ 0x1F || (0x7F ≤ n && n ≤ 0x9F)

/-! ## Removing characters at the ends -/

/-- The list without its longest tail of characters in the class `p`. -/
def dropEndWhile (p : Char → Bool) (cs : List Char) : List Char :=
  (cs.reverse.dropWhile p).reverse

/-- The list without its characters in the class `p` at both ends. -/
def trimBy (p : Char → Bool) (cs : List Char) : List Char :=
  dropEndWhile p (cs.dropWhile p)

/-- The text without white space at its ends. -/
def trim (s : String) : String := String.ofList (trimBy isBlank s.toList)

/-- The trimmed text, unless nothing is left of it. -/
def nonBlank? (s : String) : Option String :=
  if (trim s).isEmpty then none else some (trim s)

/-- The text without a byte order mark at its start. -/
def dropByteOrderMark : List Char → List Char
  | '\uFEFF' :: cs => cs
  | cs => cs

/-! ## Lemmas -/

theorem dropEndWhile_append_of_neg {p : Char → Bool} {c : Char} (cs : List Char)
    (h : p c = false) : dropEndWhile p (cs ++ [c]) = cs ++ [c] := by
  simp [dropEndWhile, h]

theorem exists_dropEndWhile (p : Char → Bool) (cs : List Char) :
    ∃ back, dropEndWhile p cs ++ back = cs ∧ ∀ c ∈ back, p c = true := by
  refine ⟨(cs.reverse.takeWhile p).reverse, ?_, fun c hc => ?_⟩
  · rw [dropEndWhile, ← List.reverse_append, List.takeWhile_append_dropWhile, List.reverse_reverse]
  · exact List.all_eq_true.1 List.all_takeWhile c (List.mem_reverse.1 hc)

theorem dropEndWhile_prefixOf (p : Char → Bool) (cs : List Char) : dropEndWhile p cs <+: cs :=
  let ⟨back, whole, _⟩ := exists_dropEndWhile p cs
  ⟨back, whole⟩

section Ends

variable {p : Char → Bool} {cs : List Char} {c : Char}

theorem head?_dropWhile (h : (cs.dropWhile p).head? = some c) : p c = false := by
  have hc := List.head?_dropWhile_not p cs
  rw [h] at hc
  exact hc

theorem getLast?_dropEndWhile (h : (dropEndWhile p cs).getLast? = some c) : p c = false := by
  unfold dropEndWhile at h
  rw [List.getLast?_reverse] at h
  exact head?_dropWhile h

theorem head?_trimBy (h : (trimBy p cs).head? = some c) : p c = false := by
  obtain ⟨back, hb⟩ := dropEndWhile_prefixOf p (cs.dropWhile p)
  have hd : (cs.dropWhile p).head? = some c := by
    unfold trimBy at h
    rw [← hb, List.head?_append, h, Option.some_or]
  exact head?_dropWhile hd

theorem dropWhile_eq_self (h : ∀ c, cs.head? = some c → p c = false) : cs.dropWhile p = cs := by
  cases cs with
  | nil => rfl
  | cons c cs => exact List.dropWhile_cons_of_neg (by simp [h c rfl])

theorem dropEndWhile_eq_self (h : ∀ c, cs.getLast? = some c → p c = false) :
    dropEndWhile p cs = cs := by
  rcases List.eq_nil_or_concat cs with rfl | ⟨front, last, rfl⟩
  · rfl
  · rw [List.concat_eq_append] at h ⊢
    exact dropEndWhile_append_of_neg front (h last (by simp))

theorem trimBy_trimBy (p : Char → Bool) (cs : List Char) : trimBy p (trimBy p cs) = trimBy p cs := by
  rw [trimBy.eq_1 p (trimBy p cs), dropWhile_eq_self fun _ => head?_trimBy, trimBy.eq_1 p cs,
    dropEndWhile_eq_self fun _ => getLast?_dropEndWhile]

@[simp] theorem trim_trim (s : String) : trim (trim s) = trim s := by
  rw [trim.eq_1 (trim s), trim.eq_1 s, String.toList_ofList, trimBy_trimBy]

end Ends

theorem nonBlank?_eq_some_iff {s t : String} :
    nonBlank? s = some t ↔ trim s = t ∧ (trim s).isEmpty = false := by
  unfold nonBlank?
  cases h : (trim s).isEmpty <;> simp

end Fleet.Text
