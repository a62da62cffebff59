/-
Texts that are not blank and have no white space at their ends (`Tidy`). What trimming leaves is
tidy, if it leaves anything (`tidy_of_nonBlank?`), and a tidy text is what trimming leaves of it
(`nonBlank?_of_tidy`). A text that holds no white space at all is solid, and so tidy. Trimming
leaves the same of two texts exactly if they differ in white space at their ends alone
(`sameButBlanks_iff`).
-/
import Fleet.Text.Blank
import Mathlib.Data.List.Infix
import Mathlib.Data.List.TakeWhile

namespace Fleet.Text

/-! ## Trimming a list -/

section Trimming

variable {p : Char → Bool} {cs : List Char} {c : Char}

theorem dropEndWhile_append {back : List Char} (h : ∀ c ∈ back, p c = true) :
    dropEndWhile p (cs ++ back) = dropEndWhile p cs := by
  rw [dropEndWhile, List.reverse_append,
    List.dropWhile_append_of_pos fun c hc => h c (List.mem_reverse.1 hc), dropEndWhile]

/-- Only the empty list is in the class as a whole and does not end in it. -/
theorem eq_nil_of_getLast? (all : ∀ c ∈ cs, p c = true)
    (last : ∀ c, cs.getLast? = some c → p c = false) : cs = [] := by
  rcases List.eq_nil_or_concat cs with none_left | ⟨front, c, rfl⟩
  · exact none_left
  · have refused := last c (by simp)
    rw [all c (by simp)] at refused
    cases refused

/-- Characters of the class before and after a list are of no account. -/
theorem trimBy_append {front back : List Char} (hf : ∀ c ∈ front, p c = true)
    (hb : ∀ c ∈ back, p c = true) : trimBy p (front ++ cs ++ back) = trimBy p cs := by
  rw [trimBy, List.append_assoc, List.dropWhile_append_of_pos hf, List.dropWhile_append, trimBy]
  split
  · -- nothing is left of the list
    rename_i hn
    rw [List.isEmpty_iff.1 hn, List.dropWhile_eq_nil_iff.2 hb]
  · exact dropEndWhile_append hb

theorem exists_trimBy (p : Char → Bool) (cs : List Char) :
    ∃ front back, cs = front ++ trimBy p cs ++ back ∧ (∀ c ∈ front, p c = true) ∧
      ∀ c ∈ back, p c = true := by
  obtain ⟨back, whole, hb⟩ := exists_dropEndWhile p (cs.dropWhile p)
  refine ⟨cs.takeWhile p, back, ?_, fun c hc => List.mem_takeWhile_imp hc, hb⟩
  rw [trimBy, List.append_assoc, whole, List.takeWhile_append_dropWhile]

/-- Nothing is left of a list that is in the class as a whole. -/
theorem trimBy_eq_nil_iff : trimBy p cs = [] ↔ ∀ c ∈ cs, p c = true := by
  obtain ⟨front, back, whole, hf, hb⟩ := exists_trimBy p cs
  constructor
  · intro none_left c hc
    rw [whole, none_left, List.append_nil, List.mem_append] at hc
    exact hc.elim (hf c) (hb c)
  · intro all
    rw [trimBy, List.dropWhile_eq_nil_iff.2 all]
    rfl

section Core

variable {front core back : List Char}

theorem dropWhile_append_of_head? (first : ∀ c, core.head? = some c → p c = false) :
    (front ++ core).dropWhile p = front.dropWhile p ++ core := by
  rw [List.dropWhile_append]
  split
  · rename_i none_left
    rw [List.isEmpty_iff.1 none_left, dropWhile_eq_self first, List.nil_append]
  · rfl

theorem dropEndWhile_append_of_getLast? (last : ∀ c, core.getLast? = some c → p c = false) :
    dropEndWhile p (core ++ back) = core ++ dropEndWhile p back := by
  rw [dropEndWhile, List.reverse_append, dropWhile_append_of_head?, List.reverse_append,
    List.reverse_reverse, dropEndWhile]
  intro c hc
  exact last c (by rwa [List.head?_reverse] at hc)

/-- What begins and ends outside the class is kept whole, whatever stands around it. -/
theorem infix_trimBy (some_left : core ≠ []) (first : ∀ c, core.head? = some c → p c = false)
    (last : ∀ c, core.getLast? = some c → p c = false) :
    core <:+: trimBy p (front ++ core ++ back) := by
  have start : (front ++ core ++ back).dropWhile p = front.dropWhile p ++ core ++ back := by
    rw [List.dropWhile_append, dropWhile_append_of_head? first, if_neg (by simp [some_left])]
  rw [trimBy, start, dropEndWhile_append_of_getLast?]
  · exact ⟨_, _, rfl⟩
  · intro c hc
    rw [List.getLast?_append_of_ne_nil _ some_left] at hc
    exact last c hc

end Core

end Trimming

/-! ## Tidy texts -/

/-- A text that begins and ends with a character that is not white space. -/
structure Tidy (s : String) : Prop where
  first : ∃ c, s.toList.head? = some c ∧ isBlank c = false
  last : ∃ c, s.toList.getLast? = some c ∧ isBlank c = false

/-- A text with characters, none of which is white space. -/
structure Solid (s : String) : Prop where
  ne_nil : s.toList ≠ []
  unbroken : ∀ c ∈ s.toList, isBlank c = false

theorem Solid.tidy {s : String} (h : Solid s) : Tidy s := by
  obtain ⟨a, ha⟩ := Option.ne_none_iff_exists'.1 (mt List.head?_eq_none_iff.1 h.ne_nil)
  obtain ⟨b, hb⟩ := Option.ne_none_iff_exists'.1 (mt List.getLast?_eq_none_iff.1 h.ne_nil)
  exact ⟨⟨a, ha, h.unbroken a (List.mem_of_head? ha)⟩,
    ⟨b, hb, h.unbroken b (List.mem_of_getLast? hb)⟩⟩

theorem Tidy.ne_empty {s : String} (h : Tidy s) : s ≠ "" := by
  rintro rfl
  obtain ⟨c, hc, -⟩ := h.first
  cases hc

theorem trim_of_tidy {s : String} (h : Tidy s) : trim s = s := by
  obtain ⟨⟨a, ha, first⟩, ⟨b, hb, last⟩⟩ := h
  unfold trim trimBy
  rw [dropWhile_eq_self, dropEndWhile_eq_self, String.ofList_toList]
  · intro c hc
    rw [hb] at hc
    exact Option.some.inj hc ▸ last
  · intro c hc
    rw [ha] at hc
    exact Option.some.inj hc ▸ first

theorem tidy_trim {s : String} (h : (trim s).isEmpty = false) : Tidy (trim s) := by
  have some_left : trimBy isBlank s.toList ≠ [] := by
    intro hn
    simp [trim, hn] at h
  obtain ⟨a, ha⟩ := Option.ne_none_iff_exists'.1 (mt List.head?_eq_none_iff.1 some_left)
  obtain ⟨b, hb⟩ := Option.ne_none_iff_exists'.1 (mt List.getLast?_eq_none_iff.1 some_left)
  constructor
  · exact ⟨a, by rw [trim, String.toList_ofList, ha], head?_trimBy ha⟩
  · exact ⟨b, by rw [trim, String.toList_ofList, hb], getLast?_dropEndWhile hb⟩

/-- Trimming leaves a tidy text of what is not blank. -/
theorem tidy_trim_iff {s : String} : Tidy (trim s) ↔ ∃ c ∈ s.toList, isBlank c = false := by
  have left : trim s = "" ↔ ∀ c ∈ s.toList, isBlank c = true := by
    rw [← trimBy_eq_nil_iff, trim, String.ofList_eq_empty_iff]
  constructor
  · intro tidy
    by_contra! blank
    exact tidy.ne_empty (left.2 fun c hc => by simpa using blank c hc)
  · rintro ⟨c, hc, filled⟩
    refine tidy_trim ?_
    rw [← Bool.not_eq_true, String.isEmpty_iff, left]
    intro blank
    rw [blank c hc] at filled
    cases filled

theorem nonBlank?_eq_some_iff_filled {s t : String} :
    nonBlank? s = some t ↔ (∃ c ∈ s.toList, isBlank c = false) ∧ trim s = t := by
  rw [← tidy_trim_iff, nonBlank?_eq_some_iff, and_comm]
  refine and_congr_left fun _ => ⟨tidy_trim, fun tidy => ?_⟩
  simpa using tidy.ne_empty

theorem tidy_of_nonBlank? {s t : String} (h : nonBlank? s = some t) : Tidy t := by
  obtain ⟨rfl, left⟩ := nonBlank?_eq_some_iff.1 h
  exact tidy_trim left

theorem nonBlank?_of_tidy {s : String} (h : Tidy s) : nonBlank? s = some s := by
  refine nonBlank?_eq_some_iff.2 ⟨trim_of_tidy h, ?_⟩
  rw [trim_of_tidy h]
  simpa using h.ne_empty

/-! ## Texts inside others -/

theorem trim_infix (s : String) : (trim s).toList <:+: s.toList := by
  obtain ⟨front, back, whole, -⟩ := exists_trimBy isBlank s.toList
  exact ⟨front, back, by rw [trim, String.toList_ofList, ← whole]⟩

/-- A text inside another one is no longer. -/
theorem utf8ByteSize_le_of_infix {s t : String} (h : s.toList <:+: t.toList) :
    s.utf8ByteSize ≤ t.utf8ByteSize := by
  obtain ⟨front, back, whole⟩ := h
  have parts : t = String.ofList front ++ s ++ String.ofList back :=
    String.toList_injective (by simp [← whole])
  rw [parts, String.utf8ByteSize_append, String.utf8ByteSize_append]
  omega

/-- What trimming leaves of a text stands in what it leaves of a text around it. -/
theorem trim_infix_trim {s t : String} (h : s.toList <:+: t.toList) :
    (trim s).toList <:+: (trim t).toList := by
  by_cases none_left : trim s = ""
  · rw [none_left]
    exact List.nil_infix
  · have tidy : Tidy (trim s) := tidy_trim (by simpa using none_left)
    obtain ⟨⟨a, ha, first⟩, ⟨b, hb, last⟩⟩ := tidy
    obtain ⟨before, after, hs, -⟩ := exists_trimBy isBlank s.toList
    obtain ⟨front, back, ht⟩ := h
    have whole : t.toList = front ++ before ++ (trim s).toList ++ (after ++ back) := by
      rw [← ht, hs, trim, String.toList_ofList]
      simp only [List.append_assoc]
    rw [trim.eq_1 t, String.toList_ofList, whole]
    refine infix_trimBy (by simpa using none_left) ?_ ?_
    · intro c hc
      rw [ha] at hc
      exact Option.some.inj hc ▸ first
    · intro c hc
      rw [hb] at hc
      exact Option.some.inj hc ▸ last

/-! ## Texts that differ in white space at their ends -/

/-- The texts are the same but for white space before and after. -/
def SameButBlanks (s t : String) : Prop :=
  ∃ front front' core back back' : List Char,
    s.toList = front ++ core ++ back ∧ t.toList = front' ++ core ++ back' ∧
      ∀ c, c ∈ front ∨ c ∈ back ∨ c ∈ front' ∨ c ∈ back' → isBlank c = true

theorem sameButBlanks_iff {s t : String} : SameButBlanks s t ↔ trim s = trim t := by
  constructor
  · rintro ⟨front, front', core, back, back', hs, ht, blank⟩
    have hs' : trimBy isBlank (front ++ core ++ back) = trimBy isBlank core :=
      trimBy_append (fun c hc => blank c (.inl hc)) fun c hc => blank c (.inr (.inl hc))
    have ht' : trimBy isBlank (front' ++ core ++ back') = trimBy isBlank core :=
      trimBy_append (fun c hc => blank c (.inr (.inr (.inl hc))))
        fun c hc => blank c (.inr (.inr (.inr hc)))
    rw [trim, trim, hs, ht, hs', ht']
  · intro h
    obtain ⟨front, back, hs, hf, hb⟩ := exists_trimBy isBlank s.toList
    obtain ⟨front', back', ht, hf', hb'⟩ := exists_trimBy isBlank t.toList
    have hc : trimBy isBlank s.toList = trimBy isBlank t.toList := String.ofList_injective h
    refine ⟨front, front', trimBy isBlank s.toList, back, back', hs, by rw [hc, ← ht], ?_⟩
    rintro c (h | h | h | h)
    · exact hf c h
    · exact hb c h
    · exact hf' c h
    · exact hb' c h

theorem nonBlank?_eq {s t : String} (h : SameButBlanks s t) : nonBlank? s = nonBlank? t := by
  rw [nonBlank?, nonBlank?, sameButBlanks_iff.1 h]

/-! ## Optional texts -/

/-- The text is tidy if it is there. -/
def TidyIfAny (s : Option String) : Prop := ∀ t, s = some t → Tidy t

theorem TidyIfAny.or {s t : Option String} (hs : TidyIfAny s) (ht : TidyIfAny t) :
    TidyIfAny (s.or t) := by
  intro u hu
  rcases Option.or_eq_some_iff.1 hu with hu | ⟨-, hu⟩
  · exact hs u hu
  · exact ht u hu

theorem tidyIfAny_nonBlank? (s : String) : TidyIfAny (nonBlank? s) :=
  fun _ => tidy_of_nonBlank?

theorem tidyIfAny_bind_nonBlank? (s : Option String) : TidyIfAny (s.bind nonBlank?) := by
  intro t h
  obtain ⟨source, -, ht⟩ := Option.bind_eq_some_iff.1 h
  exact tidy_of_nonBlank? ht

end Fleet.Text
