/-
Lower case and its context. Only the capital sigma looks around itself, so the lower case of a text
is put together from that of its parts, as long as each part knows its neighbours
(`lowerAfter_append`); a part reads the same between two pairs of neighbours exactly if its capital
sigmas end words alike in both (`lowerBetween_eq_iff`). No sigma sees past a character that is
neither cased nor case-ignorable, and white space is such (`separates_of_isBlank`).
-/
import Fleet.Text.Blank
import Fleet.Text.Case
import Mathlib.Data.List.Basic

namespace Fleet.Text

/-! ## Parts of a text -/

/-- The lower case of a part of a text that stands between `before`, read backwards, and `after`.
-/
def lowerBetween (before part after : List Char) : List Char :=
  match part with
  | [] => []
  | c :: rest =>
    (if c == 'Σ' then [smallSigma before (rest ++ after)] else lowerChar c) ++
      lowerBetween (c :: before) rest after

theorem lowerAfter_append (before part after : List Char) :
    lowerAfter before (part ++ after) =
      lowerBetween before part after ++ lowerAfter (part.reverse ++ before) after := by
  induction part generalizing before with
  | nil => rfl
  | cons c rest ih =>
    rw [List.cons_append, lowerAfter, ih, lowerBetween, List.append_assoc, List.reverse_cons,
      List.append_assoc, List.singleton_append]

theorem lowerAfter_eq (before part : List Char) :
    lowerAfter before part = lowerBetween before part [] := by
  have whole := lowerAfter_append before part []
  rw [List.append_nil] at whole
  rw [whole, lowerAfter, List.append_nil]

/-- A capital sigma between two texts ends a word: there is a cased character before it and none
after it, both across case-ignorable characters. -/
def EndsWord (before after : List Char) : Prop :=
  startsCased before = true ∧ startsCased after = false

theorem smallSigma_eq_iff {before after before' after' : List Char} :
    smallSigma before after = smallSigma before' after' ↔
      (EndsWord before after ↔ EndsWord before' after') := by
  unfold smallSigma EndsWord
  cases startsCased before <;> cases startsCased after <;> cases startsCased before' <;>
    cases startsCased after' <;> decide

/-- The capital sigmas of a part end words alike in two places. -/
def SameSigmas (before part after before' after' : List Char) : Prop :=
  ∀ x y, part = x ++ 'Σ' :: y →
    (EndsWord (x.reverse ++ before) (y ++ after) ↔ EndsWord (x.reverse ++ before') (y ++ after'))

theorem sameSigmas_cons {c : Char} {before rest after before' after' : List Char} :
    SameSigmas before (c :: rest) after before' after' ↔
      (c = 'Σ' → (EndsWord before (rest ++ after) ↔ EndsWord before' (rest ++ after'))) ∧
        SameSigmas (c :: before) rest after (c :: before') after' := by
  constructor
  · intro same
    refine ⟨?_, fun x y h => ?_⟩
    · rintro rfl
      exact same [] rest rfl
    · have := same (c :: x) y (by rw [h, List.cons_append])
      simpa using this
  · rintro ⟨first, same⟩ x y h
    cases x with
    | nil =>
      obtain ⟨rfl, rfl⟩ := List.cons.inj h
      exact first rfl
    | cons d x =>
      obtain ⟨rfl, rfl⟩ := List.cons.inj h
      simpa using same x y rfl

/-- A part has the same lower case in two places exactly if its capital sigmas end words alike. -/
theorem lowerBetween_eq_iff {before part after before' after' : List Char} :
    lowerBetween before part after = lowerBetween before' part after' ↔
      SameSigmas before part after before' after' := by
  induction part generalizing before before' with
  | nil => exact ⟨fun _ x y h => absurd h.symm (by simp), fun _ => rfl⟩
  | cons c rest ih =>
    rw [sameSigmas_cons, ← ih, lowerBetween, lowerBetween]
    by_cases sigma : c = 'Σ'
    · subst sigma
      rw [beq_self_eq_true, if_pos rfl, if_pos rfl, List.singleton_append, List.singleton_append,
        List.cons_eq_cons, smallSigma_eq_iff]
      exact and_congr_left' ⟨fun h _ => h, fun h => h rfl⟩
    · rw [if_neg (by simpa using sigma), if_neg (by simpa using sigma),
        List.append_cancel_left_eq]
      exact ⟨fun h => ⟨fun hc => absurd hc sigma, h⟩, fun h => h.2⟩

theorem lowerBetween_ne_nil {before part after : List Char} (h : part ≠ []) :
    lowerBetween before part after ≠ [] := by
  obtain ⟨c, rest, rfl⟩ := List.exists_cons_of_ne_nil h
  unfold lowerBetween lowerChar
  split
  · simp
  · split <;> simp

/-- How long a part is in lower case does not depend on what stands around it. -/
theorem length_lowerBetween (before part after before' after' : List Char) :
    (lowerBetween before part after).length = (lowerBetween before' part after').length := by
  induction part generalizing before before' with
  | nil => rfl
  | cons c rest ih =>
    rw [lowerBetween, lowerBetween, List.length_append, List.length_append, ih _ (c :: before')]
    split <;> rfl

/-! ## Separators -/

/-- A character across which no capital sigma is told from another. -/
structure Separates (c : Char) : Prop where
  uncased : isCased c = false
  visible : isCaseIgnorable c = false

theorem startsCased_append_cons {c : Char} (hc : Separates c) (near far : List Char) :
    startsCased (near ++ c :: far) = startsCased near := by
  unfold startsCased
  rw [List.dropWhile_append, List.dropWhile_cons_of_neg (by rw [hc.visible]; exact nofun)]
  cases near.dropWhile isCaseIgnorable with
  | nil => exact hc.uncased
  | cons d rest => rfl

theorem startsCased_append {far : List Char} (h : ∀ c ∈ far.head?, Separates c)
    (near : List Char) : startsCased (near ++ far) = startsCased near := by
  cases far with
  | nil => rw [List.append_nil]
  | cons c far => exact startsCased_append_cons (h c rfl) near far

/-- Between separators a part reads as it does alone. -/
theorem lowerBetween_of_separates {before part after : List Char}
    (hb : ∀ c ∈ before.head?, Separates c) (ha : ∀ c ∈ after.head?, Separates c) :
    lowerBetween before part after = lowerChars part := by
  rw [lowerChars, lowerAfter_eq, lowerBetween_eq_iff]
  intro x y _
  unfold EndsWord
  rw [startsCased_append hb, startsCased_append ha, List.append_nil, List.append_nil]

theorem Separates.ne_sigma {c : Char} (hc : Separates c) : c ≠ 'Σ' := by
  rintro rfl
  exact absurd hc.uncased (by decide)

/-- The two sides of a separator have nothing to do with one another. -/
theorem lowerChars_append_cons {c : Char} (hc : Separates c) (cs ds : List Char) :
    lowerChars (cs ++ c :: ds) = lowerChars cs ++ (lowerChar c ++ lowerChars ds) := by
  have front : lowerBetween [] cs (c :: ds) = lowerChars cs :=
    lowerBetween_of_separates nofun (by rintro d ⟨⟩; exact hc)
  have back : lowerAfter (c :: (cs.reverse ++ [])) ds = lowerChars ds := by
    rw [lowerAfter_eq]
    exact lowerBetween_of_separates (by rintro d ⟨⟩; exact hc) nofun
  rw [lowerChars, lowerAfter_append, front, lowerAfter, if_neg (by simpa using hc.ne_sigma), back]

/-- A part of a text is found in the lower case of the text as it reads there. -/
theorem lowerBetween_infix (before part after : List Char) :
    lowerBetween before.reverse part after <:+: lowerChars (before ++ part ++ after) := by
  refine ⟨lowerBetween [] before (part ++ after),
    lowerAfter (part.reverse ++ before.reverse) after, ?_⟩
  rw [lowerChars, List.append_assoc before, lowerAfter_append, List.append_nil, lowerAfter_append,
    List.append_assoc]

/-! ## White space -/

/-- The ranges of the property White_Space. -/
def blankRanges : List (Nat × Nat) := [
  (0x09, 0x0D), (0x20, 0x20), (0x85, 0x85), (0xA0, 0xA0), (0x1680, 0x1680), (0x2000, 0x200A),
  (0x2028, 0x2029), (0x202F, 0x202F), (0x205F, 0x205F), (0x3000, 0x3000)]

theorem inRanges_blankRanges {c : Char} (h : isBlank c = true) :
    inRanges blankRanges c.toNat = true := by
  simp only [isBlank, Bool.or_eq_true, Bool.and_eq_true, decide_eq_true_eq, beq_iff_eq] at h
  simp only [inRanges, blankRanges, List.any_cons, List.any_nil, Bool.or_eq_true,
    Bool.and_eq_true, decide_eq_true_eq, Bool.false_eq_true]
  omega

/-- No number lies in ranges that lie apart. -/
theorem inRanges_of_apart {ranges others : List (Nat × Nat)}
    (apart : ∀ r ∈ ranges, ∀ q ∈ others, r.2 < q.1 ∨ q.2 < r.1) {n : Nat}
    (h : inRanges ranges n = true) : inRanges others n = false := by
  unfold inRanges at *
  obtain ⟨r, hr, hn⟩ := List.any_eq_true.1 h
  rw [List.any_eq_false]
  intro q hq
  have := apart r hr q hq
  simp only [Bool.and_eq_true, decide_eq_true_eq] at hn ⊢
  omega

theorem separates_of_isBlank {c : Char} (h : isBlank c = true) : Separates c where
  uncased := inRanges_of_apart (by decide +kernel) (inRanges_blankRanges h)
  visible := inRanges_of_apart (by decide +kernel) (inRanges_blankRanges h)

/-- White space around a text changes nothing in its lower case. -/
theorem lowerBetween_of_isBlank {before part after : List Char}
    (hb : ∀ c ∈ before, isBlank c = true) (ha : ∀ c ∈ after, isBlank c = true) :
    lowerBetween before part after = lowerChars part :=
  lowerBetween_of_separates
    (fun c hc => separates_of_isBlank (hb c (List.mem_of_head? hc)))
    fun c hc => separates_of_isBlank (ha c (List.mem_of_head? hc))

/-! ### The space -/

theorem lowerChar_space : lowerChar ' ' = [' '] := by decide +kernel

/-- A number is the code of the character made of it, or it is the code of none. -/
theorem toNat_ofNat_or (n : Nat) : (Char.ofNat n).toNat = n ∨ Char.ofNat n = '\x00' := by
  by_cases valid : n.isValidChar
  · have : Char.ofNat n = Char.ofNatAux n valid := dif_pos valid
    rw [this]
    exact .inl (UInt32.toNat_ofNatLT ..)
  · exact .inr (dif_neg valid)

/-- The character that the run moves a code point to. -/
def CodeRun.move (run : CodeRun) (n : Nat) : Char := Char.ofNat ((n : Int) + run.shift).toNat

/-- A character is moved by a run that covers it, or it stays. -/
theorem shiftBy_cases (runs : List CodeRun) (c : Char) :
    (∃ run ∈ runs, run.covers c.toNat = true ∧ shiftBy runs c = run.move c.toNat) ∨
      shiftBy runs c = c := by
  unfold shiftBy
  cases hf : runs.find? (·.covers c.toNat) with
  | some run =>
    have covers : run.covers c.toNat = true := by simpa using List.find?_some hf
    exact .inl ⟨run, List.mem_of_find?_eq_some hf, covers, rfl⟩
  | none => exact .inr rfl

/-- No letter is moved to the space. -/
theorem shiftBy_lowerRuns_ne_space {c : Char} (h : c ≠ ' ') : shiftBy lowerRuns c ≠ ' ' := by
  have above : ∀ run ∈ lowerRuns, 0x20 < run.first + run.shift := by decide +kernel
  rcases shiftBy_cases lowerRuns c with ⟨run, hr, covers, moved⟩ | same
  · have far := above run hr
    simp only [CodeRun.covers, Bool.and_eq_true, decide_eq_true_eq] at covers
    rw [moved, CodeRun.move]
    intro space
    rcases toNat_ofNat_or ((c.toNat : Int) + run.shift).toNat with same | none
    · -- the run moves every letter beyond the space
      have code := same.symm.trans (congrArg Char.toNat space)
      have : (' ').toNat = 0x20 := rfl
      omega
    · exact absurd (none.symm.trans space) (by decide)
  · rwa [same]

theorem space_not_mem_lowerChars {cs : List Char} (h : ' ' ∉ cs) : ' ' ∉ lowerChars cs := by
  have each : ∀ before part : List Char, ' ' ∉ part → ' ' ∉ lowerAfter before part := by
    intro before part
    induction part generalizing before with
    | nil => exact fun _ => List.not_mem_nil
    | cons c rest ih =>
      intro hp
      rw [List.mem_cons, not_or] at hp
      rw [lowerAfter, List.mem_append, not_or]
      refine ⟨?_, ih (c :: before) hp.2⟩
      split
      · unfold smallSigma
        split <;> decide
      · unfold lowerChar
        split
        · decide
        · simpa using (shiftBy_lowerRuns_ne_space (Ne.symm hp.1)).symm
  exact each [] cs h

end Fleet.Text
