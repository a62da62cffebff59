/-
Upper case is final. The upper case of a character is a form of several characters, the character a
run moves it to, or the character itself (`upperChar_cases`); so what holds of every entry of the
tables holds of every character that upper case brings in (`eq_self_or_of_mem_upperChar`). None of
them is changed again (`upperChar_of_mem_upperChar`).
-/
import Fleet.Proofs.Text.Case

namespace Fleet.Text

/-! ## The code points of a table -/

/-- The code points that a run moves. -/
def CodeRun.codes (run : CodeRun) : List Nat :=
  List.range' run.first ((run.last - run.first) / run.step + 1) run.step

theorem CodeRun.mem_codes_of_covers {run : CodeRun} {n : Nat} (h : run.covers n = true) :
    n ∈ run.codes := by
  simp only [covers, Bool.and_eq_true, decide_eq_true_eq, beq_iff_eq] at h
  obtain ⟨⟨low, high⟩, exactly⟩ := h
  have steps := Nat.div_add_mod (n - run.first) run.step
  have few : (n - run.first) / run.step ≤ (run.last - run.first) / run.step :=
    Nat.div_le_div_right (by omega)
  rw [codes, List.mem_range']
  exact ⟨(n - run.first) / run.step, by omega, by omega⟩

/-- Code points as the bits of one number, so that looking one up is a single step. -/
def codeSet (codes : List Nat) : Nat := codes.foldl (fun set n => set ||| 1 <<< n) 0

theorem testBit_codeSet {codes : List Nat} {n : Nat} (h : n ∈ codes) :
    (codeSet codes).testBit n = true := by
  have each : ∀ (codes : List Nat) (set : Nat), n ∈ codes ∨ set.testBit n = true →
      (codes.foldl (fun set n => set ||| 1 <<< n) set).testBit n = true := by
    intro codes
    induction codes with
    | nil => simp
    | cons m codes ih =>
      intro set there
      refine ih (set ||| 1 <<< m) ?_
      rw [List.mem_cons] at there
      rcases there with (rfl | later) | before
      · exact .inr (by simp [Nat.testBit_or, Nat.testBit_shiftLeft])
      · exact .inl later
      · exact .inr (by simp [Nat.testBit_or, before])
  exact each codes 0 (.inl h)

/-- The code points of the characters that upper case changes. -/
def upperSources : Nat := codeSet (upperForms.map (·.1) ++ upperRuns.flatMap CodeRun.codes)

/-! ## The upper case of one character -/

theorem upperChar_cases (c : Char) :
    (∃ form, (c.toNat, form) ∈ upperForms ∧ upperChar c = form.map Char.ofNat) ∨
      (∃ run ∈ upperRuns, c.toNat ∈ run.codes ∧ upperChar c = [run.move c.toNat]) ∨
      upperChar c = [c] := by
  unfold upperChar
  cases hf : upperForms.lookup c.toNat with
  | some form =>
    obtain ⟨before, behind, table, -⟩ := List.lookup_eq_some_iff.1 hf
    exact .inl ⟨form, by rw [table]; simp, rfl⟩
  | none =>
    rcases shiftBy_cases upperRuns c with ⟨run, hr, covers, moved⟩ | same
    · exact .inr (.inl ⟨run, hr, run.mem_codes_of_covers covers, by rw [moved]⟩)
    · exact .inr (.inr (by rw [same]))

theorem upperChar_ne_nil (c : Char) : upperChar c ≠ [] := by
  have filled : ∀ form ∈ upperForms, form.2 ≠ [] := by decide +kernel
  rcases upperChar_cases c with ⟨form, hf, h⟩ | ⟨run, -, -, h⟩ | h
  · rw [h]
    simpa using filled _ hf
  · simp [h]
  · simp [h]

/-- What holds of all that the tables lead to holds of what upper case brings in. -/
theorem eq_self_or_of_mem_upperChar {P : Char → Prop}
    (forms : ∀ form ∈ upperForms, ∀ n ∈ form.2, P (Char.ofNat n))
    (runs : ∀ run ∈ upperRuns, ∀ n ∈ run.codes, P (run.move n)) {c d : Char}
    (h : d ∈ upperChar c) : upperChar c = [c] ∨ P d := by
  rcases upperChar_cases c with ⟨form, hf, upper⟩ | ⟨run, hr, covered, upper⟩ | same
  · rw [upper, List.mem_map] at h
    obtain ⟨n, hn, rfl⟩ := h
    exact .inr (forms _ hf n hn)
  · rw [upper, List.mem_singleton] at h
    exact .inr (h ▸ runs run hr _ covered)
  · exact .inl same

theorem upperChar_eq_self {c : Char} (h : upperSources.testBit c.toNat = false) :
    upperChar c = [c] := by
  have no_source : c.toNat ∉ upperForms.map (·.1) ++ upperRuns.flatMap CodeRun.codes := by
    intro source
    rw [upperSources, testBit_codeSet source] at h
    cases h
  rw [List.mem_append, not_or] at no_source
  rcases upperChar_cases c with ⟨form, hf, -⟩ | ⟨run, hr, covered, -⟩ | same
  · exact absurd (List.mem_map_of_mem hf) no_source.1
  · exact absurd (List.mem_flatMap_of_mem hr covered) no_source.2
  · exact same

/-- Every character in upper case is its own upper case. -/
theorem upperChar_of_mem_upperChar {c d : Char} (h : d ∈ upperChar c) : upperChar d = [d] := by
  -- nothing that the tables lead to is in the tables again
  have forms : ∀ form ∈ upperForms, ∀ n ∈ form.2,
      upperSources.testBit (Char.ofNat n).toNat = false := by decide +kernel
  have runs : ∀ run ∈ upperRuns, ∀ n ∈ run.codes,
      upperSources.testBit (run.move n).toNat = false := by decide +kernel
  rcases eq_self_or_of_mem_upperChar (P := fun d => upperSources.testBit d.toNat = false)
    forms runs h with same | off
  · rw [same, List.mem_singleton] at h
    rwa [h]
  · exact upperChar_eq_self off

end Fleet.Text
