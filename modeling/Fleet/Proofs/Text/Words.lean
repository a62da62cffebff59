/-
The words of a text as its maximal runs of characters outside a class. `Runs` says what they are
without cutting the text; every text has runs, and cutting finds exactly these (`wordsBy_eq_iff`).
Words joined by a character of the class are found again (`wordsBy_intercalate`).
-/
import Fleet.Text.Split

namespace Fleet.Text

/-- The maximal runs of characters outside the class `p`, from left to right: what stands around
them is in the class, and so is what ends one. -/
inductive Runs (p : Char → Bool) : List Char → List (List Char) → Prop
  | nil : Runs p [] []
  | skip {c : Char} {cs : List Char} {runs : List (List Char)} (separator : p c = true)
      (rest : Runs p cs runs) : Runs p (c :: cs) runs
  | run {run cs : List Char} {runs : List (List Char)} (filled : run ≠ [])
      (unbroken : ∀ c ∈ run, p c = false) (ends : ∀ c ∈ cs.head?, p c = true)
      (rest : Runs p cs runs) : Runs p (run ++ cs) (run :: runs)

section

variable {p : Char → Bool} {cs : List Char}

/-! ## Cutting -/

theorem wordsBy_append_cons {c : Char} (hc : p c = true) (front back : List Char) :
    wordsBy p (front ++ c :: back) = wordsBy p front ++ wordsBy p back := by
  rw [wordsBy, splitBy_append_cons hc, List.filter_append, wordsBy, wordsBy]

theorem wordsBy_cons {c : Char} (hc : p c = true) (cs : List Char) :
    wordsBy p (c :: cs) = wordsBy p cs :=
  wordsBy_append_cons hc [] cs

theorem wordsBy_eq_singleton (filled : cs ≠ []) (unbroken : ∀ c ∈ cs, p c = false) :
    wordsBy p cs = [cs] := by
  rw [wordsBy, splitBy_eq_singleton unbroken]
  simpa using filled

theorem of_mem_wordsBy {word : List Char} (h : word ∈ wordsBy p cs) :
    word ≠ [] ∧ ∀ c ∈ word, p c = false := by
  obtain ⟨piece, filled⟩ := List.mem_filter.1 h
  exact ⟨by simpa using filled, not_mem_of_mem_splitBy piece⟩

/-- Words without a character of the class are found again between separators. -/
theorem wordsBy_intercalate {separator : Char} (hp : p separator = true)
    {words : List (List Char)} (some_word : words ≠ []) (filled : ∀ word ∈ words, word ≠ [])
    (unbroken : ∀ word ∈ words, ∀ c ∈ word, p c = false) :
    wordsBy p ([separator].intercalate words) = words := by
  rw [wordsBy, splitBy_intercalate hp some_word unbroken, List.filter_eq_self]
  intro word hw
  simpa using filled word hw

theorem mem_of_mem_intercalate {separator c : Char} {words : List (List Char)}
    (h : c ∈ [separator].intercalate words) : c = separator ∨ ∃ word ∈ words, c ∈ word := by
  induction words with
  | nil => cases h
  | cons word words ih =>
    cases words with
    | nil => exact .inr ⟨word, List.mem_cons_self, by simpa using h⟩
    | cons next words =>
      rw [List.intercalate_cons_cons, List.append_assoc, List.mem_append,
        List.singleton_append, List.mem_cons] at h
      rcases h with front | between | rest
      · exact .inr ⟨word, List.mem_cons_self, front⟩
      · exact .inl between
      · exact (ih rest).imp_right fun ⟨found, hf, hc⟩ => ⟨found, List.mem_cons_of_mem _ hf, hc⟩

/-! ## Runs -/

/-- Every list has maximal runs: a character in front of a run makes it longer, and one in front
of a separator is a run of its own. -/
theorem exists_runs (p : Char → Bool) (cs : List Char) : ∃ runs, Runs p cs runs := by
  induction cs with
  | nil => exact ⟨[], .nil⟩
  | cons c cs ih =>
    obtain ⟨runs, h⟩ := ih
    by_cases hc : p c = true
    · exact ⟨runs, .skip hc h⟩
    · have alone : ∀ d ∈ [c], p d = false := by simpa using hc
      cases h with
      | nil => exact ⟨[[c]], .run (List.cons_ne_nil c []) alone nofun .nil⟩
      | skip separator rest =>
        refine ⟨[c] :: runs, .run (List.cons_ne_nil c []) alone ?_ (.skip separator rest)⟩
        rintro d ⟨⟩
        exact separator
      | @run run cs runs _ unbroken ends rest =>
        have longer : ∀ d ∈ c :: run, p d = false :=
          List.forall_mem_cons.2 ⟨alone c List.mem_cons_self, unbroken⟩
        exact ⟨(c :: run) :: runs, .run (List.cons_ne_nil c run) longer ends rest⟩

theorem Runs.wordsBy_eq {runs : List (List Char)} (h : Runs p cs runs) : wordsBy p cs = runs := by
  induction h with
  | nil => rfl
  | skip separator _ ih => rw [wordsBy_cons separator, ih]
  | @run run cs runs filled unbroken ends _ ih =>
    have first := wordsBy_eq_singleton filled unbroken
    cases cs with
    | nil =>
      obtain rfl : [] = runs := ih
      rw [List.append_nil, first]
    | cons c cs =>
      have separator := ends c rfl
      rw [wordsBy_cons separator] at ih
      rw [wordsBy_append_cons separator, first, ih, List.singleton_append]

/-- The words that cutting gives are the maximal runs. -/
theorem wordsBy_eq_iff {runs : List (List Char)} : wordsBy p cs = runs ↔ Runs p cs runs := by
  obtain ⟨found, h⟩ := exists_runs p cs
  constructor
  · rintro rfl
    rwa [h.wordsBy_eq]
  · exact Runs.wordsBy_eq

/-- Only separators hold no run. -/
theorem Runs.eq_nil_iff {runs : List (List Char)} (h : Runs p cs runs) :
    runs = [] ↔ ∀ c ∈ cs, p c = true := by
  induction h with
  | nil => simp
  | skip separator _ ih => rw [ih, List.forall_mem_cons, and_iff_right separator]
  | run filled unbroken _ _ _ =>
    obtain ⟨c, run, rfl⟩ := List.exists_cons_of_ne_nil filled
    simp [unbroken c List.mem_cons_self]

theorem wordsBy_eq_nil_iff : wordsBy p cs = [] ↔ ∀ c ∈ cs, p c = true :=
  (wordsBy_eq_iff.1 rfl).eq_nil_iff

end

end Fleet.Text
