/-
Labels. The words of a key are its maximal runs of characters that are neither marks nor white
space; its label holds the same words, each begun in upper case, with single spaces between them
(`titles_humanize`). Upper case brings in no separator and is final, so a label has the words that
it shows and is its own label (`humanize_humanize`).
-/
import Fleet.Machine.Facts
import Fleet.Proofs.Text.Upper
import Fleet.Proofs.Text.Words
import Mathlib.Data.List.Forall2

namespace Fleet

open Text (Runs isBlank wordsBy)

/-! ## Separators -/

theorem isKeySeparator_iff {c : Char} :
    isKeySeparator c = true ↔ c = '_' ∨ c = '-' ∨ isBlank c = true := by
  simp only [isKeySeparator, Bool.or_eq_true, beq_iff_eq, or_assoc]

/-- Upper case brings in no separator. -/
theorem eq_of_mem_upperChar {c d : Char} (h : d ∈ Text.upperChar c)
    (separator : isKeySeparator d = true) : d = c := by
  have forms : ∀ form ∈ Text.upperForms, ∀ n ∈ form.2, isKeySeparator (Char.ofNat n) = false := by
    decide +kernel
  have runs : ∀ run ∈ Text.upperRuns, ∀ n ∈ run.codes, isKeySeparator (run.move n) = false := by
    decide +kernel
  rcases Text.eq_self_or_of_mem_upperChar (P := fun d => isKeySeparator d = false) forms runs h
    with same | off
  · rw [same, List.mem_singleton] at h
    exact h
  · rw [off] at separator
    cases separator

/-! ## Capitalized words -/

theorem capitalize_ne_nil {word : List Char} (filled : word ≠ []) : capitalize word ≠ [] := by
  obtain ⟨c, cs, rfl⟩ := List.exists_cons_of_ne_nil filled
  exact List.append_ne_nil_of_left_ne_nil (Text.upperChar_ne_nil c) cs

/-- A capitalized word is as free of separators as the word. -/
theorem capitalize_unbroken {word : List Char} (unbroken : ∀ c ∈ word, isKeySeparator c = false) :
    ∀ c ∈ capitalize word, isKeySeparator c = false := by
  cases word with
  | nil => exact unbroken
  | cons first cs =>
    rw [List.forall_mem_cons] at unbroken
    intro c hc
    rcases List.mem_append.1 hc with upper | rest
    · rw [← Bool.not_eq_true]
      intro separator
      obtain rfl := eq_of_mem_upperChar upper separator
      rw [unbroken.1] at separator
      cases separator
    · exact unbroken.2 c rest

theorem capitalize_capitalize (word : List Char) :
    capitalize (capitalize word) = capitalize word := by
  cases word with
  | nil => rfl
  | cons c cs =>
    obtain ⟨d, ds, upper⟩ := List.exists_cons_of_ne_nil (Text.upperChar_ne_nil c)
    have final : Text.upperChar d = [d] :=
      Text.upperChar_of_mem_upperChar (upper ▸ List.mem_cons_self : d ∈ Text.upperChar c)
    rw [capitalize, upper, List.cons_append, capitalize, final, List.singleton_append]

/-! ## The words of a label -/

/-- The words of a key. -/
def keyWords (key : String) : List (List Char) := wordsBy isKeySeparator key.toList

theorem keyWords_eq_nil_iff {key : String} :
    keyWords key = [] ↔ ∀ c ∈ key.toList, isKeySeparator c = true :=
  Text.wordsBy_eq_nil_iff

theorem humanize_of_wordless {key : String} (h : keyWords key = []) : humanize key = key := by
  unfold keyWords at h
  unfold humanize
  rw [h]

theorem toList_humanize {key : String} (h : keyWords key ≠ []) :
    (humanize key).toList = [' '].intercalate ((keyWords key).map capitalize) := by
  unfold humanize
  split
  · contradiction
  · exact String.toList_ofList

/-- Cut where white space is, or at marks as well, a label has the words of its key, capitalized. -/
theorem wordsBy_humanize {key : String} (h : keyWords key ≠ []) {p : Char → Bool}
    (space : p ' ' = true) (separates : ∀ c, p c = true → isKeySeparator c = true) :
    wordsBy p (humanize key).toList = (keyWords key).map capitalize := by
  rw [toList_humanize h]
  refine Text.wordsBy_intercalate space (by simpa using h) ?_ ?_
  · rw [List.forall_mem_map]
    intro word hw
    exact capitalize_ne_nil (Text.of_mem_wordsBy hw).1
  · rw [List.forall_mem_map]
    intro word hw c hc
    rw [← Bool.not_eq_true]
    intro separator
    have unbroken := capitalize_unbroken (Text.of_mem_wordsBy hw).2 c hc
    rw [separates c separator] at unbroken
    cases unbroken

/-- The only separator in a label is the space. -/
theorem eq_space_of_mem_humanize {key : String} (h : keyWords key ≠ []) {c : Char}
    (hc : c ∈ (humanize key).toList) (separator : isKeySeparator c = true) : c = ' ' := by
  rw [toList_humanize h] at hc
  rcases Text.mem_of_mem_intercalate hc with space | ⟨word, hw, hc⟩
  · exact space
  · obtain ⟨run, hr, rfl⟩ := List.mem_map.1 hw
    rw [capitalize_unbroken (Text.of_mem_wordsBy hr).2 c hc] at separator
    cases separator

/-- A label is its own label. -/
theorem humanize_humanize (key : String) : humanize (humanize key) = humanize key := by
  by_cases h : keyWords key = []
  · rw [humanize_of_wordless h, humanize_of_wordless h]
  · -- the second pass finds the words of the first, and they are capitalized already
    have words : keyWords (humanize key) = (keyWords key).map capitalize :=
      wordsBy_humanize h rfl fun _ => id
    refine String.toList_injective ?_
    rw [toList_humanize (by simpa [words] using h), toList_humanize h, words, List.map_map]
    congr 2
    exact funext capitalize_capitalize

/-! ## Keys and labels -/

/-- The word is the run with nothing but its first character replaced, by its full upper case. -/
inductive Capitalized : List Char → List Char → Prop
  | first (c : Char) (cs : List Char) : Capitalized (c :: cs) (Text.upperChar c ++ cs)

theorem capitalized_capitalize {run : List Char} (filled : run ≠ []) :
    Capitalized run (capitalize run) := by
  obtain ⟨c, cs, rfl⟩ := List.exists_cons_of_ne_nil filled
  exact .first c cs

/-- The label shows the runs of a key as words. -/
structure Titles (runs : List (List Char)) (label : List Char) : Prop where
  unmarked : '_' ∉ label ∧ '-' ∉ label
  spaced : ∀ c ∈ label, isBlank c = true → c = ' '
  /-- The words are the runs one by one, capitalized, with one space between two of them. -/
  words : ∃ words, List.Forall₂ Capitalized runs words ∧ Runs isBlank label words ∧
    label = [' '].intercalate words

/-- What the label of a key is, whether the key has words or not. -/
structure Labelled (key label : String) : Prop where
  titled : (∃ c ∈ key.toList, isKeySeparator c = false) →
    ∃ runs, Runs isKeySeparator key.toList runs ∧ Titles runs label.toList
  kept : (∀ c ∈ key.toList, isKeySeparator c = true) → label = key
  final : humanize label = label

theorem titles_humanize {key : String} (h : keyWords key ≠ []) :
    Titles (keyWords key) (humanize key).toList where
  unmarked := by
    constructor <;>
      exact fun mark => absurd (eq_space_of_mem_humanize h mark (by decide)) (by decide)
  spaced c hc blank := eq_space_of_mem_humanize h hc (isKeySeparator_iff.2 (.inr (.inr blank)))
  words := by
    refine ⟨(keyWords key).map capitalize, ?_, ?_, toList_humanize h⟩
    · rw [List.forall₂_map_right_iff, List.forall₂_same]
      intro run hr
      exact capitalized_capitalize (Text.of_mem_wordsBy hr).1
    · rw [← Text.wordsBy_eq_iff]
      exact wordsBy_humanize h rfl fun c blank => isKeySeparator_iff.2 (.inr (.inr blank))

theorem labelled_humanize (key : String) : Labelled key (humanize key) := by
  constructor
  case titled =>
    rintro ⟨c, hc, filled⟩
    have some_word : keyWords key ≠ [] := by
      intro none_left
      rw [keyWords_eq_nil_iff.1 none_left c hc] at filled
      cases filled
    exact ⟨keyWords key, Text.wordsBy_eq_iff.1 rfl, titles_humanize some_word⟩
  case kept =>
    intro wordless
    exact humanize_of_wordless (keyWords_eq_nil_iff.2 wordless)
  case final => exact humanize_humanize key

/-- Two words of this key begin with a letter whose upper case has two characters. -/
theorem labelled_north :
    ((∃ c ∈ "_ŉorth--boot\u3000mode_ß".toList, isKeySeparator c = false) ∧
      ∃ runs, Runs isKeySeparator "_ŉorth--boot\u3000mode_ß".toList runs ∧
        Titles runs "ʼNorth Boot Mode SS".toList) ∧
    (∀ c ∈ "_-".toList, isKeySeparator c = true) ∧ humanize "_-" = "_-" := by
  have filled : ∃ c ∈ "_ŉorth--boot\u3000mode_ß".toList, isKeySeparator c = false :=
    ⟨'b', by decide, by decide⟩
  have titled := (labelled_humanize "_ŉorth--boot\u3000mode_ß").titled filled
  have label : humanize "_ŉorth--boot\u3000mode_ß" = "ʼNorth Boot Mode SS" := by decide +kernel
  rw [label] at titled
  have wordless : ∀ c ∈ "_-".toList, isKeySeparator c = true :=
    List.all_eq_true.1 (by decide +kernel)
  exact ⟨⟨filled, titled⟩, wordless, (labelled_humanize "_-").kept wordless⟩

end Fleet
