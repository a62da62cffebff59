/-
What a later source leaves of an earlier one. Under a key stands the last value given for that very
key, whatever is given for others (`Settings.overlayAll_stands`): a longer key that begins with it
can only make a list or a table of the value, which then is no text any more.
-/
import Fleet.Settings.Load
import Mathlib.Data.List.TakeWhile

namespace Fleet

namespace Setting

/-! ## Rows -/

section Rows

variable {key other : String} {value : Setting} {rows : List (String × Setting)}

theorem lookup_setRow_self : (setRow key value rows).lookup key = some value := by
  induction rows with
  | nil => simp [setRow]
  | cons row rest ih =>
    obtain ⟨k, v⟩ := row
    by_cases same : k = key
    · simp [setRow, same]
    · rw [setRow, if_neg same, List.lookup_cons, beq_false_of_ne (Ne.symm same), ih]

theorem lookup_setRow_of_ne (apart : other ≠ key) :
    (setRow key value rows).lookup other = rows.lookup other := by
  induction rows with
  | nil => simp [setRow, List.lookup_cons, beq_false_of_ne apart]
  | cons row rest ih =>
    obtain ⟨k, v⟩ := row
    by_cases same : k = key
    · subst same
      rw [setRow, if_pos rfl, List.lookup_cons, List.lookup_cons, beq_false_of_ne apart]
    · rw [setRow, if_neg same, List.lookup_cons, List.lookup_cons, ih]

end Rows

/-! ## Values -/

/-- A list or a table. -/
inductive Compound : Setting → Prop where
  | list (items : List Setting) : Compound (.list items)
  | table (rows : List (String × Setting)) : Compound (.table rows)

/-- A value inside makes a list or a table. -/
theorem compound_place (step : Step) (rest : List Step) (new old : Setting) :
    Compound (place (step :: rest) new old) := by
  cases step with
  | key name => exact .table _
  | index i => exact .list _

/-- A scalar takes the place of what was there. -/
theorem overlay_of_text? {new : Setting} {s : String} (scalar : new.text? = some s)
    (old : Setting) : overlay new old = new := by
  cases new with
  | table => cases scalar
  | nothing | truth | integer | real | text | list => rw [overlay]

/-- Under the key stands the value, or a list or a table that was made of it. -/
def Stands (key : String) (value setting : Setting) : Prop :=
  ∃ found, setting.rows.lookup key = some found ∧ (found = value ∨ found.Compound)

section Reading

variable {key s : String} {value setting : Setting}

theorem Stands.of_defaulted? {default t : String} (h : Stands key value setting)
    (scalar : value.text? = some s) (read : setting.defaulted? key default text? = some t) :
    t = s := by
  obtain ⟨found, there, rfl | compound⟩ := h
  · rw [defaulted?, there] at read
    exact Option.some.inj (read.symm.trans scalar)
  · rw [defaulted?, there] at read
    cases compound <;> cases read

theorem Stands.of_optional? {t : Option String} (h : Stands key value setting)
    (scalar : value.text? = some s) (read : setting.optional? key text? = some t) :
    t = some s := by
  obtain ⟨found, there, rfl | compound⟩ := h
  · have some_read : setting.optional? key text? = found.text?.map some := by
      rw [optional?, there]
      cases found with
      | nothing => cases scalar
      | truth | integer | real | text | list | table => rfl
    rw [some_read, scalar] at read
    exact (Option.some.inj read).symm
  · rw [optional?, there] at read
    cases compound <;> cases read

end Reading

end Setting

namespace Settings

open Setting (Stands)

/-! ## Keys -/

/-- A key of one name. -/
def Named (key : String) : Prop := key ≠ "" ∧ ∀ c ∈ key.toList, isNameChar c = true

theorem stepsOf_of_named {key : String} (named : Named key) : stepsOf key = [.key key] := by
  obtain ⟨filled, each⟩ := named
  have name : key.toList.takeWhile isNameChar = key.toList := List.takeWhile_eq_self_iff.2 each
  have rest : key.toList.dropWhile isNameChar = [] := List.dropWhile_eq_nil_iff.2 each
  have done : steps? key.toList.length [] = some [] := by
    cases key.toList.length <;> rfl
  have left : key.toList.isEmpty = false := by simpa using filled
  simp only [stepsOf, name, rest, done, left, String.ofList_toList]
  rfl

/-- Only the end of a key has no further steps. -/
theorem eq_nil_of_steps? {fuel : Nat} {cs : List Char} (h : steps? fuel cs = some []) :
    cs = [] := by
  unfold steps? at h
  split at h
  · rfl
  · cases h
  · dsimp only at h
    split at h
    · cases h
    · obtain ⟨_, -, made⟩ := Option.map_eq_some_iff.1 h
      cases made
  · split at h
    · split at h
      · cases h
      · obtain ⟨_, -, h⟩ := Option.bind_eq_some_iff.1 h
        obtain ⟨_, -, made⟩ := Option.map_eq_some_iff.1 h
        cases made
    · cases h
  · cases h

/-- A key begins with a name, and it is that name if there is nothing behind it. -/
theorem exists_stepsOf (key : String) :
    ∃ name rest, stepsOf key = .key name :: rest ∧ (rest = [] → name = key) := by
  simp only [stepsOf]
  split
  · exact ⟨key, [], rfl, fun _ => rfl⟩
  · split
    · rename_i steps hs
      refine ⟨_, steps, rfl, ?_⟩
      rintro rfl
      have whole := List.takeWhile_append_dropWhile (p := isNameChar) (l := key.toList)
      rw [eq_nil_of_steps? hs, List.append_nil] at whole
      rw [whole, String.ofList_toList]
    · exact ⟨key, [], rfl, fun _ => rfl⟩

/-! ## Sources in turn -/

section Sources

variable {key : String} {value setting : Setting}

/-- A value for another key takes nothing away. -/
theorem stands_place {other : String} (apart : other ≠ key) (new : Setting)
    (h : Stands key value setting) :
    Stands key value (Setting.place (stepsOf other) new setting) := by
  obtain ⟨name, rest, steps, last⟩ := exists_stepsOf other
  obtain ⟨found, there, kept⟩ := h
  rw [steps]
  by_cases same : name = key
  · subst same
    refine ⟨_, Setting.lookup_setRow_self, .inr ?_⟩
    cases rest with
    | nil => exact absurd (last rfl).symm apart
    | cons step rest => exact Setting.compound_place step rest _ _
  · refine ⟨found, ?_, kept⟩
    exact (Setting.lookup_setRow_of_ne (Ne.symm same)).trans there

theorem stands_overlayAll {rows : List (String × Setting)} (apart : ∀ row ∈ rows, row.1 ≠ key)
    (h : Stands key value setting) : Stands key value (overlayAll setting rows) := by
  induction rows generalizing setting with
  | nil => exact h
  | cons row rest ih =>
    obtain ⟨first, others⟩ := List.forall_mem_cons.1 apart
    exact ih others (stands_place first row.2 h)

/-- The last text given for a key is the one that counts. -/
theorem overlayAll_stands {before after : List (String × Setting)} {s : String} (named : Named key)
    (scalar : value.text? = some s) (last : ∀ row ∈ after, row.1 ≠ key) (setting : Setting) :
    Stands key value (overlayAll setting (before ++ (key, value) :: after)) := by
  rw [overlayAll, List.foldl_append, List.foldl_cons, stepsOf_of_named named]
  refine stands_overlayAll last ⟨value, ?_, .inl rfl⟩
  exact Setting.lookup_setRow_self.trans (congrArg some (Setting.overlay_of_text? scalar _))

end Sources

end Settings

end Fleet
