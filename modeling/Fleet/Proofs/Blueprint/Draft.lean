/-
Checked drafts. Checking gives a copy exactly if the copy has the draft's texts, trimmed, and its
payload, and can be submitted (`validate_eq_ok_iff`); a draft that can be submitted is its own
checked copy (`validate_of_submittable`).
-/
import Fleet.Blueprint.Draft
import Fleet.Proofs.Text.Tidy

namespace Fleet.Draft

/-- What may be sent to the backend: tidy texts, and an object for a payload. -/
structure Submittable (draft : Draft) : Prop where
  name : Text.Tidy draft.name
  os : Text.Tidy draft.os
  version : Text.Tidy draft.version
  data : ∃ members, draft.data = .object members

/-- The copy has the draft's texts, trimmed, and its payload, or an empty object for none. -/
structure Trims (draft copy : Draft) : Prop where
  name : copy.name = Text.trim draft.name
  os : copy.os = Text.trim draft.os
  version : copy.version = Text.trim draft.version
  data : copy.data = draft.data ∨ draft.data = .null ∧ copy.data = .object []

/-! ## Single fields -/

theorem required_eq_ok_iff {field value text : String} :
    required field value = .ok text ↔ text = Text.trim value ∧ Text.Tidy text := by
  unfold required
  constructor
  · intro h
    split at h
    · rename_i trimmed ht
      cases h
      exact ⟨(Text.nonBlank?_eq_some_iff.1 ht).1.symm, Text.tidy_of_nonBlank? ht⟩
    · cases h
  · rintro ⟨rfl, tidy⟩
    have left : (Text.trim value).isEmpty = false := by simpa using tidy.ne_empty
    rw [Text.nonBlank?_eq_some_iff.2 ⟨rfl, left⟩]

theorem objectData_eq_ok_iff {value data : Json} :
    objectData value = .ok data ↔
      (data = value ∨ value = .null ∧ data = .object []) ∧ ∃ members, data = .object members := by
  cases value with
  | null =>
    simp only [objectData, Except.ok.injEq, true_and]
    constructor
    · rintro rfl
      exact ⟨.inr rfl, _, rfl⟩
    · rintro ⟨rfl | rfl, members, hm⟩
      · cases hm
      · rfl
  | object members =>
    simp only [objectData, Except.ok.injEq, reduceCtorEq, false_and, or_false]
    constructor
    · rintro rfl
      exact ⟨rfl, _, rfl⟩
    · rintro ⟨rfl, -⟩
      rfl
  | bool | number | text | array =>
    simp only [objectData, reduceCtorEq, false_and, or_false, false_iff, not_and]
    rintro rfl ⟨members, hm⟩
    cases hm

/-! ## Whole drafts -/

theorem validate_eq_ok_iff {draft copy : Draft} :
    draft.validate = .ok copy ↔ draft.Trims copy ∧ copy.Submittable := by
  constructor
  · intro h
    obtain ⟨name, hn, h⟩ := bind_eq_ok_iff.1 h
    obtain ⟨os, ho, h⟩ := bind_eq_ok_iff.1 h
    obtain ⟨version, hv, h⟩ := bind_eq_ok_iff.1 h
    obtain ⟨data, hd, h⟩ := bind_eq_ok_iff.1 h
    cases h
    obtain ⟨name_eq, name_tidy⟩ := required_eq_ok_iff.1 hn
    obtain ⟨os_eq, os_tidy⟩ := required_eq_ok_iff.1 ho
    obtain ⟨version_eq, version_tidy⟩ := required_eq_ok_iff.1 hv
    obtain ⟨data_eq, object⟩ := objectData_eq_ok_iff.1 hd
    exact ⟨⟨name_eq, os_eq, version_eq, data_eq⟩, name_tidy, os_tidy, version_tidy, object⟩
  · rintro ⟨trims, submittable⟩
    unfold validate
    rw [required_eq_ok_iff.2 ⟨trims.name, submittable.name⟩,
      required_eq_ok_iff.2 ⟨trims.os, submittable.os⟩,
      required_eq_ok_iff.2 ⟨trims.version, submittable.version⟩,
      objectData_eq_ok_iff.2 ⟨trims.data, submittable.data⟩]
    rfl

theorem validate_of_submittable {draft : Draft} (h : draft.Submittable) :
    draft.validate = .ok draft :=
  validate_eq_ok_iff.2 ⟨⟨(Text.trim_of_tidy h.name).symm, (Text.trim_of_tidy h.os).symm,
    (Text.trim_of_tidy h.version).symm, .inl rfl⟩, h⟩

end Fleet.Draft
