/-
Checked ids. A text gives an id exactly if what trimming leaves of it may stand in a path
(`exists_ofText_iff`).
-/
import Fleet.Client.ResourceId
import Fleet.Proofs.Text.Tidy

namespace Fleet.ResourceId

/-- The text may stand in a path: it is not empty, and holds neither white space nor a character
that means something in a path. -/
structure Admissible (text : String) : Prop where
  solid : Text.Solid text
  slash : '/' ∉ text.toList
  question : '?' ∉ text.toList
  hash : '#' ∉ text.toList
  percent : '%' ∉ text.toList

theorem isForbidden_eq_false_iff {c : Char} :
    isForbidden c = false ↔
      c ≠ '/' ∧ c ≠ '?' ∧ c ≠ '#' ∧ c ≠ '%' ∧ Text.isBlank c = false := by
  simp [isForbidden, and_assoc]

theorem admissible_iff {text : String} :
    Admissible text ↔ text ≠ "" ∧ ∀ c ∈ text.toList, isForbidden c = false := by
  have filled : text ≠ "" ↔ text.toList ≠ [] := by simp
  rw [filled]
  constructor
  · rintro ⟨solid, slash, question, hash, percent⟩
    refine ⟨solid.ne_nil, fun c hc => isForbidden_eq_false_iff.2 ⟨?_, ?_, ?_, ?_, ?_⟩⟩
    · rintro rfl
      exact slash hc
    · rintro rfl
      exact question hc
    · rintro rfl
      exact hash hc
    · rintro rfl
      exact percent hc
    · exact solid.unbroken c hc
  · rintro ⟨ne_nil, allowed⟩
    have each := fun c hc => isForbidden_eq_false_iff.1 (allowed c hc)
    exact ⟨⟨ne_nil, fun c hc => (each c hc).2.2.2.2⟩, fun h => (each _ h).1 rfl,
      fun h => (each _ h).2.1 rfl, fun h => (each _ h).2.2.1 rfl, fun h => (each _ h).2.2.2.1 rfl⟩

theorem exists_ofText_iff {text : String} :
    (∃ id, ofText text = .ok id) ↔ Admissible (Text.trim text) := by
  rw [admissible_iff]
  constructor
  · rintro ⟨id, h⟩
    rw [← text_of_ofText h]
    exact ⟨id.filled, by simpa using id.allowed⟩
  · rintro ⟨filled, allowed⟩
    unfold ofText
    rw [dif_neg filled, dif_neg (by simpa using allowed)]
    exact ⟨_, rfl⟩

end Fleet.ResourceId
