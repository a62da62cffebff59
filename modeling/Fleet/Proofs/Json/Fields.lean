/-
Records read back from what was written of them. A record is written as the object of the fields
that have a value, so a field is found under its name exactly if it has one (`lookup_written`), and
each kind of field comes back as it was: required and defaulted fields from their value, optional
ones from their value or from being left out. Only an opaque optional field that holds null is not
told from one that is not there (`unlessNull`).
-/
import Fleet.Json.Fields
import Mathlib.Data.List.Nodup

namespace Fleet.Json

/-! ## Members of a written record -/

/-- The members of the object that is written for some fields. -/
def written (fields : List (String × Option Json)) : List (String × Json) :=
  fields.filterMap fun field => field.2.map (field.1, ·)

theorem mem_names_of_mem_written {fields : List (String × Option Json)} {member : String × Json}
    (h : member ∈ written fields) : member.1 ∈ fields.map (·.1) := by
  obtain ⟨field, hf, hm⟩ := List.mem_filterMap.1 h
  obtain ⟨value, -, rfl⟩ := Option.map_eq_some_iff.1 hm
  exact List.mem_map_of_mem hf

/-- A field that is written once is found under its name if it has a value. -/
theorem lookup_written {fields : List (String × Option Json)}
    (distinct : (fields.map (·.1)).Nodup) {name : String} {value : Option Json}
    (h : fields.lookup name = some value) : (written fields).lookup name = value := by
  induction fields with
  | nil => cases h
  | cons field fields ih =>
    obtain ⟨first, given⟩ := field
    rw [List.map_cons, List.nodup_cons] at distinct
    rw [List.lookup_cons] at h
    by_cases same : name = first
    · subst same
      rw [beq_self_eq_true] at h
      obtain rfl := Option.some.inj h
      cases given with
      | some value => exact List.lookup_cons_self
      | none =>
        -- nothing else is written under this name
        refine List.lookup_eq_none_iff.2 fun member hm => ?_
        have := mem_names_of_mem_written (show member ∈ written fields from hm)
        rw [bne_iff_ne]
        rintro rfl
        exact distinct.1 this
    · have apart : (name == first) = false := beq_eq_false_iff_ne.2 same
      rw [apart] at h
      rw [← ih distinct.2 h]
      cases given with
      | none => rfl
      | some value =>
        show ((first, value) :: written fields).lookup name = _
        rw [List.lookup_cons, apart]

/-- To read a written record is to read its fields from members that hold what was written. -/
theorem bind_fields?_ofFields {α : Type} {names : List String}
    {fields : List (String × Option Json)} {decode? : List (String × Json) → Option α} {a : α}
    (keys : fields.map (·.1) = names) (distinct : names.Nodup)
    (reads : ∀ members : List (String × Json), (∀ name value, fields.lookup name = some value →
      members.lookup name = value) → decode? members = some a) :
    ((ofFields fields).fields? names).bind decode? = some a :=
  reads (written fields) fun _ _ h => lookup_written (keys ▸ distinct) h

/-! ## Fields read back -/

section Reading

variable {α : Type} {fields : List (String × Json)} {name : String} {decode? : Json → Option α}

theorem required?_of_lookup {value : Json} (h : fields.lookup name = some value) :
    required? fields name decode? = decode? value := by
  rw [required?, h, Option.bind_some]

theorem defaulted?_of_lookup {value : Json} {default : α} (h : fields.lookup name = some value) :
    defaulted? fields name default decode? = decode? value := by
  rw [defaulted?, h]

/-- An optional field that is never written as null comes back as its value does. -/
theorem optional?_of_lookup {β : Type} {encode : β → Json} {back : β → α} {x : Option β}
    (h : fields.lookup name = x.map encode) (apart : ∀ b, encode b ≠ .null)
    (decodes : ∀ b, decode? (encode b) = some (back b)) :
    optional? fields name decode? = some (x.map back) := by
  unfold optional?
  rw [h]
  cases x with
  | none => rfl
  | some b =>
    have value := decodes b
    have given := apart b
    rw [Option.map_some]
    cases hv : encode b with
    | null => exact absurd hv given
    | bool | number | text | array | object =>
      rw [hv] at value
      simp only [value, Option.map_some]

theorem optional?_text {s : Option String} (h : fields.lookup name = ofText? s) :
    optional? fields name text? = some s := by
  have read : optional? fields name text? = some (s.map id) :=
    optional?_of_lookup h (by simp) fun _ => rfl
  rw [read, Option.map_id_apply]

/-- A value of an optional field has been decoded. -/
theorem exists_of_optional? {a : α} (h : optional? fields name decode? = some (some a)) :
    ∃ value, decode? value = some a := by
  unfold optional? at h
  split at h
  · cases h
  · cases h
  · rename_i value _ _
    obtain ⟨b, hb, he⟩ := Option.map_eq_some_iff.1 h
    cases he
    exact ⟨value, hb⟩

end Reading

/-! ## What reading a record finds -/

/-- What stands in a record under each name: in an object the member of that name, in an array,
which may be shorter than the record, the item at the place of the name. -/
inductive HasFields (names : List String) : Json → (String → Option Json) → Prop where
  | object (members : List (String × Json)) :
    HasFields names (.object members) fun name => members.lookup name
  | array {items : List Json} (fits : items.length ≤ names.length) :
    HasFields names (.array items) fun name => items[names.idxOf name]?

section Finding

variable {names : List String}

theorem lookup_zip {items : List Json} (fits : items.length ≤ names.length) (name : String) :
    (names.zip items).lookup name = items[names.idxOf name]? := by
  induction names generalizing items with
  | nil =>
    obtain rfl := List.eq_nil_of_length_eq_zero (Nat.le_zero.1 fits)
    rfl
  | cons first names ih =>
    cases items with
    | nil => rfl
    | cons item items =>
      rw [List.zip_cons_cons, List.lookup_cons, List.idxOf_cons]
      by_cases same : name = first
      · subst same
        simp
      · have apart : (name == first) = false := beq_eq_false_iff_ne.2 same
        have apart' : (first == name) = false := beq_eq_false_iff_ne.2 (Ne.symm same)
        rw [apart, apart']
        exact ih (Nat.le_of_succ_le_succ fits)

theorem hasFields_of_fields? {value : Json} {fields : List (String × Json)}
    (h : value.fields? names = some fields) :
    HasFields names value fun name => fields.lookup name := by
  unfold fields? at h
  split at h
  · cases h
    exact .object _
  · split at h
    · rename_i fits
      cases h
      simp only [lookup_zip fits]
      exact .array fits
    · cases h
  · cases h

theorem HasFields.fields? {value : Json} {field : String → Option Json}
    (h : HasFields names value field) :
    ∃ fields, value.fields? names = some fields ∧ ∀ name, fields.lookup name = field name := by
  cases h with
  | object members => exact ⟨members, rfl, fun _ => rfl⟩
  | array fits => exact ⟨_, if_pos fits, lookup_zip fits⟩

end Finding

section Found

variable {α : Type} {fields : List (String × Json)} {name : String} {decode? : Json → Option α}

theorem required?_eq_some_iff {a : α} :
    required? fields name decode? = some a ↔
      ∃ value, fields.lookup name = some value ∧ decode? value = some a :=
  Option.bind_eq_some_iff

theorem defaulted?_eq_some_iff {a default : α} :
    defaulted? fields name default decode? = some a ↔
      (∃ value, fields.lookup name = some value ∧ decode? value = some a) ∨
        fields.lookup name = none ∧ a = default := by
  unfold defaulted?
  cases fields.lookup name with
  | none => simp [eq_comm]
  | some value => simp

theorem text?_eq_some_iff {value : Json} {s : String} : value.text? = some s ↔ value = .text s := by
  cases value <;> simp [text?]

theorem required?_text_eq_some_iff {s : String} :
    required? fields name text? = some s ↔ fields.lookup name = some (.text s) := by
  simp [required?_eq_some_iff, text?_eq_some_iff]

theorem defaulted?_text_eq_some_iff {s default : String} :
    defaulted? fields name default text? = some s ↔
      fields.lookup name = some (.text s) ∨ fields.lookup name = none ∧ s = default := by
  simp [defaulted?_eq_some_iff, text?_eq_some_iff]

theorem optional?_text_eq_some_iff {s : String} :
    optional? fields name text? = some (some s) ↔ fields.lookup name = some (.text s) := by
  unfold optional?
  cases fields.lookup name with
  | none => simp
  | some value => cases value <;> simp [text?]

end Found

/-! ## Opaque fields -/

/-- An opaque optional field as it is read: null stands for a field that is not there. -/
def unlessNull : Option Json → Option Json
  | some .null => none
  | value => value

theorem optional?_opaque (fields : List (String × Json)) (name : String) :
    optional? fields name some = some (unlessNull (fields.lookup name)) := by
  unfold optional? unlessNull
  cases fields.lookup name with
  | none => rfl
  | some value => cases value <;> rfl

theorem unlessNull_ne_null (value : Option Json) : unlessNull value ≠ some .null := by
  unfold unlessNull
  split
  · nofun
  · assumption

theorem unlessNull_eq_self_iff {value : Option Json} :
    unlessNull value = value ↔ value ≠ some .null := by
  constructor
  · intro same
    rw [← same]
    exact unlessNull_ne_null value
  · intro apart
    unfold unlessNull
    split
    · exact absurd rfl apart
    · rfl

theorem getD_unlessNull (value : Option Json) :
    (unlessNull value).getD .null = value.getD .null := by
  unfold unlessNull
  split <;> rfl

end Fleet.Json
