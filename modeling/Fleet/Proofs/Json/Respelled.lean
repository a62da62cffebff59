/-
Ways of writing a value that say the same: the keys of its objects may come in another order, its
texts may have other white space at their ends, and an entry that is null may be left out
(`Respelled`). On values whose objects repeat no key this is an equivalence. It is kept by looking
a path up, so whatever is read from the values at some paths is read alike if what is read from
null is nothing (`Insensitive`).
-/
import Fleet.Json.Probe
import Fleet.Proofs.Text.Tidy
import Mathlib.Data.List.Nodup

namespace Fleet.Json

/-! ## Ways of writing a value -/

/-- The two values differ at most in how they are written. -/
inductive Respelled : Json → Json → Prop
  | null : Respelled .null .null
  | bool (b : Bool) : Respelled (.bool b) (.bool b)
  | number (n : Number) : Respelled (.number n) (.number n)
  | text {s t : String} (same : Text.SameButBlanks s t) : Respelled (.text s) (.text t)
  | array {items others : List Json} (length : items.length = others.length)
      (item : ∀ (i : Nat) (h : i < items.length) (h' : i < others.length),
        Respelled items[i] others[i]) :
    Respelled (.array items) (.array others)
  /-- Objects are compared key by key, where a key that is not there is taken for null. -/
  | object {members others : List (String × Json)} (distinct : (members.map (·.1)).Nodup)
      (distinct' : (others.map (·.1)).Nodup)
      (member : ∀ key, Respelled ((members.lookup key).getD .null)
        ((others.lookup key).getD .null)) :
    Respelled (.object members) (.object others)

variable {v w x : Json}

theorem mem_iff_lookup {members : List (String × Json)} (distinct : (members.map (·.1)).Nodup)
    {key : String} {value : Json} :
    (key, value) ∈ members ↔ members.lookup key = some value := by
  constructor
  · intro hm
    obtain ⟨before, after, rfl⟩ := List.mem_iff_append.1 hm
    refine List.lookup_eq_some_iff.2 ⟨before, after, rfl, fun other ho => ?_⟩
    rw [List.map_append, List.nodup_append] at distinct
    have := distinct.2.2 other.1 (List.mem_map_of_mem ho) key (by simp)
    simpa using this.symm
  · intro hl
    obtain ⟨before, after, rfl, -⟩ := List.lookup_eq_some_iff.1 hl
    simp

/-- The entries of an object without repeated keys are what stands under its keys. -/
theorem mem_members_iff {key : String} {value : Json}
    (distinct : ∀ members, v.members? = some members → (members.map (·.1)).Nodup) :
    (key, value) ∈ v.members?.getD [] ↔ v.get? key = some value := by
  rw [get?]
  cases hm : v.members? with
  | none => simp
  | some members =>
    rw [Option.getD_some, Option.bind_some]
    exact mem_iff_lookup (distinct members hm)

theorem respelled_self (h : v.WellFormed) : v.Respelled v := by
  induction h with
  | null => exact .null
  | bool b => exact .bool b
  | number n => exact .number n
  | text s => exact .text (Text.sameButBlanks_iff.2 rfl)
  | array _ ih => exact .array rfl fun i hi _ => ih _ (List.getElem_mem hi)
  | @object members distinct _ ih =>
    refine .object distinct distinct fun key => ?_
    cases hl : members.lookup key with
    | none => exact .null
    | some value => exact ih _ ((mem_iff_lookup distinct).2 hl)

theorem Respelled.symm (h : v.Respelled w) : w.Respelled v := by
  induction h with
  | null => exact .null
  | bool b => exact .bool b
  | number n => exact .number n
  | text same => exact .text (Text.sameButBlanks_iff.2 (Text.sameButBlanks_iff.1 same).symm)
  | array length _ ih => exact .array length.symm fun i hi hi' => ih i hi' hi
  | object distinct distinct' _ ih => exact .object distinct' distinct ih

theorem Respelled.trans (h : v.Respelled w) (h' : w.Respelled x) : v.Respelled x := by
  induction h generalizing x with
  | null => exact h'
  | bool => exact h'
  | number => exact h'
  | text same =>
    cases h' with
    | text same' =>
      exact .text (Text.sameButBlanks_iff.2
        ((Text.sameButBlanks_iff.1 same).trans (Text.sameButBlanks_iff.1 same')))
  | array length _ ih =>
    cases h' with
    | array length' item' =>
      exact .array (length.trans length') fun i hi hi' =>
        ih i hi (by omega) (item' i (by omega) hi')
  | object distinct _ _ ih =>
    cases h' with
    | object _ distinct' member' => exact .object distinct distinct' fun key => ih key (member' key)

/-! ### Rewriting an object -/

/-- The entries of an object may be rewritten in their places, -/
theorem respelled_of_forall₂ {members others : List (String × Json)}
    (distinct : (members.map (·.1)).Nodup)
    (h : List.Forall₂ (fun m m' => m.1 = m'.1 ∧ m.2.Respelled m'.2) members others) :
    (object members).Respelled (object others) := by
  have keys : members.map (·.1) = others.map (·.1) := by
    clear distinct
    induction h with
    | nil => rfl
    | cons entry _ ih => rw [List.map_cons, List.map_cons, entry.1, ih]
  refine .object distinct (keys ▸ distinct) fun key => ?_
  clear distinct keys
  induction h with
  | nil => exact .null
  | @cons m m' _ _ entry _ ih =>
    obtain ⟨same, value⟩ := entry
    rw [List.lookup_cons, List.lookup_cons, ← same]
    cases key == m.1 with
    | true => exact value
    | false => exact ih

/-- they may change places, -/
theorem respelled_of_perm {members others : List (String × Json)}
    (wf : (object members).WellFormed) (perm : members.Perm others) :
    (object members).Respelled (object others) := by
  cases respelled_self wf with
  | object distinct _ member =>
    have distinct' := (perm.map (·.1)).nodup_iff.1 distinct
    refine .object distinct distinct' fun key => ?_
    have same : members.lookup key = others.lookup key := by
      refine Option.ext fun value => ?_
      rw [← mem_iff_lookup distinct, ← mem_iff_lookup distinct', perm.mem_iff]
    rw [← same]
    exact member key

/-- and one that is null may be left out. -/
theorem respelled_cons_null {key : String} {members : List (String × Json)}
    (wf : (object ((key, .null) :: members)).WellFormed) :
    (object ((key, .null) :: members)).Respelled (object members) := by
  cases respelled_self wf with
  | object distinct _ member =>
    obtain ⟨fresh, distinct'⟩ := List.nodup_cons.1 distinct
    refine .object distinct distinct' fun other => ?_
    have same : (((key, null) :: members).lookup other).getD .null =
        (members.lookup other).getD .null := by
      rw [List.lookup_cons]
      cases h : other == key with
      | false => rfl
      | true =>
        obtain rfl := beq_iff_eq.1 h
        cases hl : members.lookup other with
        | none => rfl
        | some value => exact absurd (List.mem_map_of_mem ((mem_iff_lookup distinct').2 hl)) fresh
    have unchanged := member other
    rw [same] at unchanged ⊢
    exact unchanged

/-- No key is repeated in an object that can be written in other ways. -/
theorem Respelled.distinct {members : List (String × Json)} (h : v.Respelled w)
    (hm : v.members? = some members) : (members.map (·.1)).Nodup := by
  cases h with
  | object distinct _ _ =>
    cases hm
    exact distinct
  | null | bool | number | text | array => cases hm

/-! ## Looking up -/

theorem at?_null_getD (path : Path) : (null.at? path).getD .null = .null := by
  cases path with
  | nil => rfl
  | cons key path => rfl

theorem Respelled.get? (h : v.Respelled w) (key : String) :
    ((v.get? key).getD .null).Respelled ((w.get? key).getD .null) := by
  cases h with
  | object _ _ member => exact member key
  | null | bool | number | text | array => exact .null

/-- At the end of every path the values are written alike, or there is nothing but null. -/
theorem Respelled.at? (h : v.Respelled w) (path : Path) :
    ((v.at? path).getD .null).Respelled ((w.at? path).getD .null) := by
  have step : ∀ (v : Json) (key : String) (path : Path), (v.at? (key :: path)).getD .null =
      (((v.get? key).getD .null).at? path).getD .null := by
    intro v key path
    rw [at?_cons]
    cases v.get? key with
    | none => exact (at?_null_getD path).symm
    | some => rfl
  induction path generalizing v w with
  | nil => exact h
  | cons key path ih =>
    rw [step, step]
    exact ih (h.get? key)

/-! ## Reading -/

/-- What is read from a value does not depend on how it is written, and null is nothing. -/
structure Insensitive {β : Type} (read : Json → Option β) : Prop where
  null : read .null = none
  eq : ∀ {v w : Json}, v.Respelled w → read v = read w

namespace Insensitive

variable {β : Type} {read : Json → Option β}

theorem at_path (h : Insensitive read) (path : Path) :
    Insensitive fun value => (value.at? path).bind read := by
  have bind_eq : ∀ value : Json, (value.at? path).bind read =
      read ((value.at? path).getD .null) := by
    intro value
    cases value.at? path with
    | none => exact h.null.symm
    | some => rfl
  constructor
  · rw [bind_eq, at?_null_getD, h.null]
  · intro v w alike
    rw [bind_eq, bind_eq, h.eq (alike.at? path)]

theorem first (h : Insensitive read) (places : List Path) :
    Insensitive fun value => places.findSome? fun path => (value.at? path).bind read := by
  constructor
  · rw [List.findSome?_eq_none_iff]
    exact fun path _ => (h.at_path path).null
  · intro v w alike
    simp only [(h.at_path _).eq alike]

end Insensitive

theorem insensitive_nonBlank? : Insensitive nonBlank? where
  null := rfl
  eq h := by
    cases h with
    | text same => rw [nonBlank?_text, nonBlank?_text, Text.nonBlank?_eq same]
    | null | bool | number | array | object => rfl

theorem insensitive_scalarText? : Insensitive scalarText? where
  null := rfl
  eq h := by
    cases h with
    | text same => rw [scalarText?_text, scalarText?_text, Text.nonBlank?_eq same]
    | null | bool | number | array | object => rfl

theorem numeral?_eq {s t : String} (same : Text.SameButBlanks s t) : numeral? s = numeral? t := by
  unfold numeral?
  rw [Text.sameButBlanks_iff.1 same]

theorem insensitive_finite? : Insensitive finite? where
  null := rfl
  eq h := by
    cases h with
    | text same => simp only [finite?, numeral?_eq same]
    | null | bool | number | array | object => rfl

theorem insensitive_firstText? (places : List Path) : Insensitive (firstText? · places) :=
  insensitive_nonBlank?.first places

theorem Respelled.firstText? (h : v.Respelled w) (places : List Path) :
    v.firstText? places = w.firstText? places :=
  (insensitive_firstText? places).eq h

theorem Respelled.firstNumber? (h : v.Respelled w) (places : List Path) :
    v.firstNumber? places = w.firstNumber? places :=
  (insensitive_finite?.first places).eq h

/-- What is read from every item of an array is read alike. -/
theorem insensitive_items? {β : Type} {read : Json → Option β}
    (h : ∀ {v w : Json}, v.Respelled w → read v = read w) :
    Insensitive fun value => value.items?.map (List.filterMap read) where
  null := rfl
  eq alike := by
    cases alike with
    | null | bool | number | text | object => rfl
    | @array items others length item =>
      have same : items.map read = others.map read := by
        refine List.ext_getElem (by simpa using length) fun i hi hi' => ?_
        rw [List.getElem_map, List.getElem_map]
        exact h (item i (by simpa using hi) (by simpa using hi'))
      have eq_id : ∀ values : List Json, values.filterMap read =
          (values.map read).filterMap id := fun values => by rw [List.filterMap_map]; rfl
      simp only [items?, Option.map_some, eq_id, same]

end Fleet.Json
