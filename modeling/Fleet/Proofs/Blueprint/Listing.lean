/-
Blueprint listings. A body lists the blueprints that its entries spell out, each as often as it
is spelled out, sorted by name, those of one name in the order of the body. That leaves one list
for every body, and an entry that spells out none is as good as absent (`listedBy_iff`).
-/
import Fleet.Client.Listing
import Fleet.Proofs.Blueprint.Record
import Mathlib.Data.List.Infix

namespace Fleet.Listing

/-! ## Entries -/

/-- The entries under a key, whether they decode or not; a body of another shape has none. -/
def itemsUnder (key : String) (body : Json) : List Json :=
  ((body.get? key).bind Json.items?).getD []

theorem itemsUnder_of_get? {key : String} {body : Json} {listed : List Json}
    (h : body.get? key = some (.array listed)) : itemsUnder key body = listed := by
  unfold itemsUnder
  rw [h]
  rfl

/-- A body without an array under the key has no entries. -/
theorem itemsUnder_eq_nil {key : String} {body : Json}
    (bare : ∀ listed, body.get? key ≠ some (.array listed)) : itemsUnder key body = [] := by
  unfold itemsUnder
  cases hv : body.get? key with
  | none => rfl
  | some value =>
    cases value with
    | array listed => exact absurd hv (bare listed)
    | null | bool | number | text | object => rfl

/-- A body without an array under the name of a listing is an empty listing. -/
theorem decode_of_no_array {key : ResourceKey} {body : Json}
    (bare : ∀ listed, body.get? key.name ≠ some (.array listed)) : decode key body = [] := by
  have none_there := itemsUnder_eq_nil bare
  cases key with
  | machines => exact congrArg (List.filterMap MachineItem.ofJson?) none_there
  | blueprints =>
    have unsorted := congrArg (List.filterMap Blueprint.ofJson?) none_there
    exact (congrArg (List.mergeSort · _) unsorted).trans List.mergeSort_nil

/-- The blueprints that the entries spell out, in the order of the body. -/
def spelled (items : List Json) : List Blueprint := items.filterMap Blueprint.ofJson?

/-- Whether a blueprint has a name. -/
def isNamed (name : String) (blueprint : Blueprint) : Bool := blueprint.name == name

/-- The list is what some entries come to. -/
structure Lists (items : List Json) (list : List Blueprint) : Prop where
  /-- Every blueprint is listed as often as it is spelled out. -/
  each : list.Perm (spelled items)
  /-- Names ascend by code points. -/
  ascending : list.Pairwise fun a b => a.name ≤ b.name
  /-- Blueprints of one name stand in the order of the entries. -/
  stable : ∀ name, list.filter (isNamed name) = (spelled items).filter (isNamed name)

/-! ## Sorting by name -/

/-- Whether the name of a blueprint is not above the name of another. -/
def nameLe (a b : Blueprint) : Bool := decide (a.name ≤ b.name)

theorem nameLe_trans (a b c : Blueprint) (hab : nameLe a b) (hbc : nameLe b c) : nameLe a c :=
  decide_eq_true (String.le_trans (of_decide_eq_true hab) (of_decide_eq_true hbc))

theorem nameLe_total (a b : Blueprint) : (nameLe a b || nameLe b a) = true := by
  rw [Bool.or_eq_true]
  exact (String.le_total a.name b.name).imp decide_eq_true decide_eq_true

/-- Sorting leaves the blueprints of one name as they stand. -/
theorem filter_mergeSort (name : String) (list : List Blueprint) :
    (list.mergeSort nameLe).filter (isNamed name) = list.filter (isNamed name) := by
  have level : (list.filter (isNamed name)).Pairwise fun a b => nameLe a b = true := by
    refine List.pairwise_of_forall_mem_list fun a ha b hb => decide_eq_true ?_
    have same : a.name = b.name :=
      (beq_iff_eq.1 (List.mem_filter.1 ha).2).trans (beq_iff_eq.1 (List.mem_filter.1 hb).2).symm
    exact same ▸ String.le_refl a.name
  have inside : (list.filter (isNamed name)).Sublist (list.mergeSort nameLe) :=
    List.sublist_mergeSort nameLe_trans nameLe_total level List.filter_sublist
  have kept := inside.filter (isNamed name)
  rw [List.filter_filter] at kept
  simp only [Bool.and_self] at kept
  refine (kept.eq_of_length ?_).symm
  exact ((List.mergeSort_perm list nameLe).filter _).length_eq.symm

theorem lists_blueprints (body : Json) :
    Lists (itemsUnder "blueprints" body) (blueprints body) where
  each := List.mergeSort_perm _ _
  ascending := by
    refine (List.pairwise_mergeSort nameLe_trans nameLe_total _).imp ?_
    intro a b h
    exact of_decide_eq_true h
  stable name := filter_mergeSort name _

/-! ## No other list -/

/-- Lists that agree on each name have the same members. -/
theorem mem_of_agree {list other : List Blueprint} {blueprint : Blueprint}
    (agree : ∀ name, list.filter (isNamed name) = other.filter (isNamed name))
    (h : blueprint ∈ list) : blueprint ∈ other := by
  have named : blueprint ∈ list.filter (isNamed blueprint.name) :=
    List.mem_filter.2 ⟨h, by simp [isNamed]⟩
  rw [agree] at named
  exact (List.mem_filter.1 named).1

/-- In a list that ascends by name no member is below the head. -/
theorem head_le_of_mem {a b : Blueprint} {list : List Blueprint}
    (ascending : (a :: list).Pairwise fun a b => a.name ≤ b.name) (h : b ∈ a :: list) :
    a.name ≤ b.name := by
  rcases List.mem_cons.1 h with rfl | h
  · exact String.le_refl _
  · exact List.rel_of_pairwise_cons ascending h

/-- Lists that ascend by name and agree on each name are the same. -/
theorem eq_of_filter_eq {list other : List Blueprint}
    (ascending : list.Pairwise fun a b => a.name ≤ b.name)
    (ascending' : other.Pairwise fun a b => a.name ≤ b.name)
    (agree : ∀ name, list.filter (isNamed name) = other.filter (isNamed name)) : list = other := by
  induction list generalizing other with
  | nil =>
    cases other with
    | nil => rfl
    | cons b other => cases mem_of_agree (fun name => (agree name).symm) List.mem_cons_self
  | cons a list ih =>
    cases other with
    | nil => cases mem_of_agree agree List.mem_cons_self
    | cons b other =>
      -- each head has a place in the other list, so neither name is above the other
      have above := head_le_of_mem ascending
        (mem_of_agree (fun name => (agree name).symm) List.mem_cons_self)
      have above' := head_le_of_mem ascending' (mem_of_agree agree List.mem_cons_self)
      have same : a.name = b.name := String.le_antisymm above above'
      have first := agree a.name
      simp only [List.filter_cons, isNamed, beq_self_eq_true, if_true, same] at first
      obtain ⟨rfl, -⟩ := List.cons.inj first
      congr 1
      refine ih ascending.of_cons ascending'.of_cons fun name => ?_
      have whole := agree name
      simp only [List.filter_cons] at whole
      split at whole
      · exact List.tail_eq_of_cons_eq whole
      · exact whole

/-- Every body lists one list. -/
theorem lists_iff {body : Json} {list : List Blueprint} :
    Lists (itemsUnder "blueprints" body) list ↔ list = blueprints body := by
  constructor
  · intro h
    refine eq_of_filter_eq h.ascending (lists_blueprints body).ascending fun name => ?_
    rw [h.stable, (lists_blueprints body).stable]
  · rintro rfl
    exact lists_blueprints body

/-! ## Entries that spell out no blueprint -/

variable {list : List Blueprint}

/-- An entry that spells out no blueprint is as good as absent, whatever it is. -/
theorem Lists.without_junk {junk : Json} {front back : List Json}
    (h : Lists (front ++ junk :: back) list)
    (junked : ∀ blueprint : Blueprint, ¬ blueprint.SpelledBy junk) :
    Lists (front ++ back) list := by
  have nothing : Blueprint.ofJson? junk = none := by
    rw [Option.eq_none_iff_forall_ne_some]
    intro blueprint read
    exact junked blueprint (Blueprint.ofJson?_eq_some_iff.1 read)
  have same : spelled (front ++ junk :: back) = spelled (front ++ back) := by
    simp only [spelled, List.filterMap_append, List.filterMap_cons_none nothing]
  exact ⟨same ▸ h.each, h.ascending, same ▸ h.stable⟩

/-- Without entries there is nothing to list. -/
theorem Lists.eq_nil (h : Lists [] list) : list = [] := List.perm_nil.1 h.each

/-! ## What a body lists -/

/-- The list is the one that a body lists. -/
structure ListedBy (list : List Blueprint) (body : Json) : Prop where
  /-- It is what the entries of the array of blueprints come to, -/
  lists : ∀ items, body.get? "blueprints" = some (.array items) → Lists items list
  /-- and no other list is. -/
  only : ∀ items other, body.get? "blueprints" = some (.array items) → Lists items other →
    other = list
  /-- An entry that spells out no blueprint changes nothing about the others. -/
  without_junk : ∀ front junk back,
    body.get? "blueprints" = some (.array (front ++ junk :: back)) →
    (∀ blueprint : Blueprint, ¬ blueprint.SpelledBy junk) → Lists (front ++ back) list
  /-- Without such an array it is empty. -/
  empty : (∀ items, body.get? "blueprints" ≠ some (.array items)) → list = []

theorem listedBy_iff {body : Json} : ListedBy list body ↔ list = blueprints body := by
  constructor
  · intro h
    by_cases arrayed : ∃ items, body.get? "blueprints" = some (.array items)
    · obtain ⟨items, hi⟩ := arrayed
      rw [← lists_iff, itemsUnder_of_get? hi]
      exact h.lists items hi
    · have bare : ∀ items, body.get? "blueprints" ≠ some (.array items) := not_exists.1 arrayed
      rw [← lists_iff, h.empty bare, itemsUnder_eq_nil bare]
      exact ⟨List.Perm.nil, List.Pairwise.nil, fun _ => rfl⟩
  · rintro rfl
    have listed := lists_blueprints body
    constructor
    case lists =>
      intro items hi
      rwa [itemsUnder_of_get? hi] at listed
    case only =>
      intro items other hi h
      rw [← itemsUnder_of_get? hi] at h
      exact lists_iff.1 h
    case without_junk =>
      intro front junk back hi junked
      rw [itemsUnder_of_get? hi] at listed
      exact listed.without_junk junked
    case empty =>
      intro bare
      rw [itemsUnder_eq_nil bare] at listed
      exact listed.eq_nil

/-- A blueprint that is written as an array. -/
private def brief (id name : String) : Json :=
  .array [.text id, .text name, .text "rhel", .text "9.4"]

example : (blueprints (.object [("blueprints",
    .array [brief "1" "b", .bool true, brief "2" "a", brief "3" "b"])])).map (·.id) =
      ["2", "1", "3"] := by cbv

end Fleet.Listing
