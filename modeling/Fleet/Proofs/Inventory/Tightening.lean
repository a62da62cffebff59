/-
Filters that ask for more. A filter that sets further clauses, or whose search text goes on at
either end, selects a part of what the other one selects, in the same order; and the clauses of a
filter may be applied one after another in any order (`select_tightening`).
-/
import Fleet.Proofs.Inventory.Search
import Mathlib.Data.List.Basic

namespace Fleet.InventoryFilter

/-! ## Longer search texts -/

/-- A text without a capital sigma is lowered to the same characters inside a longer one, and
trimming the longer one takes nothing of it but white space. -/
theorem term_infix_term {f g : InventoryFilter} (longer : f.search.toList <:+: g.search.toList)
    (sigma : 'Σ' ∉ f.search.toList) : f.term <:+: g.term := by
  obtain ⟨before, after, whole⟩ := Text.trim_infix_trim longer
  have kept : 'Σ' ∉ (Text.trim f.search).toList := by
    obtain ⟨front, back, parts, -⟩ := Text.exists_trimBy Text.isBlank f.search.toList
    rw [Text.trim, String.toList_ofList]
    intro hm
    exact sigma (by rw [parts]; simp [hm])
  have alike : Text.KeepsSigmas before (Text.trim f.search).toList after :=
    Text.keepsSigmas_of_not_mem kept
  rw [term, term, ← whole, ← Text.lowerBetween_eq_lowerChars_iff.2 alike]
  exact Text.lowerBetween_infix before _ after

theorem passesSearch_of_infix {f g : InventoryFilter} (shorter : f.term <:+: g.term)
    {record : MachineRecord} (h : g.passesSearch record = true) :
    f.passesSearch record = true := by
  by_cases none_left : f.term = []
  · simp [passesSearch, none_left]
  · have some_left : g.term ≠ [] := fun none_asked =>
      none_left (List.eq_nil_of_infix_nil (none_asked ▸ shorter))
    simp only [passesSearch, Bool.or_eq_true, List.isEmpty_iff, some_left, false_or,
      Text.occurs_iff] at h
    simp only [passesSearch, Bool.or_eq_true, Text.occurs_iff]
    exact .inr (shorter.trans h)

/-! ## Filters that ask for more -/

/-- A filter asks for all that another one asks for: it sets the same clauses and maybe more, and
its search text is the same, or a longer one around a text without a capital sigma. -/
structure Tightens (g f : InventoryFilter) : Prop where
  status : f.status = none ∨ g.status = f.status
  site : f.site = none ∨ g.site = f.site
  search : g.search = f.search ∨ f.search.toList <:+: g.search.toList ∧ 'Σ' ∉ f.search.toList

theorem Tightens.passes {f g : InventoryFilter} (h : g.Tightens f) {record : MachineRecord}
    (passes : g.passes record = true) : f.passes record = true := by
  simp only [InventoryFilter.passes, Bool.and_eq_true] at passes ⊢
  obtain ⟨⟨status, site⟩, search⟩ := passes
  refine ⟨⟨?_, ?_⟩, ?_⟩
  · rcases h.status with unset | same
    · simp [passesStatus, unset]
    · rwa [passesStatus, ← same]
  · rcases h.site with unset | same
    · simp [passesSite, unset]
    · rwa [passesSite, ← same]
  · rcases h.search with same | ⟨longer, sigma⟩
    · rw [passesSearch, term, ← same]
      exact search
    · exact passesSearch_of_infix (term_infix_term longer sigma) search

/-! ## One clause after another -/

/-- The clauses of a filter, each as a filter of its own. -/
def clauses (f : InventoryFilter) : List InventoryFilter :=
  [{ status := f.status }, { site := f.site }, { search := f.search }]

/-- The records that pass one filter after another. -/
def selectInTurn (filters : List InventoryFilter) (records : List MachineRecord) :
    List MachineRecord :=
  filters.foldl (fun kept filter => filter.select kept) records

/-- Whatever the order, the records that are left are those that pass every filter. -/
theorem selectInTurn_eq (filters : List InventoryFilter) (records : List MachineRecord) :
    selectInTurn filters records = records.filter fun record => filters.all (·.passes record) := by
  induction filters generalizing records with
  | nil => simp [selectInTurn]
  | cons first rest ih =>
    have step : selectInTurn (first :: rest) records = selectInTurn rest (first.select records) :=
      rfl
    rw [step, ih, select, List.filter_filter]
    simp only [List.all_cons, Bool.and_comm]

/-- A record passes a filter exactly if it passes each of its clauses. -/
theorem all_clauses_passes (f : InventoryFilter) (record : MachineRecord) :
    f.clauses.all (·.passes record) = f.passes record := by
  simp only [clauses, List.all_cons, List.all_nil, Bool.and_true, passes, passesStatus, passesSite,
    Option.all_none, Bool.true_and, passesSearch_of_unset, Bool.and_assoc]
  rfl

/-- A filter that asks for more selects a part of the records, in the same order, and it does not
matter in which order the clauses of a filter are applied. -/
theorem select_tightening (records : List MachineRecord) (f : InventoryFilter) :
    (∀ g : InventoryFilter, g.Tightens f → (g.select records).Sublist (f.select records)) ∧
      ∀ filters, filters.Perm f.clauses → selectInTurn filters records = f.select records := by
  constructor
  · intro g tightens
    exact List.monotone_filter_right records fun record => tightens.passes
  · intro filters order
    rw [selectInTurn_eq, select]
    refine List.filter_congr fun record _ => ?_
    rw [← all_clauses_passes, order.all_eq]

/-- Machines at two stops, and one that is at none. -/
def stops : List MachineRecord :=
  [{ (default : MachineRecord) with hostname := "Tram Stop A", site := some "east" },
    { (default : MachineRecord) with hostname := "kiosk", site := some "east" },
    { (default : MachineRecord) with hostname := "bus", tags := ["stop"] }]

/-- All that is at a stop. -/
def anyStop : InventoryFilter := { search := " stop" }

/-- What is at a stop of the tram in the east; the blank in front of the word is now inside. -/
def eastStop : InventoryFilter := { search := "m stop ", site := some "east" }

theorem select_stops :
    eastStop.Tightens anyStop ∧
      (eastStop.select stops).Sublist (anyStop.select stops) ∧
      List.Perm [{ search := "m stop " }, {}, { site := some "east" }] eastStop.clauses ∧
      selectInTurn [{ search := "m stop " }, {}, { site := some "east" }] stops =
        eastStop.select stops ∧
      (eastStop.select stops).map (·.hostname) = ["Tram Stop A"] ∧
      (anyStop.select stops).map (·.hostname) = ["Tram Stop A", "bus"] := by
  have tightens : eastStop.Tightens anyStop :=
    ⟨.inl rfl, .inl rfl, .inr ⟨⟨['m'], [' '], by decide⟩, by decide⟩⟩
  have order : List.Perm [{ search := "m stop " }, {}, { site := some "east" }] eastStop.clauses :=
    by decide
  exact ⟨tightens, (select_tightening stops anyStop).1 eastStop tightens, order,
    (select_tightening stops eastStop).2 _ order, by decide +kernel, by decide +kernel⟩

end Fleet.InventoryFilter
