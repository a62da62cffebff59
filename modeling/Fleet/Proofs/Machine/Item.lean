/-
Entries of the machine listing read back from what is written of them. Everything comes back as it
was (`ofJson?_toJson`), but for a profile or a snapshot that holds null, which comes back as one
that is not there; a record is the same for both (`normalize_withoutNull`). An entry that has been
read holds no such null, so it comes back as it is.
-/
import Fleet.Machine.Normalize
import Fleet.Proofs.Json.Fields

namespace Fleet

open Json (unlessNull defaulted?_of_lookup required?_of_lookup
  optional?_of_lookup optional?_text optional?_opaque)

/-! ## Entries without null -/

/-- The machine, without a profile if that is null. -/
def Machine.withoutNull (machine : Machine) : Machine :=
  { machine with profile := unlessNull machine.profile }

/-- The fact, without a snapshot if that is null. -/
def Fact.withoutNull (fact : Fact) : Fact := { fact with snapshot := unlessNull fact.snapshot }

/-- The entry, without a profile or a snapshot that is null. -/
def MachineItem.withoutNull (item : MachineItem) : MachineItem :=
  { item with
    machine := item.machine.withoutNull
    latestFact := item.latestFact.map Fact.withoutNull }

theorem Machine.withoutNull_eq_self_iff {machine : Machine} :
    machine.withoutNull = machine ↔ machine.profile ≠ some .null := by
  rw [← Json.unlessNull_eq_self_iff]
  exact ⟨congrArg profile, fun h => by rw [withoutNull, h]⟩

theorem Fact.withoutNull_eq_self_iff {fact : Fact} :
    fact.withoutNull = fact ↔ fact.snapshot ≠ some .null := by
  rw [← Json.unlessNull_eq_self_iff]
  exact ⟨congrArg snapshot, fun h => by rw [withoutNull, h]⟩

/-- Only a null makes a difference. -/
theorem MachineItem.withoutNull_eq_self_iff {item : MachineItem} :
    item.withoutNull = item ↔ item.machine.profile ≠ some .null ∧
      ∀ fact, item.latestFact = some fact → fact.snapshot ≠ some .null := by
  constructor
  · intro same
    refine ⟨Machine.withoutNull_eq_self_iff.1 (congrArg machine same), fun fact hf => ?_⟩
    have facts : item.latestFact.map Fact.withoutNull = item.latestFact := congrArg latestFact same
    rw [hf, Option.map_some] at facts
    exact Fact.withoutNull_eq_self_iff.1 (Option.some.inj facts)
  · rintro ⟨profile, snapshot⟩
    have facts : item.latestFact.map Fact.withoutNull = item.latestFact := by
      cases hf : item.latestFact with
      | none => rfl
      | some fact => rw [Option.map_some, Fact.withoutNull_eq_self_iff.2 (snapshot fact hf)]
    rw [withoutNull, Machine.withoutNull_eq_self_iff.2 profile, facts]

/-- A null profile or snapshot gives the record that a missing one gives. -/
theorem normalize_withoutNull (item : MachineItem) :
    normalize item.withoutNull = normalize item := by
  have snapshots : ((item.latestFact.map Fact.withoutNull).bind (·.snapshot)).getD .null =
      (item.latestFact.bind (·.snapshot)).getD .null := by
    cases item.latestFact with
    | none => rfl
    | some fact => exact Json.getD_unlessNull fact.snapshot
  have reported : ((item.latestFact.map Fact.withoutNull).bind fun fact =>
      Text.nonBlank? fact.createdAt) = item.latestFact.bind fun fact =>
        Text.nonBlank? fact.createdAt := by
    cases item.latestFact <;> rfl
  simp only [normalize, MachineItem.withoutNull, Machine.withoutNull, Json.getD_unlessNull,
    snapshots, reported]
  rfl

/-! ## Reading what is written -/

theorem Run.ofJson?_toJson (run : Run) : Run.ofJson? run.toJson = some run := by
  unfold ofJson?
  refine Json.bind_fields?_ofFields rfl (by decide) fun members look => ?_
  rw [defaulted?_of_lookup (look "id" _ rfl), defaulted?_of_lookup (look "machine_id" _ rfl),
    defaulted?_of_lookup (look "blueprint_id" _ rfl), defaulted?_of_lookup (look "status" _ rfl),
    optional?_text (look "started_at" _ rfl), optional?_text (look "finished_at" _ rfl),
    optional?_text (look "logs" _ rfl)]
  rfl

theorem Machine.ofJson?_toJson (machine : Machine) :
    Machine.ofJson? machine.toJson = some machine.withoutNull := by
  unfold ofJson?
  refine Json.bind_fields?_ofFields rfl (by decide) fun members look => ?_
  rw [defaulted?_of_lookup (look "id" _ rfl), defaulted?_of_lookup (look "mac" _ rfl),
    optional?_text (look "serial" _ rfl), optional?_opaque, look "profile" _ rfl,
    defaulted?_of_lookup (look "created_at" _ rfl), defaulted?_of_lookup (look "updated_at" _ rfl)]
  rfl

theorem Fact.ofJson?_toJson (fact : Fact) :
    Fact.ofJson? fact.toJson = some fact.withoutNull := by
  unfold ofJson?
  refine Json.bind_fields?_ofFields rfl (by decide) fun members look => ?_
  rw [defaulted?_of_lookup (look "id" _ rfl), optional?_opaque, look "snapshot" _ rfl,
    defaulted?_of_lookup (look "created_at" _ rfl)]
  rfl

theorem runs_ofJson?_toJson (runs : List Run) :
    Json.listOf? Run.ofJson? (.array (runs.map Run.toJson)) = some runs := by
  have each : ∀ runs : List Run, (runs.map Run.toJson).mapM Run.ofJson? = some runs := by
    intro runs
    induction runs with
    | nil => rfl
    | cons run runs ih => simp [Run.ofJson?_toJson, ih]
  exact each runs

/-- An entry is read back as it was, without a profile or a snapshot that is null. -/
theorem MachineItem.ofJson?_toJson (item : MachineItem) :
    MachineItem.ofJson? item.toJson = some item.withoutNull := by
  unfold ofJson?
  refine Json.bind_fields?_ofFields rfl (by decide) fun members look => ?_
  rw [required?_of_lookup (look "machine" _ rfl), Machine.ofJson?_toJson,
    optional?_text (look "status" _ rfl),
    optional?_of_lookup (look "latest_fact" _ rfl) (by simp [Fact.toJson, Json.ofFields])
      Fact.ofJson?_toJson,
    optional?_of_lookup (look "recent_runs" _ rfl) (by simp) runs_ofJson?_toJson]
  simp only [Option.map_id']
  rfl

/-! ## What has been read -/

theorem Machine.withoutNull_of_ofJson? {value : Json} {machine : Machine}
    (h : Machine.ofJson? value = some machine) : machine.withoutNull = machine := by
  simp only [ofJson?, optional?_opaque, bind, pure, Option.bind_eq_some_iff, Option.some.injEq] at h
  obtain ⟨_, -, _, -, _, -, _, -, profile, given, _, -, _, -, rfl⟩ := h
  rw [withoutNull_eq_self_iff, ← given]
  exact Json.unlessNull_ne_null _

theorem Fact.withoutNull_of_ofJson? {value : Json} {fact : Fact}
    (h : Fact.ofJson? value = some fact) : fact.withoutNull = fact := by
  simp only [ofJson?, optional?_opaque, bind, pure, Option.bind_eq_some_iff, Option.some.injEq] at h
  obtain ⟨_, -, _, -, snapshot, given, _, -, rfl⟩ := h
  rw [withoutNull_eq_self_iff, ← given]
  exact Json.unlessNull_ne_null _

/-- An entry that has been read holds no null. -/
theorem MachineItem.withoutNull_of_ofJson? {value : Json} {item : MachineItem}
    (h : MachineItem.ofJson? value = some item) : item.withoutNull = item := by
  simp only [ofJson?, bind, pure, Option.bind_eq_some_iff, Option.some.injEq] at h
  obtain ⟨_, -, machine, hm, _, -, latest, hf, _, -, rfl⟩ := h
  obtain ⟨given, -, hm⟩ := Option.bind_eq_some_iff.1 hm
  refine withoutNull_eq_self_iff.2 ⟨?_, ?_⟩
  · exact Machine.withoutNull_eq_self_iff.1 (Machine.withoutNull_of_ofJson? hm)
  · rintro fact rfl
    obtain ⟨given, hg⟩ := Json.exists_of_optional? hf
    exact Fact.withoutNull_eq_self_iff.1 (Fact.withoutNull_of_ofJson? hg)

end Fleet
