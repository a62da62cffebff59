/-
Listings written anew. An entry of a listing comes back as it was when it is written and read
again, and so does a whole listing: whatever a body held, the entries that were read from it are
read again, one for one and in order, from the body that is written for them
(`entries_restored`).
-/
import Fleet.Client.Listing
import Fleet.Proofs.Machine.Item

namespace Fleet

/-! ## Blueprints -/

theorem Blueprint.ofJson?_toJson (blueprint : Blueprint) :
    Blueprint.ofJson? blueprint.toJson = some blueprint := by
  unfold ofJson?
  refine Json.bind_fields?_ofFields rfl (by decide) fun members look => ?_
  rw [Json.required?_of_lookup (look "id" _ rfl), Json.required?_of_lookup (look "name" _ rfl),
    Json.required?_of_lookup (look "os" _ rfl), Json.required?_of_lookup (look "version" _ rfl),
    Json.defaulted?_of_lookup (look "data" _ rfl),
    Json.defaulted?_of_lookup (look "created_at" _ rfl),
    Json.defaulted?_of_lookup (look "updated_at" _ rfl)]
  rfl

/-! ## Whole listings -/

namespace Listing

/-- The body of a listing with some entries under a key. -/
def body (key : String) (items : List Json) : Json := .object [(key, .array items)]

variable {α : Type} {decode? : Json → Option α}

theorem entries_body (key : String) (items : List Json) :
    entries decode? (body key items) key = items.filterMap decode? := by
  unfold entries body Json.get?
  simp [Json.members?, Json.items?]

/-- Whatever has been read has been decoded. -/
theorem exists_of_mem_entries {given : Json} {key : String} {a : α}
    (h : a ∈ entries decode? given key) : ∃ value, decode? value = some a := by
  obtain ⟨value, -, hv⟩ := List.mem_filterMap.1 h
  exact ⟨value, hv⟩

/-- If what has been decoded comes back as it was, so do the entries of every body. -/
theorem entries_body_entries {encode : α → Json}
    (back : ∀ {value a}, decode? value = some a → decode? (encode a) = some a)
    (given : Json) (key : String) :
    entries decode? (body key ((entries decode? given key).map encode)) key =
      entries decode? given key := by
  have each : ∀ a ∈ entries decode? given key, (decode? ∘ encode) a = some a := by
    intro a ha
    obtain ⟨value, hv⟩ := exists_of_mem_entries ha
    exact back hv
  rw [entries_body, List.filterMap_map, List.filterMap_congr each, List.filterMap_some]

end Listing

open Listing (entries body)

/-- Entries that are written and read again come back: machines without a null profile or snapshot,
which makes no difference to their records, blueprints as they are, and whole listings one for one
and in order. -/
theorem entries_restored :
    (∀ item : MachineItem,
      MachineItem.ofJson? item.toJson = some item.withoutNull ∧
      (item.withoutNull = item ↔ item.machine.profile ≠ some .null ∧
        ∀ fact, item.latestFact = some fact → fact.snapshot ≠ some .null) ∧
      normalize item.withoutNull = normalize item) ∧
    (∀ blueprint : Blueprint, Blueprint.ofJson? blueprint.toJson = some blueprint) ∧
    ∀ (given : Json) (key : String),
      entries MachineItem.ofJson?
          (body key ((entries MachineItem.ofJson? given key).map MachineItem.toJson)) key =
        entries MachineItem.ofJson? given key ∧
      entries Blueprint.ofJson?
          (body key ((entries Blueprint.ofJson? given key).map Blueprint.toJson)) key =
        entries Blueprint.ofJson? given key := by
  have machine : ∀ {value item}, MachineItem.ofJson? value = some item →
      MachineItem.ofJson? item.toJson = some item := by
    intro value item h
    rw [item.ofJson?_toJson, MachineItem.withoutNull_of_ofJson? h]
  refine ⟨fun item => ⟨item.ofJson?_toJson, MachineItem.withoutNull_eq_self_iff,
    normalize_withoutNull item⟩, Blueprint.ofJson?_toJson, fun given key => ⟨?_, ?_⟩⟩
  · exact Listing.entries_body_entries machine given key
  · exact Listing.entries_body_entries (fun _ => Blueprint.ofJson?_toJson _) given key

end Fleet
