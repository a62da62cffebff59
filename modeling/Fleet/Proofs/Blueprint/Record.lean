/-
Which values are blueprints: what the reading of a blueprint takes is said by the fields of the
value alone (`Blueprint.ofJson?_eq_some_iff`).
-/
import Fleet.Blueprint.Record
import Fleet.Proofs.Json.Fields

namespace Fleet.Blueprint

open Json (HasFields)

/-- The fields of a blueprint in their order. -/
def fieldNames : List String := ["id", "name", "os", "version", "data", "created_at", "updated_at"]

/-- The fields hold the blueprint: four texts must be there, a payload that is left out is an empty
object, and a time that is left out is the empty text. -/
structure HeldBy (field : String → Option Json) (blueprint : Blueprint) : Prop where
  id : field "id" = some (.text blueprint.id)
  name : field "name" = some (.text blueprint.name)
  os : field "os" = some (.text blueprint.os)
  version : field "version" = some (.text blueprint.version)
  data : field "data" = some blueprint.data ∨ field "data" = none ∧ blueprint.data = .object []
  createdAt : field "created_at" = some (.text blueprint.createdAt) ∨
    field "created_at" = none ∧ blueprint.createdAt = ""
  updatedAt : field "updated_at" = some (.text blueprint.updatedAt) ∨
    field "updated_at" = none ∧ blueprint.updatedAt = ""

/-- The value spells the blueprint out, as an object or as an array. -/
def SpelledBy (blueprint : Blueprint) (value : Json) : Prop :=
  ∃ field, HasFields fieldNames value field ∧ blueprint.HeldBy field

/-- The blueprints that are read are the ones that are spelled out. -/
theorem ofJson?_eq_some_iff {value : Json} {blueprint : Blueprint} :
    ofJson? value = some blueprint ↔ blueprint.SpelledBy value := by
  have data_iff : ∀ {fields : List (String × Json)} {data : Json},
      Json.defaulted? fields "data" (.object []) some = some data ↔
        fields.lookup "data" = some data ∨ fields.lookup "data" = none ∧ data = .object [] := by
    intro fields data
    simp [Json.defaulted?_eq_some_iff]
  constructor
  · intro h
    obtain ⟨fields, found, h⟩ := Option.bind_eq_some_iff.1 h
    obtain ⟨id, hid, h⟩ := Option.bind_eq_some_iff.1 h
    obtain ⟨name, hname, h⟩ := Option.bind_eq_some_iff.1 h
    obtain ⟨os, hos, h⟩ := Option.bind_eq_some_iff.1 h
    obtain ⟨version, hversion, h⟩ := Option.bind_eq_some_iff.1 h
    obtain ⟨data, hdata, h⟩ := Option.bind_eq_some_iff.1 h
    obtain ⟨createdAt, hcreated, h⟩ := Option.bind_eq_some_iff.1 h
    obtain ⟨updatedAt, hupdated, h⟩ := Option.bind_eq_some_iff.1 h
    cases h
    refine ⟨_, Json.hasFields_of_fields? found, ?_⟩
    constructor
    case id => exact Json.required?_text_eq_some_iff.1 hid
    case name => exact Json.required?_text_eq_some_iff.1 hname
    case os => exact Json.required?_text_eq_some_iff.1 hos
    case version => exact Json.required?_text_eq_some_iff.1 hversion
    case data => exact data_iff.1 hdata
    case createdAt => exact Json.defaulted?_text_eq_some_iff.1 hcreated
    case updatedAt => exact Json.defaulted?_text_eq_some_iff.1 hupdated
  · rintro ⟨field, has, held⟩
    obtain ⟨fields, found, look⟩ := has.fields?
    obtain ⟨id, name, os, version, data, createdAt, updatedAt⟩ := held
    simp only [← look] at id name os version data createdAt updatedAt
    refine Option.bind_eq_some_iff.2 ⟨fields, found, ?_⟩
    simp only [Json.required?_text_eq_some_iff.2 id, Json.required?_text_eq_some_iff.2 name,
      Json.required?_text_eq_some_iff.2 os, Json.required?_text_eq_some_iff.2 version,
      data_iff.2 data, Json.defaulted?_text_eq_some_iff.2 createdAt,
      Json.defaulted?_text_eq_some_iff.2 updatedAt]
    rfl

end Fleet.Blueprint
