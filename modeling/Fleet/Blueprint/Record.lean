/-
Blueprints as the backend stores them: named and versioned templates with an opaque payload.
-/
import Fleet.Json.Fields

namespace Fleet

/-- A stored blueprint. -/
structure Blueprint where
  id : String
  name : String
  os : String
  version : String
  /-- Opaque and of any shape. -/
  data : Json := .object []
  createdAt : String := ""
  updatedAt : String := ""
deriving DecidableEq, Inhabited

open Json (defaulted? required? fields? text? ofFields ofText)

/-- Reads a blueprint; id, name, operating system and version are required. -/
def Blueprint.ofJson? (value : Json) : Option Blueprint := do
  let fields ← value.fields? ["id", "name", "os", "version", "data", "created_at", "updated_at"]
  return {
    id := ← required? fields "id" text?
    name := ← required? fields "name" text?
    os := ← required? fields "os" text?
    version := ← required? fields "version" text?
    data := ← defaulted? fields "data" (.object []) some
    createdAt := ← defaulted? fields "created_at" "" text?
    updatedAt := ← defaulted? fields "updated_at" "" text? }

/-- Writes a blueprint. -/
def Blueprint.toJson (blueprint : Blueprint) : Json :=
  ofFields [
    ("id", ofText blueprint.id),
    ("name", ofText blueprint.name),
    ("os", ofText blueprint.os),
    ("version", ofText blueprint.version),
    ("data", some blueprint.data),
    ("created_at", ofText blueprint.createdAt),
    ("updated_at", ofText blueprint.updatedAt)]

end Fleet
