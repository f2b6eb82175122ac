import SealedRows.Schema.Build

/-! # Registry

The schemas that have been used, each with the key of its table if it has its own. A schema is
registered before those that it refers to, so that circles of references come to an end, and it is
taken out again when one of them turns out to be bad.
-/
namespace SealedRows

structure RegistryEntry where
  schema : Schema
  /-- The key of the table. -/
  key : Option Bytes

def RegistryEntry.typeName (e : RegistryEntry) : Text := e.schema.record.name

abbrev Registry := List RegistryEntry

namespace Registry

def find? (registry : Registry) (typeName : Text) : Option RegistryEntry :=
  List.find? (fun e => e.typeName = typeName) registry

def findTable? (registry : Registry) (table : Text) : Option RegistryEntry :=
  List.find? (fun e => e.schema.name = table) registry

def without (registry : Registry) (typeName : Text) : Registry :=
  List.filter (fun e => e.typeName ≠ typeName) registry

def withKey (registry : Registry) (typeName : Text) (key : Option Bytes) : Registry :=
  List.map (fun e => if e.typeName = typeName then { e with key := key } else e) registry

mutual

/-- Registers a record type and all that it refers to, unless it is registered. -/
def register (catalog : Catalog) : Nat → Registry → Text → Except SchemaFault Unit × Registry
  | 0, registry, _ => (.error (.general .absentKey), registry)
  | fuel + 1, registry, typeName =>
    if (registry.find? typeName).isSome then (.ok (), registry)
    else
      match catalog.find? typeName with
      | none => (.error (.general .absentKey), registry)
      | some r =>
        match Schema.ofRecordType catalog r with
        | .error fault => (.error fault, registry)
        | .ok schema =>
          match registerAll catalog fuel (registry ++ [⟨schema, none⟩])
              (schema.foreignKeys.map (·.referencedType)) with
          | (.ok (), registry) => (.ok (), registry)
          | (.error fault, registry) =>
            (.error fault, if fault.isSchemaError then registry.without typeName else registry)

def registerAll (catalog : Catalog) :
    Nat → Registry → List Text → Except SchemaFault Unit × Registry
  | _, registry, [] => (.ok (), registry)
  | 0, registry, _ => (.error (.general .absentKey), registry)
  | fuel + 1, registry, typeName :: rest =>
    match register catalog fuel registry typeName with
    | (.ok (), registry) => registerAll catalog fuel registry rest
    | (.error fault, registry) => (.error fault, registry)

end

/-- Enough for every chain of references: each link registers another type, or is the last. -/
def fuelFor (catalog : Catalog) : Nat :=
  (catalog.length + 2) * ((catalog.map (·.fields.length)).sum + 2)

/-- The schema of a record type, which is registered with all that it refers to. -/
def schemaFor (catalog : Catalog) (registry : Registry) (typeName : Text) :
    Except SchemaFault Schema × Registry :=
  match register catalog (fuelFor catalog) registry typeName with
  | (.error fault, registry) => (.error fault, registry)
  | (.ok (), registry) =>
    match registry.find? typeName with
    | some e => (.ok e.schema, registry)
    | none => (.error (.general .absentKey), registry)

end Registry
end SealedRows
