import LakeCat.Json

/-!
The part of a table's metadata document that the service records in its events
and projects into the graph: the fields of the current schema and the current
snapshot.
-/

namespace LakeCat

def metadataCurrentSchema (metadata : Json) : Option Json :=
  let currentSchemaId := (metadata.get "current-schema-id").bind Json.asI64
  ((((metadata.get "schemas").bind Json.asArray).bind fun schemas =>
      schemas.find? fun schema => (schema.get "schema-id").bind Json.asI64 = currentSchemaId).or
    (metadata.get "schema"))

def metadataCurrentSchemaFields (metadata : Json) : List Json :=
  (((metadataCurrentSchema metadata).bind (Json.get · "fields")).bind Json.asArray).getD []

def metadataCurrentSnapshot (metadata : Json) : Option Json := do
  let currentSnapshotId ← (metadata.get "current-snapshot-id").bind Json.asI64
  let snapshots ← (metadata.get "snapshots").bind Json.asArray
  snapshots.find? fun snapshot =>
    (snapshot.get "snapshot-id").bind Json.asI64 = some currentSnapshotId

def tableMetadataGraphSummary (metadata : Json) : Json :=
  .object [("current-schema-id", metadata.field "current-schema-id"),
    ("fields", .arr (metadataCurrentSchemaFields metadata)),
    ("current-snapshot-id", metadata.field "current-snapshot-id"),
    ("current-snapshot", (metadataCurrentSnapshot metadata).getD .null)]

def metadataGraphFields (metadataGraph : Json) : List Json :=
  ((metadataGraph.get "fields").bind Json.asArray).getD (metadataCurrentSchemaFields metadataGraph)

def valueToStablePart (value : Json) : Option String :=
  (value.asI64.map toString).or value.asStr

def metadataFieldId (field : Json) : Option String :=
  ((field.get "id").bind valueToStablePart).or ((field.get "name").bind valueToStablePart)

def metadataGraphCurrentSnapshot (metadataGraph : Json) : Option (String × Json) := do
  let snapshot ← ((metadataGraph.get "current-snapshot").filter fun snapshot =>
    !snapshot.isNull).or (metadataCurrentSnapshot metadataGraph)
  let snapshotId ← ((snapshot.get "snapshot-id").bind valueToStablePart).or
    ((metadataGraph.get "current-snapshot-id").bind valueToStablePart)
  return (snapshotId, snapshot)

/-- A snapshot read from a document carries the id that the document points to. -/
theorem metadataCurrentSnapshot_id {metadata snapshot : Json}
    (found : metadataCurrentSnapshot metadata = some snapshot) :
    (snapshot.get "snapshot-id").bind Json.asI64 =
      (metadata.get "current-snapshot-id").bind Json.asI64 := by
  rw [metadataCurrentSnapshot, Option.bind_eq_bind, Option.bind_eq_some_iff] at found
  obtain ⟨currentSnapshotId, pointed, found⟩ := found
  rw [Option.bind_eq_bind, Option.bind_eq_some_iff] at found
  obtain ⟨snapshots, _, found⟩ := found
  have carried := List.find?_some found
  simp only [decide_eq_true_eq] at carried
  exact carried.trans pointed.symm

end LakeCat
