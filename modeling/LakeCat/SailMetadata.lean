import LakeCat.Core

/-!
Table metadata as the Sail engine reads it. Format 4 is read from the JSON
itself; the stable formats go through the typed model of the Iceberg crate,
which is a parameter here with the values the engine reads of it.
-/

namespace LakeCat

open Fallible

structure NestedField (FieldType : Type) where
  id : Int
  name : String
  fieldType : FieldType

structure Snapshot where
  snapshotId : Int
  parentSnapshotId : Option Int
  sequenceNumber : Int
  manifestList : String
  manifests : Option (List String)
  operation : String
  deriving DecidableEq

structure PartitionSpec where
  specId : Int
  isUnpartitioned : Bool
  deriving DecidableEq

/-- `current_schema` and `current_snapshot` are what the accessors of those names return. -/
structure TableMetadata (FieldType : Type) where
  location : String
  currentSchema : Option (List (NestedField FieldType))
  currentSnapshot : Option Snapshot
  snapshots : List Snapshot
  partitionSpecs : List PartitionSpec

inductive IcebergLiteral (PrimitiveLiteral : Type) where
  | primitive (value : PrimitiveLiteral)
  | struct (fields : List (String × Option (IcebergLiteral PrimitiveLiteral)))
  | list (items : List (Option (IcebergLiteral PrimitiveLiteral)))
  | map (entries : List (IcebergLiteral PrimitiveLiteral × Option (IcebergLiteral PrimitiveLiteral)))

inductive Term where
  | reference (name : String)
  | transformTerm (term : String)
  deriving DecidableEq

structure UnaryExpression where
  term : Term

structure LiteralExpression where
  term : Term
  value : Json

structure SetExpression where
  term : Term
  values : List Json

/-- The parts of the Iceberg crates that the engine calls; a decoder may fail with a text. -/
class SailSpec where
  PrimitiveLiteral : Type
  order : LinearOrder PrimitiveLiteral
  stringOf : PrimitiveLiteral → Option String
  restPrimitiveLiteralValue : PrimitiveLiteral → Json
  isNan : PrimitiveLiteral → Bool
  FieldType : Type
  literalFromJson : Json → FieldType → Except String (Option (IcebergLiteral PrimitiveLiteral))
  deserializeMetadata : Json → Except String (TableMetadata FieldType)
  trueExpression : Json → Except String Unit
  falseExpression : Json → Except String Unit
  andOrExpression : Json → Except String Unit
  notExpression : Json → Except String Unit
  unaryExpression : Json → Except String UnaryExpression
  literalExpression : Json → Except String LiteralExpression
  setExpression : Json → Except String SetExpression

instance [SailSpec] : LinearOrder SailSpec.PrimitiveLiteral := SailSpec.order

/-- The bytes of a `str`, in whose order Rust compares text. -/
def utf8 (text : String) : List UInt8 := text.toByteArray.data.toList

/-- What the crates document of their literals, of the JSON of a filter on one column, and of
the current snapshot, which is the one that its id names. -/
structure SailSpec.Documented [SailSpec] : Prop where
  stringOrder : ∀ (low high : SailSpec.PrimitiveLiteral) (lowText highText : String),
    SailSpec.stringOf low = some lowText → SailSpec.stringOf high = some highText → low ≤ high →
    utf8 lowText ≤ utf8 highText
  nanNotString : ∀ value : SailSpec.PrimitiveLiteral, SailSpec.isNan value = true →
    SailSpec.stringOf value = none
  unary : ∀ kind name : String,
    SailSpec.unaryExpression (.object [("type", .str kind), ("term", .str name)]) =
      .ok ⟨.reference name⟩
  literal : ∀ (kind name : String) (value : Json),
    SailSpec.literalExpression
        (.object [("type", .str kind), ("term", .str name), ("value", value)]) =
      .ok ⟨.reference name, value⟩
  currentSnapshot : ∀ json metadata snapshot, SailSpec.deserializeMetadata json = .ok metadata →
    metadata.currentSnapshot = some snapshot →
    metadata.snapshots.find? (fun other => other.snapshotId = snapshot.snapshotId) = some snapshot

inductive DataContentType where
  | data
  | positionDeletes
  | equalityDeletes
  deriving DecidableEq

inductive DataFileFormat where
  | avro
  | orc
  | parquet
  | puffin
  deriving DecidableEq

/-- An entry of a manifest. The metrics are kept under field ids and may be missing. -/
structure SailDataFile [SailSpec] where
  content : DataContentType
  filePath : String
  fileFormat : DataFileFormat
  partition : List (Option (IcebergLiteral SailSpec.PrimitiveLiteral))
  recordCount : Nat
  fileSizeInBytes : Nat
  columnSizes : List (Int × Nat)
  valueCounts : List (Int × Nat)
  nullValueCounts : List (Int × Nat)
  nanValueCounts : List (Int × Nat)
  lowerBounds : List (Int × SailSpec.PrimitiveLiteral)
  upperBounds : List (Int × SailSpec.PrimitiveLiteral)
  splitOffsets : List Int
  equalityIds : List Int
  sortOrderId : Option Int
  firstRowId : Option Int
  partitionSpecId : Int
  contentOffset : Option Int
  contentSizeInBytes : Option Int

structure SailFieldSummary where
  id : Int
  name : String
  deriving DecidableEq

structure SailMetadataSummary where
  tableLocation : Option String
  currentSnapshotId : Option Int
  sequenceNumber : Option Int
  manifestList : Option String
  v4ExtensionMode : Bool
  fields : List SailFieldSummary
  deriving DecidableEq

/-- `value as i32`. -/
def asI32 (value : Int) : Int :=
  Int.bmod value (2 ^ 32)

def validateLakecatMetadataFormat (metadata : Json) : LakeCatResult Unit :=
  match (metadata.get "format-version").bind Json.asI64 with
  | none => .ok ()
  | some version =>
      if asI32 version ∈ ([1, 2, 3] : List Int) then .ok ()
      else if version = 4 then .ok ()
      else .error (.notSupported s!"unsupported Iceberg table format version v{version}")

def icebergJsonField (field : Json) : Option SailFieldSummary := do
  let id ← (field.get "id").bind Json.asI64
  let name ← (field.get "name").bind Json.asStr
  return ⟨asI32 id, name⟩

def icebergJsonFields (metadata : Json) : List SailFieldSummary :=
  let currentSchemaId := (metadata.get "current-schema-id").bind Json.asI64
  let found := ((metadata.get "schemas").bind Json.asArray).bind fun schemas =>
    schemas.find? fun schema => (schema.get "schema-id").bind Json.asI64 = currentSchemaId
  let schema := found.or (metadata.get "schema")
  let fields := (schema.bind fun schema => schema.get "fields").bind Json.asArray
  (fields.getD []).filterMap icebergJsonField

def inspectV4ExtensionMetadata (metadata : Json) : SailMetadataSummary :=
  let currentSnapshotId := (metadata.get "current-snapshot-id").bind Json.asI64
  let current := ((metadata.get "snapshots").bind Json.asArray).bind fun snapshots =>
    snapshots.find? fun snapshot =>
      (snapshot.get "snapshot-id").bind Json.asI64 = currentSnapshotId
  { tableLocation := (metadata.get "location").bind Json.asStr
    currentSnapshotId := currentSnapshotId
    sequenceNumber := (metadata.get "last-sequence-number").bind Json.asI64
    manifestList := (current.bind fun snapshot => snapshot.get "manifest-list").bind Json.asStr
    v4ExtensionMode := true
    fields := icebergJsonFields metadata }

/-- The summary of a table that the typed model could read. -/
def typedMetadataSummary [SailSpec] (metadata : TableMetadata SailSpec.FieldType) :
    SailMetadataSummary where
  tableLocation := some metadata.location
  currentSnapshotId := metadata.currentSnapshot.map Snapshot.snapshotId
  sequenceNumber := metadata.currentSnapshot.map Snapshot.sequenceNumber
  manifestList := (metadata.currentSnapshot.map Snapshot.manifestList).filter (· ≠ "")
  v4ExtensionMode := false
  fields := (metadata.currentSchema.getD []).map fun field => ⟨field.id, field.name⟩

def inspectSailTableMetadataWithTyped [SailSpec] (metadata : Json) :
    LakeCatResult (SailMetadataSummary × Option (TableMetadata SailSpec.FieldType)) := do
  validateLakecatMetadataFormat metadata
  let formatVersion := ((metadata.get "format-version").bind Json.asI64).getD 2
  if asI32 formatVersion = 4 then
    return (inspectV4ExtensionMetadata metadata, none)
  else
    match SailSpec.deserializeMetadata metadata with
    | .error text =>
        .error (.invalidArgument ("invalid Sail Iceberg table metadata model: " ++ text))
    | .ok typed => return (typedMetadataSummary typed, some typed)

end LakeCat
