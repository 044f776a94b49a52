import LakeCat.FilePruning

/-!
The files behind a manifest: reading the live entries of a manifest list,
attaching the delete files that apply, and writing both as REST values.
-/

namespace LakeCat

open Fallible

open SailSpec (PrimitiveLiteral FieldType)

inductive ManifestContentType where
  | data
  | deletes
  deriving DecidableEq

inductive ManifestStatus where
  | existing
  | added
  | deleted
  deriving DecidableEq

structure ManifestFile where
  manifestPath : String
  content : ManifestContentType
  sequenceNumber : Int
  addedSnapshotId : Int
  partitionSpecId : Int
  firstRowId : Option Int
  deriving DecidableEq

structure ManifestEntry [SailSpec] where
  status : ManifestStatus
  sequenceNumber : Option Int
  dataFile : SailDataFile

structure DeleteFileRef [SailSpec] where
  dataFile : SailDataFile
  dataSequenceNumber : Int
  partitionSpecId : Int
  isUnpartitionedSpec : Bool

/-- The file system and the Iceberg reader. `deleteApplies` is what the delete-file index
answers from, and `indexDelete` whether it takes a delete file at all; the last five are the
REST models that results are checked against. -/
class SailIo [SailSpec] where
  StoreContext : Type
  localFileUrlExists : String → Bool
  isFileUrl : String → Bool
  newStoreContext : String → Except String StoreContext
  loadManifestList : StoreContext → String → Except String (List ManifestFile)
  loadManifest : StoreContext → String → Except String (List ManifestEntry)
  indexDelete : DeleteFileRef → Except String Unit
  deleteApplies : DeleteFileRef → SailDataFile → Int → Bool
  positionDeleteFile : Json → Except String Unit
  equalityDeleteFile : Json → Except String Unit
  fetchScanTasksResult : Json → Except String Unit
  planTableScanRequest : Json → Except String (Option Int)
  planningResultFromValues : List String → Except String Unit
  fetchResultFromValues : List String → List Json → List Json → Except String Unit

/-- What the file system and the REST models are relied on for. -/
structure SailIo.Documented [SailSpec] [SailIo] : Prop where
  emptyPath : SailIo.localFileUrlExists "" = false
  childrenOnly : SailIo.fetchScanTasksResult
    (.object [("file-scan-tasks", .null), ("plan-tasks", .arr [])]) = .ok ()
  tokensOnly : ∀ tokens : List String, SailIo.fetchResultFromValues tokens [] [] = .ok ()

/-- A call into the Iceberg crates, whose error text the engine reports as its own. -/
def modelCheck {α : Type} (result : Except String α) (report : String → LakeCatError) :
    LakeCatResult α :=
  match result with
  | .ok value => .ok value
  | .error text => .error (report text)

theorem modelCheck_eq_ok {α : Type} (result : Except String α) (report : String → LakeCatError)
    (value : α) : modelCheck result report = .ok value ↔ result = .ok value := by
  cases result <;> simp [modelCheck]

section RestValues

variable [SailSpec]

mutual

def restLiteralValue : IcebergLiteral PrimitiveLiteral → Json
  | .primitive value => SailSpec.restPrimitiveLiteralValue value
  | .struct fields => .object (restFields fields)
  | .list items => .arr (restItems items)
  | .map entries => .arr (restEntries entries)

def restOptionalLiteral : Option (IcebergLiteral PrimitiveLiteral) → Json
  | some literal => restLiteralValue literal
  | none => .null

def restFields : List (String × Option (IcebergLiteral PrimitiveLiteral)) → List (String × Json)
  | [] => []
  | (name, value) :: rest => (name, restOptionalLiteral value) :: restFields rest

def restItems : List (Option (IcebergLiteral PrimitiveLiteral)) → List Json
  | [] => []
  | item :: rest => restOptionalLiteral item :: restItems rest

def restEntries :
    List (IcebergLiteral PrimitiveLiteral × Option (IcebergLiteral PrimitiveLiteral)) → List Json
  | [] => []
  | (key, value) :: rest =>
      .object [("key", restLiteralValue key), ("value", restOptionalLiteral value)] ::
        restEntries rest

end

def restPartitionValues (partition : List (Option (IcebergLiteral PrimitiveLiteral))) :
    List Json :=
  partition.map restOptionalLiteral

def restFileFormat : DataFileFormat → String
  | .avro => "avro"
  | .orc => "orc"
  | .parquet => "parquet"
  | .puffin => "puffin"

omit [SailSpec] in
def Sail.checkedI64 (value : Nat) (label : String) : LakeCatResult Int :=
  if value < 2 ^ 63 then .ok value
  else .error (.notSupported s!"Iceberg {label} value {value} exceeds the REST model i64 range")

def sortedEntries {α : Type} (map : List (Int × α)) : List (Int × α) :=
  map.mergeSort fun left right => left.1 ≤ right.1

def keysAndValues {α : Type} (entries : List (Int × α)) (values : List Json) : Json :=
  .object [("keys", .arr (entries.map fun entry => .int entry.1)), ("values", .arr values)]

def insertCountMap (value : Json) (field : String) (map : List (Int × Nat)) :
    LakeCatResult Json :=
  if map = [] then .ok value
  else do
    let entries := sortedEntries map
    let counts ← collect (fun entry => Sail.checkedI64 entry.2 field) entries
    return value.set field (keysAndValues entries (counts.map .int))

def insertValueMap (value : Json) (field : String) (map : List (Int × PrimitiveLiteral)) :
    LakeCatResult Json :=
  if map.isEmpty then .ok value
  else
    let entries := sortedEntries map
    .ok (value.set field (keysAndValues entries
      (entries.map fun entry => SailSpec.restPrimitiveLiteralValue entry.2)))

/-- `value[field] = entry`, when there is one. -/
def setSome (value : Json) (field : String) (entry : Option Json) : Json :=
  match entry with
  | some entry => value.set field entry
  | none => value

def restBaseFileValue (file : SailDataFile) : LakeCatResult Json := do
  let fileSize ← Sail.checkedI64 file.fileSizeInBytes "file size"
  let recordCount ← Sail.checkedI64 file.recordCount "record count"
  let value := Json.object [("file-path", .str file.filePath),
    ("file-format", .str (restFileFormat file.fileFormat)),
    ("spec-id", .int file.partitionSpecId),
    ("partition", .arr (restPartitionValues file.partition)),
    ("file-size-in-bytes", .int fileSize), ("record-count", .int recordCount)]
  let value := setSome value "split-offsets"
    (if file.splitOffsets = [] then none else some (.arr (file.splitOffsets.map .int)))
  return setSome value "sort-order-id" (file.sortOrderId.map .int)

def restDataFileValue (file : SailDataFile) : LakeCatResult Json := do
  let value ← restBaseFileValue file
  let value := value.set "content" (.str "data")
  let value := setSome value "first-row-id" (file.firstRowId.map .int)
  let value ← insertCountMap value "column-sizes" file.columnSizes
  let value ← insertCountMap value "value-counts" file.valueCounts
  let value ← insertCountMap value "null-value-counts" file.nullValueCounts
  let value ← insertCountMap value "nan-value-counts" file.nanValueCounts
  let value ← insertValueMap value "lower-bounds" file.lowerBounds
  insertValueMap value "upper-bounds" file.upperBounds

def restDeleteFileValue (file : SailDataFile) : LakeCatResult Json :=
  match file.content with
  | .positionDeletes => do
      let value ← restBaseFileValue file
      let value := value.set "content" (.str "position-deletes")
      let value := setSome value "content-offset" (file.contentOffset.map .int)
      return setSome value "content-size-in-bytes" (file.contentSizeInBytes.map .int)
  | .equalityDeletes => do
      let value ← restBaseFileValue file
      let value := value.set "content" (.str "equality-deletes")
      return setSome value "equality-ids"
        (if file.equalityIds = [] then none else some (.arr (file.equalityIds.map .int)))
  | .data =>
      .error (.internal "data file cannot be encoded as an Iceberg delete file")

end RestValues

structure FileScanTask where
  dataFile : Json
  deleteFileReferences : List Nat

def FileScanTask.toJson (task : FileScanTask) : Json :=
  setSome (.object [("data-file", task.dataFile)]) "delete-file-references"
    (if task.deleteFileReferences = [] then none
      else some (.arr (task.deleteFileReferences.map fun index => .int index)))

section Expansion

variable [SailSpec] [SailIo]

def validateDeleteFileShape (deleteFile : Json) : LakeCatResult Unit :=
  match (deleteFile.get "content").bind Json.asStr with
  | some "position-deletes" => modelCheck (SailIo.positionDeleteFile deleteFile)
      (fun text => .internal
        ("Sail manifest expansion produced an invalid Iceberg position delete file: " ++ text))
  | some "equality-deletes" => modelCheck (SailIo.equalityDeleteFile deleteFile)
      (fun text => .internal
        ("Sail manifest expansion produced an invalid Iceberg equality delete file: " ++ text))
  | some other => .error (.internal ("invalid Iceberg delete file content: " ++ other))
  | none => .error (.internal "Iceberg delete file is missing content")

/-- The data files found so far, with their sequence numbers, and the delete-file index. -/
structure CollectedFiles where
  dataFiles : List (SailDataFile × Int)
  deleteIndex : List DeleteFileRef

def ManifestEntry.isLive (entry : ManifestEntry) : Bool :=
  entry.status = .added || entry.status = .existing

/-- A data file as the list expansion hands it on, with what it inherits of its manifest. -/
def inheritedFile (manifestFile : ManifestFile) (nextRowId : Option Int)
    (entry : ManifestEntry) : SailDataFile :=
  { entry.dataFile with
    partitionSpecId := manifestFile.partitionSpecId
    firstRowId := match manifestFile.content with
      | .data => entry.dataFile.firstRowId.or nextRowId
      | .deletes => entry.dataFile.firstRowId }

def deleteFileRef (metadata : TableMetadata FieldType) (manifestFile : ManifestFile)
    (entry : ManifestEntry) : DeleteFileRef where
  dataFile := inheritedFile manifestFile none entry
  dataSequenceNumber := entry.sequenceNumber.getD manifestFile.sequenceNumber
  partitionSpecId := manifestFile.partitionSpecId
  isUnpartitionedSpec :=
    ((metadata.partitionSpecs.find? fun spec => spec.specId = manifestFile.partitionSpecId).map
      PartitionSpec.isUnpartitioned).getD false

/-- What is left of a sum in an `i64`: the release build does not check additions. -/
def wrapI64 (value : Int) : Int :=
  Int.bmod value (2 ^ 64)

/-- `inherited_next_row_id`, moved past the rows of an entry. -/
def advanceRowId (nextRowId : Option Int) (entry : ManifestEntry) : LakeCatResult (Option Int) :=
  match nextRowId with
  | none => .ok none
  | some next => do
      let records ← Sail.checkedI64 entry.dataFile.recordCount "record count"
      return some (wrapI64 (next + records))

def insertDeleteFile (deleteIndex : List DeleteFileRef) (deleteFile : DeleteFileRef) :
    LakeCatResult (List DeleteFileRef) := do
  modelCheck (SailIo.indexDelete deleteFile)
    (fun text => .notSupported ("failed to index Iceberg delete file with Sail: " ++ text))
  return deleteIndex ++ [deleteFile]

/-- The loop over the entries of one manifest. -/
def collectEntries (metadata : TableMetadata FieldType) (manifestFile : ManifestFile) :
    List ManifestEntry → Option Int → CollectedFiles → LakeCatResult CollectedFiles
  | [], _, found => .ok found
  | entry :: rest, nextRowId, found =>
      if !entry.isLive then collectEntries metadata manifestFile rest nextRowId found
      else match manifestFile.content with
        | .data => do
            let file := inheritedFile manifestFile nextRowId entry
            let nextRowId ← advanceRowId nextRowId entry
            let sequenceNumber := entry.sequenceNumber.getD manifestFile.sequenceNumber
            let dataFiles := if file.content = .data then
              found.dataFiles ++ [(file, sequenceNumber)] else found.dataFiles
            collectEntries metadata manifestFile rest nextRowId { found with dataFiles := dataFiles }
        | .deletes => do
            let deleteIndex ←
              insertDeleteFile found.deleteIndex (deleteFileRef metadata manifestFile entry)
            collectEntries metadata manifestFile rest nextRowId
              { found with deleteIndex := deleteIndex }

/-- The loop over the manifests of a list. -/
def collectManifests (store : SailIo.StoreContext) (metadata : TableMetadata FieldType) :
    List ManifestFile → CollectedFiles → LakeCatResult CollectedFiles
  | [], found => .ok found
  | manifestFile :: rest, found => do
      let entries ← modelCheck (SailIo.loadManifest store manifestFile.manifestPath)
        (fun text => .internal ("failed to load Iceberg manifest from manifest list: " ++ text))
      let found ← collectEntries metadata manifestFile entries manifestFile.firstRowId found
      collectManifests store metadata rest found

/-- The data files that the filters may match. -/
def keepMatching (metadata : TableMetadata FieldType) (filters : List Json) :
    List (SailDataFile × Int) → LakeCatResult (List (SailDataFile × Int))
  | [] => .ok []
  | (dataFile, sequenceNumber) :: rest => do
      let kept ← dataFileMayMatchFilters metadata dataFile filters
      let others ← keepMatching metadata filters rest
      return if kept then (dataFile, sequenceNumber) :: others else others

/-- `DeleteFileIndex::for_data_file`: positional deletes, then equality deletes. -/
def deletesForDataFile (deleteIndex : List DeleteFileRef) (dataFile : SailDataFile)
    (sequenceNumber : Int) : List DeleteFileRef :=
  let matched := deleteIndex.filter fun deleteFile =>
    SailIo.deleteApplies deleteFile dataFile sequenceNumber
  (matched.filter fun deleteFile => deleteFile.dataFile.content = .positionDeletes) ++
    matched.filter fun deleteFile => deleteFile.dataFile.content = .equalityDeletes

omit [SailIo] in
def deleteFileKey (deleteFile : DeleteFileRef) : String :=
  toString deleteFile.dataSequenceNumber ++ ":" ++ toString deleteFile.partitionSpecId ++ ":" ++
    deleteFile.dataFile.filePath

/-- The delete files of a response, and under each key the place of its file among them. -/
structure DeleteFiles where
  keyToIndex : List (String × Nat)
  files : List Json

def deleteFileReferenceIndex (deleteFile : DeleteFileRef) (known : DeleteFiles) :
    LakeCatResult (Nat × DeleteFiles) :=
  match known.keyToIndex.lookup (deleteFileKey deleteFile) with
  | some index => .ok (index, known)
  | none => do
      let value ← restDeleteFileValue deleteFile.dataFile
      validateDeleteFileShape value
      let index := known.files.length
      rejectIf (2 ^ 31 ≤ index)
        (.notSupported "Iceberg delete file reference index exceeds i32 range")
      return (index, ⟨(deleteFileKey deleteFile, index) :: known.keyToIndex,
        known.files ++ [value]⟩)

def deleteFileReferences : List DeleteFileRef → DeleteFiles →
    LakeCatResult (List Nat × DeleteFiles)
  | [], known => .ok ([], known)
  | deleteFile :: rest, known => do
      let (index, known) ← deleteFileReferenceIndex deleteFile known
      let (others, known) ← deleteFileReferences rest known
      return (index :: others, known)

def dataFileScanTasks (deleteIndex : List DeleteFileRef) :
    List (SailDataFile × Int) → DeleteFiles → LakeCatResult (List FileScanTask × DeleteFiles)
  | [], known => .ok ([], known)
  | (dataFile, sequenceNumber) :: rest, known => do
      let matched := deletesForDataFile deleteIndex dataFile sequenceNumber
      let (references, known) ← deleteFileReferences matched known
      let value ← restDataFileValue dataFile
      let (others, known) ← dataFileScanTasks deleteIndex rest known
      return (⟨value, references⟩ :: others, known)

/-- The file tasks of a manifest list, and the delete files that they refer to. -/
def expandManifestListFilesWithDeleteRefs (store : SailIo.StoreContext)
    (manifests : List ManifestFile) (metadata : TableMetadata FieldType) (filters : List Json) :
    LakeCatResult (List FileScanTask × List Json) := do
  let found ← collectManifests store metadata manifests ⟨[], []⟩
  let dataFiles ← keepMatching metadata filters found.dataFiles
  let (tasks, known) ← dataFileScanTasks found.deleteIndex dataFiles ⟨[], []⟩
  return (tasks, known.files)

/-- The loop of `expand_manifest_task`: every entry, whatever its status. -/
def manifestFileTasks : List ManifestEntry → LakeCatResult (List FileScanTask × List Json)
  | [] => .ok ([], [])
  | entry :: rest =>
      match entry.dataFile.content with
      | .data => do
          let value ← restDataFileValue entry.dataFile
          let (tasks, deletes) ← manifestFileTasks rest
          return (⟨value, []⟩ :: tasks, deletes)
      | .positionDeletes | .equalityDeletes => do
          let value ← restDeleteFileValue entry.dataFile
          let (tasks, deletes) ← manifestFileTasks rest
          return (tasks, value :: deletes)

end Expansion

end LakeCat
