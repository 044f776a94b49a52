import LakeCat.FetchSteps

/-!
The files that an expansion delivers: every data entry of a manifest, and of a
manifest list the live data files that the filters may match.
-/

namespace LakeCat

open Fallible

open SailSpec (PrimitiveLiteral FieldType)

section Paths

/-- The path of a data file in its REST value. -/
def filePathOf (dataFile : Json) : Option String :=
  (dataFile.get "file-path").bind Json.asStr

/-- A value that is an object with the path of a file. -/
structure NamesFile (path : String) (value : Json) : Prop where
  shape : value.isObject = true
  named : filePathOf value = some path

theorem NamesFile.set {path : String} {value : Json} (names : NamesFile path value)
    (field : String) (entry : Json) (other : field ≠ "file-path") :
    NamesFile path (value.set field entry) where
  shape := Json.isObject_set _ _ _ names.shape
  named := by
    rw [filePathOf, Json.get_set _ _ _ _ names.shape, if_neg other.symm]
    exact names.named

theorem NamesFile.setSome {path : String} {value : Json} (names : NamesFile path value)
    (field : String) (entry : Option Json) (other : field ≠ "file-path") :
    NamesFile path (setSome value field entry) := by
  cases entry with
  | none => exact names
  | some entry => exact names.set field entry other

variable [SailSpec]

omit [SailSpec] in
theorem NamesFile.insertCountMap {path : String} {value result : Json}
    (names : NamesFile path value) {field : String} (other : field ≠ "file-path")
    {map : List (Int × Nat)} (inserted : insertCountMap value field map = .ok result) :
    NamesFile path result := by
  unfold LakeCat.insertCountMap at inserted
  split at inserted
  next =>
    obtain rfl := Except.ok.inj inserted
    exact names
  next =>
    obtain ⟨counts, -, same⟩ := (bind_eq_ok _ _ _).mp inserted
    obtain rfl := Except.ok.inj same
    exact names.set _ _ other

theorem NamesFile.insertValueMap {path : String} {value result : Json}
    (names : NamesFile path value) {field : String} (other : field ≠ "file-path")
    {map : List (Int × PrimitiveLiteral)} (inserted : insertValueMap value field map = .ok result) :
    NamesFile path result := by
  unfold LakeCat.insertValueMap at inserted
  split at inserted
  next =>
    obtain rfl := Except.ok.inj inserted
    exact names
  next =>
    obtain rfl := Except.ok.inj inserted
    exact names.set _ _ other

theorem restBaseFileValue_path {file : SailDataFile} {value : Json}
    (written : restBaseFileValue file = .ok value) : NamesFile file.filePath value := by
  simp only [restBaseFileValue, bind_eq_ok, pure_eq, Except.ok.injEq] at written
  obtain ⟨fileSize, -, recordCount, -, rfl⟩ := written
  refine NamesFile.setSome (NamesFile.setSome ⟨Json.isObject_object _, ?_⟩ _ _ (by decide)) _ _
    (by decide)
  simp [filePathOf]
  rfl

theorem restDataFileValue_path {file : SailDataFile} {value : Json}
    (written : restDataFileValue file = .ok value) : filePathOf value = some file.filePath := by
  simp only [restDataFileValue, bind_eq_ok] at written
  obtain ⟨base, based, sizes, sized, values, counted, nulls, nulled, nans, nanned, lowers, lowered,
    uppered⟩ := written
  have named := restBaseFileValue_path based
  have named := named.set "content" (.str "data") (by decide)
  have named := named.setSome "first-row-id" (file.firstRowId.map .int) (by decide)
  have named := named.insertCountMap (by decide) sized
  have named := named.insertCountMap (by decide) counted
  have named := named.insertCountMap (by decide) nulled
  have named := named.insertCountMap (by decide) nanned
  have named := named.insertValueMap (by decide) lowered
  exact (named.insertValueMap (by decide) uppered).named

end Paths

section Manifests

variable [SailSpec]

def ManifestEntry.isData (entry : ManifestEntry) : Bool :=
  entry.dataFile.content = .data

def FileScanTask.path (task : FileScanTask) : Option String :=
  filePathOf task.dataFile

/-- A manifest is delivered whole: each data entry once, and no delete file with it. -/
theorem manifestFileTasks_files {entries : List ManifestEntry} {tasks : List FileScanTask}
    {deletes : List Json} (made : manifestFileTasks entries = .ok (tasks, deletes)) :
    tasks.map FileScanTask.path =
        (entries.filter ManifestEntry.isData).map (fun entry => some entry.dataFile.filePath) ∧
      ∀ task ∈ tasks, task.deleteFileReferences = [] := by
  induction entries generalizing tasks deletes with
  | nil =>
      obtain ⟨rfl, rfl⟩ := Prod.mk.inj (Except.ok.inj made)
      exact ⟨rfl, by simp⟩
  | cons entry rest ih =>
      rw [manifestFileTasks] at made
      split at made
      next data =>
        simp only [bind_eq_ok, pure_eq, Except.ok.injEq, Prod.exists, Prod.mk.injEq] at made
        obtain ⟨value, written, others, later, rested, rfl, rfl⟩ := made
        obtain ⟨paths, alone⟩ := ih rested
        have named : filePathOf value = some entry.dataFile.filePath :=
          restDataFileValue_path written
        refine ⟨?_, List.forall_mem_cons.mpr ⟨rfl, alone⟩⟩
        simp [ManifestEntry.isData, data, FileScanTask.path, named, paths]
      all_goals
        rename_i deleteContent
        simp only [bind_eq_ok, pure_eq, Except.ok.injEq, Prod.exists, Prod.mk.injEq] at made
        obtain ⟨value, -, others, later, rested, rfl, rfl⟩ := made
        obtain ⟨paths, alone⟩ := ih rested
        refine ⟨?_, alone⟩
        simp [ManifestEntry.isData, deleteContent, paths]

end Manifests

section ManifestLists

variable [SailSpec]

theorem anyLiteralMayMatch_rowId (file : SailDataFile) (rowId : Option Int)
    (field : NestedField FieldType) (values : List Json) :
    anyLiteralMayMatch { file with firstRowId := rowId } field values =
      anyLiteralMayMatch file field values := by
  induction values with
  | nil => rfl
  | cons value rest ih =>
      rw [anyLiteralMayMatch, anyLiteralMayMatch, ih]
      rfl

/-- What a filter says of a file does not depend on its row ids. -/
theorem dataFileMayMatchFilter_rowId (metadata : TableMetadata FieldType) (file : SailDataFile)
    (rowId : Option Int) (filter : Json) :
    dataFileMayMatchFilter metadata { file with firstRowId := rowId } filter =
      dataFileMayMatchFilter metadata file filter := by
  rw [dataFileMayMatchFilter, dataFileMayMatchFilter]
  refine bind_congr fun expressionType : String => ?_
  split
  case h_5 =>
    refine bind_congr fun left => ?_
    rw [dataFileMayMatchFilter_rowId metadata file rowId left.val]
    refine bind_congr fun matched => ?_
    split
    · exact bind_congr fun right => dataFileMayMatchFilter_rowId metadata file rowId right.val
    · rfl
  case h_6 =>
    refine bind_congr fun left => ?_
    rw [dataFileMayMatchFilter_rowId metadata file rowId left.val]
    refine bind_congr fun matched => ?_
    split
    · rfl
    · exact bind_congr fun right => dataFileMayMatchFilter_rowId metadata file rowId right.val
  case h_8 =>
    refine bind_congr fun expression => ?_
    split
    · rfl
    · exact anyLiteralMayMatch_rowId file rowId _ _
  all_goals rfl
termination_by sizeOf filter
decreasing_by
  · exact left.property
  · exact right.property
  · exact left.property
  · exact right.property

theorem dataFileMayMatchFilters_rowId (metadata : TableMetadata FieldType) (file : SailDataFile)
    (rowId : Option Int) (filters : List Json) :
    dataFileMayMatchFilters metadata { file with firstRowId := rowId } filters =
      dataFileMayMatchFilters metadata file filters := by
  induction filters with
  | nil => rfl
  | cons filter rest ih =>
      rw [dataFileMayMatchFilters, dataFileMayMatchFilters, dataFileMayMatchFilter_rowId, ih]

/-- A file that is kept may match, and one that is not does not. -/
theorem mem_keepMatching {metadata : TableMetadata FieldType} {filters : List Json}
    {files kept : List (SailDataFile × Int)}
    (matched : keepMatching metadata filters files = .ok kept) {file : SailDataFile × Int}
    (member : file ∈ files) :
    dataFileMayMatchFilters metadata file.1 filters = .ok false ∨ file ∈ kept := by
  induction files generalizing kept with
  | nil => cases member
  | cons first rest ih =>
      simp only [keepMatching, bind_eq_ok, pure_eq, Except.ok.injEq] at matched
      obtain ⟨keep, decided, others, rested, rfl⟩ := matched
      rcases List.mem_cons.mp member with rfl | later
      · cases keep with
        | false => exact .inl decided
        | true => exact .inr (by simp)
      · refine (ih rested later).imp_right fun found => ?_
        split
        · exact List.mem_cons_of_mem _ found
        · exact found

variable [SailIo]

/-- Each file of a manifest list gets one task. -/
theorem dataFileScanTasks_paths {deleteIndex : List DeleteFileRef}
    {files : List (SailDataFile × Int)} {known last : DeleteFiles} {tasks : List FileScanTask}
    (made : dataFileScanTasks deleteIndex files known = .ok (tasks, last)) :
    tasks.map FileScanTask.path = files.map fun file => some file.1.filePath := by
  induction files generalizing known last tasks with
  | nil =>
      obtain ⟨rfl, -⟩ := Prod.mk.inj (Except.ok.inj made)
      rfl
  | cons file rest ih =>
      simp only [dataFileScanTasks, bind_eq_ok, pure_eq, Except.ok.injEq, Prod.exists,
        Prod.mk.injEq] at made
      obtain ⟨references, seen, -, value, written, others, ended, rested, rfl, -⟩ := made
      have named : filePathOf value = some file.1.filePath := restDataFileValue_path written
      simp [FileScanTask.path, named, ih rested]

/-- A file as the filters see it. -/
def withoutRowId (file : SailDataFile × Int) : SailDataFile × Int :=
  ({ file.1 with firstRowId := none }, file.2)

/-- The live data files of a manifest, each with the sequence number it inherits. -/
def liveFiles (manifestFile : ManifestFile) (entries : List ManifestEntry) :
    List (SailDataFile × Int) :=
  match manifestFile.content with
  | .deletes => []
  | .data => (entries.filter fun entry => entry.isLive && entry.isData).map fun entry =>
      (inheritedFile manifestFile none entry,
        entry.sequenceNumber.getD manifestFile.sequenceNumber)

theorem collectEntries_files {metadata : TableMetadata FieldType} {manifestFile : ManifestFile}
    {entries : List ManifestEntry} {nextRowId : Option Int} {found collected : CollectedFiles}
    (done : collectEntries metadata manifestFile entries nextRowId found = .ok collected) :
    collected.dataFiles.map withoutRowId =
      (found.dataFiles ++ liveFiles manifestFile entries).map withoutRowId := by
  induction entries generalizing nextRowId found with
  | nil =>
      obtain rfl := Except.ok.inj done
      cases content : manifestFile.content <;> simp [liveFiles, content]
  | cons entry rest ih =>
      rw [collectEntries] at done
      split at done
      next dead =>
        rw [ih done]
        simp only [Bool.not_eq_true'] at dead
        cases content : manifestFile.content <;> simp [liveFiles, content, dead]
      next live =>
        simp only [Bool.not_eq_true', Bool.not_eq_false] at live
        split at done
        next content =>
          obtain ⟨next, -, rested⟩ := (bind_eq_ok _ _ _).mp done
          rw [ih rested]
          by_cases data : entry.dataFile.content = .data
          · simp [liveFiles, content, live, ManifestEntry.isData, inheritedFile, data, withoutRowId]
          · simp [liveFiles, content, live, ManifestEntry.isData, inheritedFile, data]
        next content =>
          obtain ⟨index, -, rested⟩ := (bind_eq_ok _ _ _).mp done
          rw [ih rested]
          simp [liveFiles, content]

theorem collectManifests_files {store : SailIo.StoreContext} {metadata : TableMetadata FieldType}
    (listed : List (ManifestFile × List ManifestEntry)) {found collected : CollectedFiles}
    (loads : ∀ manifest ∈ listed,
      SailIo.loadManifest store manifest.1.manifestPath = .ok manifest.2)
    (done : collectManifests store metadata (listed.map Prod.fst) found = .ok collected) :
    collected.dataFiles.map withoutRowId =
      (found.dataFiles ++ listed.flatMap fun manifest => liveFiles manifest.1 manifest.2).map
        withoutRowId := by
  induction listed generalizing found with
  | nil =>
      obtain rfl := Except.ok.inj done
      simp
  | cons manifest rest ih =>
      obtain ⟨first, others⟩ := List.forall_mem_cons.mp loads
      simp only [List.map_cons, collectManifests, bind_eq_ok, modelCheck_eq_ok, first,
        Except.ok.injEq, exists_eq_left'] at done
      obtain ⟨next, entered, rested⟩ := done
      rw [ih others rested, List.map_append, collectEntries_files entered]
      simp

/-- A live data file of the list that the filters may match has its task. -/
theorem listFiles_delivered {store : SailIo.StoreContext} {metadata : TableMetadata FieldType}
    (listed : List (ManifestFile × List ManifestEntry)) {filters : List Json}
    {tasks : List FileScanTask} {deletes : List Json}
    (loads : ∀ manifest ∈ listed,
      SailIo.loadManifest store manifest.1.manifestPath = .ok manifest.2)
    (done : expandManifestListFilesWithDeleteRefs store (listed.map Prod.fst) metadata filters =
      .ok (tasks, deletes)) {file : SailDataFile × Int}
    (member : file ∈ listed.flatMap fun manifest => liveFiles manifest.1 manifest.2)
    (kept : dataFileMayMatchFilters metadata file.1 filters ≠ .ok false) :
    some file.1.filePath ∈ tasks.map FileScanTask.path := by
  simp only [expandManifestListFilesWithDeleteRefs, bind_eq_ok, pure_eq, Except.ok.injEq,
    Prod.exists, Prod.mk.injEq] at done
  obtain ⟨found, collected, matching, matched, made, known, built, rfl, -⟩ := done
  have files := collectManifests_files listed loads collected
  have seen : withoutRowId file ∈ found.dataFiles.map withoutRowId := by
    rw [files]
    exact List.mem_map_of_mem member
  obtain ⟨other, held, same⟩ := List.mem_map.mp seen
  have file_eq : { other.1 with firstRowId := none } = { file.1 with firstRowId := none } :=
    (Prod.mk.inj same).1
  have decided : dataFileMayMatchFilters metadata other.1 filters =
      dataFileMayMatchFilters metadata file.1 filters := by
    rw [← dataFileMayMatchFilters_rowId metadata other.1 none, file_eq,
      dataFileMayMatchFilters_rowId]
  have path_eq : other.1.filePath = file.1.filePath := by
    simpa using congrArg SailDataFile.filePath file_eq
  rw [dataFileScanTasks_paths built, ← path_eq]
  have taken : other ∈ matching := (mem_keepMatching matched held).resolve_left (decided ▸ kept)
  exact List.mem_map.mpr ⟨other, taken, rfl⟩

/-- A list without live data files has no tasks. -/
theorem listFiles_none {store : SailIo.StoreContext} {metadata : TableMetadata FieldType}
    (listed : List (ManifestFile × List ManifestEntry)) {filters : List Json}
    {tasks : List FileScanTask} {deletes : List Json}
    (loads : ∀ manifest ∈ listed,
      SailIo.loadManifest store manifest.1.manifestPath = .ok manifest.2)
    (done : expandManifestListFilesWithDeleteRefs store (listed.map Prod.fst) metadata filters =
      .ok (tasks, deletes))
    (empty : (listed.flatMap fun manifest => liveFiles manifest.1 manifest.2) = []) :
    tasks = [] := by
  simp only [expandManifestListFilesWithDeleteRefs, bind_eq_ok, pure_eq, Except.ok.injEq,
    Prod.exists, Prod.mk.injEq] at done
  obtain ⟨found, collected, matching, matched, made, known, built, rfl, -⟩ := done
  have files := collectManifests_files listed loads collected
  rw [empty] at files
  have none_found : found.dataFiles = [] := by simpa using files
  rw [none_found] at matched
  obtain rfl := Except.ok.inj matched
  have paths := dataFileScanTasks_paths built
  simpa using paths

end ManifestLists

end LakeCat
