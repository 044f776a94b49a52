import LakeCat.TaskFiles
import LakeCat.PruningSound

/-!
The row ids that the files of a manifest inherit. The rule counts the rows of
the files that inherit; the loop counts the rows of every live file.
-/

namespace LakeCat

open Fallible

open SailSpec (PrimitiveLiteral FieldType)

theorem wrapI64_of_range {value : Int} (low : -(2 ^ 63) ≤ value) (high : value < 2 ^ 63) :
    wrapI64 value = value := by
  apply Int.bmod_eq_of_le
  · omega
  · omega

section

variable [SailSpec]

/-- The entries that a scan hands on. -/
def liveEntries (entries : List ManifestEntry) : List ManifestEntry :=
  entries.filter ManifestEntry.isLive

def ManifestEntry.lacksRowId (entry : ManifestEntry) : Bool :=
  entry.dataFile.firstRowId.isNone

def rowsOf (entries : List ManifestEntry) : Nat :=
  (entries.map fun entry => entry.dataFile.recordCount).sum

/-- What an entry gets by the inheritance rule, after the live entries before it. -/
def ruleRowId (first : Int) (before : List ManifestEntry) (entry : ManifestEntry) : Int :=
  entry.dataFile.firstRowId.getD (first + rowsOf (before.filter ManifestEntry.lacksRowId))

/-- `inherited_next_row_id` after some live entries of a data manifest. -/
def nextRowIdAfter (first : Int) (before : List ManifestEntry) : Int :=
  before.foldl (fun next entry => wrapI64 (next + entry.dataFile.recordCount)) first

/-- The rows that a file takes up from an id on. -/
def rowRange (id : Int) (entry : ManifestEntry) : Set Int :=
  Set.Ico id (id + entry.dataFile.recordCount)

/-- What is asked of the files that a data manifest with a first row id hands on. The file of an
entry has the place that the data files before it leave to it. -/
structure InheritsRowIds (manifestFile : ManifestFile) (first : Int) (lives : List ManifestEntry)
    (files : List (SailDataFile × Int)) : Prop where
  assigned : ∀ before entry after, lives = before ++ entry :: after → entry.isData = true →
    ∃ file sequenceNumber, files[before.countP ManifestEntry.isData]? =
        some (file, sequenceNumber) ∧ file = { entry.dataFile with
          partitionSpecId := manifestFile.partitionSpecId
          firstRowId := some (ruleRowId first before entry) }
  disjoint : ∀ before earlier between later after,
    lives = before ++ earlier :: (between ++ later :: after) →
    earlier.isData = true → earlier.lacksRowId = true → later.isData = true →
    later.lacksRowId = true → ∀ left right leftId rightId,
    files[before.countP ManifestEntry.isData]? = some left →
    files[(before ++ earlier :: between).countP ManifestEntry.isData]? = some right →
    left.1.firstRowId = some leftId → right.1.firstRowId = some rightId →
    Disjoint (rowRange leftId earlier) (rowRange rightId later)
  unwrapped : ∀ before entry after, lives = before ++ entry :: after →
    nextRowIdAfter first before + entry.dataFile.recordCount < 2 ^ 63

/-- No entry with rows and an id of its own comes before one that inherits, and the ids of all
the rows together fit into an `i64`. -/
structure RowIdsFit (first : Int) (lives : List ManifestEntry) : Prop where
  ownIdsLast : ∀ before earlier between later after,
    lives = before ++ earlier :: (between ++ later :: after) → earlier.lacksRowId = false →
    later.isData = true → later.lacksRowId = true → earlier.dataFile.recordCount = 0
  room : first + rowsOf lives < 2 ^ 63

theorem InheritsRowIds.row_id {manifestFile : ManifestFile} {first : Int}
    {lives : List ManifestEntry} {files : List (SailDataFile × Int)}
    (inherits : InheritsRowIds manifestFile first lives files) (before : List ManifestEntry)
    (entry : ManifestEntry) (after : List ManifestEntry)
    (whole : lives = before ++ entry :: after) (isData : entry.isData = true) :
    (files.map fun file => file.1.firstRowId)[before.countP ManifestEntry.isData]? =
      some (some (ruleRowId first before entry)) := by
  obtain ⟨file, sequenceNumber, found, rfl⟩ := inherits.assigned before entry after whole isData
  rw [List.getElem?_map, found]
  rfl

section Counting

variable {first : Int}

theorem rowsOf_cons (entry : ManifestEntry) (rest : List ManifestEntry) :
    rowsOf (entry :: rest) = entry.dataFile.recordCount + rowsOf rest := by
  simp [rowsOf]

theorem rowsOf_append (left right : List ManifestEntry) :
    rowsOf (left ++ right) = rowsOf left + rowsOf right := by
  simp [rowsOf]

/-- The rows are those of the entries that inherit and those of the others. -/
theorem rowsOf_split (entries : List ManifestEntry) :
    rowsOf entries = rowsOf (entries.filter ManifestEntry.lacksRowId) +
      rowsOf (entries.filter fun entry => !entry.lacksRowId) := by
  induction entries with
  | nil => rfl
  | cons entry rest ih =>
      cases lacks : entry.lacksRowId with
      | true =>
          simp only [List.filter_cons, lacks, if_true, Bool.not_true, Bool.false_eq_true, if_false,
            rowsOf_cons, ih]
          omega
      | false =>
          simp only [List.filter_cons, lacks, if_true, Bool.not_false, Bool.false_eq_true,
            if_false, rowsOf_cons, ih]
          omega

theorem rowsOf_eq_zero (entries : List ManifestEntry) :
    rowsOf entries = 0 ↔ ∀ entry ∈ entries, entry.dataFile.recordCount = 0 := by
  simp [rowsOf, List.sum_eq_zero_iff]

theorem rowsOf_lacking (entries : List ManifestEntry) :
    rowsOf entries = rowsOf (entries.filter ManifestEntry.lacksRowId) ↔
      ∀ entry ∈ entries, entry.lacksRowId = false → entry.dataFile.recordCount = 0 := by
  have split := rowsOf_split entries
  have others := rowsOf_eq_zero (entries.filter fun entry => !entry.lacksRowId)
  simp only [List.mem_filter, Bool.not_eq_true', and_imp] at others
  rw [← others]
  omega

theorem nextRowIdAfter_append (before later : List ManifestEntry) :
    nextRowIdAfter first (before ++ later) = nextRowIdAfter (nextRowIdAfter first before) later := by
  simp [nextRowIdAfter]

/-- While there is room, the counter is the plain sum. -/
theorem nextRowIdAfter_sum (before : List ManifestEntry) (low : -(2 ^ 63) ≤ first)
    (room : first + rowsOf before < 2 ^ 63) : nextRowIdAfter first before = first + rowsOf before := by
  induction before generalizing first with
  | nil => simp [nextRowIdAfter, rowsOf]
  | cons entry rest ih =>
      rw [rowsOf_cons] at room ⊢
      have own : wrapI64 (first + entry.dataFile.recordCount) =
          first + entry.dataFile.recordCount := by
        apply wrapI64_of_range
        · omega
        · omega
      have following := @ih (first + entry.dataFile.recordCount) (by omega) (by omega)
      rw [nextRowIdAfter, List.foldl_cons, own]
      rw [nextRowIdAfter] at following
      rw [following]
      omega

/-- No addition leaves the range exactly if the sum of all of them does not. -/
theorem unwrapped_iff (lives : List ManifestEntry) (low : -(2 ^ 63) ≤ first)
    (high : first < 2 ^ 63) :
    (∀ before entry after, lives = before ++ entry :: after →
      nextRowIdAfter first before + entry.dataFile.recordCount < 2 ^ 63) ↔
      first + rowsOf lives < 2 ^ 63 := by
  constructor
  · intro unwrapped
    induction lives generalizing first with
    | nil => simpa [rowsOf] using high
    | cons entry rest ih =>
        have own := unwrapped [] entry rest rfl
        rw [show nextRowIdAfter first [] = first from rfl] at own
        have same : wrapI64 (first + entry.dataFile.recordCount) =
            first + entry.dataFile.recordCount := by
          apply wrapI64_of_range
          · omega
          · omega
        have following := @ih (first + entry.dataFile.recordCount) (by omega) own
          (fun before other after whole => by
            have later := unwrapped (entry :: before) other after (by rw [whole]; rfl)
            rw [nextRowIdAfter, List.foldl_cons, same] at later
            exact later)
        rw [rowsOf_cons]
        omega
  · rintro room before entry after rfl
    rw [rowsOf_append, rowsOf_cons] at room
    rw [nextRowIdAfter_sum before low (by omega)]
    omega

end Counting

section Loop

variable {metadata : TableMetadata FieldType} {manifestFile : ManifestFile}

/-- What the loop hands on for an entry, after the live entries before it. -/
def handedOn (manifestFile : ManifestFile) (first : Int) (before : List ManifestEntry)
    (entry : ManifestEntry) : SailDataFile × Int :=
  (inheritedFile manifestFile (some (nextRowIdAfter first before)) entry,
    entry.sequenceNumber.getD manifestFile.sequenceNumber)

theorem advanceRowId_ok (next : Int) (entry : ManifestEntry) (advanced : Option Int)
    (done : advanceRowId (some next) entry = .ok advanced) :
    advanced = some (nextRowIdAfter next [entry]) := by
  simp only [advanceRowId, Sail.checkedI64, bind_eq_ok, pure_eq, Except.ok.injEq] at done
  obtain ⟨records, checked, rfl⟩ := done
  split at checked
  next =>
    obtain rfl := Except.ok.inj checked
    rfl
  next => cases checked

theorem handedOn_file (content : manifestFile.content = .data) (first : Int)
    (before : List ManifestEntry) (entry : ManifestEntry) :
    (handedOn manifestFile first before entry).1 = { entry.dataFile with
      partitionSpecId := manifestFile.partitionSpecId
      firstRowId := some (entry.dataFile.firstRowId.getD (nextRowIdAfter first before)) } := by
  simp only [handedOn, inheritedFile, content]
  cases entry.dataFile.firstRowId <;> rfl

variable [SailIo]

/-- The files that the loop adds, one for each live data file, each with the counter that the
live entries before it have left. -/
theorem collectEntries_handedOn {entries : List ManifestEntry} {first : Int}
    {found collected : CollectedFiles} (content : manifestFile.content = .data)
    (done : collectEntries metadata manifestFile entries (some first) found = .ok collected) :
    ∃ files, collected.dataFiles = found.dataFiles ++ files ∧
      ∀ before entry after, liveEntries entries = before ++ entry :: after →
        entry.isData = true →
        files[before.countP ManifestEntry.isData]? =
          some (handedOn manifestFile first before entry) := by
  induction entries generalizing first found with
  | nil =>
      obtain rfl := Except.ok.inj done
      refine ⟨[], by simp, ?_⟩
      intro before entry after whole
      simp [liveEntries] at whole
  | cons head rest ih =>
      rw [collectEntries] at done
      split at done
      next dead =>
        obtain ⟨files, added, placed⟩ := ih done
        refine ⟨files, added, ?_⟩
        simp only [Bool.not_eq_true'] at dead
        simpa only [liveEntries, List.filter_cons, dead, Bool.false_eq_true, if_false] using placed
      next live =>
        simp only [Bool.not_eq_true', Bool.not_eq_false] at live
        rw [content] at done
        obtain ⟨advanced, moved, rested⟩ := (bind_eq_ok _ _ _).mp done
        obtain rfl := advanceRowId_ok first head advanced moved
        obtain ⟨files, added, placed⟩ := ih rested
        have later (before : List ManifestEntry) (entry : ManifestEntry) :
            handedOn manifestFile (nextRowIdAfter first [head]) before entry =
              handedOn manifestFile first (head :: before) entry := rfl
        have started : liveEntries (head :: rest) = head :: liveEntries rest := by
          rw [liveEntries, List.filter_cons, if_pos live]
          rfl
        have sameContent : (inheritedFile manifestFile (some first) head).content =
            head.dataFile.content := rfl
        by_cases data : head.dataFile.content = .data
        · rw [sameContent, if_pos data] at added
          refine ⟨handedOn manifestFile first [] head :: files, ?_, ?_⟩
          · rw [added, List.append_assoc]
            rfl
          · intro before entry after whole isData
            rw [started] at whole
            cases before with
            | nil =>
                obtain ⟨rfl, _⟩ := List.cons.inj whole
                rfl
            | cons other before =>
                obtain ⟨rfl, tail⟩ := List.cons.inj whole
                have own : head.isData = true := by simpa [ManifestEntry.isData] using data
                rw [List.countP_cons_of_pos own, List.getElem?_cons_succ,
                  placed before entry after tail isData, later]
        · rw [sameContent, if_neg data] at added
          refine ⟨files, added, ?_⟩
          intro before entry after whole isData
          rw [started] at whole
          cases before with
          | nil =>
              obtain ⟨rfl, _⟩ := List.cons.inj whole
              exact absurd (by simpa [ManifestEntry.isData] using isData) data
          | cons other before =>
              obtain ⟨rfl, tail⟩ := List.cons.inj whole
              have own : ¬head.isData = true := by simpa [ManifestEntry.isData] using data
              rw [List.countP_cons_of_neg own, placed before entry after tail isData, later]

end Loop

section Rule

variable {manifestFile : ManifestFile} {first : Int} {lives : List ManifestEntry}
  {files : List (SailDataFile × Int)}

theorem inheritsRowIds_iff (content : manifestFile.content = .data) (low : -(2 ^ 63) ≤ first)
    (high : first < 2 ^ 63)
    (placed : ∀ before entry after, lives = before ++ entry :: after → entry.isData = true →
      files[before.countP ManifestEntry.isData]? =
        some (handedOn manifestFile first before entry)) :
    InheritsRowIds manifestFile first lives files ↔ RowIdsFit first lives := by
  constructor
  · rintro ⟨assigned, -, unwrapped⟩
    have room := (unwrapped_iff lives low high).mp unwrapped
    refine ⟨?_, room⟩
    intro before earlier between later after whole own isData lacks
    have split : lives = (before ++ earlier :: between) ++ later :: after := by
      rw [whole, List.append_assoc, List.cons_append]
    obtain ⟨file, _, found, ruled⟩ := assigned _ later after split isData
    rw [placed _ later after split isData] at found
    have given := congrArg (fun pair => pair.1.firstRowId) (Option.some.inj found)
    rw [ruled] at given
    rw [handedOn_file content] at given
    simp only [Option.some.injEq, ruleRowId, Option.isNone_iff_eq_none.mp lacks,
      Option.getD_none] at given
    have fits : first + rowsOf (before ++ earlier :: between) < 2 ^ 63 := by
      rw [split, rowsOf_append] at room
      omega
    rw [nextRowIdAfter_sum _ low fits] at given
    have same : rowsOf (before ++ earlier :: between) =
        rowsOf ((before ++ earlier :: between).filter ManifestEntry.lacksRowId) := by
      omega
    exact (rowsOf_lacking _).mp same earlier (by simp) own
  · rintro ⟨ownIdsLast, room⟩
    have counted (before : List ManifestEntry) (entry : ManifestEntry) (after : List ManifestEntry)
        (whole : lives = before ++ entry :: after) (lacks : entry.lacksRowId = true)
        (isData : entry.isData = true) :
        nextRowIdAfter first before = first + rowsOf (before.filter ManifestEntry.lacksRowId) := by
      have fits : first + rowsOf before < 2 ^ 63 := by
        rw [whole, rowsOf_append] at room
        omega
      rw [nextRowIdAfter_sum before low fits, (rowsOf_lacking before).mpr]
      intro earlier member own
      obtain ⟨start, between, rfl⟩ := List.append_of_mem member
      exact ownIdsLast start earlier between entry after
        (by rw [whole, List.append_assoc, List.cons_append]) own isData lacks
    refine ⟨?_, ?_, (unwrapped_iff lives low high).mpr room⟩
    · intro before entry after whole isData
      refine ⟨(handedOn manifestFile first before entry).1, _,
        placed before entry after whole isData, ?_⟩
      rw [handedOn_file content]
      cases lacks : entry.dataFile.firstRowId with
      | some id => simp [ruleRowId, lacks]
      | none =>
          rw [counted before entry after whole (by simp [ManifestEntry.lacksRowId, lacks]) isData]
          simp [ruleRowId, lacks]
    · intro before earlier between later after whole earlierData earlierLacks laterData laterLacks
        left right leftId rightId leftAt rightAt leftGiven rightGiven
      have split : lives = (before ++ earlier :: between) ++ later :: after := by
        rw [whole, List.append_assoc, List.cons_append]
      rw [placed _ earlier _ whole earlierData] at leftAt
      rw [placed _ later _ split laterData] at rightAt
      obtain rfl := Option.some.inj leftAt
      obtain rfl := Option.some.inj rightAt
      rw [handedOn_file content, Option.isNone_iff_eq_none.mp earlierLacks] at leftGiven
      rw [handedOn_file content, Option.isNone_iff_eq_none.mp laterLacks] at rightGiven
      simp only [Option.getD_none, Option.some.injEq] at leftGiven rightGiven
      rw [counted before earlier _ whole earlierLacks earlierData] at leftGiven
      rw [counted _ later after split laterLacks laterData, List.filter_append,
        List.filter_cons_of_pos earlierLacks, rowsOf_append, rowsOf_cons] at rightGiven
      rw [rowRange, rowRange, Set.disjoint_left]
      rintro row ⟨_, below⟩ ⟨above, _⟩
      push_cast at rightGiven
      omega

end Rule

section Manifests

variable [SailIo]

theorem collectManifests_append {store : SailIo.StoreContext} {metadata : TableMetadata FieldType}
    (left right : List ManifestFile) (found collected : CollectedFiles) :
    collectManifests store metadata (left ++ right) found = .ok collected ↔
      ∃ start, collectManifests store metadata left found = .ok start ∧
        collectManifests store metadata right start = .ok collected := by
  induction left generalizing found with
  | nil => simp [collectManifests]
  | cons manifest rest ih =>
      simp only [List.cons_append, collectManifests, bind_eq_ok, ih]
      constructor
      · rintro ⟨entries, loaded, next, entered, start, rested, ended⟩
        exact ⟨start, ⟨entries, loaded, next, entered, rested⟩, ended⟩
      · rintro ⟨start, ⟨entries, loaded, next, entered, rested⟩, ended⟩
        exact ⟨entries, loaded, next, entered, start, rested, ended⟩

/-- The loops only add to the files found before. -/
theorem collectEntries_extends {metadata : TableMetadata FieldType} {manifestFile : ManifestFile}
    {entries : List ManifestEntry} {next : Option Int} {found collected : CollectedFiles}
    (done : collectEntries metadata manifestFile entries next found = .ok collected) :
    found.dataFiles <+: collected.dataFiles := by
  induction entries generalizing next found with
  | nil =>
      obtain rfl := Except.ok.inj done
      exact List.prefix_rfl
  | cons entry rest ih =>
      rw [collectEntries] at done
      split at done
      next => exact ih done
      next =>
        split at done
        next =>
          obtain ⟨advanced, _, rested⟩ := (bind_eq_ok _ _ _).mp done
          refine List.IsPrefix.trans ?_ (ih rested)
          by_cases data : (inheritedFile manifestFile next entry).content = .data
          · rw [if_pos data]
            exact List.prefix_append _ _
          · rw [if_neg data]
        next =>
          obtain ⟨index, _, rested⟩ := (bind_eq_ok _ _ _).mp done
          have onward := ih rested
          exact onward

theorem collectManifests_extends {store : SailIo.StoreContext}
    {metadata : TableMetadata FieldType} {manifests : List ManifestFile}
    {found collected : CollectedFiles}
    (done : collectManifests store metadata manifests found = .ok collected) :
    found.dataFiles <+: collected.dataFiles := by
  induction manifests generalizing found with
  | nil =>
      obtain rfl := Except.ok.inj done
      exact List.prefix_rfl
  | cons manifest rest ih =>
      simp only [collectManifests, bind_eq_ok] at done
      obtain ⟨entries, _, next, entered, rested⟩ := done
      exact (collectEntries_extends entered).trans (ih rested)

/-- In a list of manifests that is read to its end, the files of a data manifest with a first row
id carry the ids of the rule exactly if no file with an id of its own and with rows comes before
one that inherits, and the ids fit. -/
theorem collectManifests_rowIds {store : SailIo.StoreContext} {metadata : TableMetadata FieldType}
    {earlier later : List ManifestFile} {manifestFile : ManifestFile} {collected : CollectedFiles}
    {first : Int} (content : manifestFile.content = .data)
    (numbered : manifestFile.firstRowId = some first) (low : -(2 ^ 63) ≤ first)
    (high : first < 2 ^ 63)
    (done : collectManifests store metadata (earlier ++ manifestFile :: later) ⟨[], []⟩ =
      .ok collected) :
    ∃ entries start finish files after,
      SailIo.loadManifest store manifestFile.manifestPath = .ok entries ∧
      collectManifests store metadata earlier ⟨[], []⟩ = .ok start ∧
      collectEntries metadata manifestFile entries (some first) start = .ok finish ∧
      finish.dataFiles = start.dataFiles ++ files ∧
      collected.dataFiles = start.dataFiles ++ files ++ after ∧
      (InheritsRowIds manifestFile first (liveEntries entries) files ↔
        RowIdsFit first (liveEntries entries)) := by
  obtain ⟨start, began, rested⟩ := (collectManifests_append _ _ _ _).mp done
  simp only [collectManifests, bind_eq_ok, modelCheck_eq_ok, numbered] at rested
  obtain ⟨entries, loaded, finish, entered, ended⟩ := rested
  obtain ⟨files, added, placed⟩ := collectEntries_handedOn content entered
  obtain ⟨after, whole⟩ := collectManifests_extends ended
  refine ⟨entries, start, finish, files, after, loaded, began, entered, added, ?_, ?_⟩
  · rw [← added, whole]
  · exact inheritsRowIds_iff content low high placed

end Manifests

end

section Sample

/-- A live data file of the sample crates with so many rows. -/
def rowIdEntry (firstRowId : Option Int) (recordCount : Nat) : @ManifestEntry sampleSail :=
  let _ := sampleSail
  { status := .existing
    sequenceNumber := none
    dataFile := { sampleDataFile [] with recordCount := recordCount, firstRowId := firstRowId } }

def rowIdManifest : ManifestFile where
  manifestPath := "file:///tables/events/metadata/m0.avro"
  content := .data
  sequenceNumber := 3
  addedSnapshotId := 1
  partitionSpecId := 0
  firstRowId := some 100

/-- A file system with one manifest. -/
@[reducible] def rowIdIo (entries : List (@ManifestEntry sampleSail)) : @SailIo sampleSail :=
  let _ := sampleSail
  { StoreContext := Unit
    localFileUrlExists _ := true
    isFileUrl _ := true
    newStoreContext _ := .ok ()
    loadManifestList _ _ := .ok [rowIdManifest]
    loadManifest _ _ := .ok entries
    indexDelete _ := .ok ()
    deleteApplies _ _ _ := false
    positionDeleteFile _ := .ok ()
    equalityDeleteFile _ := .ok ()
    fetchScanTasksResult _ := .ok ()
    planTableScanRequest _ := .ok none
    planningResultFromValues _ := .ok ()
    fetchResultFromValues _ _ _ := .ok () }

/-- Two files that inherit, one after the other. -/
theorem collectManifests_rowIds_pair :
    let _ := sampleSail
    let _ := rowIdIo [rowIdEntry none 5, rowIdEntry none 3]
    ∃ finish files, collectManifests () sampleSchema [rowIdManifest] ⟨[], []⟩ = .ok finish ∧
      files <+: finish.dataFiles ∧
      InheritsRowIds rowIdManifest 100 [rowIdEntry none 5, rowIdEntry none 3] files := by
  let _ := sampleSail
  let _ := rowIdIo [rowIdEntry none 5, rowIdEntry none 3]
  have done : collectManifests () sampleSchema ([] ++ rowIdManifest :: []) ⟨[], []⟩ = .ok _ := rfl
  obtain ⟨entries, start, finish, files, after, loaded, began, _, _, whole, fits⟩ :=
    collectManifests_rowIds rfl rfl (by decide : -(2 ^ 63) ≤ (100 : Int)) (by decide) done
  obtain rfl := Except.ok.inj loaded
  obtain rfl := Except.ok.inj began
  refine ⟨_, files, done, ⟨after, whole.symm⟩, fits.mpr ⟨?_, by decide⟩⟩
  intro before earlier between later after split own
  have member : earlier ∈ liveEntries [rowIdEntry none 5, rowIdEntry none 3] := by
    rw [split]
    simp
  have lacks : ∀ entry ∈ liveEntries [rowIdEntry none 5, rowIdEntry none 3],
      entry.lacksRowId = true := by decide
  rw [lacks earlier member] at own
  cases own

/-- A file with an id of its own moves the counter: the next one gets 105, not 100. -/
theorem ownRowId_counted :
    let _ := sampleSail
    let _ := rowIdIo [rowIdEntry (some 7) 5, rowIdEntry none 3]
    ∃ finish, collectManifests () sampleSchema [rowIdManifest] ⟨[], []⟩ = .ok finish ∧
      finish.dataFiles.map (fun file => file.1.firstRowId) = [some 7, some 105] ∧
      ¬InheritsRowIds rowIdManifest 100 [rowIdEntry (some 7) 5, rowIdEntry none 3]
        finish.dataFiles := by
  let _ := sampleSail
  let _ := rowIdIo [rowIdEntry (some 7) 5, rowIdEntry none 3]
  obtain ⟨finish, done, ids⟩ : ∃ finish,
      collectManifests () sampleSchema [rowIdManifest] ⟨[], []⟩ = .ok finish ∧
        finish.dataFiles.map (fun file => file.1.firstRowId) = [some 7, some 105] :=
    ⟨_, rfl, by decide +kernel⟩
  refine ⟨finish, done, ids, ?_⟩
  intro inherits
  have given := inherits.row_id [rowIdEntry (some 7) 5] (rowIdEntry none 3) [] rfl rfl
  rw [ids] at given
  exact absurd given (by decide)

end Sample

end LakeCat
