import LakeCat.CatalogRecords

/-!
Views and the receipts of their versions: each upsert and each drop of a view
leaves a receipt that names the hash of the receipt before it.
-/

namespace LakeCat

open Fallible

structure ViewColumnRecord where
  name : String
  dataType : Json
  nullable : Bool
  comment : Option String

namespace ViewColumnRecord

def toJson (column : ViewColumnRecord) : Json :=
  .object ([("name", .str column.name), ("data_type", column.dataType),
    ("nullable", .bool column.nullable)] ++ Json.presentField "comment" .str column.comment)

def validate (column : ViewColumnRecord) : LakeCatResult Unit := do
  rejectIf (isBlank column.name) (.invalidArgument "view column name must not be empty")
  rejectIf column.dataType.isNull
    (.invalidArgument s!"view column {column.name} data type must not be null")
  rejectIf (column.comment.any isBlank)
    (.invalidArgument s!"view column {column.name} comment must not be empty")

end ViewColumnRecord

structure ViewRecord where
  warehouse : WarehouseName
  ns : Namespace
  name : TableName
  viewVersion : UInt64
  sql : String
  dialect : String
  schemaVersion : Option UInt64
  columns : List ViewColumnRecord
  properties : BTreeMap String
  created : AuditStamp
  updatedAt : Timestamp

/-- Each column is valid and its name has not been seen. -/
def validateViewColumns (seen : List String) : List ViewColumnRecord → LakeCatResult Unit
  | [] => .ok ()
  | column :: rest => do
      column.validate
      rejectIf (column.name ∈ seen)
        (.invalidArgument s!"view column appears more than once: {column.name}")
      validateViewColumns (column.name :: seen) rest

namespace ViewRecord
variable [External]

def validate (view : ViewRecord) : LakeCatResult Unit := do
  rejectIf (view.viewVersion = 0) (.invalidArgument "view version must be greater than zero")
  rejectIf (isBlank view.sql) (.invalidArgument "view SQL must not be empty")
  let dialect := trimText view.dialect
  rejectIf (dialect.toList = []) (.invalidArgument "view dialect must not be empty")
  rejectIf (dialect.toList.any isWhitespace)
    (.invalidArgument "view dialect must not contain whitespace")
  validateViewColumns [] view.columns
  validatePublicConfig view.properties

def toJson (view : ViewRecord) : Json :=
  .object ([("warehouse", view.warehouse.toJson), ("namespace", view.ns.toJson),
    ("name", view.name.toJson), ("view_version", ofU64 view.viewVersion), ("sql", .str view.sql),
    ("dialect", .str view.dialect), ("schema_version", Json.ofOption ofU64 view.schemaVersion)] ++
    (if view.columns = [] then []
      else [("columns", .arr (view.columns.map ViewColumnRecord.toJson))]) ++
    [("properties", Json.ofStringMap view.properties.toList), ("created", view.created.toJson),
      ("updated_at", serializeTimestamp view.updatedAt)])

def baseVersion (previous latestReceiptVersion : Option UInt64) : UInt64 :=
  (previous.toList ++ latestReceiptVersion.toList).foldl max 0

/-- `checked_add(1)`. -/
def checkedSucc (version : UInt64) : Option UInt64 :=
  if version.toNat + 1 < 2 ^ 64 then some (version + 1) else none

def withNextVersionAfterHistory (view : ViewRecord) (previous : Option ViewRecord)
    (latestReceiptVersion : Option UInt64) : LakeCatResult ViewRecord := do
  let base := baseVersion (previous.map ViewRecord.viewVersion) latestReceiptVersion
  let version ← okOr (checkedSucc base) (.invalidArgument "view version overflow")
  let next := {
    view with
    viewVersion := version
    created := (previous.map ViewRecord.created).getD view.created
  }
  next.validate
  return next

end ViewRecord

def validateExpectedViewVersion (expected : UInt64) : LakeCatResult Unit :=
  rejectIf (expected = 0) (.invalidArgument "expected view version must be greater than zero")

def requireExpectedViewVersion (previous : Option ViewRecord) (expected : UInt64) :
    LakeCatResult Unit := do
  let previous ← okOr previous
    (.conflict s!"view expected version {expected} but no current view exists")
  rejectIf (previous.viewVersion ≠ expected)
    (.conflict s!"view expected version {expected} but current version is {previous.viewVersion}")

inductive ViewVersionOperation where
  | upsert
  | drop
  deriving DecidableEq

namespace ViewVersionOperation

def asStr : ViewVersionOperation → String
  | .upsert => "upsert"
  | .drop => "drop"

/-- `view_version_operation_order`. -/
def order : ViewVersionOperation → Nat
  | .upsert => 0
  | .drop => 1

end ViewVersionOperation

structure ViewVersionReceipt where
  stableId : String
  warehouse : WarehouseName
  ns : Namespace
  name : TableName
  viewVersion : UInt64
  previousViewVersion : Option UInt64
  previousReceiptHash : Option String
  operation : ViewVersionOperation
  viewHash : String
  principal : Principal
  recordedAt : Timestamp

def viewStableIdParts (warehouse : WarehouseName) (ns : Namespace) (name : TableName) : String :=
  "lakecat:view:" ++ warehouse.value ++ ":" ++ ns.path ++ ":" ++ name.value

def viewStableId (view : ViewRecord) : String :=
  viewStableIdParts view.warehouse view.ns view.name

namespace ViewVersionReceipt
variable [External]

def toJson (receipt : ViewVersionReceipt) : Json :=
  .object ([("stable-id", .str receipt.stableId), ("warehouse", receipt.warehouse.toJson),
    ("namespace", receipt.ns.toJson), ("name", receipt.name.toJson),
    ("view-version", ofU64 receipt.viewVersion)] ++
    Json.presentField "previous-view-version" ofU64 receipt.previousViewVersion ++
    Json.presentField "previous-receipt-hash" .str receipt.previousReceiptHash ++
    [("operation", .str receipt.operation.asStr), ("view-hash", .str receipt.viewHash),
      ("principal", receipt.principal.toJson),
      ("recorded-at", serializeTimestamp receipt.recordedAt)])

def upsert (previousViewVersion : Option UInt64) (previousReceiptHash : Option String)
    (view : ViewRecord) (principal : Principal) (now : Timestamp) : ViewVersionReceipt where
  stableId := viewStableId view
  warehouse := view.warehouse
  ns := view.ns
  name := view.name
  viewVersion := view.viewVersion
  previousViewVersion := previousViewVersion
  previousReceiptHash := previousReceiptHash
  operation := .upsert
  viewHash := contentHashJson view.toJson
  principal := principal
  recordedAt := now

def drop (view : ViewRecord) (previousReceiptHash : Option String) (principal : Principal)
    (now : Timestamp) : ViewVersionReceipt where
  stableId := viewStableId view
  warehouse := view.warehouse
  ns := view.ns
  name := view.name
  viewVersion := view.viewVersion
  previousViewVersion := some view.viewVersion
  previousReceiptHash := previousReceiptHash
  operation := .drop
  viewHash := contentHashJson view.toJson
  principal := principal
  recordedAt := now

omit [External] in
def validate (receipt : ViewVersionReceipt) : LakeCatResult Unit := do
  rejectIf (receipt.stableId ≠ viewStableIdParts receipt.warehouse receipt.ns receipt.name)
    (.invalidArgument "view receipt stable id does not match receipt identity")
  rejectIf (receipt.viewVersion = 0)
    (.invalidArgument "view receipt version must be greater than zero")
  match receipt.operation with
  | .upsert =>
      rejectIf (receipt.previousViewVersion.any fun previous => receipt.viewVersion ≤ previous)
        (.invalidArgument
          "view upsert receipt previous version must be less than receipt version")
  | .drop =>
      rejectIf (receipt.previousViewVersion ≠ some receipt.viewVersion)
        (.invalidArgument "view drop receipt previous version must equal receipt version")
  validateSha256Evidence receipt.viewHash "view receipt hash must be a SHA-256 digest"
  checkSome (fun digest => validateSha256Evidence digest
    "previous view receipt hash must be a SHA-256 digest") receipt.previousReceiptHash

end ViewVersionReceipt

def viewReceiptHash [External] (receipt : ViewVersionReceipt) : String :=
  contentHashJson receipt.toJson

/-- The comparison of `sort_by` and `max_by`: version, time, then upsert before drop. -/
def receiptOrder (left right : ViewVersionReceipt) : Ordering :=
  (compare left.viewVersion right.viewVersion).then <|
    (compare left.recordedAt right.recordedAt).then <|
      compare left.operation.order right.operation.order

def receiptLe (left right : ViewVersionReceipt) : Bool :=
  (receiptOrder left right).isLE

section
variable [External]

def validateFirstReceipt (receipt : ViewVersionReceipt) : LakeCatResult Unit :=
  rejectIf (receipt.operation ≠ .upsert ∨ receipt.viewVersion ≠ 1 ∨
      receipt.previousViewVersion.isSome ∨ receipt.previousReceiptHash.isSome)
    (.internal "view receipt chain must begin with version 1 upsert without previous links")

def saturatingSucc (version : UInt64) : UInt64 :=
  (ViewRecord.checkedSucc version).getD version

def validateNextReceipt (previous receipt : ViewVersionReceipt) : LakeCatResult Unit := do
  rejectIf (receipt.previousReceiptHash ≠ some (viewReceiptHash previous))
    (.internal "view receipt chain previous links must match the prior receipt")
  match receipt.operation with
  | .upsert =>
      rejectIf (receipt.previousViewVersion ≠ some previous.viewVersion ∨
          receipt.viewVersion ≠ saturatingSucc previous.viewVersion)
        (.internal "view receipt chain upsert transition is invalid")
  | .drop =>
      rejectIf (receipt.previousViewVersion ≠ some previous.viewVersion ∨
          receipt.viewVersion ≠ previous.viewVersion)
        (.internal "view receipt chain drop transition is invalid")

/-- The loop over one sorted chain, with the receipt before the current one. -/
def validateChain (previous : Option ViewVersionReceipt) :
    List ViewVersionReceipt → LakeCatResult Unit
  | [] => .ok ()
  | receipt :: rest => do
      receipt.validate
      match previous with
      | none => validateFirstReceipt receipt
      | some previous => validateNextReceipt previous receipt
      validateChain (some receipt) rest

/-- The receipts under each stable id, in the order of the ids. -/
def groupReceipts (receipts : List ViewVersionReceipt) : List (List ViewVersionReceipt) :=
  let ids := (receipts.map ViewVersionReceipt.stableId).dedup.mergeSort
  ids.map fun id => receipts.filter fun receipt => receipt.stableId = id

def validateViewReceiptChains (receipts : List ViewVersionReceipt) : LakeCatResult Unit :=
  checkEach (fun chain => validateChain none (chain.mergeSort receiptLe)) (groupReceipts receipts)

/-- `max_by`: of several greatest receipts, the last one. -/
def latestReceipt : List ViewVersionReceipt → Option ViewVersionReceipt
  | [] => none
  | first :: rest =>
      some (rest.foldl (fun best receipt => if receiptLe best receipt then receipt else best) first)

def latestViewReceiptEvidence (receipts : List ViewVersionReceipt) :
    LakeCatResult (Option (UInt64 × String)) := do
  validateViewReceiptChains receipts
  match latestReceipt receipts with
  | none => return none
  | some receipt => do
      receipt.validate
      return some (receipt.viewVersion, viewReceiptHash receipt)

theorem latestViewReceiptEvidence_nil : latestViewReceiptEvidence [] = .ok none := by
  have none : groupReceipts [] = [] := by
    simp only [groupReceipts, List.map_nil, List.dedup, List.pwFilter_nil, List.mergeSort_nil]
  rw [latestViewReceiptEvidence, validateViewReceiptChains, none]
  rfl

def latestViewReceiptHash (receipts : List ViewVersionReceipt) : LakeCatResult (Option String) := do
  let evidence ← latestViewReceiptEvidence receipts
  return evidence.map Prod.snd

end

end LakeCat
