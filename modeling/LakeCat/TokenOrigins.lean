import LakeCat.GovernedScans

/-!
Where an accepted plan task comes from. Calls to plan and to fetch mint tokens;
under an unforgeable signature, an accepted token is one of them exactly when it
is in the signed form, spelled as it was minted, and minted for the table.
-/

namespace LakeCat

open Fallible

open SailSpec (PrimitiveLiteral FieldType)

/-- A split in two is at the first separator. -/
theorem splitN_two_eq {text first last : String} (split : splitN 2 text ':' = [first, last]) :
    text = first ++ ":" ++ last := by
  simp only [splitN, splitCharsN] at split
  split at split
  next => simp at split
  next head rest found =>
    simp only [List.map_cons, List.map_nil, List.cons.injEq, and_true] at split
    obtain ⟨rfl, rfl⟩ := split
    have head_eq : head = ':' := by
      have stopped := List.head?_dropWhile_not (fun ch => decide (ch ≠ ':')) text.toList
      rw [found] at stopped
      simpa using stopped
    have whole := List.takeWhile_append_dropWhile (p := fun ch => decide (ch ≠ ':'))
      (l := text.toList)
    rw [found, head_eq] at whole
    exact String.toList_inj.mp (by simpa using whole.symm)

section Model

variable [SailSpec] [SailIo] [PlanCodec]

inductive ScanCall where
  | plan (fuel : Nat) (request : ScanPlanningRequest)
  | fetch (request : FetchScanTasksRequest)

/-- The tokens that a call mints, each with the table it is minted for. A fetch that hands its
own token back has not minted it. -/
def ScanCall.minted : ScanCall → List (TableIdent × String)
  | .plan fuel request =>
      match planScan fuel request with
      | .ok answer => answer.scanTasks.map fun task => (request.table, task.planTask)
      | .error _ => []
  | .fetch request =>
      match fetchScanTasks request with
      | .ok answer => (answer.planTasks.filter fun task => task.planTask ≠ request.planTask).map
          fun task => (request.table, task.planTask)
      | .error _ => []

def mintedBy (calls : List ScanCall) : List (TableIdent × String) :=
  calls.flatMap ScanCall.minted

/-- The fetch takes the token, and reads this task from it. -/
def Accepts (request : FetchScanTasksRequest) (decoded : DecodedPlanTask) : Prop :=
  ∃ summary typed,
    inspectSailTableMetadataWithTyped request.tableMetadata = .ok (summary, typed) ∧
    decodePlanTask request.planTask = .ok decoded ∧
    validateDecodedPlanTask request summary typed decoded = .ok ()

/-- A string in the signed form, with its two hexadecimal parts. -/
def Carries (token signature encoded : String) : Prop :=
  ∃ rest, stripHead token signedHead = some rest ∧ splitN 2 rest ':' = [signature, encoded]

/-- No string is presented whose signature the catalog has not made. -/
def Unforgeable (minted : List (TableIdent × String)) (token : String) : Prop :=
  ∀ signature encoded bytes, Carries token signature encoded →
    PlanCodec.hexDecode encoded = some bytes →
    verifyPlanTaskSignature bytes signature = .ok () →
    ∃ table task, (table, signedToken task) ∈ minted ∧ PlanCodec.toVec task = bytes

/-- The payload that a decoded task stands for, for a table. -/
def DecodedPlanTask.payload (decoded : DecodedPlanTask) (table : TableIdent) : EncodedPlanTask :=
  encodedPlanTask table decoded.kind decoded.snapshotId decoded.path decoded.projection
    decoded.filters

/-- Of the minted tokens: the one presented was minted for the table, with what is now read
from it, and each decodes to exactly the payload it was made of. -/
structure TokensBound (minted : List (TableIdent × String)) (request : FetchScanTasksRequest)
    (decoded : DecodedPlanTask) : Prop where
  origin : (request.table, request.planTask) ∈ minted
  content : request.planTask = signedToken (decoded.payload request.table)
  exactly : ∀ table token, (table, token) ∈ minted → ∃ task : EncodedPlanTask,
    token = signedToken task ∧ task.table = table.stableId ∧
      decodePlanTask token = .ok (task.decoded token)

/-- The string is in the signed form, spelled in lower case, and if the catalog minted it at
all, it did for this table and not only for one with the same dotted name. -/
structure SpelledAsMinted (minted : List (TableIdent × String)) (table : TableIdent)
    (token : String) : Prop where
  signed : startsWith token signedHead = true
  lowercase : ∀ signature encoded, Carries token signature encoded →
    isLowercaseHex signature = true ∧ isLowercaseHex encoded = true
  own : ∀ other, (other, token) ∈ minted → (table, token) ∈ minted

section Minting

/-- A token made of a payload for the table. -/
def MadeFor (table : TableIdent) (token : String) : Prop :=
  ∃ task : EncodedPlanTask, token = signedToken task ∧ task.table = table.stableId ∧
    isPlanTaskKind task.kind = true

theorem plan_madeFor (documented : SailSpec.Documented) {fuel : Nat}
    {request : ScanPlanningRequest} {plan : ScanPlan}
    (planned : planScan fuel request = .ok plan) :
    ∀ task ∈ plan.scanTasks, MadeFor request.table task.planTask := by
  intro task member
  obtain ⟨summary, typed, location, inspected, made⟩ := planScan_ok planned
  cases typed with
  | some metadata =>
      obtain ⟨kind, snapshot, path, made⟩ := stablePlanTasks_planned
        (fun snapshot found => by
          simpa [Selectable, selectedSnapshot] using
            documented.currentSnapshot _ metadata snapshot (inspect_typed inspected).1 found)
        made task member
      refine ⟨_, made.token, rfl, ?_⟩
      rcases made.placed with ⟨rfl | rfl, -⟩ | ⟨rfl, -⟩ <;> rfl
  | none =>
      rcases untypedTasks_planned made with ⟨-, empty⟩ |
          ⟨manifestList, snapshotId, only, -, -, single, token⟩
      · rw [empty] at member
        cases member
      · rw [single] at member
        obtain rfl := List.mem_singleton.mp member
        exact ⟨_, token, rfl, rfl⟩

theorem minted_madeFor (documented : SailSpec.Documented) {calls : List ScanCall}
    {table : TableIdent} {token : String} (member : (table, token) ∈ mintedBy calls) :
    MadeFor table token := by
  obtain ⟨call, -, minted⟩ := List.mem_flatMap.mp member
  cases call with
  | plan fuel request =>
      simp only [ScanCall.minted] at minted
      split at minted
      next plan planned =>
        obtain ⟨task, listed, same⟩ := List.mem_map.mp minted
        obtain ⟨rfl, rfl⟩ := Prod.mk.inj same
        exact plan_madeFor documented planned task listed
      next => cases minted
  | fetch request =>
      simp only [ScanCall.minted] at minted
      split at minted
      next plan fetched =>
        obtain ⟨task, kept, same⟩ := List.mem_map.mp minted
        obtain ⟨rfl, rfl⟩ := Prod.mk.inj same
        obtain ⟨listed, fresh⟩ := List.mem_filter.mp kept
        obtain ⟨_, _, decoded, _, _, _, _, _, children⟩ := fetchScanTasks_ok fetched
        rcases children task listed with echoed | ⟨manifest, _, rfl⟩
        · simp [echoed] at fresh
        · exact ⟨_, rfl, rfl, rfl⟩
      next => cases minted

end Minting

section Origin

variable {minted : List (TableIdent × String)} {request : FetchScanTasksRequest}
  {decoded : DecodedPlanTask}

omit [SailSpec] [SailIo] in
/-- The two parts of a minted token are its own. -/
theorem carries_signedToken (codec : PlanCodec.Documented) (task : EncodedPlanTask)
    {signature encoded : String} (carried : Carries (signedToken task) signature encoded) :
    signature = signPlanTaskPayload (PlanCodec.toVec task) ∧
      encoded = PlanCodec.hexEncode (PlanCodec.toVec task) := by
  obtain ⟨rest, stripped, split⟩ := carried
  rw [stripHead_signedToken] at stripped
  obtain rfl := Option.some.inj stripped
  have lowercase : isLowercaseHex (signPlanTaskPayload (PlanCodec.toVec task)) = true :=
    codec.hexDigits _
  rw [splitN_signed _ _ lowercase] at split
  simp only [List.cons.injEq, and_true] at split
  exact ⟨split.1.symm, split.2.symm⟩

omit [SailSpec] [SailIo] in
/-- An accepted string of the signed form carries a payload that was signed. -/
theorem signed_accepted (codec : PlanCodec.Documented)
    (signed : startsWith request.planTask signedHead = true)
    (read : decodePlanTask request.planTask = .ok decoded)
    (unforgeable : Unforgeable minted request.planTask) :
    ∃ signature encoded table task, Carries request.planTask signature encoded ∧
      PlanCodec.hexDecode encoded = some (PlanCodec.toVec task) ∧
      PlanCodec.hexDecode signature =
        some (PlanCodec.hmacSha256 planTaskSigningKey (PlanCodec.toVec task)) ∧
      (table, signedToken task) ∈ minted ∧ decoded = task.decoded request.planTask := by
  obtain ⟨rest, same⟩ := (startsWith_iff _ _).mp signed
  have stripped : stripHead request.planTask signedHead = some rest := by
    rw [same, stripHead_append]
  simp only [decodePlanTask, stripped] at read
  split at read
  next signature encoded split =>
    obtain ⟨bytes, decodedBytes, rest⟩ := (bind_eq_ok _ _ _).mp read
    obtain ⟨verified, structured⟩ := (bind_unit_eq_ok _ _ _).mp rest
    rw [okOr_ok] at decodedBytes
    have carried : Carries request.planTask signature encoded := ⟨_, stripped, split⟩
    obtain ⟨table, task, member, rfl⟩ := unforgeable signature encoded bytes carried decodedBytes
      verified
    refine ⟨signature, encoded, table, task, carried, decodedBytes, ?_, member, ?_⟩
    · unfold verifyPlanTaskSignature at verified
      split at verified
      next => cases verified
      next tag tagRead =>
        rw [rejectIf_ok, not_not] at verified
        rw [tagRead, verified]
    · simp only [decodeStructuredPlanTask, codec.fromSlice] at structured
      split at structured
      next =>
        obtain rfl := Except.ok.inj structured
        rfl
      next => cases structured
  next => cases read

omit [SailSpec] [SailIo] in
/-- Spelled in lower case, the string is the token that was minted. -/
theorem eq_signedToken (codec : PlanCodec.Documented) {signature encoded : String}
    {task : EncodedPlanTask} (carried : Carries request.planTask signature encoded)
    (payload : PlanCodec.hexDecode encoded = some (PlanCodec.toVec task))
    (tag : PlanCodec.hexDecode signature =
      some (PlanCodec.hmacSha256 planTaskSigningKey (PlanCodec.toVec task)))
    (signatureLower : isLowercaseHex signature = true)
    (encodedLower : isLowercaseHex encoded = true) :
    request.planTask = signedToken task := by
  obtain ⟨rest, stripped, split⟩ := carried
  rw [stripHead_some stripped, splitN_two_eq split, signedToken, signPlanTaskPayload,
    codec.hexEncode signature _ tag signatureLower, codec.hexEncode encoded _ payload encodedLower,
    String.append_assoc, String.append_assoc, String.append_assoc]

/-- An accepted token is one that the catalog minted for the table, with what is now read from
it, exactly when it is spelled as minted. -/
theorem tokensBound_iff (documented : SailSpec.Documented) (codec : PlanCodec.Documented)
    (calls : List ScanCall) (request : FetchScanTasksRequest) (decoded : DecodedPlanTask)
    (unforgeable : Unforgeable (mintedBy calls) request.planTask)
    (accepted : Accepts request decoded) :
    TokensBound (mintedBy calls) request decoded ↔
      SpelledAsMinted (mintedBy calls) request.table request.planTask := by
  constructor
  · intro bound
    have token := bound.content
    refine ⟨?_, fun signature encoded carried => ?_, fun _ _ => bound.origin⟩
    · rw [token, signedToken, String.append_assoc, String.append_assoc]
      exact startsWith_append _ _
    · rw [token] at carried
      obtain ⟨rfl, rfl⟩ := carries_signedToken codec _ carried
      exact ⟨codec.hexDigits _, codec.hexDigits _⟩
  · intro spelled
    obtain ⟨summary, typed, -, read, valid⟩ := accepted
    obtain ⟨signature, encoded, other, task, carried, payload, tag, member, rfl⟩ :=
      signed_accepted codec spelled.signed read unforgeable
    obtain ⟨signatureLower, encodedLower⟩ := spelled.lowercase signature encoded carried
    have token := eq_signedToken codec carried payload tag signatureLower encodedLower
    have fits := ((validateDecodedPlanTask_ok _ _ _ _).mp valid).1
    have named : task.table = request.table.stableId := fits.table task.table rfl
    refine ⟨spelled.own other (token ▸ member), ?_, fun table token minted => ?_⟩
    · rw [token]
      exact congrArg signedToken (by cases task; simp_all [EncodedPlanTask.decoded,
        DecodedPlanTask.payload, encodedPlanTask])
    · obtain ⟨made, rfl, ownTable, kind⟩ := minted_madeFor documented minted
      exact ⟨made, rfl, ownTable, decodePlanTask_signedToken codec made kind⟩

end Origin

end Model

section Sample

/-- One plan of the current snapshot. -/
def sampleCalls : List ScanCall :=
  [.plan 0 ((extensionRequest none).restricted idOnly extensionTable ["id"])]

def sampleFetch (planTask : String) : FetchScanTasksRequest :=
  idOnly.fetchRequest extensionTable ["id"] planTask

def samplePayload : EncodedPlanTask :=
  encodedPlanTask extensionTable.ident "manifest-list" 42
    "s3://lake/events/metadata/snap-42.avro" ["id"] []

theorem sampleCalls_minted :
    @mintedBy sampleSail remoteIo modelCodec sampleCalls =
      [(extensionTable.ident, @signedToken modelCodec samplePayload)] := rfl

/-- The token of the plan is bound to what it was made of. -/
theorem tokensBound_sample :
    let _ := modelCodec
    @TokensBound modelCodec (@mintedBy sampleSail remoteIo modelCodec sampleCalls)
      (sampleFetch (signedToken samplePayload))
      (samplePayload.decoded (signedToken samplePayload)) := by
  let _ := sampleSail
  let _ := remoteIo
  let _ := modelCodec
  have codec := modelCodec_documented
  refine (tokensBound_iff sampleSail_documented codec sampleCalls
    (sampleFetch (signedToken samplePayload)) (samplePayload.decoded (signedToken samplePayload))
    ?unforgeable ?accepted).mpr ⟨?signed, ?lowercase, ?own⟩
  case unforgeable =>
    intro signature encoded bytes carried payload verified
    obtain ⟨rfl, rfl⟩ := carries_signedToken codec _ carried
    have bytes_eq : bytes = PlanCodec.toVec samplePayload := by
      rw [codec.hexDecode] at payload
      exact (Option.some.inj payload).symm
    refine ⟨extensionTable.ident, samplePayload, ?_, bytes_eq.symm⟩
    rw [sampleCalls_minted]
    exact List.mem_singleton.mpr rfl
  case accepted =>
    exact ⟨_, _, rfl, decodePlanTask_signedToken codec samplePayload rfl, rfl⟩
  case signed =>
    simp only [sampleFetch, ReadRestriction.fetchRequest, signedToken, String.append_assoc]
    exact startsWith_append _ _
  case lowercase =>
    intro signature encoded carried
    obtain ⟨rfl, rfl⟩ := carries_signedToken codec _ carried
    exact ⟨codec.hexDigits _, codec.hexDigits _⟩
  case own =>
    intro other member
    rw [sampleCalls_minted] at member ⊢
    obtain ⟨rfl, -⟩ := Prod.mk.inj (List.mem_singleton.mp member)
    exact List.mem_singleton.mpr rfl

def unsignedToken : String :=
  "lakecat:sail:manifest-list:42:s3://lake/events/metadata/snap-42.avro"

theorem unsignedToken_signed : stripHead unsignedToken signedHead = none := by
  decide

theorem unsignedToken_structured : stripHead unsignedToken structuredHead = none := by
  decide

theorem unsignedToken_decoded :
    @decodePlanTask modelCodec unsignedToken = .ok ⟨unsignedToken, none, "manifest-list", 42,
      "s3://lake/events/metadata/snap-42.avro", [], []⟩ := by
  simp only [decodePlanTask, unsignedToken_signed, unsignedToken_structured]
  rfl

/-- Before any call, the fetch takes a token that names no table and carries no signature. -/
theorem unsignedToken_accepted :
    let request := ReadRestriction.fetchRequest ⟨none, none⟩ extensionTable [] unsignedToken
    let decoded : DecodedPlanTask :=
      ⟨unsignedToken, none, "manifest-list", 42, "s3://lake/events/metadata/snap-42.avro", [], []⟩
    @Unforgeable modelCodec [] unsignedToken ∧
      @Accepts sampleSail remoteIo modelCodec request decoded ∧
      (∃ plan, @fetchScanTasks sampleSail remoteIo modelCodec request = .ok plan) ∧
      ¬@TokensBound modelCodec (@mintedBy sampleSail remoteIo modelCodec []) request decoded := by
  intro request decoded
  refine ⟨?unforgeable, ⟨_, _, rfl, unsignedToken_decoded, rfl⟩, ?fetched, ?unbound⟩
  case unforgeable =>
    intro signature encoded bytes carried
    obtain ⟨rest, stripped, -⟩ := carried
    cases unsignedToken_signed.symm.trans stripped
  case fetched =>
    have read : @decodePlanTask modelCodec request.planTask = .ok decoded := unsignedToken_decoded
    simp only [fetchScanTasks, read]
    exact ⟨_, rfl⟩
  case unbound =>
    intro bound
    cases @TokensBound.origin modelCodec _ _ _ bound

end Sample

end LakeCat
