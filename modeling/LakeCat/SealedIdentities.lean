import LakeCat.RequestIdentities
import LakeCat.SecretDigests

/-!
Two requests that differ in the secrets of their headers: they are identified
alike, and authorized with receipts that are the same but for digests.
-/

namespace LakeCat

open Fallible

/-- The headers that are secret as a whole. -/
def sealedHeaders : List String :=
  ["x-lakecat-typedid-envelope", "x-lakecat-typedid-proof", "x-lakecat-agent-delegation",
    "x-lakecat-agent-summary-signature"]

/-- The same value, or two bearer tokens. -/
def SealedToken (secret : String → String → Prop) (one other : String) : Prop :=
  one = other ∨ ∃ token twin, one = "Bearer " ++ token ∧ other = "Bearer " ++ twin ∧
    secret token twin

/-- Headers that differ in secrets only. -/
structure HeadersAlike (secret : String → String → Prop) (one other : HeaderMap) : Prop where
  plain : ∀ name, name ∉ sealedHeaders → name ≠ "authorization" → one name = other name
  kept : ∀ name ∈ sealedHeaders,
    List.Forall₂ (Option.Rel (Sealed secret)) (one name) (other name)
  authorization : List.Forall₂ (Option.Rel (SealedToken secret)) (one "authorization")
    (other "authorization")

/-- What is read of such headers. -/
structure IdentityHeadersAlike (secret : String → String → Prop) (one other : IdentityHeaders) :
    Prop where
  principal : one.principal = other.principal
  kind : one.kind = other.kind
  agentDid : one.agentDid = other.agentDid
  typedid : one.typedid = other.typedid
  typedidProof : Option.Rel (Sealed secret) one.typedidProof other.typedidProof
  typedidEnvelope : Option.Rel (Sealed secret) one.typedidEnvelope other.typedidEnvelope
  delegation : Option.Rel (Sealed secret) one.delegation other.delegation
  signedSummary : Option.Rel (Sealed secret) one.signedSummary other.signedSummary
  authorization : Option.Rel (SealedToken secret) one.authorization other.authorization

theorem single_alike {related : String → String → Prop} {one other : HeaderMap} {name : String}
    {found twin : Option String}
    (values : List.Forall₂ (Option.Rel related) (one name) (other name))
    (read : one.single name = .ok found) (twinRead : other.single name = .ok twin) :
    Option.Rel related found twin := by
  rw [HeaderMap.single] at read twinRead
  generalize one name = list at values read
  generalize other name = twins at values twinRead
  cases values with
  | nil =>
      obtain rfl := Except.ok.inj read
      obtain rfl := Except.ok.inj twinRead
      exact .none
  | cons first rest =>
      cases rest with
      | nil =>
          cases first with
          | some both =>
              obtain rfl := Except.ok.inj read
              obtain rfl := Except.ok.inj twinRead
              exact .some both
          | none => cases read
      | cons _ _ => cases read

section
variable [External] {secret : String → String → Prop}

theorem readIdentityHeaders_alike {one other : HeaderMap} {read twin : IdentityHeaders}
    (headers : HeadersAlike secret one other) (first : readIdentityHeaders one = .ok read)
    (second : readIdentityHeaders other = .ok twin) : IdentityHeadersAlike secret read twin := by
  have plain (name : String) (kept : name ∉ sealedHeaders) (open_ : name ≠ "authorization") :
      one.single name = other.single name := by
    rw [HeaderMap.single, HeaderMap.single, headers.plain name kept open_]
  simp only [readIdentityHeaders, bind_eq_ok, exists_unit, pure_eq, Except.ok.injEq] at first second
  obtain ⟨principal, principalRead, kindText, kindTextRead, kind, kindRead, -, -, did, didRead,
    typedid, typedidRead, proof, proofRead, envelope, envelopeRead, -, delegation, delegationRead,
    summary, summaryRead, authorization, authorizationRead, -, rfl⟩ := first
  obtain ⟨principal', principalRead', kindText', kindTextRead', kind', kindRead', -, -, did',
    didRead', typedid', typedidRead', proof', proofRead', envelope', envelopeRead', -, delegation',
    delegationRead', summary', summaryRead', authorization', authorizationRead', -, rfl⟩ := second
  have sealed {name : String} {found twin : Option String} (kept : name ∈ sealedHeaders)
      (read : one.single name = .ok found) (twinRead : other.single name = .ok twin) :
      Option.Rel (Sealed secret) found twin :=
    single_alike (headers.kept name kept) read twinRead
  rw [plain _ (by decide) (by decide), principalRead'] at principalRead
  rw [plain _ (by decide) (by decide), kindTextRead'] at kindTextRead
  rw [plain _ (by decide) (by decide), didRead'] at didRead
  rw [plain _ (by decide) (by decide), typedidRead'] at typedidRead
  obtain rfl := Except.ok.inj principalRead
  obtain rfl := Except.ok.inj kindTextRead
  obtain rfl := Except.ok.inj didRead
  obtain rfl := Except.ok.inj typedidRead
  rw [kindRead'] at kindRead
  obtain rfl := Except.ok.inj kindRead
  exact {
    principal := rfl
    kind := rfl
    agentDid := rfl
    typedid := rfl
    typedidProof := sealed (by decide) proofRead proofRead'
    typedidEnvelope := sealed (by decide) envelopeRead envelopeRead'
    delegation := sealed (by decide) delegationRead delegationRead'
    signedSummary := sealed (by decide) summaryRead summaryRead'
    authorization := single_alike headers.authorization authorizationRead authorizationRead' }

structure NamedAlike (secret : String → String → Prop) (one other : NamedPrincipal) : Prop where
  principal : PrincipalsAlike secret one.principal other.principal
  source : one.source = other.source
  bearerTokenSha256 : Option.Rel (Covered secret) one.bearerTokenSha256 other.bearerTokenSha256

theorem NamedAlike.refl (named : NamedPrincipal) : NamedAlike secret named named where
  principal := .refl _
  source := rfl
  bearerTokenSha256 := by
    cases named.bearerTokenSha256 with
    | none => exact .none
    | some digest => exact .some (.refl digest)

theorem bearerPrincipal_alike {one other : String} {named twin : NamedPrincipal}
    (held : SealedToken secret one other) (found : bearerPrincipal one = .ok named)
    (twinFound : bearerPrincipal other = .ok twin) : NamedAlike secret named twin := by
  rcases held with rfl | ⟨token, twinToken, rfl, rfl, held⟩
  · rw [found] at twinFound
    rw [← Except.ok.inj twinFound]
    exact .refl named
  · simp only [bearerPrincipal, stripHead_append, okOr_some, ok_bind, bind_eq_ok, exists_unit,
      Principal.new_ok, pure_eq, Except.ok.injEq] at found twinFound
    obtain ⟨-, -, _, ⟨-, rfl⟩, rfl⟩ := found
    obtain ⟨-, -, _, ⟨-, rfl⟩, rfl⟩ := twinFound
    exact ⟨⟨.inr (.bearer held), rfl⟩, rfl, .some (.inr (.text held))⟩

theorem named_alike {one other : IdentityHeaders} {named twin : NamedPrincipal}
    (headers : IdentityHeadersAlike secret one other) (found : one.named = .ok named)
    (twinFound : other.named = .ok twin) : NamedAlike secret named twin := by
  obtain ⟨principal, kind, did, typedid, proof, envelope, delegation, summary, authorization⟩ := one
  obtain ⟨_, _, _, _, proof', envelope', delegation', summary', authorization'⟩ := other
  obtain ⟨rfl, rfl, rfl, rfl, -, -, -, -, token⟩ := headers
  have same {read : LakeCatResult NamedPrincipal} (one : read = .ok named)
      (other : read = .ok twin) : NamedAlike secret named twin := by
    rw [one] at other
    rw [← Except.ok.inj other]
    exact .refl named
  cases principal with
  | some subject => exact same found twinFound
  | none =>
      cases did with
      | some did => exact same found twinFound
      | none =>
          cases typedid with
          | some did => exact same found twinFound
          | none =>
              cases token with
              | none => exact same found twinFound
              | some held => exact bearerPrincipal_alike held found twinFound

theorem envelope_shown {one other : IdentityHeaders} {named twin : NamedPrincipal}
    (headers : IdentityHeadersAlike secret one other) (alike : NamedAlike secret named twin) :
    Shown secret (one.envelope named) (other.envelope twin) := by
  have digest {found twin : Option String} (held : Option.Rel (Sealed secret) found twin) :
      Shown secret (ofOptionStr (found.map contentHashBytes))
        (ofOptionStr (twin.map contentHashBytes)) :=
    shown_optional (hash_optional held)
  rw [IdentityHeaders.envelope, IdentityHeaders.envelope, alike.source, headers.agentDid,
    headers.typedid]
  refine .object ?_
  exact .cons ⟨rfl, .same _⟩ (.cons alike.principal.shown.fieldAlike (.cons ⟨rfl, .same _⟩
    (.cons ⟨rfl, .same _⟩ (.cons ⟨rfl, .same _⟩ (.cons (digest headers.typedidEnvelope).fieldAlike
      (.cons (digest headers.typedidProof).fieldAlike (.cons (digest headers.delegation).fieldAlike
        (.cons (digest headers.signedSummary).fieldAlike
          (.cons (shown_optional alike.bearerTokenSha256).fieldAlike (.cons ⟨rfl, .same _⟩
            (.cons ⟨rfl, .same _⟩ .nil)))))))))))

/-- Envelopes that two runs differ in are attested alike. -/
def AttestedAlike (secret : String → String → Prop) (verifier : TypeDidVerifier) : Prop :=
  ∀ one other, secret one other → ∀ found twin, verifier one = .ok found →
    verifier other = .ok twin → found = twin

structure IdentitiesAlike (secret : String → String → Prop) (one other : RequestIdentity) :
    Prop where
  principal : PrincipalsAlike secret one.principal other.principal
  envelope : Shown secret one.envelope other.envelope

theorem verified_alike {one other : RequestIdentity} (alike : IdentitiesAlike secret one other)
    (verification : TypeDidVerification) :
    IdentitiesAlike secret (one.verified verification) (other.verified verification) where
  principal := .refl _
  envelope := ((((alike.envelope.set _ (.same _)).set _ (.same _)).set _ (.same _)).set _
    (.same _)).set _ (.same _)

/-- Requests that differ in secrets are identified alike. -/
theorem identify_alike {verifier : TypeDidVerifier} {one other : HeaderMap}
    {identity twin : RequestIdentity} (attested : AttestedAlike secret verifier)
    (headers : HeadersAlike secret one other) (found : identify verifier one = .ok identity)
    (twinFound : identify verifier other = .ok twin) : IdentitiesAlike secret identity twin := by
  simp only [identify, requestIdentity, bind_eq_ok, exists_unit, pure_eq, Except.ok.injEq]
    at found twinFound
  obtain ⟨_, ⟨read, readOk, named, namedOk, -, rfl⟩, verified⟩ := found
  obtain ⟨_, ⟨twinRead, twinReadOk, twinNamed, twinNamedOk, -, rfl⟩, twinVerified⟩ := twinFound
  have alike := readIdentityHeaders_alike headers readOk twinReadOk
  have namedAlike := named_alike alike namedOk twinNamedOk
  have parsed : IdentitiesAlike secret ⟨named.principal, read.envelope named⟩
      ⟨twinNamed.principal, twinRead.envelope twinNamed⟩ :=
    ⟨namedAlike.principal, envelope_shown alike namedAlike⟩
  have envelopes := alike.typedidEnvelope
  simp only [verifyTypedidIdentity] at verified twinVerified
  generalize read.typedidEnvelope = envelope at verified envelopes
  generalize twinRead.typedidEnvelope = twinEnvelope at twinVerified envelopes
  cases envelopes with
  | none =>
      rw [← Except.ok.inj verified, ← Except.ok.inj twinVerified]
      exact parsed
  | @some envelope twinEnvelope held =>
      have opened {envelope : String} {verification : TypeDidVerification}
          (answer : redactedVerification verifier envelope = .ok verification) :
          verifier envelope = .ok verification := by
        rw [redactedVerification] at answer
        split at answer
        next own => rw [own, Except.ok.inj answer]
        next => cases answer
      simp only [bind_eq_ok, exists_unit, pure_eq, Except.ok.injEq] at verified twinVerified
      obtain ⟨verification, answer, -, rfl⟩ := verified
      obtain ⟨twinVerification, twinAnswer, -, rfl⟩ := twinVerified
      have same : verification = twinVerification := by
        rcases held with rfl | held
        · exact Except.ok.inj ((opened answer).symm.trans (opened twinAnswer))
        · exact attested _ _ held _ _ (opened answer) (opened twinAnswer)
      rw [same]
      exact verified_alike parsed twinVerification

/-! The receipts of two such requests. -/

/-- The fields of a context that a handler reads again. -/
def readAgain : List String :=
  ["read-restriction", "lakecat:raw-credential-exception"]

structure ContextsAlike (secret : String → String → Prop) (one other : Json) : Prop where
  object : one.isObject = true
  twinObject : other.isObject = true
  shown : Shown secret one other
  again : ∀ key ∈ readAgain, one.get key = other.get key

theorem ContextsAlike.set {one other : Json} (alike : ContextsAlike secret one other)
    (key : String) (value : Json) :
    ContextsAlike secret (one.set key value) (other.set key value) where
  object := Json.isObject_set _ _ _ alike.object
  twinObject := Json.isObject_set _ _ _ alike.twinObject
  shown := alike.shown.set key (.same value)
  again asked member := by
    rw [Json.get_set _ _ _ _ alike.object, Json.get_set _ _ _ _ alike.twinObject,
      alike.again asked member]

theorem baseContext_alike {identity twin : RequestIdentity}
    (alike : IdentitiesAlike secret identity twin) (warehouse : WarehouseName)
    (bindings : List PolicyBinding) :
    ContextsAlike secret (baseContext warehouse identity bindings)
      (baseContext warehouse twin bindings) where
  object := rfl
  twinObject := rfl
  shown := .object (.cons ⟨rfl, .same _⟩ (.cons alike.envelope.fieldAlike
    (.cons ⟨rfl, .same _⟩ .nil)))
  again key member := by
    simp only [readAgain, List.mem_cons, List.not_mem_nil, or_false] at member
    rw [baseContext, baseContext, Json.get_object, Json.get_object]
    rcases member with rfl | rfl <;> rfl

theorem restrictedContext_alike {context twinContext : Json} {principal twin : Principal}
    (alike : ContextsAlike secret context twinContext) (kind : principal.kind = twin.kind)
    (action : CatalogAction) (restriction : Option FullReadRestriction) :
    ContextsAlike secret (restrictedContext context action principal restriction)
      (restrictedContext twinContext action twin restriction) := by
  cases restriction with
  | none => exact alike
  | some restriction =>
      have exception : rawCredentialExceptionContext restriction principal =
          rawCredentialExceptionContext restriction twin := by
        rw [rawCredentialExceptionContext, rawCredentialExceptionContext, kind]
      rw [restrictedContext, restrictedContext, exception]
      split
      · exact (alike.set _ _).set _ _
      · exact alike.set _ _

theorem insertOperationContext_alike {operationContext : List (String × Json)}
    {context twinContext inserted twinInserted : Json}
    (alike : ContextsAlike secret context twinContext)
    (found : insertOperationContext context operationContext = .ok inserted)
    (twinFound : insertOperationContext twinContext operationContext = .ok twinInserted) :
    ContextsAlike secret inserted twinInserted := by
  induction operationContext generalizing context twinContext with
  | nil =>
      obtain rfl := Except.ok.inj found
      obtain rfl := Except.ok.inj twinFound
      exact alike
  | cons entry rest ih =>
      simp only [insertOperationContext, bind_eq_ok, exists_unit] at found twinFound
      exact ih (alike.set entry.1 entry.2) found.2 twinFound.2

structure ReceiptsAlike (secret : String → String → Prop) (one other : AuthorizationReceipt) :
    Prop where
  principal : PrincipalsAlike secret one.principal other.principal
  action : one.action = other.action
  table : one.table = other.table
  allowed : one.allowed = other.allowed
  engine : one.engine = other.engine
  policyHash : Option.Rel (Covered secret) one.policyHash other.policyHash
  context : ContextsAlike secret one.context other.context
  checkedAt : one.checkedAt = other.checkedAt

theorem ReceiptsAlike.shown {one other : AuthorizationReceipt}
    (alike : ReceiptsAlike secret one other) : Shown secret one.toJson other.toJson := by
  rw [AuthorizationReceipt.toJson, AuthorizationReceipt.toJson, alike.action, alike.table,
    alike.allowed, alike.engine, alike.checkedAt]
  refine .object ?_
  exact .cons alike.principal.shown.fieldAlike (.cons ⟨rfl, .same _⟩ (.cons ⟨rfl, .same _⟩
    (.cons ⟨rfl, .same _⟩ (.cons ⟨rfl, .same _⟩ (.cons (shown_optional alike.policyHash).fieldAlike
      (.cons alike.context.shown.fieldAlike (.cons ⟨rfl, .same _⟩ .nil)))))))

/-- The engines of the repository answer alike requests alike, where they allow both. -/
theorem answer_alike (engine : RepositoryEngine) (now : Timestamp)
    {one other : AuthorizationRequest} (principal : PrincipalsAlike secret one.principal
      other.principal) (action : one.action = other.action) (table : one.table = other.table)
    (context : ContextsAlike secret one.context other.context)
    (allowed : engine.allows one = true) (twinAllowed : engine.allows other = true) :
    ReceiptsAlike secret (engine.answer now one) (engine.answer now other) where
  principal := principal
  action := action
  table := table
  allowed := allowed.trans twinAllowed.symm
  engine := rfl
  policyHash := by
    cases engine with
    | allowAll => exact .none
    | typeSec engine =>
        have decided := of_decide_eq_true allowed
        have twinDecided := of_decide_eq_true twinAllowed
        have named : resourceName one = resourceName other := by
          rw [resourceName, resourceName, table]
        dsimp only [RepositoryEngine.answer, RepositoryEngine.ownHash]
        rw [decided, twinDecided]
        refine .some (Digested.hash ?_)
        rw [typeSecDocument, typeSecDocument, action, named]
        refine .object ?_
        exact .cons ⟨rfl, .same _⟩ (.cons principal.subject.shown.digested.fieldAlike
          (.cons ⟨rfl, .same _⟩ (.cons ⟨rfl, .same _⟩ (.cons ⟨rfl, .same _⟩
            (.cons context.shown.digested.hash.shown.digested.fieldAlike .nil)))))
  context := context
  checkedAt := rfl

theorem withReadRestrictionPolicyHash_alike {one other hashed twinHashed : AuthorizationReceipt}
    (alike : ReceiptsAlike secret one other)
    (found : one.withReadRestrictionPolicyHash = .ok hashed)
    (twinFound : other.withReadRestrictionPolicyHash = .ok twinHashed) :
    ReceiptsAlike secret hashed twinHashed := by
  rw [AuthorizationReceipt.withReadRestrictionPolicyHash] at found twinFound
  rw [← alike.context.again "read-restriction" (by decide)] at twinFound
  cases written : one.context.get "read-restriction" with
  | none =>
      rw [written] at found twinFound
      rw [← Except.ok.inj found, ← Except.ok.inj twinFound]
      exact alike
  | some value =>
      rw [written] at found twinFound
      simp only [bind_eq_ok, okOr_ok] at found twinFound
      obtain ⟨restriction, read, found⟩ := found
      obtain ⟨twinRestriction, twinRead, twinFound⟩ := twinFound
      obtain rfl := Option.some.inj (read.symm.trans twinRead)
      by_cases unhashed : restriction.policyHashes = []
      · rw [if_pos unhashed] at found twinFound
        rw [← Except.ok.inj found, ← Except.ok.inj twinFound]
        exact alike
      · rw [if_neg unhashed] at found twinFound
        rw [← Except.ok.inj found, ← Except.ok.inj twinFound]
        refine { alike with policyHash := .some (Digested.hash ?_) }
        rw [AuthorizationReceipt.policyHashDocument, AuthorizationReceipt.policyHashDocument,
          alike.engine, alike.action, alike.table]
        refine .object ?_
        exact .cons ⟨rfl, .same _⟩ (.cons (shown_optional alike.policyHash).digested.fieldAlike
          (.cons ⟨rfl, .same _⟩ (.cons ⟨rfl, .same _⟩ (.cons ⟨rfl, .same _⟩ .nil))))

/-- Two requests for one action, asked of one engine under one set of policies. -/
theorem authorize_alike {state : LakeCatState} {engine : RepositoryEngine}
    (governed : state.governance = engine.governance) {store twinStore : MemoryState}
    (bindings : store.policyBindings = twinStore.policyBindings) {identity twin : RequestIdentity}
    (alike : IdentitiesAlike secret identity twin) {action : CatalogAction}
    {table : Option TableIdent} {operationContext : List (String × Json)} {now : Timestamp}
    {receipt twinReceipt : AuthorizationReceipt}
    (found : authorizeWithOperationContext state store identity action table operationContext now =
      .ok receipt)
    (twinFound : authorizeWithOperationContext state twinStore twin action table operationContext
      now = .ok twinReceipt) : ReceiptsAlike secret receipt twinReceipt := by
  have asked : requestBindings store table = requestBindings twinStore table := by
    cases table with
    | none => rfl
    | some ident =>
        rw [requestBindings, requestBindings, MemoryState.policyBindingsForTable,
          MemoryState.policyBindingsForTable, bindings]
  simp only [authorizeWithOperationContext, governed, engine.governance_answer, ok_bind,
    bind_eq_ok, exists_unit, rejectIf_ok, Bool.not_eq_false] at found twinFound
  obtain ⟨bound, boundOk, restriction, restricted, context, contextOk, allowed, hashed⟩ := found
  obtain ⟨twinBound, twinBoundOk, twinRestriction, twinRestricted, twinContext, twinContextOk,
    twinAllowed, twinHashed⟩ := twinFound
  rw [← asked, boundOk] at twinBoundOk
  obtain rfl := Except.ok.inj twinBoundOk
  rw [restricted] at twinRestricted
  obtain rfl := Except.ok.inj twinRestricted
  have contexts : ContextsAlike secret context twinContext :=
    insertOperationContext_alike (restrictedContext_alike (baseContext_alike alike _ bound)
      alike.principal.kind action restriction) contextOk twinContextOk
  have answered := @answer_alike _ secret engine now ⟨identity.principal, action, table, context⟩
    ⟨twin.principal, action, table, twinContext⟩ alike.principal rfl rfl contexts allowed
    twinAllowed
  exact withReadRestrictionPolicyHash_alike answered hashed twinHashed

end

end LakeCat
