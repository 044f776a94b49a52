import LakeCat.ScanAuthorization
import LakeCat.ReceiptEvidence

/-!
Who a request comes from: the principal that its headers name, and the envelope
that keeps how it was named, with digests in the place of secrets.
-/

namespace LakeCat

open Fallible

/-- The values of each header; none stands for a value that is not visible ASCII. -/
abbrev HeaderMap := String → List (Option String)

def HeaderMap.single (headers : HeaderMap) (name : String) : LakeCatResult (Option String) :=
  match headers name with
  | [] => .ok none
  | [value] => some <$> okOr value (.invalidArgument s!"invalid UTF-8 in {name} header")
  | _ => .error (.invalidArgument s!"{name} header must appear at most once")

def PrincipalKind.fromStr (value : String) : LakeCatResult PrincipalKind :=
  match toAsciiLowercase (trimText value) with
  | "anonymous" => .ok .anonymous
  | "human" | "user" => .ok .human
  | "service" | "service-account" => .ok .service
  | "agent" | "typedid-agent" | "typedid" | "did" => .ok .agent
  | other => .error (.invalidArgument s!"unknown principal kind: {other}")

/-- `transpose` of an optional parse. -/
def parseKind : Option String → LakeCatResult (Option PrincipalKind)
  | none => .ok none
  | some value => some <$> PrincipalKind.fromStr value

def LakeCatError.display : LakeCatError → String
  | invalidArgument message => "invalid argument: " ++ message
  | unprocessableEntity message => "unprocessable entity: " ++ message
  | notFound object name => object ++ " not found: " ++ name
  | alreadyExists object name => object ++ " already exists: " ++ name
  | conflict message => "conflict: " ++ message
  | forbidden message => "forbidden: " ++ message
  | notSupported message => "operation is not supported yet: " ++ message
  | unavailable message => "temporarily unavailable: " ++ message
  | internal message => "internal error: " ++ message

def isAsciiWhitespace (ch : Char) : Bool :=
  ch = ' ' || ch = '\t' || ch = '\n' || ch = '\x0c' || ch = '\r'

/-- The headers of a request that its identity is read from. -/
structure IdentityHeaders where
  principal : Option String
  kind : Option PrincipalKind
  agentDid : Option String
  typedid : Option String
  typedidProof : Option String
  typedidEnvelope : Option String
  delegation : Option String
  signedSummary : Option String
  authorization : Option String

/-- Where the principal of a request was named. -/
structure NamedPrincipal where
  principal : Principal
  source : String
  bearerTokenSha256 : Option String

section
variable [External]

def readIdentityHeaders (headers : HeaderMap) : LakeCatResult IdentityHeaders := do
  let principal ← headers.single "x-lakecat-principal"
  let kindText ← headers.single "x-lakecat-principal-kind"
  let kind ← parseKind kindText
  rejectIf (kind.isSome ∧ principal.isNone)
    (.invalidArgument "x-lakecat-principal-kind requires x-lakecat-principal")
  rejectIf (kind = some .anonymous) (.invalidArgument ("x-lakecat-principal-kind cannot be " ++
    "anonymous; omit identity headers for anonymous access"))
  let agentDid ← headers.single "x-lakecat-agent-did"
  let typedid ← headers.single "x-lakecat-typedid"
  let typedidProof ← headers.single "x-lakecat-typedid-proof"
  let typedidEnvelope ← headers.single "x-lakecat-typedid-envelope"
  checkWhen typedidEnvelope.isNone (checkSome (fun proof =>
    .error (.invalidArgument ("x-lakecat-typedid-proof requires x-lakecat-typedid-envelope; " ++
      "typedid-proof-hash=" ++ contentHashBytes proof))) typedidProof)
  let delegation ← headers.single "x-lakecat-agent-delegation"
  let signedSummary ← headers.single "x-lakecat-agent-summary-signature"
  let authorization ← headers.single "authorization"
  rejectIf (authorization.isSome ∧ (principal.isSome ∨ agentDid.isSome ∨ typedid.isSome))
    (.invalidArgument ("Authorization cannot be combined with x-lakecat-principal, " ++
      "x-lakecat-agent-did, or x-lakecat-typedid"))
  return ⟨principal, kind, agentDid, typedid, typedidProof, typedidEnvelope, delegation,
    signedSummary, authorization⟩

def bearerPrincipal (authorization : String) : LakeCatResult NamedPrincipal := do
  let token ← okOr (stripHead authorization "Bearer ")
    (.invalidArgument "unsupported Authorization scheme; use Bearer")
  rejectIf (isBlank token) (.invalidArgument "Authorization Bearer token must not be empty")
  rejectIf (token.toList.any isAsciiWhitespace)
    (.invalidArgument "Authorization Bearer token must not contain whitespace")
  let principal ← Principal.new ("bearer:" ++ contentHashBytes token) .service
  return ⟨principal, "authorization", some (contentHashBytes token)⟩

def IdentityHeaders.named (headers : IdentityHeaders) : LakeCatResult NamedPrincipal :=
  match headers.principal, headers.agentDid, headers.typedid, headers.authorization with
  | some subject, _, _, _ => do
      return ⟨← Principal.new subject (headers.kind.getD .human), "x-lakecat-principal", none⟩
  | none, some did, _, _ => do
      return ⟨← Principal.new did .agent, "x-lakecat-agent-did", none⟩
  | none, none, some did, _ => do
      return ⟨← Principal.new did .agent, "x-lakecat-typedid", none⟩
  | none, none, none, some authorization => bearerPrincipal authorization
  | none, none, none, none => .ok ⟨.anonymous, "anonymous", none⟩

/-- Delegations and signatures are taken from agents only. -/
def IdentityHeaders.checkAgentProof (headers : IdentityHeaders) (principal : Principal) :
    LakeCatResult Unit :=
  checkWhen (¬(principal.kind = .agent ∨ headers.typedidEnvelope.isSome)) (do
    checkSome (fun delegation =>
      .error (.invalidArgument ("x-lakecat-agent-delegation requires an agent identity; " ++
        "agent-delegation-hash=" ++ contentHashBytes delegation))) headers.delegation
    checkSome (fun signature =>
      .error (.invalidArgument ("x-lakecat-agent-summary-signature requires an agent identity; " ++
        "agent-summary-signature-hash=" ++ contentHashBytes signature))) headers.signedSummary)

def IdentityHeaders.envelope (headers : IdentityHeaders) (named : NamedPrincipal) : Json :=
  .object [("type", .str "lakecat.request-identity.v1"), ("principal", named.principal.toJson),
    ("source", .str named.source), ("agent-did", ofOptionStr headers.agentDid),
    ("typedid", ofOptionStr (headers.typedid.or headers.agentDid)),
    ("typedid-envelope-sha256", ofOptionStr (headers.typedidEnvelope.map contentHashBytes)),
    ("typedid-proof-sha256", ofOptionStr (headers.typedidProof.map contentHashBytes)),
    ("agent-delegation-sha256", ofOptionStr (headers.delegation.map contentHashBytes)),
    ("agent-summary-signature-sha256", ofOptionStr (headers.signedSummary.map contentHashBytes)),
    ("bearer-token-sha256", ofOptionStr named.bearerTokenSha256),
    ("attestation-state", .str "unverified"), ("raw-secret-material", .bool false)]

/-- The identity, and the envelope that is yet to be verified. -/
def requestIdentity (headers : HeaderMap) : LakeCatResult (RequestIdentity × Option String) := do
  let headers ← readIdentityHeaders headers
  let named ← headers.named
  headers.checkAgentProof named.principal
  return (⟨named.principal, headers.envelope named⟩, headers.typedidEnvelope)

structure TypeDidVerification where
  principal : Principal
  attestation : Json

abbrev TypeDidVerifier := String → LakeCatResult TypeDidVerification

def conservativeTypeDidVerifier : TypeDidVerifier := fun _ =>
  .error (.notSupported "TypeDID envelope verification requires the typesec-local integration")

/-- What the gateway of TypeSec attests of an envelope that it opens. -/
abbrev TypeDidGateway := String → LakeCatResult (String × Json)

def typeSecTypeDidVerifier (gateway : TypeDidGateway) : TypeDidVerifier := fun envelope => do
  let opened ← gateway envelope
  let principal ← Principal.new opened.1 .agent
  return ⟨principal, opened.2⟩

/-- The verifiers of the repository. -/
inductive RepositoryVerifier where
  | conservative
  | typeSec (gateway : TypeDidGateway)

def RepositoryVerifier.verify : RepositoryVerifier → TypeDidVerifier
  | conservative => conservativeTypeDidVerifier
  | typeSec gateway => typeSecTypeDidVerifier gateway

def redactTypedidVerifierError (envelope : String) (error : LakeCatError) : LakeCatError :=
  let message := "TypeDID envelope verification failed; typedid-envelope-hash=" ++
    contentHashBytes envelope ++ "; error-detail-hash=" ++ contentHashBytes error.display
  match error with
  | .invalidArgument _ => .invalidArgument message
  | .unprocessableEntity _ => .unprocessableEntity message
  | .conflict _ => .conflict message
  | .forbidden _ => .forbidden message
  | .notSupported _ => .notSupported message
  | .unavailable _ => .unavailable message
  | .internal _ => .internal message
  | .notFound _ _ => .notFound "TypeDID verifier failure" message
  | .alreadyExists _ _ => .alreadyExists "TypeDID verifier failure" message

def redactedVerification (verifier : TypeDidVerifier) (envelope : String) :
    LakeCatResult TypeDidVerification :=
  match verifier envelope with
  | .ok verification => .ok verification
  | .error error => .error (redactTypedidVerifierError envelope error)

omit [External] in
def RequestIdentity.verified (identity : RequestIdentity) (verification : TypeDidVerification) :
    RequestIdentity where
  principal := verification.principal
  envelope := ((((identity.envelope.set "principal" verification.principal.toJson).set "source"
    (.str "x-lakecat-typedid-envelope")).set "typedid"
      (.str verification.principal.subject)).set "attestation-state" (.str "verified")).set
        "typedid-attestation" verification.attestation

def verifyTypedidIdentity (verifier : TypeDidVerifier)
    (parsed : RequestIdentity × Option String) : LakeCatResult RequestIdentity :=
  match parsed.2 with
  | none => .ok parsed.1
  | some envelope => do
      let verification ← redactedVerification verifier envelope
      rejectIf (parsed.1.principal.kind ≠ .anonymous ∧
          parsed.1.principal ≠ verification.principal)
        (.conflict ("TypeDID verified subject does not match supplied principal; " ++
          "verified-principal-hash=" ++ contentHashBytes verification.principal.subject ++
          "; supplied-principal-hash=" ++ contentHashBytes parsed.1.principal.subject))
      return parsed.1.verified verification

/-- The identity that a request is authorized as. -/
def identify (verifier : TypeDidVerifier) (headers : HeaderMap) : LakeCatResult RequestIdentity := do
  let parsed ← requestIdentity headers
  verifyTypedidIdentity verifier parsed

omit [External] in
def envelopeDigestFields : List String :=
  ["typedid-envelope-sha256", "typedid-proof-sha256", "agent-delegation-sha256",
    "agent-summary-signature-sha256"]

/-- An identity whose envelope holds texts and digests where they are looked for. -/
structure IdentityShown (identity : RequestIdentity) : Prop where
  named : isBlank identity.principal.subject = false
  object : identity.envelope.isObject = true
  texts : ∀ field ∈ ["attestation-state", "source"], ∃ text,
    identity.envelope.get field = some (.str text) ∧ isBlank text = false
  digests : ∀ field ∈ envelopeDigestFields, ∃ digest,
    identity.envelope.get field = some (ofOptionStr digest) ∧
      ∀ text, digest = some text → isSha256Evidence text = true

omit [External] in
theorem Principal.new_ok {subject : String} {kind : PrincipalKind} {principal : Principal} :
    Principal.new subject kind = .ok principal ↔
      isBlank subject = false ∧ principal = ⟨subject, kind⟩ := by
  simp only [Principal.new, rejectIf_bind, Bool.not_eq_true, pure_eq, Except.ok.injEq]
  exact and_congr_right fun _ => eq_comm

theorem IdentityHeaders.named_shown {headers : IdentityHeaders} {named : NamedPrincipal}
    (found : headers.named = .ok named) :
    isBlank named.principal.subject = false ∧ isBlank named.source = false := by
  unfold IdentityHeaders.named at found
  split at found
  · simp only [bind_eq_ok, Principal.new_ok, pure_eq, Except.ok.injEq] at found
    obtain ⟨_, ⟨shown, rfl⟩, rfl⟩ := found
    exact ⟨shown, (by decide : isBlank "x-lakecat-principal" = false)⟩
  · simp only [bind_eq_ok, Principal.new_ok, pure_eq, Except.ok.injEq] at found
    obtain ⟨_, ⟨shown, rfl⟩, rfl⟩ := found
    exact ⟨shown, (by decide : isBlank "x-lakecat-agent-did" = false)⟩
  · simp only [bind_eq_ok, Principal.new_ok, pure_eq, Except.ok.injEq] at found
    obtain ⟨_, ⟨shown, rfl⟩, rfl⟩ := found
    exact ⟨shown, (by decide : isBlank "x-lakecat-typedid" = false)⟩
  · simp only [bearerPrincipal, bind_eq_ok, exists_unit, rejectIf_ok, Principal.new_ok, pure_eq,
      Except.ok.injEq] at found
    obtain ⟨_, _, _, _, _, ⟨shown, rfl⟩, rfl⟩ := found
    exact ⟨shown, (by decide : isBlank "authorization" = false)⟩
  · cases found
    exact ⟨(by decide : isBlank "anonymous" = false), (by decide : isBlank "anonymous" = false)⟩

theorem requestIdentity_shown {headers : HeaderMap} {parsed : RequestIdentity × Option String}
    (read : requestIdentity headers = .ok parsed) : IdentityShown parsed.1 := by
  simp only [requestIdentity, bind_eq_ok, exists_unit, pure_eq, Except.ok.injEq] at read
  obtain ⟨headers, -, named, found, -, rfl⟩ := read
  obtain ⟨subject, source⟩ := IdentityHeaders.named_shown found
  have digest (held : Option String) (text : String)
      (given : held.map contentHashBytes = some text) : isSha256Evidence text = true := by
    obtain ⟨own, -, rfl⟩ := Option.map_eq_some_iff.mp given
    exact contentHashBytes_evidence own
  refine ⟨subject, rfl, ?_, ?_⟩
  · intro field member
    rcases List.mem_pair.mp member with rfl | rfl
    · exact ⟨"unverified", by simp [IdentityHeaders.envelope, List.lookup], by decide⟩
    · exact ⟨named.source, by simp [IdentityHeaders.envelope, List.lookup], source⟩
  · intro field member
    simp only [envelopeDigestFields, List.mem_cons, List.not_mem_nil, or_false] at member
    rcases member with rfl | rfl | rfl | rfl
    · exact ⟨_, by simp [IdentityHeaders.envelope, List.lookup]; rfl, digest _⟩
    · exact ⟨_, by simp [IdentityHeaders.envelope, List.lookup]; rfl, digest _⟩
    · exact ⟨_, by simp [IdentityHeaders.envelope, List.lookup]; rfl, digest _⟩
    · exact ⟨_, by simp [IdentityHeaders.envelope, List.lookup]; rfl, digest _⟩

omit [External] in
theorem RequestIdentity.verified_object (identity : RequestIdentity)
    (verification : TypeDidVerification) (object : identity.envelope.isObject = true) :
    (identity.verified verification).envelope.isObject = true :=
  Json.isObject_set _ _ _ (Json.isObject_set _ _ _ (Json.isObject_set _ _ _
    (Json.isObject_set _ _ _ (Json.isObject_set _ _ _ object))))

omit [External] in
/-- What a verification writes into an envelope. -/
theorem RequestIdentity.verified_get {identity : RequestIdentity} {verification : TypeDidVerification}
    (object : identity.envelope.isObject = true) (field : String) :
    (identity.verified verification).envelope.get field =
      if field = "typedid-attestation" then some verification.attestation
      else if field = "attestation-state" then some (.str "verified")
      else if field = "typedid" then some (.str verification.principal.subject)
      else if field = "source" then some (.str "x-lakecat-typedid-envelope")
      else if field = "principal" then some verification.principal.toJson
      else identity.envelope.get field := by
  have named := Json.isObject_set _ "principal" verification.principal.toJson object
  have sourced := Json.isObject_set _ "source" (.str "x-lakecat-typedid-envelope") named
  have typed := Json.isObject_set _ "typedid" (.str verification.principal.subject) sourced
  have attested := Json.isObject_set _ "attestation-state" (.str "verified") typed
  simp only [RequestIdentity.verified]
  rw [Json.get_set _ _ _ _ attested, Json.get_set _ _ _ _ typed, Json.get_set _ _ _ _ sourced,
    Json.get_set _ _ _ _ named, Json.get_set _ _ _ _ object]

theorem RepositoryVerifier.verify_shown {verifier : RepositoryVerifier} {envelope : String}
    {verification : TypeDidVerification}
    (verified : redactedVerification verifier.verify envelope = .ok verification) :
    isBlank verification.principal.subject = false := by
  unfold redactedVerification at verified
  split at verified
  next own answer =>
    obtain rfl := Except.ok.inj verified
    cases verifier with
    | conservative => cases answer
    | typeSec gateway =>
        simp only [RepositoryVerifier.verify, typeSecTypeDidVerifier, bind_eq_ok, Principal.new_ok,
          pure_eq, Except.ok.injEq] at answer
        obtain ⟨opened, -, _, ⟨shown, rfl⟩, rfl⟩ := answer
        exact shown
  next => cases verified

/-- The identity of every request that is let in can be read from its envelope. -/
theorem identify_shown {verifier : RepositoryVerifier} {headers : HeaderMap}
    {identity : RequestIdentity} (identified : identify verifier.verify headers = .ok identity) :
    IdentityShown identity := by
  simp only [identify, bind_eq_ok] at identified
  obtain ⟨parsed, read, verified⟩ := identified
  have shown := requestIdentity_shown read
  unfold verifyTypedidIdentity at verified
  split at verified
  next =>
    obtain rfl := Except.ok.inj verified
    exact shown
  next envelope given =>
    simp only [bind_eq_ok, exists_unit, pure_eq, Except.ok.injEq] at verified
    obtain ⟨verification, answer, -, rfl⟩ := verified
    refine ⟨RepositoryVerifier.verify_shown answer, ?_, ?_, ?_⟩
    · exact parsed.1.verified_object verification shown.object
    · intro field member
      rcases List.mem_pair.mp member with rfl | rfl
      · exact ⟨"verified", by rw [RequestIdentity.verified_get shown.object]; simp, by decide⟩
      · exact ⟨"x-lakecat-typedid-envelope",
          by rw [RequestIdentity.verified_get shown.object]; simp, by decide⟩
    · intro field member
      obtain ⟨digest, found, full⟩ := shown.digests field member
      refine ⟨digest, ?_, full⟩
      rw [RequestIdentity.verified_get shown.object]
      simp only [envelopeDigestFields, List.mem_cons, List.not_mem_nil, or_false] at member
      rcases member with rfl | rfl | rfl | rfl <;> simpa using found

end

end LakeCat
