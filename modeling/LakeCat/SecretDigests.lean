import LakeCat.AlikeDocuments
import LakeCat.MemorySteps

/-!
Digests of secrets. Two runs that hold different secrets write down the digests
of their own, and the digests of documents that differ in secrets only. Whatever
else they write is the same.
-/

namespace LakeCat

section
variable [External]

mutual

/-- Texts that hold digests of what two runs differ in. -/
inductive DigestPair (secret : String → String → Prop) : String → String → Prop where
  | text {one other : String} (held : secret one other) :
      DigestPair secret (contentHashBytes one) (contentHashBytes other)
  /-- The subject that a bearer token is known by. -/
  | bearer {one other : String} (held : secret one other) :
      DigestPair secret ("bearer:" ++ contentHashBytes one) ("bearer:" ++ contentHashBytes other)
  | document {one other : Json} (alike : Json.Alike (DigestInput secret) one other) :
      DigestPair secret (contentHashJson one) (contentHashJson other)

/-- What two documents that are only digested may differ in. -/
inductive DigestInput (secret : String → String → Prop) : String → String → Prop where
  | secret {one other : String} (held : secret one other) : DigestInput secret one other
  | digest {one other : String} (pair : DigestPair secret one other) :
      DigestInput secret one other

end

/-- The same text, or digests. -/
def Covered (secret : String → String → Prop) (one other : String) : Prop :=
  one = other ∨ DigestPair secret one other

omit [External] in
/-- The same text, or secrets that the two runs differ in. -/
def Sealed (secret : String → String → Prop) (one other : String) : Prop :=
  one = other ∨ secret one other

/-- Documents that are the same but for digests. -/
abbrev Shown (secret : String → String → Prop) : Json → Json → Prop :=
  Json.Alike (DigestPair secret)

/-- Documents that are the same but for digests and secrets. -/
abbrev Digested (secret : String → String → Prop) : Json → Json → Prop :=
  Json.Alike (DigestInput secret)

variable {secret : String → String → Prop}

theorem Covered.refl (text : String) : Covered secret text text := .inl rfl

theorem Covered.shown {one other : String} (covered : Covered secret one other) :
    Shown secret (.str one) (.str other) := by
  rcases covered with rfl | pair
  · exact .same _
  · exact .str pair

theorem Shown.digested {one other : Json} (shown : Shown secret one other) :
    Digested secret one other :=
  shown.mono fun _ _ pair => .digest pair

theorem Sealed.digested {one other : String} (held : Sealed secret one other) :
    Digested secret (.str one) (.str other) := by
  rcases held with rfl | held
  · exact .same _
  · exact .str (.secret held)

theorem Sealed.hash {one other : String} (held : Sealed secret one other) :
    Covered secret (contentHashBytes one) (contentHashBytes other) := by
  rcases held with rfl | held
  · exact .inl rfl
  · exact .inr (.text held)

theorem Digested.hash {one other : Json} (alike : Digested secret one other) :
    Covered secret (contentHashJson one) (contentHashJson other) :=
  .inr (.document alike)

theorem shown_optional {one other : Option String}
    (covered : Option.Rel (Covered secret) one other) :
    Shown secret (ofOptionStr one) (ofOptionStr other) := by
  apply Json.Alike.ofOption
  cases covered with
  | some related => exact .some related.shown
  | none => exact .none

theorem hash_optional {one other : Option String} (held : Option.Rel (Sealed secret) one other) :
    Option.Rel (Covered secret) (one.map contentHashBytes) (other.map contentHashBytes) := by
  cases held with
  | some related => exact .some related.hash
  | none => exact .none

/-! What two runs record. -/

structure PrincipalsAlike (secret : String → String → Prop) (one other : Principal) : Prop where
  subject : Covered secret one.subject other.subject
  kind : one.kind = other.kind

theorem PrincipalsAlike.refl (principal : Principal) : PrincipalsAlike secret principal principal :=
  ⟨.refl _, rfl⟩

theorem PrincipalsAlike.shown {one other : Principal} (alike : PrincipalsAlike secret one other) :
    Shown secret one.toJson other.toJson := by
  rw [Principal.toJson, Principal.toJson, alike.kind]
  refine .object ?_
  exact .cons alike.subject.shown.fieldAlike (.cons ⟨rfl, .same _⟩ .nil)

structure AuditsAlike (secret : String → String → Prop) (one other : CatalogAuditEvent) :
    Prop where
  eventType : one.eventType = other.eventType
  table : one.table = other.table
  principal : PrincipalsAlike secret one.principal other.principal
  requestHash : Option.Rel (Covered secret) one.requestHash other.requestHash
  payload : Shown secret one.payload other.payload
  createdAt : one.createdAt = other.createdAt

structure OutboxesAlike (secret : String → String → Prop) (one other : OutboxEvent) : Prop where
  eventId : Covered secret one.eventId other.eventId
  sink : one.sink = other.sink
  eventType : one.eventType = other.eventType
  payload : Shown secret one.payload other.payload
  createdAt : one.createdAt = other.createdAt
  deliveredAt : one.deliveredAt = other.deliveredAt

theorem auditsAlike_new (eventType : String) (table : Option TableIdent)
    {principal twin : Principal} {payload other : Json} (now : Timestamp)
    (named : PrincipalsAlike secret principal twin) (shown : Shown secret payload other) :
    AuditsAlike secret (.new eventType table principal payload now)
      (.new eventType table twin other now) where
  eventType := rfl
  table := rfl
  principal := named
  requestHash := .some shown.digested.hash
  payload := shown
  createdAt := rfl

theorem AuditsAlike.eventId {one other : CatalogAuditEvent} (alike : AuditsAlike secret one other) :
    Covered secret (auditEventId one) (auditEventId other) := by
  apply Digested.hash
  rw [alike.eventType, alike.table, alike.createdAt]
  refine .object ?_
  refine .cons ⟨rfl, .same _⟩ (.cons ⟨rfl, .same _⟩ (.cons alike.principal.shown.digested.fieldAlike
    (.cons ?_ (.cons alike.payload.digested.fieldAlike (.cons ⟨rfl, .same _⟩ .nil)))))
  exact (shown_optional alike.requestHash).digested.fieldAlike

/-- The outbox event of an audit event shows what it shows. -/
theorem AuditsAlike.outbox {one other : CatalogAuditEvent} (alike : AuditsAlike secret one other) :
    OutboxesAlike secret (MemoryState.auditOutbox one) (MemoryState.auditOutbox other) := by
  have payload : Shown secret (auditOutboxPayload (auditEventId one) one)
      (auditOutboxPayload (auditEventId other) other) := by
    rw [auditOutboxPayload, auditOutboxPayload, alike.eventType, alike.table]
    refine .object (List.rel_append (List.rel_append ?_ (Json.Alike.fields_same _)) ?_)
    · exact .cons alike.eventId.shown.fieldAlike (.cons ⟨rfl, .same _⟩ .nil)
    · exact .cons alike.payload.fieldAlike .nil
  exact ⟨payload.digested.hash, rfl, alike.eventType, payload, alike.createdAt, rfl⟩

end

end LakeCat
