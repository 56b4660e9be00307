import Linura.Persistence.Validation

/-!
# Rows that cannot be exchanged

Rows of the three authenticated tables carry tags under one key.  A tag covers the domain of the
table and the canonical bytes of the row, and both are framed, so that the bytes under a tag
determine the table and every other column of the row.  The digest of an audit event determines
what the event records in the same way.
-/

namespace Linura.Persistence

open Linura.Lib Linura.Core Linura.Transaction

/-- A row of an authenticated table. -/
inductive StoredRecord
  | transaction (row : StoredTransaction)
  | generation (row : StoredGeneration)
  | audit (row : StoredAuditEvent)

namespace StoredRecord

/-- The domain of the table's tags. -/
def domain : StoredRecord → String
  | transaction _ => "linura.sqlite.transaction-record.v1"
  | generation _ => "linura.sqlite.generation-record.v1"
  | audit _ => "linura.sqlite.audit-record.v1"

/-- `transaction_canonical`, `generation_canonical` and `audit_canonical` -/
def canonical : StoredRecord → Bytes
  | transaction row => row.canonical
  | generation row => row.canonical
  | audit row => row.canonical

/-- The `integrity_tag` column. -/
def integrityTag : StoredRecord → Bytes
  | transaction row => row.integrityTag
  | generation row => row.integrityTag
  | audit row => row.integrityTag

/-- `authenticate_transaction`, `authenticate_generation` and `authenticate_audit` -/
def authenticate (config : StoreConfig) : StoredRecord → Except TransactionStoreError Unit
  | transaction row => authenticateTransaction config row
  | generation row => authenticateGeneration config row
  | audit row => authenticateAudit config row

/-- The row without its tag. -/
def untagged : StoredRecord → StoredRecord
  | transaction row => transaction { row with integrityTag := [] }
  | generation row => generation { row with integrityTag := [] }
  | audit row => audit { row with integrityTag := [] }

/-- The numbers of the row. -/
def numbers : StoredRecord → List Nat
  | transaction row => [row.currentGeneration, row.stateVersion]
  | generation row => [row.generation]
  | audit row => [row.eventSequence, row.generation, row.stateVersion]

def tagged (record : StoredRecord) : Bytes :=
  frames [asBytes "linura.sqlite.record-integrity.v1", asBytes record.domain, record.canonical]

/-- The row fits the machine: its numbers are 64-bit words, and the length of the bytes under its
tag is one. -/
structure Representable (record : StoredRecord) : Prop where
  numbers_lt : ∀ number ∈ record.numbers, number < 2 ^ 64
  tagged_length_lt : record.tagged.length < 2 ^ 64

theorem authenticate_eq_ok {config : StoreConfig} {record : StoredRecord}
    (accepted : record.authenticate config = .ok ()) :
    (hmacSha256 config.sha256 config.integrityKey.bytes record.tagged).toList =
      record.integrityTag := by
  have verified : config.integrityKey.verify config.sha256 record.domain record.canonical
      record.integrityTag = true := by
    cases record with
    | transaction row =>
      simpa [authenticate, authenticateTransaction, domain, canonical, integrityTag] using accepted
    | generation row =>
      simpa [authenticate, authenticateGeneration, domain, canonical, integrityTag] using accepted
    | audit row =>
      simpa [authenticate, authenticateAudit, domain, canonical, integrityTag] using accepted
  simp only [SqliteIntegrityKey.verify, Bool.and_eq_true, beq_iff_eq] at verified
  exact verified.2

/-- The fields whose frames are the canonical bytes. -/
def fields : StoredRecord → List Bytes
  | transaction row => [asBytes row.transactionId, asBytes row.principal, asBytes row.requestId,
      be64 row.currentGeneration, be64 row.stateVersion]
  | generation row => [asBytes row.transactionId, be64 row.generation, asBytes row.state,
      asBytes row.bindingDigest, row.bindingCanonical, asBytes row.requestDigest,
      asBytes row.preconditionDigest, asBytes row.observationDigest] ++
      canonicalOptional row.desiredStateDigest ++ canonicalOptional row.graphDigest ++
      canonicalOptional row.provenanceDigest
  | audit row => [asBytes row.transactionId, be64 row.eventSequence, be64 row.generation,
      be64 row.stateVersion, asBytes row.eventKind, asBytes row.payloadDigest,
      asBytes row.previousDigest, asBytes row.eventDigest]

theorem canonical_eq (record : StoredRecord) : record.canonical = frames record.fields := by
  cases record <;> rfl

/-- An optional column is read off the front of the fields: its marker says whether a text follows.
-/
theorem canonicalOptional_append_inj {value value' : Option String} {rest rest' : List Bytes}
    (same : canonicalOptional value ++ rest = canonicalOptional value' ++ rest') :
    value = value' ∧ rest = rest' := by
  cases value <;> cases value' <;> simp [canonicalOptional, asBytes_inj] at same ⊢ <;> exact same

/-- In one table, the fields determine the row. -/
theorem untagged_eq_of_fields {record record' : StoredRecord} (fits : record.Representable)
    (fits' : record'.Representable) (table : record.domain = record'.domain)
    (same : record.fields = record'.fields) : record.untagged = record'.untagged := by
  have numbers := fits.numbers_lt
  have numbers' := fits'.numbers_lt
  cases record <;> cases record' <;> simp only [domain, String.reduceEq] at table
  case transaction.transaction row row' =>
    simp only [StoredRecord.numbers, List.forall_mem_cons] at numbers numbers'
    simpa [fields, untagged, be64_inj numbers.1 numbers'.1, be64_inj numbers.2.1 numbers'.2.1]
      using same
  case generation.generation row row' =>
    simp only [StoredRecord.numbers, List.forall_mem_cons] at numbers numbers'
    simp only [fields, List.append_assoc, List.cons_append, List.nil_append, List.cons.injEq,
      be64_inj numbers.1 numbers'.1, asBytes_inj] at same
    obtain ⟨id, generation, state, digest, binding, request, precondition, observation, tail⟩ :=
      same
    -- The three optional digests are read one after the other, and nothing is left.
    obtain ⟨desired, tail⟩ := canonicalOptional_append_inj tail
    obtain ⟨graph, tail⟩ := canonicalOptional_append_inj tail
    have provenance := (canonicalOptional_append_inj (congrArg (· ++ []) tail)).1
    simp only [untagged, id, generation, state, digest, binding, request, precondition, observation,
      desired, graph, provenance]
  case audit.audit row row' =>
    simp only [StoredRecord.numbers, List.forall_mem_cons] at numbers numbers'
    simpa [fields, untagged, be64_inj numbers.1 numbers'.1, be64_inj numbers.2.1 numbers'.2.1,
      be64_inj numbers.2.2.1 numbers'.2.2.1] using same

/-- The bytes under a tag determine the table and the row. -/
theorem untagged_eq_of_tagged {record record' : StoredRecord} (fits : record.Representable)
    (fits' : record'.Representable) (same : record.tagged = record'.tagged) :
    record.untagged = record'.untagged := by
  have small := fits.tagged_length_lt
  rw [tagged, canonical_eq] at small
  rw [tagged, tagged, canonical_eq, canonical_eq] at same
  obtain ⟨labels, sameFields⟩ := sealed_frames_inj [_, _] [_, _] small same
  simp only [List.cons.injEq, true_and, and_true] at labels
  exact untagged_eq_of_fields fits fits' (asBytes_injective labels) sameFields

end StoredRecord

/-- What an audit event records. -/
@[ext]
structure AuditSubject where
  transactionId : TransactionId
  sequence : Nat
  generation : Nat
  stateVersion : Nat
  eventKind : String
  payloadDigest : ContentDigest
  previousDigest : ContentDigest

namespace AuditSubject

/-- `audit_digest` of the event. -/
def digest (sha256 : Sha256) (event : AuditSubject) : ContentDigest :=
  auditDigest sha256 event.transactionId event.sequence event.generation event.stateVersion
    event.eventKind event.payloadDigest event.previousDigest

def hashed (event : AuditSubject) : Bytes :=
  frames [asBytes "linura.sqlite.audit-event.v1", asBytes event.transactionId.value,
    asBytes (toString event.sequence), asBytes (toString event.generation),
    asBytes (toString event.stateVersion), asBytes event.eventKind,
    asBytes event.payloadDigest.value, asBytes event.previousDigest.value]

theorem hashed_inj {event event' : AuditSubject} (small : event.hashed.length < 2 ^ 64)
    (same : event.hashed = event'.hashed) : event = event' := by
  have fields := frames_inj_of_length_lt small same
  simp only [List.cons.injEq, true_and, and_true, asBytes_inj] at fields
  obtain ⟨id, sequence, generation, version, kind, payload, previous⟩ := fields
  exact AuditSubject.ext (TransactionId.ext id) (repr_inj.mp sequence) (repr_inj.mp generation)
    (repr_inj.mp version) kind (ContentDigest.ext payload) (ContentDigest.ext previous)

end AuditSubject

/-- Rows are tamper evident and cannot be exchanged.  If one tag authenticates two rows and the
keyed hash tells their bytes apart, then they are rows of one table that agree in every other
column. Audit events with the same digest, by a hash that tells their bytes apart, record the same.
-/
theorem stored_rows_tamper_evident (config : StoreConfig) :
    (∀ record record' : StoredRecord, record.Representable → record'.Representable →
      Set.InjOn (hmacSha256 config.sha256 config.integrityKey.bytes)
        {record.tagged, record'.tagged} →
      record.authenticate config = .ok () → record'.authenticate config = .ok () →
      record.integrityTag = record'.integrityTag → record.untagged = record'.untagged) ∧
    (∀ event event' : AuditSubject, event.hashed.length < 2 ^ 64 →
      Set.InjOn config.sha256 {event.hashed, event'.hashed} →
      event.digest config.sha256 = event'.digest config.sha256 → event = event') := by
  refine ⟨fun record record' fits fits' ideal accepted accepted' sameTag => ?_, ?_⟩
  · have sameHash : hmacSha256 config.sha256 config.integrityKey.bytes record.tagged =
        hmacSha256 config.sha256 config.integrityKey.bytes record'.tagged := by
      apply Vector.toList_inj.mp
      rw [StoredRecord.authenticate_eq_ok accepted,
        StoredRecord.authenticate_eq_ok accepted', sameTag]
    exact StoredRecord.untagged_eq_of_tagged fits fits' (ideal (by simp) (by simp) sameHash)
  · intro event event' small ideal sameDigest
    have sameHash := ContentDigest.ofHash_injective sameDigest
    exact AuditSubject.hashed_inj small (ideal (by simp) (by simp) sameHash)

end Linura.Persistence
