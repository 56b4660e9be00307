import Linura.Lib.Table
import Linura.Lib.Words
import Linura.Transaction.Requests

/-!
# Rows of the authority database

The four tables of the SQLite transaction store, the canonical bytes and integrity
tags of their rows, and the constraints that the schema puts on them.  A reserved
blob is all zeros, so a reservation row keeps its length only.
-/

namespace Linura.Persistence

open Linura.Lib Linura.Core Linura.Transaction

/-! ### Bounds of the schema -/

/-- `CONTENT_DIGEST_TEXT_BYTES` -/
def contentDigestTextBytes : Nat := 71
/-- `MAX_AUDIT_EVENT_KIND_BYTES` -/
def maxAuditEventKindBytes : Nat := 64
/-- `MAX_TRANSACTION_ID_BYTES` -/
def maxTransactionIdBytes : Nat := 256
/-- `MAX_PERSISTED_PRINCIPAL_BYTES` -/
def maxPersistedPrincipalBytes : Nat := 1024
/-- `MAX_PERSISTED_REQUEST_ID_BYTES` -/
def maxPersistedRequestIdBytes : Nat := 1024
/-- `MAX_STATE_TEXT_BYTES` -/
def maxStateTextBytes : Nat := 32
/-- `MIN_SQLITE_PAGE_SIZE` -/
def minSqlitePageSize : Nat := 4096
/-- `MAX_SQLITE_PAGE_SIZE` -/
def maxSqlitePageSize : Nat := 65536
/-- `INTEGRITY_TAG_BYTES` -/
def integrityTagBytes : Nat := 32
/-- `MAX_TRANSACTION_GENERATIONS` -/
def maxTransactionGenerations : Nat := 64

/-- A text has between one and `limit` bytes. -/
def isBoundedText (limit : Nat) (text : String) : Bool :=
  0 < text.utf8ByteSize && text.utf8ByteSize ≤ limit

def hasDigestLength (text : String) : Bool := text.utf8ByteSize == contentDigestTextBytes

/-- `optional_digest_length_valid` -/
def hasOptionalDigestLength : Option String → Bool
  | none => true
  | some text => hasDigestLength text

@[simp]
theorem hasDigestLength_value (digest : ContentDigest) : hasDigestLength digest.value = true := by
  simp [hasDigestLength, digest.utf8ByteSize_value, contentDigestTextBytes]

/-! ### Integrity tags -/

/-- The secret that authenticates rows: 32 bytes, not all zero. -/
structure SqliteIntegrityKey where
  bytes : Bytes
  valid : bytes.length = 32 ∧ ¬ bytes.all (· == 0)

/-- `canonical_optional`: a marker, and the text if there is one. -/
def canonicalOptional : Option String → List Bytes
  | some text => [[1], asBytes text]
  | none => [[0]]

section Tags

variable (sha256 : Sha256) (key : SqliteIntegrityKey)

variable (recordDomain : String) (canonical : Bytes)

def SqliteIntegrityKey.tag : Bytes :=
  (hmacSha256 sha256 key.bytes
    (frames [asBytes "linura.sqlite.record-integrity.v1", asBytes recordDomain, canonical])).toList

def SqliteIntegrityKey.verify (tag : Bytes) : Bool :=
  tag.length == integrityTagBytes && key.tag sha256 recordDomain canonical == tag

@[simp]
theorem SqliteIntegrityKey.tag_length :
    (key.tag sha256 recordDomain canonical).length = integrityTagBytes :=
  Vector.length_toList

@[simp]
theorem SqliteIntegrityKey.verify_tag :
    key.verify sha256 recordDomain canonical (key.tag sha256 recordDomain canonical) = true := by
  simp [verify]

end Tags

/-! ### Rows -/

/-- A row of `transactions`: the identity of a transaction and the pointer to its current
generation. -/
structure StoredTransaction where
  transactionId : String
  principal : String
  requestId : String
  currentGeneration : Nat
  stateVersion : Nat
  integrityTag : Bytes
  deriving DecidableEq

/-- A row of `generations`: one attempt of a transaction, with the binding it was prepared under. -/
structure StoredGeneration where
  transactionId : String
  generation : Nat
  state : String
  bindingDigest : String
  bindingCanonical : Bytes
  requestDigest : String
  preconditionDigest : String
  observationDigest : String
  desiredStateDigest : Option String
  graphDigest : Option String
  provenanceDigest : Option String
  integrityTag : Bytes
  deriving DecidableEq

/-- A row of `audit_events`: a link of a transaction's audit chain. -/
structure StoredAuditEvent where
  transactionId : String
  eventSequence : Nat
  generation : Nat
  stateVersion : Nat
  eventKind : String
  payloadDigest : String
  previousDigest : String
  eventDigest : String
  integrityTag : Bytes
  deriving DecidableEq

/-- A row of `audit_reservations`: space kept for one more audit event. -/
structure AuditReservation where
  transactionId : String
  slot : Nat
  reservedLength : Nat
  deriving DecidableEq

variable (record : StoredTransaction)

/-- `transaction_canonical` -/
def StoredTransaction.canonical : Bytes :=
  frames [asBytes record.transactionId, asBytes record.principal, asBytes record.requestId,
    be64 record.currentGeneration, be64 record.stateVersion]

/-- `generation_canonical` -/
def StoredGeneration.canonical (record : StoredGeneration) : Bytes :=
  frames ([asBytes record.transactionId, be64 record.generation, asBytes record.state,
    asBytes record.bindingDigest, record.bindingCanonical, asBytes record.requestDigest,
    asBytes record.preconditionDigest, asBytes record.observationDigest] ++
    canonicalOptional record.desiredStateDigest ++ canonicalOptional record.graphDigest ++
    canonicalOptional record.provenanceDigest)

/-- `audit_canonical` -/
def StoredAuditEvent.canonical (record : StoredAuditEvent) : Bytes :=
  frames [asBytes record.transactionId, be64 record.eventSequence, be64 record.generation,
    be64 record.stateVersion, asBytes record.eventKind, asBytes record.payloadDigest,
    asBytes record.previousDigest, asBytes record.eventDigest]

section Sealing

variable (sha256 : Sha256) (key : SqliteIntegrityKey)

/-- `transaction_tag` -/
def transactionTag (record : StoredTransaction) : Bytes :=
  key.tag sha256 "linura.sqlite.transaction-record.v1" record.canonical

/-- `generation_tag` -/
def generationTag (record : StoredGeneration) : Bytes :=
  key.tag sha256 "linura.sqlite.generation-record.v1" record.canonical

/-- `audit_tag` -/
def auditTag (record : StoredAuditEvent) : Bytes :=
  key.tag sha256 "linura.sqlite.audit-record.v1" record.canonical

/-- The row with its integrity tag computed. -/
def StoredTransaction.withTag (record : StoredTransaction) : StoredTransaction :=
  { record with integrityTag := transactionTag sha256 key record }

/-- The row with its integrity tag computed. -/
def StoredGeneration.withTag (record : StoredGeneration) : StoredGeneration :=
  { record with integrityTag := generationTag sha256 key record }

/-- The row with its integrity tag computed. -/
def StoredAuditEvent.withTag (record : StoredAuditEvent) : StoredAuditEvent :=
  { record with integrityTag := auditTag sha256 key record }

end Sealing

/-! ### Constraints -/

/-- The byte bounds that `load_transaction` checks. -/
def StoredTransaction.withinBounds : Bool :=
  isBoundedText maxTransactionIdBytes record.transactionId &&
    isBoundedText maxPersistedPrincipalBytes record.principal &&
    isBoundedText maxPersistedRequestIdBytes record.requestId &&
    record.integrityTag.length == integrityTagBytes

/-- The byte bounds that `load_generation` checks. -/
def StoredGeneration.withinBounds (record : StoredGeneration) : Bool :=
  isBoundedText maxTransactionIdBytes record.transactionId &&
    isBoundedText maxStateTextBytes record.state &&
    hasDigestLength record.bindingDigest &&
    record.bindingCanonical.length ≤ maxAuthorityBindingBytes &&
    hasDigestLength record.requestDigest &&
    hasDigestLength record.preconditionDigest &&
    hasDigestLength record.observationDigest &&
    hasOptionalDigestLength record.desiredStateDigest &&
    hasOptionalDigestLength record.graphDigest &&
    hasOptionalDigestLength record.provenanceDigest &&
    record.integrityTag.length == integrityTagBytes

/-- The byte bounds that audit queries check. -/
def StoredAuditEvent.withinBounds (record : StoredAuditEvent) : Bool :=
  isBoundedText maxTransactionIdBytes record.transactionId &&
    isBoundedText maxAuditEventKindBytes record.eventKind &&
    hasDigestLength record.payloadDigest &&
    hasDigestLength record.previousDigest &&
    hasDigestLength record.eventDigest &&
    record.integrityTag.length == integrityTagBytes

/-- The `CHECK` constraints of `transactions`. -/
def StoredTransaction.check : Bool :=
  record.withinBounds && 1 ≤ record.stateVersion

/-- The texts that the schema allows in `generations.state`. -/
def stateTexts : List String :=
  ["prepared", "indeterminate", "verified", "committed", "aborted", "recovery-blocked"]

/-- The `CHECK` constraints of `generations`. -/
def StoredGeneration.check (record : StoredGeneration) : Bool :=
  record.withinBounds && stateTexts.contains record.state

/-- The `CHECK` constraints of `audit_events`. -/
def StoredAuditEvent.check (record : StoredAuditEvent) : Bool :=
  record.withinBounds && 1 ≤ record.stateVersion

/-- The `CHECK` constraints of `audit_reservations`. -/
def AuditReservation.check (record : AuditReservation) : Bool :=
  isBoundedText maxTransactionIdBytes record.transactionId &&
    8192 ≤ record.reservedLength && record.reservedLength ≤ 131072

theorem asStr_mem_stateTexts (state : TransactionState) : state.asStr ∈ stateTexts := by
  cases state <;> decide

/-! ### The database -/

/-- The tables, each a list of rows in the order of insertion. -/
structure Tables where
  transactions : List StoredTransaction
  generations : List StoredGeneration
  auditEvents : List StoredAuditEvent
  auditReservations : List AuditReservation
  deriving DecidableEq

namespace Tables

/-- The tables of a freshly initialised database. -/
def empty : Tables := ⟨[], [], [], []⟩

variable (tables : Tables) (id : String)

/-- The generations of a transaction. -/
def generationsOf : List StoredGeneration :=
  tables.generations.filter fun row => row.transactionId = id

def auditEventsOf : List StoredAuditEvent :=
  tables.auditEvents.filter fun row => row.transactionId = id

/-- The reservations of a transaction. -/
def auditReservationsOf : List AuditReservation :=
  tables.auditReservations.filter fun row => row.transactionId = id

end Tables

/-- `StoreLimits`, of unsigned 64-bit numbers. -/
structure StoreLimits where
  maxTransactions : Nat
  maxGenerations : Nat
  maxAuditEvents : Nat
  maxPages : Nat
  fits : maxTransactions ≤ u64Max ∧ maxGenerations ≤ u64Max ∧ maxAuditEvents ≤ u64Max ∧
    maxPages ≤ u64Max

def StoreLimits.validate (limits : StoreLimits) : Except TransactionStoreError StoreLimits :=
  if limits.maxTransactions = 0 ∨ limits.maxGenerations = 0 ∨ limits.maxAuditEvents = 0 ∨
      limits.maxPages = 0 then .error .capacityExceeded
  else .ok limits

/-- What a store is opened with: the hash function, the `Debug` texts of strings, its keys, its
limits and the page size of its database. -/
structure StoreConfig where
  sha256 : Sha256
  debugText : String → String
  integrityKey : SqliteIntegrityKey
  authorityKey : TransactionAuthorityKey
  limits : StoreLimits
  pageSize : Nat
  pageSize_valid : minSqlitePageSize ≤ pageSize ∧ pageSize ≤ maxSqlitePageSize ∧
    pageSize.isPowerOfTwo

end Linura.Persistence
