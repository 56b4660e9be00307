import Linura.Intents.Proposal

/-!
# Accepted intents

`linura-library::proposal_acceptance_secure`: the intent that an acceptance stores, and the digest
by which the sealed material names it.  The digest covers every field, but the texts of the
requirements and the superseded ids are one list of parts without counts: three superseded ids can
read as one requirement.  The digest names an intent exactly among those that do not read so.
-/

namespace Linura.Intents

open Linura.Lib Linura.Core Linura.Transaction

/-- `ProposalAcceptanceError`, as far as the checks of an intent raise it. -/
inductive ProposalAcceptanceError
  | bindingMismatch (reason : String)
  deriving DecidableEq

/-- `MAX_RECORD_PAYLOAD_BYTES` -/
def maxRecordPayloadBytes : Nat := 64 * 1024

/-- Neither blank nor longer than a record's payload. -/
abbrev Fits (statement : String) : Prop :=
  trimIsEmpty statement = false ∧ statement.utf8ByteSize ≤ maxRecordPayloadBytes

/-- The predecessors that `validate_supersession_lineage` still has to look at, after those of
`seen` with `aggregate` bytes together. -/
def validateLineage (intentId : IntentId) (aggregate : Nat) (seen : List IntentId) :
    List IntentId → Except ProposalAcceptanceError Unit
  | [] => .ok ()
  | predecessor :: rest => do
    let bytes := aggregate + predecessor.value.utf8ByteSize
    demand (bytes < 2 ^ 64) (.bindingMismatch "proposal supersession lineage byte size overflowed")
    demand (bytes ≤ 4 * 1024 * 1024)
      (.bindingMismatch "proposal supersession lineage exceeds the aggregate byte bound")
    demand (predecessor ≠ intentId ∧ predecessor ∉ seen)
      (.bindingMismatch "resulting intent contains invalid duplicate/self supersession lineage")
    validateLineage intentId bytes (predecessor :: seen) rest

/-- `ProposalAcceptanceAuthority::validate_supersession_lineage` -/
def validateSupersessionLineage (intentId : IntentId) (supersedes : List IntentId) :
    Except ProposalAcceptanceError Unit := do
  demand (supersedes.length ≤ 16384)
    (.bindingMismatch "proposal supersession lineage exceeds the Library collection bound")
  validateLineage intentId 0 [] supersedes

/-- The requirements that `validate_proposed_intent` still has to look at. -/
def validateIntentRequirements (seen : List RequirementId) :
    List Requirement → Except ProposalAcceptanceError Unit
  | [] => .ok ()
  | requirement :: rest => do
    demand (Fits requirement.statement ∧ ¬ seen.contains requirement.id)
      (.bindingMismatch "resulting intent contains invalid or duplicate requirements")
    validateIntentRequirements (requirement.id :: seen) rest

/-- The three parts that a requirement contributes to the digest. -/
def Requirement.texts (requirement : Requirement) : List String :=
  [requirement.id.value, requirement.kind.asStr, requirement.statement]

namespace Intent

variable (intent : Intent)

/-- `validate_proposed_intent` -/
def validateProposed : Except ProposalAcceptanceError Unit := do
  demand (intent.status = .proposed)
    (.bindingMismatch "accepted proposal may create only Proposed intent")
  demand (Fits intent.statement)
    (.bindingMismatch "resulting intent statement is empty or oversized")
  validateIntentRequirements [] intent.requirements
  validateSupersessionLineage intent.id intent.supersedes

/-- The texts that `digest_intent` pushes, in their order. -/
def digestTexts : List String :=
  [intent.id.value, intent.actor.id.value, actorKindStr intent.actor.kind,
    if intent.actor.interactive then "1" else "0", intent.statement, "proposed"] ++
    (intent.requirements.flatMap Requirement.texts ++ intent.supersedes.map TypedId.value)

/-- `digest_intent` -/
def digest (sha256 : Sha256) (intent : Intent) : ProposalDigest :=
  .hashParts sha256 "linura:accepted-intent:v1" (intent.digestTexts.map asBytes)

/-- The bytes that `digest_intent` hashes. -/
def digestMaterial : Bytes :=
  frames (asBytes "linura:accepted-intent:v1" :: intent.digestTexts.map asBytes)

/-- What `ProposalAcceptanceTransaction::commit` demands of the intent that it is to store, where
the sealed material holds the digest and the target. -/
def checkResulting (sha256 : Sha256) (resultingIntentDigest : ProposalDigest) (target : IntentId)
    (intent : Intent) : Except ProposalAcceptanceError Unit := do
  intent.validateProposed
  demand (intent.digest sha256 = resultingIntentDigest ∧ intent.id = target)
    (.bindingMismatch "resulting intent differs from the exact accepted material")

variable {sha256 : Sha256} {intent intent' : Intent}

theorem short_of_validateIntentRequirements {seen : List RequirementId}
    {requirements : List Requirement}
    (valid : validateIntentRequirements seen requirements = .ok ()) :
    ∀ requirement ∈ requirements, requirement.statement.utf8ByteSize ≤ maxRecordPayloadBytes := by
  induction requirements generalizing seen with
  | nil => simp
  | cons requirement rest ih =>
    simp only [validateIntentRequirements, check_bind_eq_ok, demand_eq_ok] at valid
    obtain ⟨⟨fits, -⟩, later⟩ := valid
    intro member listed
    rcases List.mem_cons.mp listed with rfl | listed
    · exact fits.2
    · exact ih later member listed

/-- What the checks establish of an intent, as far as the digest depends on it. -/
theorem short_of_validateProposed (valid : intent.validateProposed = .ok ()) :
    intent.status = .proposed ∧ ∀ text ∈ intent.digestTexts, Short text := by
  simp only [validateProposed, check_bind_eq_ok, demand_eq_ok] at valid
  obtain ⟨proposed, fits, requirements, -⟩ := valid
  have small : maxRecordPayloadBytes < 2 ^ 64 := by decide
  refine ⟨proposed, fun text member => ?_⟩
  simp only [digestTexts, List.mem_append, List.mem_cons, List.not_mem_nil,
    or_false, List.mem_flatMap,
    List.mem_map] at member
  rcases member with (rfl | rfl | rfl | rfl | rfl | rfl) | ⟨requirement, listed,
    part⟩ | ⟨id, -, rfl⟩
  · exact short_id _
  · exact short_id _
  · cases intent.actor.kind <;> decide
  · cases intent.actor.interactive <;> decide
  · exact .of_le fits.2 small
  · decide
  · simp only [Requirement.texts, List.mem_cons, List.not_mem_nil, or_false] at part
    rcases part with rfl | rfl | rfl
    · exact short_id _
    · cases requirement.kind <;> decide
    · exact .of_le (short_of_validateIntentRequirements requirements _ listed) small
  · exact short_id _

theorem texts_injective : Function.Injective Requirement.texts := by
  intro requirement requirement' same
  cases requirement
  cases requirement'
  simp only [Requirement.texts, List.cons.injEq, and_true] at same
  rw [TypedId.ext same.1, RequirementKind.asStr_injective same.2.1, same.2.2]

/-- One intent reads as another: it has more requirements, and their ids, kinds and statements are
the first of the ids that the other one supersedes. -/
structure ReadsAs (intent other : Intent) (extra : List Requirement) : Prop where
  id : intent.id = other.id
  actor : intent.actor = other.actor
  statement : intent.statement = other.statement
  requirements : intent.requirements = other.requirements ++ extra
  supersedes : other.supersedes.map TypedId.value =
    extra.flatMap Requirement.texts ++ intent.supersedes.map TypedId.value

/-- Intents that read alike have the same texts. -/
theorem ReadsAs.digestTexts_eq {extra : List Requirement} (reads : intent.ReadsAs intent' extra) :
    intent.digestTexts = intent'.digestTexts := by
  rw [digestTexts, digestTexts, reads.id, reads.actor, reads.statement, reads.requirements,
    reads.supersedes, List.flatMap_append, List.append_assoc]

/-- With nothing extra and one status they are equal. -/
theorem ReadsAs.eq (reads : intent.ReadsAs intent' []) (status : intent.status = intent'.status) :
    intent = intent' := by
  refine Intent.ext reads.id reads.actor reads.statement status ?_ ?_
  · rw [reads.requirements, List.append_nil]
  · exact List.map_injective_iff.mpr (fun _ _ => TypedId.ext) reads.supersedes.symm

/-- Where the texts agree, the intent with more requirements reads as the other one. -/
theorem readsAs_of_digestTexts_eq
    (le : intent'.requirements.length ≤ intent.requirements.length)
    (same : intent.digestTexts = intent'.digestTexts) : ∃ extra, intent.ReadsAs intent' extra := by
  obtain ⟨fields, lists⟩ := List.append_inj same rfl
  obtain ⟨extra, requirements, supersedes⟩ :=
    flatMap_blocks_append (fun _ _ => rfl) texts_injective le lists
  simp only [List.cons.injEq, and_true] at fields
  obtain ⟨id, actorId, kind, interactive, statement⟩ := fields
  refine ⟨extra, TypedId.ext id, ?_, statement, requirements, supersedes⟩
  have flags : intent.actor.interactive = intent'.actor.interactive := by
    cases flag : intent.actor.interactive <;> cases flag' : intent'.actor.interactive <;> simp_all
  change Actor.mk _ _ _ = intent'.actor
  rw [TypedId.ext actorId, actorKindStr_injective kind, flags]

/-- For two intents that pass the checks: the digest tells them apart, and the digest that is sealed
for the one lets only that one be stored, exactly if neither reads as the other. -/
theorem digest_binds_intent_iff (valid : intent.validateProposed = .ok ())
    (valid' : intent'.validateProposed = .ok ())
    (collisionFree : Set.InjOn sha256 {intent.digestMaterial, intent'.digestMaterial}) :
    ((intent.digest sha256 = intent'.digest sha256 ↔ intent = intent') ∧
      (intent'.checkResulting sha256 (intent.digest sha256) intent.id = .ok () →
        intent' = intent)) ↔
    ∀ extra ≠ [], ¬ intent.ReadsAs intent' extra ∧ ¬ intent'.ReadsAs intent extra := by
  obtain ⟨proposed, short⟩ := short_of_validateProposed valid
  obtain ⟨proposed', short'⟩ := short_of_validateProposed valid'
  constructor
  · rintro ⟨separates, -⟩ extra some
    -- the parts are equal, so the digests are, although one intent has more requirements
    have absurd_of {longer shorter : Intent} (equal : longer = shorter)
        (reads : longer.ReadsAs shorter extra) : False := by
      have longer := reads.requirements
      rw [equal] at longer
      exact some (List.self_eq_append_right.mp longer)
    refine ⟨fun reads => absurd_of ?_ reads, fun reads => absurd_of (Eq.symm ?_) reads⟩
    · exact separates.mp (by rw [digest, digest, reads.digestTexts_eq])
    · exact separates.mp (by rw [digest, digest, reads.digestTexts_eq])
  · intro shape
    have separates : intent.digest sha256 = intent'.digest sha256 → intent = intent' := by
      intro same
      have hashed := collisionFree (.inl rfl) (.inr rfl) (ProposalDigest.mk.inj same)
      have fits {texts : List String} (short : ∀ text ∈ texts, Short text) :
          ∀ field ∈ asBytes "linura:accepted-intent:v1" :: texts.map asBytes,
            field.length < 2 ^ 64 := by
        intro field member
        rcases List.mem_cons.mp member with rfl | member
        · decide
        · obtain ⟨text, listed, rfl⟩ := List.mem_map.mp member
          exact short text listed
      have parts := (List.cons.inj (frames_inj (fits short) (fits short') hashed)).2
      have texts := List.map_injective_iff.mpr asBytes_injective parts
      rcases Nat.le_total intent'.requirements.length intent.requirements.length with le | le
      · obtain ⟨extra, reads⟩ := readsAs_of_digestTexts_eq le texts
        obtain rfl : extra = [] := by_contra fun some => (shape extra some).1 reads
        exact reads.eq (proposed.trans proposed'.symm)
      · obtain ⟨extra, reads⟩ := readsAs_of_digestTexts_eq le texts.symm
        obtain rfl : extra = [] := by_contra fun some => (shape extra some).2 reads
        exact (reads.eq (proposed'.trans proposed.symm)).symm
    refine ⟨⟨separates, fun equal => by rw [equal]⟩, fun accepted => ?_⟩
    simp only [checkResulting, check_bind_eq_ok, demand_eq_ok] at accepted
    exact (separates accepted.2.1.symm).symm

def ownerIntent (requirements : List Requirement) (supersedes : List IntentId) : Intent where
  id := ⟨"intent:1", by decide⟩
  actor := ⟨⟨"uid:1", by decide⟩, .human, true⟩
  statement := "edit text"
  status := .proposed
  requirements := requirements
  supersedes := supersedes

def goalIntent : Intent := ownerIntent [⟨⟨"r2", by decide⟩, .goal, "editor"⟩] []

/-- An intent without requirements that supersedes intents whose ids are the texts of that goal. -/
def lineageIntent : Intent :=
  ownerIntent [] [⟨"r2", by decide⟩, ⟨"goal", by decide⟩, ⟨"editor", by decide⟩]

/-- The digest of the one is the digest of the other, whatever the hash, and where the one is sealed
the other passes the checks of `commit`. -/
theorem lineage_reads_as_requirement : goalIntent.validateProposed = .ok () ∧
    goalIntent ≠ lineageIntent ∧
    ∀ sha256, goalIntent.digest sha256 = lineageIntent.digest sha256 ∧
      lineageIntent.checkResulting sha256 (goalIntent.digest sha256) goalIntent.id = .ok () := by
  have valid' : lineageIntent.validateProposed = .ok () := by decide +kernel
  refine ⟨by decide +kernel, by decide, fun sha256 => ⟨rfl, ?_⟩⟩
  simp only [checkResulting, check_bind_eq_ok, demand_eq_ok]
  exact ⟨valid', rfl, rfl⟩

/-- A hash that tells the lengths apart tells an intent with the goal from one without. -/
theorem digest_binds_goalIntent :
    goalIntent.digest IntentProposal.lengthHash ≠
      (ownerIntent [] []).digest IntentProposal.lengthHash := by
  have valid : goalIntent.validateProposed = .ok () := by decide +kernel
  have valid' : (ownerIntent [] []).validateProposed = .ok () := by decide +kernel
  have collisionFree : Set.InjOn IntentProposal.lengthHash
      {goalIntent.digestMaterial, (ownerIntent [] []).digestMaterial} :=
    Set.injOn_pair.mpr fun collision => absurd collision (by decide +kernel)
  have apart : ∀ extra ≠ [], ¬ goalIntent.ReadsAs (ownerIntent [] []) extra ∧
      ¬ (ownerIntent [] []).ReadsAs goalIntent extra := by
    refine fun extra _ => ⟨fun reads => ?_, fun reads => ?_⟩
    · -- the intent without requirements supersedes nothing that could be read as one
      obtain rfl : [_] = extra := reads.requirements
      exact absurd reads.supersedes (by decide)
    · exact absurd reads.requirements (by simp [goalIntent, ownerIntent])
  intro same
  have bound := (digest_binds_intent_iff valid valid' collisionFree).mpr apart
  exact absurd (bound.1.mp same) (by decide)

end Intent

end Linura.Intents
