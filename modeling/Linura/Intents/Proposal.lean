import Linura.Intents.Model
import Linura.Lib.SelfDelimiting
import Linura.Transaction.Digest
import Mathlib.Algebra.Order.BigOperators.Group.List
import Mathlib.Data.Prod.Lex
import Mathlib.Data.List.Sort

/-!
# Intent proposals

`linura-intent::proposal_v1`: what an interpretation of a request proposes, the context it was made
in, and the digest that names it.  The digest covers every field, the sources of the context in a
canonical order: two proposals that pass the checks have one digest exactly if they are equal, the
sources taken as a set.

The fields are written one after the other.  Counts precede lists, lengths precede texts, and a
missing text is written as an empty one, which no checked text is.
-/

namespace Linura.Intents

open Linura.Lib Linura.Core Linura.Transaction

/-! ### Digests -/

structure ProposalDigest where
  bytes : Vector UInt8 32
  deriving DecidableEq

namespace ProposalDigest

/-- `ProposalDigest::ZERO` -/
def zero : ProposalDigest := ⟨.replicate 32 0⟩

/-- `ProposalDigest::to_hex` -/
def toHex (digest : ProposalDigest) : String := hexEncode digest.bytes.toList

/-- `ProposalDigest::hash_parts` -/
def hashParts (sha256 : Sha256) (domain : String) (parts : List Bytes) : ProposalDigest :=
  ⟨sha256 (frames (asBytes domain :: parts))⟩

theorem toHex_injective : Function.Injective toHex := by
  rintro ⟨bytes⟩ ⟨bytes'⟩ same
  exact congrArg mk (Vector.toList_inj.mp (hexEncode_injective same))

@[simp]
theorem utf8ByteSize_toHex (digest : ProposalDigest) : digest.toHex.utf8ByteSize = 64 := by
  rw [toHex, hexEncode_utf8ByteSize, Vector.length_toList]

end ProposalDigest

/-! ### Checks -/

inductive ProposalValidationError
  | unsupportedVersion (version : Nat)
  | empty (label : String)
  | tooLong (label : String)
  | controlCharacter (label : String)
  | tooManyItems (label : String)
  | duplicateRequirement
  | duplicateCapability
  | duplicateAuthoritySource
  | invalidConfidence
  | invalidAttribution
  | invalidCoreId (label : String)
  | digestMismatch
  | proposalTooLarge
  deriving DecidableEq, Repr

variable (label : String)

/-- `validate_collection_len` -/
def validateCollectionLen (len : Nat) : Except ProposalValidationError Unit :=
  demand (len ≤ 256) (.tooManyItems label)

/-- `validate_core_id` -/
def validateCoreId (value : String) : Except ProposalValidationError Unit := do
  demand (value ≠ "") (.empty label)
  demand (value.utf8ByteSize ≤ 256) (.tooLong label)
  demand ((asBytes value).all (fun byte => 0x20 ≤ byte.toNat && byte.toNat ≤ 0x7e) = true)
    (.invalidCoreId label)

/-- `validate_token` -/
def validateToken (value : String) : Except ProposalValidationError Unit := do
  demand (trimIsEmpty value = false) (.empty label)
  demand (value.length ≤ 256) (.tooLong label)
  demand (hasControl value = false) (.controlCharacter label)

/-- `validate_text` -/
def validateText (value : String) (allowEmpty : Bool) : Except ProposalValidationError Unit := do
  demand (allowEmpty = true ∨ trimIsEmpty value = false) (.empty label)
  demand (value.length ≤ 16 * 1024) (.tooLong label)
  demand (Char.ofNat 0 ∉ value.toList) (.controlCharacter label)

variable (values : List String)

/-- `validate_text_list` -/
def validateTextList : Except ProposalValidationError Unit :=
  values.forM fun value => validateText label value true

/-! ### Contexts -/

inductive AuthoritySourceKind
  | observation
  | policy
  | library
  | capabilityRegistry
  | existingIntent
  deriving DecidableEq, Repr

/-- `AuthoritySourceKind::as_str` -/
def AuthoritySourceKind.asStr : AuthoritySourceKind → String
  | .observation => "observation"
  | .policy => "policy"
  | .library => "library"
  | .capabilityRegistry => "capability-registry"
  | .existingIntent => "existing-intent"

theorem AuthoritySourceKind.asStr_injective : Function.Injective AuthoritySourceKind.asStr := by
  intro kind kind' same
  cases kind <;> cases kind' <;> simp [asStr] at same <;> rfl

structure AuthoritySourceRevision where
  kind : AuthoritySourceKind
  id : String
  revision : String
  deriving DecidableEq

namespace AuthoritySourceRevision

/-- The derived order compares the kinds as they are declared, then the texts. -/
def sortKey (source : AuthoritySourceRevision) : ℕ ×ₗ String ×ₗ String :=
  toLex (source.kind.ctorIdx, toLex (source.id, source.revision))

theorem sortKey_injective : Function.Injective sortKey := by
  rintro ⟨kind, id, revision⟩ ⟨kind', id', revision'⟩ same
  simp only [sortKey, toLex_inj, Prod.mk.injEq] at same
  obtain ⟨index, rfl, rfl⟩ := same
  obtain rfl :
    kind = kind' := by cases kind <;> cases kind' <;> simp_all [AuthoritySourceKind.ctorIdx]
  rfl

instance : LinearOrder AuthoritySourceRevision := LinearOrder.lift' sortKey sortKey_injective

/-- The three texts of a source in a digest. -/
def encode (source : AuthoritySourceRevision) : Bytes :=
  frame (asBytes source.kind.asStr) ++
    (frame (asBytes source.id) ++ frame (asBytes source.revision))

end AuthoritySourceRevision

/-- Two neighbours of a list are equal. -/
def hasEqualNeighbours {α : Type} [DecidableEq α] : List α → Bool
  | first :: second :: rest => first == second || hasEqualNeighbours (second :: rest)
  | _ => false

structure InterpretationContextBinding where
  authorityRevision : String
  semanticInputDigest : ProposalDigest
  sourceRevisions : List AuthoritySourceRevision
  deriving DecidableEq

namespace InterpretationContextBinding

variable (context : InterpretationContextBinding)

/-- The sources in their canonical order. -/
def canonical : List AuthoritySourceRevision :=
  context.sourceRevisions.insertionSort (· ≤ ·)

/-- `InterpretationContextBinding::validate` -/
def validate : Except ProposalValidationError Unit := do
  validateToken "authority context revision" context.authorityRevision
  demand (context.sourceRevisions.length ≤ 256) (.tooManyItems "authority sources")
  context.sourceRevisions.forM fun source => do
    validateToken "authority source id" source.id
    validateToken "authority source revision" source.revision
  demand (hasEqualNeighbours context.canonical = false) .duplicateAuthoritySource

def withoutSources : InterpretationContextBinding :=
  { context with sourceRevisions := [] }

/-- What the digest of a context hashes. -/
def material : Bytes :=
  frame (asBytes "linura:interpretation-context:v1") ++
    (frame (asBytes context.authorityRevision) ++
    (frame (asBytes context.semanticInputDigest.toHex) ++
      (be64 context.canonical.length ++ context.canonical.flatMap AuthoritySourceRevision.encode)))

/-- `InterpretationContextBinding::digest` -/
def digest (sha256 : Sha256) (context : InterpretationContextBinding) : ProposalDigest :=
  ⟨sha256 context.material⟩

end InterpretationContextBinding

/-! ### Proposals -/

structure ProposalConfidence where
  permille : Nat
  deriving DecidableEq

def ProposalConfidence.validate (confidence : ProposalConfidence) :
    Except ProposalValidationError Unit :=
  demand (confidence.permille ≤ 1000) .invalidConfidence

structure ProposalAttribution where
  provider : Option String
  model : Option String
  adapter : String
  manual : Bool
  deriving DecidableEq

def ProposalAttribution.validate (attribution : ProposalAttribution) :
    Except ProposalValidationError Unit := do
  validateToken "proposal adapter id" attribution.adapter
  attribution.provider.toList.forM (validateToken "proposal provider id")
  attribution.model.toList.forM (validateToken "proposal model id")
  demand (¬ (attribution.manual = true ∧ (attribution.provider.isSome ∨ attribution.model.isSome)))
    .invalidAttribution
  demand (¬ (attribution.manual = false ∧ attribution.provider = none)) .invalidAttribution

structure IntentProposal where
  schemaVersion : Nat
  proposalId : RequestId
  actor : Actor
  requestedOutcome : String
  requirements : List Requirement
  capabilityRefs : List CapabilityId
  assumptions : List String
  unresolvedQuestions : List String
  confidence : Option ProposalConfidence
  context : InterpretationContextBinding
  attribution : ProposalAttribution
  explanation : List String
  canonicalDigest : ProposalDigest
  deriving DecidableEq

/-- `INTENT_PROPOSAL_SCHEMA_VERSION` -/
def intentProposalSchemaVersion : Nat := 1

/-- `string_list_bytes` -/
def stringListBytes : Nat := (values.map String.utf8ByteSize).sum

/-- The texts of an actor in a digest, `hash_actor`. -/
def encodeActor (actor : Actor) : Bytes :=
  frame (asBytes actor.id.value) ++ (frame (asBytes (actorKindStr actor.kind)) ++
    frame (asBytes (if actor.interactive then "interactive" else "non-interactive")))

/-- The texts of a requirement in a digest. -/
def Requirement.encode (requirement : Requirement) : Bytes :=
  frame (asBytes requirement.id.value) ++ (frame (asBytes requirement.kind.asStr) ++
    frame (asBytes requirement.statement))

/-- `hash_string_list` -/
def encodeStringList : Bytes :=
  be64 values.length ++ values.flatMap fun value => frame (asBytes value)

/-- A confidence in a digest. -/
def encodeConfidence : Option ProposalConfidence → Bytes
  | some confidence => frame (asBytes "confidence") ++ be64 confidence.permille
  | none => frame (asBytes "no-confidence")

namespace IntentProposal

/-- The checks on the requirements, with the ids seen so far. -/
def validateRequirements (seen : List RequirementId) : List Requirement →
    Except ProposalValidationError Unit
  | [] => .ok ()
  | requirement :: rest => do
    validateCoreId "proposal requirement id" requirement.id.value
    validateText "requirement statement" requirement.statement false
    demand (requirement.id ∉ seen) .duplicateRequirement
    validateRequirements (requirement.id :: seen) rest

/-- The checks on the capabilities, with the ids seen so far. -/
def validateCapabilities (seen : List CapabilityId) : List CapabilityId →
    Except ProposalValidationError Unit
  | [] => .ok ()
  | capability :: rest => do
    validateCoreId "proposal capability id" capability.value
    demand (capability ∉ seen) .duplicateCapability
    validateCapabilities (capability :: seen) rest

variable (proposal : IntentProposal)

/-- `IntentProposal::estimated_size` -/
def estimatedSize : Nat :=
  proposal.requestedOutcome.utf8ByteSize
    + (proposal.requirements.map fun value =>
      value.id.value.utf8ByteSize + value.statement.utf8ByteSize).sum
    + (proposal.capabilityRefs.map fun value => value.value.utf8ByteSize).sum
    + stringListBytes proposal.assumptions + stringListBytes proposal.unresolvedQuestions
    + stringListBytes proposal.explanation + proposal.context.authorityRevision.utf8ByteSize
    + (proposal.context.sourceRevisions.map fun value =>
        value.id.utf8ByteSize + value.revision.utf8ByteSize).sum
    + proposal.attribution.adapter.utf8ByteSize
    + (proposal.attribution.provider.map String.utf8ByteSize).getD 0
    + (proposal.attribution.model.map String.utf8ByteSize).getD 0

/-- `IntentProposal::validate_material` -/
def validateMaterial : Except ProposalValidationError Unit := do
  demand (proposal.schemaVersion = intentProposalSchemaVersion)
    (.unsupportedVersion proposal.schemaVersion)
  validateCoreId "proposal id" proposal.proposalId.value
  validateCoreId "proposal actor id" proposal.actor.id.value
  validateText "requested outcome" proposal.requestedOutcome false
  validateCollectionLen "requirements" proposal.requirements.length
  validateCollectionLen "capability references" proposal.capabilityRefs.length
  validateCollectionLen "assumptions" proposal.assumptions.length
  validateCollectionLen "unresolved questions" proposal.unresolvedQuestions.length
  validateCollectionLen "explanation" proposal.explanation.length
  validateRequirements [] proposal.requirements
  validateCapabilities [] proposal.capabilityRefs
  validateTextList "assumption" proposal.assumptions
  validateTextList "unresolved question" proposal.unresolvedQuestions
  validateTextList "explanation" proposal.explanation
  proposal.confidence.toList.forM ProposalConfidence.validate
  proposal.attribution.validate
  proposal.context.validate
  demand (proposal.estimatedSize ≤ 512 * 1024) .proposalTooLarge

variable (sha256 : Sha256)

/-- What the digest of a proposal hashes. -/
def material (proposal : IntentProposal) : Bytes :=
  frame (asBytes "linura:intent-proposal:v1") ++ (be64 proposal.schemaVersion ++
    (frame (asBytes proposal.proposalId.value) ++ (encodeActor proposal.actor ++
    (frame (asBytes proposal.requestedOutcome) ++
    ((be64 proposal.requirements.length ++ proposal.requirements.flatMap Requirement.encode) ++
    ((be64 proposal.capabilityRefs.length ++
      proposal.capabilityRefs.flatMap fun id => frame (asBytes id.value)) ++
    (encodeStringList proposal.assumptions ++ (encodeStringList proposal.unresolvedQuestions ++
    (encodeConfidence proposal.confidence ++
      (frame (asBytes (proposal.context.digest sha256).toHex) ++
    (frame (asBytes (proposal.attribution.provider.getD "")) ++
    (frame (asBytes (proposal.attribution.model.getD "")) ++
      (frame (asBytes proposal.attribution.adapter) ++
    (frame (asBytes (if proposal.attribution.manual then "manual" else "provider")) ++
    encodeStringList proposal.explanation))))))))))))))

/-- `IntentProposal::derive_digest` -/
def deriveDigest (proposal : IntentProposal) : ProposalDigest :=
  ⟨sha256 (proposal.material sha256)⟩

/-- `IntentProposal::new_v1`, from a proposal whose version and digest are yet to be set. -/
def newV1 (arguments : IntentProposal) : Except ProposalValidationError IntentProposal := do
  let proposal := { arguments with
    schemaVersion := intentProposalSchemaVersion, canonicalDigest := .zero }
  proposal.validateMaterial
  return { proposal with canonicalDigest := proposal.deriveDigest sha256 }

/-- `IntentProposal::validate` -/
def validate (proposal : IntentProposal) : Except ProposalValidationError Unit := do
  proposal.validateMaterial
  demand (proposal.canonicalDigest = proposal.deriveDigest sha256) .digestMismatch

/-- The fields of a proposal apart from its digest and the sources of its context. -/
def content : IntentProposal :=
  { proposal with context := proposal.context.withoutSources, canonicalDigest := .zero }

/-- Equal fields apart from the digest, the sources of the context taken as sets. -/
def SameContent (proposal' : IntentProposal) : Prop :=
  proposal.content = proposal'.content ∧
    ∀ source, source ∈ proposal.context.sourceRevisions ↔ source ∈ proposal'.context.sourceRevisions

end IntentProposal

/-! ### What the checks establish -/

theorem ne_empty_of_validateToken {label value : String}
    (valid : validateToken label value = .ok ()) :
    value ≠ "" := by
  simp only [validateToken, check_bind_eq_ok, demand_eq_ok] at valid
  obtain ⟨visible, -⟩ := valid
  rintro rfl
  simp [trimIsEmpty] at visible

section Sorted

variable {α : Type} [LinearOrder α]

/-- A sorted list without equal neighbours has no element twice. -/
theorem nodup_of_sorted {list : List α} (sorted : list.Pairwise (· ≤ ·))
    (distinct : hasEqualNeighbours list = false) : list.Nodup := by
  induction list with
  | nil => exact .nil
  | cons first rest ih =>
    obtain ⟨least, sorted'⟩ := List.pairwise_cons.mp sorted
    cases rest with
    | nil => exact List.nodup_singleton _
    | cons second rest =>
      simp only [hasEqualNeighbours, Bool.or_eq_false_iff, beq_eq_false_iff_ne] at distinct
      refine List.nodup_cons.mpr ⟨fun member => ?_, ih sorted' distinct.2⟩
      -- the second element lies between the first and its other occurrence
      rcases List.mem_cons.mp member with same | later
      · exact distinct.1 same
      · have le := (List.pairwise_cons.mp sorted').1 _ later
        exact distinct.1 (le_antisymm (least _ List.mem_cons_self) le)

end Sorted

namespace InterpretationContextBinding

variable {context context' : InterpretationContextBinding}

/-- The canonical order has the same sources. -/
theorem canonical_perm (context : InterpretationContextBinding) :
    context.canonical.Perm context.sourceRevisions :=
  List.perm_insertionSort _ _

/-- What `validate` establishes. -/
structure Valid (context : InterpretationContextBinding) : Prop where
  few : context.sourceRevisions.length ≤ 256
  nodup : context.sourceRevisions.Nodup

/-- A context that is accepted is valid. -/
theorem valid_of_validate (valid : context.validate = .ok ()) : context.Valid := by
  simp only [validate, check_bind_eq_ok, demand_eq_ok] at valid
  obtain ⟨-, few, -, distinct⟩ := valid
  refine ⟨few, context.canonical_perm.nodup_iff.mp ?_⟩
  have sorted : context.canonical.Pairwise (· ≤ ·) := List.pairwise_insertionSort _ _
  apply nodup_of_sorted sorted
  convert distinct

/-- The canonical orders of two contexts agree if they have the same sources, in some order. -/
theorem canonical_eq_iff_perm :
    context.canonical = context'.canonical ↔
      context.sourceRevisions.Perm context'.sourceRevisions := by
  constructor
  · intro same
    exact context.canonical_perm.symm.trans (same ▸ context'.canonical_perm)
  · intro perm
    exact List.Perm.eq_of_pairwise (fun _ _ _ _ => le_antisymm) (List.pairwise_insertionSort _ _)
      (List.pairwise_insertionSort _ _)
        ((context.canonical_perm.trans perm).trans context'.canonical_perm.symm)

/-- Contexts with the same sources have one canonical form. -/
theorem canonical_eq_iff (valid : context.Valid) (valid' : context'.Valid) :
    context.canonical = context'.canonical ↔
      ∀ source, source ∈ context.sourceRevisions ↔ source ∈ context'.sourceRevisions :=
  canonical_eq_iff_perm.trans (List.perm_ext_iff_of_nodup valid.nodup valid'.nodup)

end InterpretationContextBinding

/-! ### Reading the fields back -/

/-- Texts shorter than `2 ^ 64` bytes. -/
abbrev Short (text : String) : Prop := text.utf8ByteSize < 2 ^ 64

theorem Short.of_le {text : String} {bound : Nat} (le : text.utf8ByteSize ≤ bound)
    (small : bound < 2 ^ 64) :
    Short text := le.trans_lt small

theorem short_id {label : String} (id : TypedId label) : Short id.value :=
  .of_le id.utf8ByteSize_bounds.2 (by decide)

theorem delimiting_id {label : String} :
    SelfDelimiting (fun _ => True) fun id : TypedId label => frame (asBytes id.value) :=
  SelfDelimiting.text.through (fun id _ => short_id id) fun _ _ _ _ same => TypedId.ext same

theorem delimiting_digest :
    SelfDelimiting (fun _ => True) fun digest : ProposalDigest => frame (asBytes digest.toHex) := by
  refine SelfDelimiting.text.through (fun digest _ => ?_) fun _ _ _ _ same =>
    ProposalDigest.toHex_injective same
  rw [ProposalDigest.utf8ByteSize_toHex]
  decide

/-- One of two texts. -/
theorem delimiting_choice {yes no : String} (short : Short yes)
    (short' : Short no) (ne : yes ≠ no) :
    SelfDelimiting (fun _ => True) fun choice : Bool =>
      frame (asBytes (if choice then yes else no)) := by
  refine SelfDelimiting.text.through (fun choice _ => ?_) fun choice _ choice' _ same => ?_
  · cases choice
    · exact short'
    · exact short
  · cases choice <;> cases choice'
    · rfl
    · exact absurd same.symm ne
    · exact absurd same ne
    · rfl

/-- A text that may be missing, where a text that is there is not empty. -/
theorem delimiting_optional :
    SelfDelimiting (fun text : Option String => text ≠ some "" ∧ ∀ value ∈ text, Short value)
      fun text => frame (asBytes (text.getD "")) := by
  refine SelfDelimiting.text.through (fun text holds => ?_) fun text holds text' holds' same => ?_
  · cases text with
    | none =>
      have empty : ("" : String).utf8ByteSize ≤ 0 := by simp
      exact Short.of_le empty (by decide)
    | some value => exact holds.2 value rfl
  · cases text <;> cases text' <;> simp_all

theorem delimiting_actor : SelfDelimiting (fun _ => True) encodeActor := by
  have kinds : SelfDelimiting (fun _ => True) fun kind => frame (asBytes (actorKindStr kind)) :=
    SelfDelimiting.text.through (fun kind _ => by cases kind <;> decide) fun _ _ _ _ same =>
      actorKindStr_injective same
  have interactive : SelfDelimiting (fun _ => True) fun choice : Bool =>
      frame (asBytes (if choice then "interactive" else "non-interactive")) :=
    delimiting_choice (by decide) (by decide) (by decide)
  refine (delimiting_id.pair (kinds.pair interactive)).through
    (f := fun actor : Actor => (actor.id, actor.kind, actor.interactive))
    (fun _ _ => ⟨trivial, trivial, trivial⟩) ?_
  rintro ⟨id, kind, choice⟩ - ⟨id', kind', choice'⟩ - same
  simp only [Prod.mk.injEq] at same
  obtain ⟨rfl, rfl, rfl⟩ := same
  rfl

/-- The encoding of a requirement shows where it ends. -/
theorem delimiting_requirement :
    SelfDelimiting (fun requirement => Short requirement.statement) Requirement.encode := by
  have kinds : SelfDelimiting (fun _ => True) fun kind : RequirementKind =>
    frame (asBytes kind.asStr) :=
    SelfDelimiting.text.through (fun kind _ => by cases kind <;> decide) fun _ _ _ _ same =>
      RequirementKind.asStr_injective same
  refine (delimiting_id.pair (kinds.pair SelfDelimiting.text)).through
    (f := fun requirement : Requirement =>
      (requirement.id, requirement.kind, requirement.statement))
    (fun _ short => ⟨trivial, trivial, short⟩) ?_
  rintro ⟨id, kind, statement⟩ - ⟨id', kind', statement'⟩ - same
  simp only [Prod.mk.injEq] at same
  obtain ⟨rfl, rfl, rfl⟩ := same
  rfl

theorem delimiting_source :
    SelfDelimiting (fun source => Short source.id ∧
      Short source.revision) AuthoritySourceRevision.encode := by
  have kinds : SelfDelimiting (fun _ => True) fun kind : AuthoritySourceKind =>
    frame (asBytes kind.asStr) :=
    SelfDelimiting.text.through (fun kind _ => by cases kind <;> decide) fun _ _ _ _ same =>
      AuthoritySourceKind.asStr_injective same
  refine (kinds.pair (SelfDelimiting.text.pair SelfDelimiting.text)).through
    (f := fun source : AuthoritySourceRevision => (source.kind, source.id, source.revision))
    (fun _ short => ⟨trivial, short.1, short.2⟩) ?_
  rintro ⟨kind, id, revision⟩ - ⟨kind', id', revision'⟩ - same
  simp only [Prod.mk.injEq] at same
  obtain ⟨rfl, rfl, rfl⟩ := same
  rfl

/-- The two forms of a confidence differ in their first text. -/
theorem delimiting_confidence :
    SelfDelimiting (fun confidence => ∀ value ∈ confidence, value.permille < 2 ^ 64)
      encodeConfidence := by
  have tags : Short "confidence" ∧ Short "no-confidence" := by decide
  rintro (_ | ⟨⟨permille⟩⟩) (_ | ⟨⟨permille'⟩⟩) rest rest' holds holds' same
  · exact ⟨rfl, (SelfDelimiting.text tags.2 tags.2 same).2⟩
  · simp only [encodeConfidence, List.append_assoc] at same
    exact absurd (SelfDelimiting.text tags.2 tags.1 same).1 (by decide)
  · simp only [encodeConfidence, List.append_assoc] at same
    exact absurd (SelfDelimiting.text tags.1 tags.2 same).1 (by decide)
  · simp only [encodeConfidence, List.append_assoc] at same
    obtain ⟨rfl, tail⟩ := SelfDelimiting.word (holds _ rfl) (holds' _ rfl)
      (SelfDelimiting.text tags.1 tags.1 same).2
    exact ⟨rfl, tail⟩

/-! ### Contexts -/

namespace InterpretationContextBinding

variable {context context' : InterpretationContextBinding}

/-- The texts of a context are short. -/
structure Brief (context : InterpretationContextBinding) : Prop where
  authorityRevision : Short context.authorityRevision
  sources : ∀ source ∈ context.sourceRevisions, Short source.id ∧ Short source.revision

/-- What is hashed determines the context up to the order of its sources. -/
theorem eq_of_material_eq (few : context.sourceRevisions.length < 2 ^ 64)
    (few' : context'.sourceRevisions.length < 2 ^ 64) (brief : context.Brief)
    (brief' : context'.Brief) (same : context.material = context'.material) :
    context.authorityRevision = context'.authorityRevision ∧
      context.semanticInputDigest = context'.semanticInputDigest ∧
        context.canonical = context'.canonical := by
  have listed : ∀ {context : InterpretationContextBinding},
    context.sourceRevisions.length < 2 ^ 64 →
      context.Brief → context.canonical.length < 2 ^ 64 ∧
        ∀ source ∈ context.canonical, Short source.id ∧ Short source.revision := by
    intro context few brief
    rw [context.canonical_perm.length_eq]
    refine ⟨few, fun source member => brief.sources source ?_⟩
    exact context.canonical_perm.mem_iff.mp member
  have tag : Short "linura:interpretation-context:v1" := by decide
  obtain ⟨-, same⟩ := SelfDelimiting.text tag tag same
  obtain ⟨revision, same⟩ :=
    SelfDelimiting.text brief.authorityRevision brief'.authorityRevision same
  obtain ⟨input, same⟩ := delimiting_digest trivial trivial same
  exact ⟨revision, input, delimiting_source.list.injOn (listed few brief) (listed few' brief') same⟩

end InterpretationContextBinding

/-! ### Proposals -/

theorem utf8ByteSize_le_stringListBytes {values : List String} {value : String}
    (member : value ∈ values) :
    value.utf8ByteSize ≤ stringListBytes values :=
  List.single_le_sum (fun _ _ => Nat.zero_le _) _ (List.mem_map_of_mem member)

namespace IntentProposal

variable {sha256 : Sha256} {proposal proposal' : IntentProposal}

/-- What `validate_material` establishes, as far as the digest depends on it. -/
structure Checked (proposal : IntentProposal) : Prop where
  version : proposal.schemaVersion = intentProposalSchemaVersion
  requirements : proposal.requirements.length ≤ 256
  capabilityRefs : proposal.capabilityRefs.length ≤ 256
  assumptions : proposal.assumptions.length ≤ 256
  unresolvedQuestions : proposal.unresolvedQuestions.length ≤ 256
  explanation : proposal.explanation.length ≤ 256
  confidence : ∀ value ∈ proposal.confidence, value.permille ≤ 1000
  provider : proposal.attribution.provider ≠ some ""
  model : proposal.attribution.model ≠ some ""
  context : proposal.context.Valid
  size : proposal.estimatedSize ≤ 512 * 1024

/-- What the check of a proposal has checked. -/
theorem checked_of_validateMaterial (valid : proposal.validateMaterial = .ok ()) :
    proposal.Checked := by
  simp only [validateMaterial, validateCollectionLen, ProposalAttribution.validate,
    check_bind_eq_ok,
    demand_eq_ok] at valid
  obtain ⟨version, -, -, -, requirements, capabilityRefs, assumptions,
    unresolvedQuestions, explanation,
    -, -, -, -, -, confidence, ⟨-, provider, model, -⟩, context, size⟩ := valid
  refine ⟨version, requirements, capabilityRefs, assumptions, unresolvedQuestions,
    explanation, ?_, ?_, ?_,
    InterpretationContextBinding.valid_of_validate context, size⟩
  · intro value some_
    rw [Option.mem_def.mp some_] at confidence
    exact demand_eq_ok.mp (forM_eq_ok_iff.mp confidence value (by simp))
  · intro empty
    rw [empty] at provider
    exact ne_empty_of_validateToken (forM_eq_ok_iff.mp provider "" (by simp)) rfl
  · intro empty
    rw [empty] at model
    exact ne_empty_of_validateToken (forM_eq_ok_iff.mp model "" (by simp)) rfl

namespace Checked

variable (checked : proposal.Checked)

include checked

/-- Everything in a proposal is shorter than its estimated size. -/
theorem short_of_le {text : String} (le : text.utf8ByteSize ≤ proposal.estimatedSize) :
    Short text :=
  .of_le (le.trans checked.size) (by decide)

theorem brief : proposal.context.Brief := by
  refine ⟨checked.short_of_le (by unfold estimatedSize; omega), fun source member => ?_⟩
  have le := List.single_le_sum (fun _ _ => Nat.zero_le _) _ (List.mem_map_of_mem
    (f := fun source : AuthoritySourceRevision =>
      source.id.utf8ByteSize + source.revision.utf8ByteSize)
    member)
  exact ⟨checked.short_of_le (by unfold estimatedSize; omega),
    checked.short_of_le (by unfold estimatedSize; omega)⟩

theorem short_statement {requirement : Requirement} (member : requirement ∈ proposal.requirements) :
    Short requirement.statement := by
  have le := List.single_le_sum (fun _ _ => Nat.zero_le _) _ (List.mem_map_of_mem
    (f := fun requirement : Requirement =>
      requirement.id.value.utf8ByteSize + requirement.statement.utf8ByteSize) member)
  exact checked.short_of_le (by unfold estimatedSize; omega)

/-- A list of texts that is counted in the estimated size. -/
theorem listed {values : List String} (few : values.length ≤ 256)
    (counted : stringListBytes values ≤ proposal.estimatedSize) :
    values.length < 2 ^ 64 ∧ ∀ value ∈ values, Short value :=
  ⟨by omega, fun _ member =>
    checked.short_of_le ((utf8ByteSize_le_stringListBytes member).trans counted)⟩

end Checked

/-- Every field of a checked proposal can be read back from what is hashed. -/
structure Readable (proposal : IntentProposal) : Prop where
  version : proposal.schemaVersion < 2 ^ 64
  outcome : Short proposal.requestedOutcome
  requirements : proposal.requirements.length < 2 ^ 64 ∧
    ∀ requirement ∈ proposal.requirements, Short requirement.statement
  capabilityRefs : proposal.capabilityRefs.length < 2 ^ 64 ∧ ∀ id ∈ proposal.capabilityRefs, True
  assumptions : proposal.assumptions.length < 2 ^ 64 ∧ ∀ value ∈ proposal.assumptions, Short value
  unresolvedQuestions : proposal.unresolvedQuestions.length < 2 ^ 64 ∧
    ∀ value ∈ proposal.unresolvedQuestions, Short value
  confidence : ∀ value ∈ proposal.confidence, value.permille < 2 ^ 64
  provider : proposal.attribution.provider ≠ some "" ∧
    ∀ value ∈ proposal.attribution.provider, Short value
  model : proposal.attribution.model ≠ some "" ∧ ∀ value ∈ proposal.attribution.model, Short value
  adapter : Short proposal.attribution.adapter
  explanation : proposal.explanation.length < 2 ^ 64 ∧ ∀ value ∈ proposal.explanation, Short value

/-- A proposal that was checked is readable. -/
theorem Checked.readable (checked : proposal.Checked) : proposal.Readable where
  version := by
    rw [checked.version]
    decide
  outcome := checked.short_of_le (by unfold estimatedSize; omega)
  requirements := ⟨checked.requirements.trans_lt (by decide), fun _ => checked.short_statement⟩
  capabilityRefs := ⟨checked.capabilityRefs.trans_lt (by decide), fun _ _ => trivial⟩
  assumptions := checked.listed checked.assumptions (by unfold estimatedSize; omega)
  unresolvedQuestions := checked.listed checked.unresolvedQuestions (by unfold estimatedSize; omega)
  confidence := fun value some_ => (checked.confidence value some_).trans_lt (by decide)
  provider := by
    refine ⟨checked.provider, fun value some_ => checked.short_of_le ?_⟩
    rw [estimatedSize, Option.mem_def.mp some_]
    simp only [Option.map_some, Option.getD_some]
    omega
  model := by
    refine ⟨checked.model, fun value some_ => checked.short_of_le ?_⟩
    rw [estimatedSize, Option.mem_def.mp some_]
    simp only [Option.map_some, Option.getD_some]
    omega
  adapter := checked.short_of_le (by unfold estimatedSize; omega)
  explanation := checked.listed checked.explanation (by unfold estimatedSize; omega)

/-- What is hashed determines every field, the context through its digest. -/
theorem eq_of_material_eq (readable : proposal.Readable) (readable' : proposal'.Readable)
    (same : proposal.material sha256 = proposal'.material sha256) :
    (proposal.context.withoutSources = proposal'.context.withoutSources →
        proposal.content = proposal'.content) ∧
      proposal.context.digest sha256 = proposal'.context.digest sha256 := by
  have tag : Short "linura:intent-proposal:v1" := by decide
  have ids : SelfDelimiting _ fun ids : List CapabilityId =>
      be64 ids.length ++ ids.flatMap fun id => frame (asBytes id.value) := delimiting_id.list
  have manuals : SelfDelimiting (fun _ => True) fun manual : Bool =>
      frame (asBytes (if manual then "manual" else "provider")) :=
    delimiting_choice (by decide) (by decide) (by decide)
  obtain ⟨-, same⟩ := SelfDelimiting.text tag tag same
  obtain ⟨version, same⟩ := SelfDelimiting.word readable.version readable'.version same
  obtain ⟨proposalId, same⟩ := delimiting_id trivial trivial same
  obtain ⟨actor, same⟩ := delimiting_actor trivial trivial same
  obtain ⟨outcome, same⟩ := SelfDelimiting.text readable.outcome readable'.outcome same
  obtain ⟨requirements, same⟩ :=
    delimiting_requirement.list readable.requirements readable'.requirements same
  obtain ⟨capabilityRefs, same⟩ := ids readable.capabilityRefs readable'.capabilityRefs same
  obtain ⟨assumptions, same⟩ :=
    SelfDelimiting.text.list readable.assumptions readable'.assumptions same
  obtain ⟨questions, same⟩ :=
    SelfDelimiting.text.list readable.unresolvedQuestions readable'.unresolvedQuestions same
  obtain ⟨confidence, same⟩ := delimiting_confidence readable.confidence readable'.confidence same
  obtain ⟨context, same⟩ := delimiting_digest trivial trivial same
  obtain ⟨provider, same⟩ := delimiting_optional readable.provider readable'.provider same
  obtain ⟨model, same⟩ := delimiting_optional readable.model readable'.model same
  obtain ⟨adapter, same⟩ := SelfDelimiting.text readable.adapter readable'.adapter same
  obtain ⟨manual, same⟩ := manuals trivial trivial same
  have explanation := SelfDelimiting.text.list.injOn readable.explanation readable'.explanation same
  refine ⟨fun contexts => ?_, context⟩
  have attribution : proposal.attribution = proposal'.attribution := by
    rw [ProposalAttribution.mk.injEq]
    exact ⟨provider, model, adapter, manual⟩
  simp only [content, mk.injEq]
  exact ⟨version, proposalId, actor, outcome, requirements, capabilityRefs, assumptions, questions,
    confidence, contexts, attribution, explanation, trivial⟩

/-- Equal contents hash the same bytes. -/
theorem material_eq_of_sameContent (checked : proposal.Checked) (checked' : proposal'.Checked)
    (same : proposal.SameContent proposal') : proposal.material sha256 =
      proposal'.material sha256 := by
  obtain ⟨fields, sources⟩ := same
  have canonical :=
    (InterpretationContextBinding.canonical_eq_iff checked.context checked'.context).mpr sources
  simp only [content, InterpretationContextBinding.withoutSources, mk.injEq,
    InterpretationContextBinding.mk.injEq] at fields
  obtain ⟨version, proposalId, actor, outcome, requirements, capabilityRefs, assumptions, questions,
    confidence, ⟨revision, input, -⟩, attribution, explanation, -⟩ := fields
  have context : proposal.context.digest sha256 = proposal'.context.digest sha256 := by
    simp only [InterpretationContextBinding.digest, InterpretationContextBinding.material,
      revision, input,
      canonical]
  simp only [material, version, proposalId, actor, outcome, requirements,
    capabilityRefs, assumptions,
    questions, confidence, context, attribution, explanation]

/-- Two checked proposals have one digest exactly if they have the same content. -/
theorem deriveDigest_eq_iff (checked : proposal.Checked) (checked' : proposal'.Checked)
    (collisionFree : Set.InjOn sha256 {proposal.material sha256, proposal'.material sha256,
      proposal.context.material, proposal'.context.material}) :
    proposal.deriveDigest sha256 = proposal'.deriveDigest sha256 ↔
      proposal.SameContent proposal' := by
  constructor
  · intro same
    have hashed := collisionFree (by simp) (by simp) (ProposalDigest.mk.inj same)
    obtain ⟨fields, contexts⟩ := eq_of_material_eq checked.readable checked'.readable hashed
    -- the digests of the contexts are themselves hashes, of bytes that determine the contexts
    obtain ⟨revision, input, sources⟩ := InterpretationContextBinding.eq_of_material_eq
      (checked.context.few.trans_lt (by decide))
      (checked'.context.few.trans_lt (by decide)) checked.brief
      checked'.brief
      (collisionFree (by simp) (by simp) (ProposalDigest.mk.inj contexts))
    refine ⟨fields ?_, ?_⟩
    · rw [InterpretationContextBinding.withoutSources,
        InterpretationContextBinding.withoutSources, revision,
        input]
    · exact (InterpretationContextBinding.canonical_eq_iff checked.context
        checked'.context).mp sources
  · intro same
    rw [deriveDigest, deriveDigest, material_eq_of_sameContent checked checked' same]

/-- What `new_v1` returns. -/
theorem newV1_eq_ok {arguments : IntentProposal} (built : newV1 sha256 arguments = .ok proposal) :
    proposal.validateMaterial = .ok () ∧
      proposal.canonicalDigest = proposal.deriveDigest sha256 := by
  simp only [newV1, check_bind_eq_ok] at built
  obtain ⟨valid, same⟩ := built
  obtain rfl := Except.ok.inj same
  exact ⟨valid, rfl⟩

/-- Two proposals that pass the checks have one digest exactly if every field but the digest is
equal, the sources of the context taken as sets.  A proposal that passes `validate` has the digest
of one that `new_v1` made exactly if it has the content of that one: neither its fields nor its
digest were changed alone. -/
theorem digest_binds (collisionFree : Set.InjOn sha256 {proposal.material sha256,
      proposal'.material sha256, proposal.context.material, proposal'.context.material}) :
    (proposal.validateMaterial = .ok () → proposal'.validateMaterial = .ok () →
      (proposal.deriveDigest sha256 = proposal'.deriveDigest sha256 ↔
        proposal.SameContent proposal')) ∧
    ∀ arguments, newV1 sha256 arguments = .ok proposal' → proposal.validate sha256 = .ok () →
      (proposal.canonicalDigest = proposal'.canonicalDigest ↔ proposal.SameContent proposal') := by
  refine ⟨fun valid valid' => ?_, fun arguments built accepted => ?_⟩
  · exact deriveDigest_eq_iff (checked_of_validateMaterial valid)
      (checked_of_validateMaterial valid')
      collisionFree
  · obtain ⟨valid', digest'⟩ := newV1_eq_ok built
    simp only [validate, check_bind_eq_ok, demand_eq_ok] at accepted
    obtain ⟨valid, digest⟩ := accepted
    rw [digest, digest']
    exact deriveDigest_eq_iff (checked_of_validateMaterial valid)
      (checked_of_validateMaterial valid')
      collisionFree

/-- A hash that only tells the length of its input, to evaluate the model on concrete inputs. -/
def lengthHash : Sha256 := fun bytes => .replicate 32 (UInt8.ofNat bytes.length)

def manualProposal (outcome : String) : IntentProposal where
  schemaVersion := 1
  proposalId := ⟨"proposal:1", by decide⟩
  actor := ⟨⟨"uid:1000", by decide⟩, .human, true⟩
  requestedOutcome := outcome
  requirements := [⟨⟨"r1", by decide⟩, .goal, "editor"⟩]
  capabilityRefs := []
  assumptions := []
  unresolvedQuestions := []
  confidence := some ⟨700⟩
  context := ⟨"context:1", .zero, [⟨.policy, "policy:1", "1"⟩]⟩
  attribution := ⟨none, none, "shell", true⟩
  explanation := []
  canonicalDigest := .zero

theorem digest_binds_manualProposal :
    (manualProposal "edit").validateMaterial = .ok () ∧
      (manualProposal "edit text").validateMaterial = .ok () ∧
      (manualProposal "edit").deriveDigest lengthHash ≠
      (manualProposal "edit text").deriveDigest lengthHash := by
  have valid : (manualProposal "edit").validateMaterial = .ok () := by decide +kernel
  have valid' : (manualProposal "edit text").validateMaterial = .ok () := by decide +kernel
  have separated :
    ([(manualProposal "edit").material lengthHash, (manualProposal "edit text").material lengthHash,
      (manualProposal "edit").context.material, (manualProposal "edit text").context.material].all
        fun bytes =>
      [(manualProposal "edit").material lengthHash,
        (manualProposal "edit text").material lengthHash,
        (manualProposal "edit").context.material, (manualProposal "edit text").context.material].all
          fun bytes' =>
        lengthHash bytes ≠ lengthHash bytes' || bytes = bytes') = true := by decide +kernel
  have collisionFree : Set.InjOn lengthHash {(manualProposal "edit").material lengthHash,
      (manualProposal "edit text").material lengthHash, (manualProposal "edit").context.material,
      (manualProposal "edit text").context.material} := by
    intro bytes member bytes' member' same
    have compared :=
      List.all_eq_true.mp (List.all_eq_true.mp separated bytes (by simpa using member)) bytes'
      (by simpa using member')
    simpa [same] using compared
  refine ⟨valid, valid', fun same => ?_⟩
  have content := ((digest_binds collisionFree).1 valid valid').mp same
  have outcome : "edit" = "edit text" := congrArg requestedOutcome content.1
  exact absurd outcome (by decide)

end IntentProposal

end Linura.Intents
