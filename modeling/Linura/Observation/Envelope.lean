import Linura.Core.Identifiers
import Linura.Lib.BTreeMap
import Linura.Lib.Words

/-!
# Observations

What a provider reports about a resource: typed attributes, who vouches for them, when
they were seen and for how long they count.
-/

namespace Linura.Observation

open Linura.Lib Linura.Core

/-- Who vouches for an observation. -/
inductive ObservationAuthority
  | nativeApi
  | kernel
  | filesystem
  | syntheticTest
  deriving DecidableEq, Repr

/-- `ObservationAuthority::as_str` -/
def ObservationAuthority.asStr : ObservationAuthority → String
  | .nativeApi => "native-api"
  | .kernel => "kernel"
  | .filesystem => "filesystem"
  | .syntheticTest => "synthetic-test"

inductive ObservedValue
  | text (value : String)
  | bool (value : Bool)
  | u64 (value : Nat)
  | i64 (value : Int)
  deriving DecidableEq, Repr

/-- The text of a value, as `Display` writes it. -/
def ObservedValue.display : ObservedValue → String
  | .text value => value
  | .bool value => if value then "true" else "false"
  | .u64 value => toString value
  | .i64 value => toString value

/-- Whether an observation counts at some time. -/
inductive FreshnessState
  | current
  | stale
  | future
  deriving DecidableEq, Repr

structure ObservationEnvelope where
  provider : ProviderId
  resource : ResourceId
  capability : CapabilityId
  authority : ObservationAuthority
  observedAtUnixMs : Nat
  validForMs : Nat
  sequence : Nat
  attributes : BTreeMap String ObservedValue
  deriving DecidableEq

inductive ObservationValidationError
  | providerMismatch
  | resourceMismatch
  | capabilityMismatch
  | missingTimestamp
  | invalidValidityWindow
  | emptyEvidence
  | invalidAttributeKey
  | staleEvidence
  | futureEvidence
  deriving DecidableEq, Repr

/-- The text of a refusal, as `Display` writes it. -/
def ObservationValidationError.display : ObservationValidationError → String
  | .providerMismatch => "observation provider identity mismatch"
  | .resourceMismatch => "observation resource identity mismatch"
  | .capabilityMismatch => "observation capability identity mismatch"
  | .missingTimestamp => "observation timestamp is missing"
  | .invalidValidityWindow => "observation validity window must be greater than zero"
  | .emptyEvidence => "observation evidence cannot be empty"
  | .invalidAttributeKey => "observation attribute key is invalid"
  | .staleEvidence => "observation evidence is stale"
  | .futureEvidence => "observation timestamp is in the future"

namespace ObservationEnvelope

variable (envelope : ObservationEnvelope)

/-- `ObservationEnvelope::validate` -/
def validate (expectedProvider : ProviderId) (expectedResource : ResourceId)
    (expectedCapability : CapabilityId) : Except ObservationValidationError Unit :=
  if envelope.provider ≠ expectedProvider then .error .providerMismatch
  else if envelope.resource ≠ expectedResource then .error .resourceMismatch
  else if envelope.capability ≠ expectedCapability then .error .capabilityMismatch
  else if envelope.observedAtUnixMs = 0 then .error .missingTimestamp
  else if envelope.validForMs = 0 then .error .invalidValidityWindow
  else if envelope.attributes.entries.isEmpty then .error .emptyEvidence
  else if envelope.attributes.keys.any fun key => trimIsEmpty key || hasControl key then
    .error .invalidAttributeKey
  else .ok ()

/-- `ObservationEnvelope::freshness_at` -/
def freshnessAt (nowUnixMs : Nat) : FreshnessState :=
  if nowUnixMs < envelope.observedAtUnixMs then .future
  else if nowUnixMs ≤ saturatingAdd envelope.observedAtUnixMs envelope.validForMs then .current
  else .stale

/-- `ObservationEnvelope::require_current` -/
def requireCurrent (nowUnixMs : Nat) : Except ObservationValidationError Unit :=
  match envelope.freshnessAt nowUnixMs with
  | .current => .ok ()
  | .stale => .error .staleEvidence
  | .future => .error .futureEvidence

/-- `ObservationEnvelope::evidence_id` -/
def evidenceId : String :=
  let provider := envelope.provider.value
  let resource := envelope.resource.value
  let capability := envelope.capability.value
  "observation:v1:" ++ toString provider.utf8ByteSize ++ ":" ++ provider ++ ":"
    ++ toString resource.utf8ByteSize ++ ":" ++ resource ++ ":"
    ++ toString capability.utf8ByteSize ++ ":" ++ capability ++ ":"
    ++ toString envelope.observedAtUnixMs ++ ":" ++ toString envelope.sequence

end ObservationEnvelope

structure ObservationRequest where
  provider : ProviderId
  resource : ResourceId
  capability : CapabilityId
  deriving DecidableEq

structure ObservationResponse where
  observation : ObservationEnvelope
  freshness : FreshnessState
  deriving DecidableEq

end Linura.Observation
