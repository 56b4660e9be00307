import Linura.Observation.Envelope

/-!
# The observation coordinator

The coordinator checks what an observer returns and keeps, for each resource, the evidence
that is current.  An observation that is not newer than the current evidence of its
resource is refused.  Only so many resources are remembered: the one that was seen longest
ago is forgotten first, and with it the evidence that newer observations are compared to.
-/

namespace Linura.Observation

open Linura.Lib Linura.Core

/-- The part of a resource's node in the graph that newer evidence is compared to. -/
structure CurrentEvidence where
  provider : ProviderId
  observedAtUnixMs : Nat
  sequence : Nat
  deriving DecidableEq

/-- `observation_is_newer`: one observer numbers its observations, and between observers the time
decides first. -/
def observationIsNewer (current : CurrentEvidence) (incoming : ObservationEnvelope) : Bool :=
  if current.provider = incoming.provider then current.sequence < incoming.sequence
  else current.observedAtUnixMs < incoming.observedAtUnixMs ||
    (current.observedAtUnixMs = incoming.observedAtUnixMs && current.sequence < incoming.sequence)

/-- `ObservationCoordinator`, without its observers and the evidence history, which decides
nothing. -/
structure ObservationCoordinator where
  maxResources : Nat
  current : BTreeMap ResourceId CurrentEvidence
  resourceLastSeen : BTreeMap ResourceId Nat
  retentionOrder : Nat

namespace ObservationCoordinator

/-- `ObservationCoordinator::with_limits` -/
def withLimit (maxResources : Nat) : ObservationCoordinator := ⟨maxResources, .empty, .empty, 0⟩

variable (coordinator : ObservationCoordinator)

/-- The resource that was seen longest ago. -/
def oldestResource : Option ResourceId :=
  let older (best : Option (ResourceId × Nat)) (entry : ResourceId × Nat) :=
    match best with
    | none => some entry
    | some other => if entry.2 < other.2 then some entry else best
  (coordinator.resourceLastSeen.entries.foldl older none).map Prod.fst

/-- `evict_resource` -/
def evictResource (resource : ResourceId) : ObservationCoordinator :=
  { coordinator with
    current := coordinator.current.remove resource
    resourceLastSeen := coordinator.resourceLastSeen.remove resource }

/-- `enforce_resource_limit`, with a bound on the evictions: each removes a resource. -/
def enforceResourceLimit (coordinator : ObservationCoordinator) : Nat → ObservationCoordinator
  | 0 => coordinator
  | bound + 1 =>
    if coordinator.resourceLastSeen.len ≤ coordinator.maxResources then coordinator
    else
      match coordinator.oldestResource with
      | none => coordinator
      | some resource => enforceResourceLimit (coordinator.evictResource resource) bound

/-- Remember when a resource was seen, and forget others if there are too many. -/
def retain (resource : ResourceId) : ObservationCoordinator :=
  let seen := { coordinator with
    resourceLastSeen := coordinator.resourceLastSeen.insert resource coordinator.retentionOrder }
  seen.enforceResourceLimit seen.resourceLastSeen.len

/-- `observe_with_clock`, once the observer has returned an observation: it is checked, recorded
if it is newer than the current evidence, and the resource is retained either way. -/
def accept (request : ObservationRequest) (observation : ObservationEnvelope) (now : Option Nat) :
    Except String ObservationResponse × ObservationCoordinator :=
  match observation.validate request.provider request.resource request.capability with
  | .error reason => (.error reason.display, coordinator)
  | .ok () =>
    match now with
    | none =>
      (.error "observation clock failed: second time provided was later than self", coordinator)
    | some nowUnixMs =>
      if u64Max < nowUnixMs then
        (.error "observation clock failed: Unix timestamp exceeds u64 milliseconds", coordinator)
      else
        match observation.requireCurrent nowUnixMs with
        | .error reason => (.error reason.display, coordinator)
        | .ok () =>
          match checkedAdd coordinator.retentionOrder 1 with
          | none => (.error "observation retention order exhausted", coordinator)
          | some order =>
            let coordinator := { coordinator with retentionOrder := order }
            let newer := (coordinator.current.get? request.resource).all
              fun current => observationIsNewer current observation
            if newer then
              let recorded := { coordinator with
                current := coordinator.current.insert request.resource
                  ⟨observation.provider, observation.observedAtUnixMs, observation.sequence⟩ }
              (.ok ⟨observation, .current⟩, recorded.retain request.resource)
            else
              (.error ("observation " ++ observation.evidenceId ++ " for " ++ request.resource.value
                ++ " is older than the current authoritative state"),
                coordinator.retain request.resource)

end ObservationCoordinator

end Linura.Observation
