import Linura.Lib.Except
import Linura.Lib.Split
import Linura.Core.Identifiers

/-!
# Intents

An intent of `linura-intent` is a statement of an actor with requirements and a lineage.
-/

namespace Linura.Intents

open Linura.Lib Linura.Core

inductive IntentStatus
  | proposed
  | active
  | suspended
  | superseded
  | retired
  deriving DecidableEq, Repr

inductive RequirementKind
  | goal
  | constraint
  | preference
  | prohibition
  deriving DecidableEq, Repr

/-- `requirement_kind_str` -/
def RequirementKind.asStr : RequirementKind → String
  | .goal => "goal"
  | .constraint => "constraint"
  | .preference => "preference"
  | .prohibition => "prohibition"

theorem RequirementKind.asStr_injective : Function.Injective RequirementKind.asStr := by
  intro kind kind' same
  cases kind <;> cases kind' <;> simp [asStr] at same <;> rfl

def actorKindStr : ActorKind → String
  | .human => "human"
  | .service => "service"
  | .agent => "agent"
  | .remote => "remote"

theorem actorKindStr_injective : Function.Injective actorKindStr := by
  intro kind kind' same
  cases kind <;> cases kind' <;> simp [actorKindStr] at same <;> rfl

structure Requirement where
  id : RequirementId
  kind : RequirementKind
  statement : String
  deriving DecidableEq

@[ext]
structure Intent where
  id : IntentId
  actor : Actor
  statement : String
  status : IntentStatus
  requirements : List Requirement
  supersedes : List IntentId
  deriving DecidableEq

end Linura.Intents
