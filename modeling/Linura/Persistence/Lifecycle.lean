import Linura.Persistence.Validation
import Mathlib

/-!
# The life of a transaction

What the store is for, in its own terms.  A transaction is prepared under a binding and
handed to an executor at most once per generation; what became of a handed-off generation is
unknown until recovery says that the intended state was reached, that it was not, that nothing
happened (so that the next generation may be prepared), or that it still cannot tell.  Only a
verified transaction is committed, with the material recorded when it was verified.

A `History` is a transaction with everything that happened to it, and a `Lifecycle` is a history
with the facts that every transition keeps.  Tables, tags and digests appear in neither.
-/

namespace Linura.Persistence

open Linura.Lib Linura.Core Linura.Transaction
open scoped Computability

/-! ### Audit entries -/

inductive EventKind
  | prepared
  | handoffIndeterminate
  | recoveryVerified
  | recoveryBlocked
  | recoveryAmbiguous
  | recoveryRetiredNoEffect
  | recoveryReprepared
  | committed
  | abortedPrepared
  deriving DecidableEq, Repr

namespace EventKind

/-- The stored text of an event kind. -/
def asStr : EventKind → String
  | .prepared => "prepared"
  | .handoffIndeterminate => "handoff-indeterminate"
  | .recoveryVerified => "recovery-verified"
  | .recoveryBlocked => "recovery-blocked"
  | .recoveryAmbiguous => "recovery-ambiguous"
  | .recoveryRetiredNoEffect => "recovery-retired-no-effect"
  | .recoveryReprepared => "recovery-reprepared"
  | .committed => "committed"
  | .abortedPrepared => "aborted-prepared"

/-- The state that an event leaves its generation in. -/
def state : EventKind → TransactionState
  | .prepared | .recoveryReprepared => .prepared
  | .handoffIndeterminate | .recoveryAmbiguous => .indeterminate
  | .recoveryVerified => .verified
  | .committed => .committed
  | .abortedPrepared | .recoveryRetiredNoEffect => .aborted
  | .recoveryBlocked => .recoveryBlocked

/-- Event kinds are read as they are written. -/
@[simp]
theorem stateForEventKind_asStr (config : StoreConfig) (kind : EventKind) :
    stateForEventKind config kind.asStr = .ok kind.state := by
  cases kind <;> rfl

theorem asStr_injective : Function.Injective asStr := by
  intro kind kind' same
  cases kind <;> cases kind' <;> first | rfl | exact absurd same (by decide)

theorem isBoundedText_asStr (kind : EventKind) :
    isBoundedText maxAuditEventKindBytes kind.asStr = true := by
  cases kind <;> decide

end EventKind

/-- What an audit event records, apart from its place in the chain. -/
structure AuditEntry where
  generation : Nat
  stateVersion : Nat
  kind : EventKind
  payload : ContentDigest
  deriving DecidableEq

/-- The digests recorded when a transaction is verified, which its commit has to repeat. -/
structure CommitMaterial where
  desired : ContentDigest
  graph : ContentDigest
  provenance : ContentDigest
  deriving DecidableEq

/-! ### Histories and transitions -/

/-- A transaction and everything that happened to it. -/
structure History (sha256 : Sha256) where
  transactionId : TransactionId
  principal : PrincipalId
  requestId : RequestId
  /-- The bindings of the generations that were retired, oldest first. -/
  retired : List (AuthorityBinding sha256)
  /-- The binding of the current generation. -/
  binding : AuthorityBinding sha256
  state : TransactionState
  stateVersion : Nat
  material : Option CommitMaterial
  log : List AuditEntry

/-- What may happen to a transaction after it was prepared. -/
inductive Transition (sha256 : Sha256)
  | handOff (authorityUse : ContentDigest)
  | verify (observation : ContentDigest) (material : CommitMaterial)
  | block (observation : ContentDigest)
  | leaveIndeterminate (observation : ContentDigest)
  | reprepare (observation : ContentDigest) (next : AuthorityBinding sha256)
  | commit (material : CommitMaterial)
  | abort (reason : ContentDigest)

namespace History

variable {sha256 : Sha256}

variable (history : History sha256)

/-- The number of the current generation. -/
def generation : Nat := history.retired.length

/-- What the store tells about the transaction. -/
def snapshot : TransactionSnapshot where
  transactionId := history.transactionId
  principal := history.principal
  requestId := history.requestId
  currentGeneration := history.generation
  stateVersion := history.stateVersion
  state := history.state
  bindingDigest := history.binding.digest

/-- The texts of the event kinds, in the order of the log. -/
def kinds : List String := history.log.map fun entry => entry.kind.asStr

/-- A transaction that was just prepared. -/
def prepared (binding : AuthorityBinding sha256) : History sha256 where
  transactionId := binding.transactionId
  principal := binding.principal
  requestId := binding.requestId
  retired := []
  binding := binding
  state := .prepared
  stateVersion := 1
  material := none
  log := [⟨0, 1, .prepared, binding.digest⟩]

/-- Move on within the current generation, with some commit material, and record why. -/
def advance (kind : EventKind) (payload : ContentDigest) (material : Option CommitMaterial) :
    History sha256 :=
  { history with
    state := kind.state
    stateVersion := history.stateVersion + 1
    material := material
    log := history.log ++ [⟨history.generation, history.stateVersion + 1, kind, payload⟩] }

/-- Retire the current generation and prepare the next one. -/
def renew (observation : ContentDigest) (next : AuthorityBinding sha256) : History sha256 :=
  { history with
    retired := history.retired ++ [history.binding]
    binding := next
    state := .prepared
    stateVersion := history.stateVersion + 1
    log := history.log ++
      [⟨history.generation, history.stateVersion + 1, .recoveryRetiredNoEffect, observation⟩] ++
      [⟨history.generation + 1, history.stateVersion + 1, .recoveryReprepared, next.digest⟩] }

/-- The effect of a transition, if the transaction allows it. -/
def apply : Transition sha256 → Option (History sha256)
  | .handOff authorityUse =>
    if history.state = .prepared then
      some (history.advance .handoffIndeterminate authorityUse none)
    else none
  | .verify observation material =>
    if history.state = .indeterminate then
      some (history.advance .recoveryVerified observation (some material))
    else none
  | .block observation =>
    if history.state = .indeterminate then
      some (history.advance .recoveryBlocked observation none)
    else none
  | .leaveIndeterminate observation =>
    if history.state = .indeterminate then
      some (history.advance .recoveryAmbiguous observation none)
    else none
  | .reprepare observation next =>
    if history.state = .indeterminate ∧ next.transactionId = history.transactionId ∧
        history.generation + 1 < maxTransactionGenerations then
      some (history.renew observation next)
    else none
  | .commit material =>
    if history.state = .verified ∧ history.material = some material then
      some (history.advance .committed
        (commitPayload sha256 material.desired material.graph material.provenance) (some material))
    else none
  | .abort reason =>
    if history.state = .prepared then some (history.advance .abortedPrepared reason none) else none

end History

/-! ### The language of audit logs -/

/-- The log of one event. -/
def event (kind : EventKind) : Language String := {[kind.asStr]}

/-- A handoff, and recoveries that could not tell what became of it. -/
def attempt : Language String := event .handoffIndeterminate * (event .recoveryAmbiguous)∗

/-- An attempt that had no effect, after which the next generation is prepared. -/
def retry : Language String :=
  attempt * event .recoveryRetiredNoEffect * event .recoveryReprepared

/-- The logs of a transaction in a state. -/
def logsIn : TransactionState → Language String
  | .prepared => event .prepared * retry∗
  | .indeterminate => event .prepared * retry∗ * attempt
  | .verified => event .prepared * retry∗ * attempt * event .recoveryVerified
  | .committed => event .prepared * retry∗ * attempt * event .recoveryVerified * event .committed
  | .aborted => event .prepared * retry∗ * event .abortedPrepared
  | .recoveryBlocked => event .prepared * retry∗ * attempt * event .recoveryBlocked

/-- The logs of a transaction. -/
def auditLanguage : Language String :=
  event .prepared * (event .handoffIndeterminate * (event .recoveryAmbiguous)∗ *
      event .recoveryRetiredNoEffect * event .recoveryReprepared)∗ *
    (1 + event .abortedPrepared +
      event .handoffIndeterminate * (event .recoveryAmbiguous)∗ *
        (1 + event .recoveryBlocked + event .recoveryVerified * (1 + event .committed)))

theorem mem_event (kind : EventKind) : [kind.asStr] ∈ event kind := rfl

theorem attempt_mul_ambiguous_le : attempt * event .recoveryAmbiguous ≤ attempt := by
  rw [attempt, mul_assoc]
  exact mul_le_mul_right kstar_mul_le_kstar _

theorem event_le_attempt : event .handoffIndeterminate ≤ attempt := by
  calc
    event .handoffIndeterminate = event .handoffIndeterminate * 1 := (mul_one _).symm
    _ ≤ attempt := mul_le_mul_right one_le_kstar _

/-- Whatever its state, a transaction's log belongs to the language. -/
theorem logsIn_le_auditLanguage (state : TransactionState) : logsIn state ≤ auditLanguage := by
  have expand : auditLanguage = logsIn .prepared + logsIn .aborted + (logsIn .indeterminate +
      logsIn .recoveryBlocked + (logsIn .verified + logsIn .committed)) := by
    simp only [auditLanguage, logsIn, retry, attempt, mul_add, mul_one, mul_assoc]
  rw [expand]
  cases state with
  | prepared => exact le_add_right (le_add_right le_rfl)
  | aborted => exact le_add_right (le_add_left le_rfl)
  | indeterminate => exact le_add_left (le_add_right (le_add_right le_rfl))
  | recoveryBlocked => exact le_add_left (le_add_right (le_add_left le_rfl))
  | verified => exact le_add_left (le_add_left (le_add_right le_rfl))
  | committed => exact le_add_left (le_add_left (le_add_left le_rfl))

/-- The events that may follow in a state without a change of generation. -/
inductive Follows : TransactionState → EventKind → Prop
  | handOff : Follows .prepared .handoffIndeterminate
  | abort : Follows .prepared .abortedPrepared
  | verify : Follows .indeterminate .recoveryVerified
  | block : Follows .indeterminate .recoveryBlocked
  | leaveIndeterminate : Follows .indeterminate .recoveryAmbiguous
  | commit : Follows .verified .committed

namespace Follows

variable {state : TransactionState} {kind : EventKind}

theorem isNonterminal (follows : Follows state kind) : isNonterminal state = true := by
  cases follows <;> rfl

theorem ne_recoveryReprepared (follows : Follows state kind) : kind ≠ .recoveryReprepared := by
  cases follows <;> decide

theorem state_ne_prepared (follows : Follows state kind) : kind.state ≠ .prepared := by
  cases follows <;> decide

/-- An event that follows takes the logs of one state to those of the next. -/
theorem logsIn_mul_le (follows : Follows state kind) :
    logsIn state * event kind ≤ logsIn kind.state := by
  cases follows with
  | handOff => exact mul_le_mul_right event_le_attempt _
  | leaveIndeterminate =>
    show event .prepared * retry∗ * attempt * event .recoveryAmbiguous ≤ _
    rw [mul_assoc]
    exact mul_le_mul_right attempt_mul_ambiguous_le _
  | abort | verify | block | commit => exact le_rfl

end Follows

/-! ### Lifecycles -/

/-- A re-preparation, which starts a generation. -/
def AuditEntry.startsGeneration (entry : AuditEntry) : Bool := entry.kind = .recoveryReprepared

/-- Every entry carries the number of re-preparations up to and including it. -/
def Numbered (log : List AuditEntry) : Prop :=
  ∀ before entry after, log = before ++ entry :: after →
    entry.generation = (before ++ [entry]).countP AuditEntry.startsGeneration

theorem Numbered.concat {log : List AuditEntry} {entry : AuditEntry} (numbered : Numbered log)
    (number : entry.generation = (log ++ [entry]).countP AuditEntry.startsGeneration) :
    Numbered (log ++ [entry]) := by
  intro before entry' after split
  rcases List.eq_nil_or_concat after with rfl | ⟨init, last, rfl⟩
  · obtain ⟨rfl, same⟩ := List.append_inj' split rfl
    cases same
    exact number
  · rw [List.concat_eq_append, ← List.cons_append, ← List.append_assoc] at split
    obtain ⟨same, -⟩ := List.append_inj' split rfl
    exact numbered before entry' init same

/-- What holds of a transaction whatever happened to it. -/
structure History.WellFormed {sha256 : Sha256} (history : History sha256) : Prop where
  /-- The identity is that of the principal and the request. -/
  namespace_eq : TransactionId.forNamespace sha256 history.principal history.requestId =
    history.transactionId
  /-- Every binding is one of this transaction. -/
  bindings : ∀ binding ∈ history.retired ++ [history.binding],
    binding.transactionId = history.transactionId
  generation_lt : history.generation < maxTransactionGenerations
  stateVersion_pos : 0 < history.stateVersion
  /-- Every transition but a re-preparation writes one entry, and that one writes two. -/
  log_length : history.log.length = history.stateVersion + history.generation
  /-- The last entry tells the generation, the version and the state. -/
  tail : ∃ before entry, history.log = before ++ [entry] ∧
    entry.generation = history.generation ∧ entry.stateVersion = history.stateVersion ∧
    entry.kind.state = history.state ∧
    ∀ material, history.state = .committed → history.material = some material →
      entry.payload = commitPayload sha256 material.desired material.graph material.provenance
  /-- Commit material is there from verification on. -/
  material_isSome : history.material.isSome ↔
    history.state = .verified ∨ history.state = .committed
  numbered : Numbered history.log
  generation_eq : history.generation = history.log.countP AuditEntry.startsGeneration
  word : history.kinds ∈ logsIn history.state

/-- A history with the facts that every transition keeps. -/
structure Lifecycle (sha256 : Sha256) extends History sha256 where
  wellFormed : toHistory.WellFormed

namespace History

variable {sha256 : Sha256} {history history' : History sha256}

/-- A prepared history is well formed. -/
theorem wellFormed_prepared (binding : AuthorityBinding sha256) :
    (prepared binding).WellFormed where
  namespace_eq := rfl
  bindings := by
    intro binding' member
    rw [List.mem_singleton.mp member]
    rfl
  generation_lt := by
    show 0 < 64
    decide
  stateVersion_pos := Nat.zero_lt_one
  log_length := rfl
  tail := by
    refine ⟨[], _, rfl, rfl, rfl, rfl, ?_⟩
    intro material committed
    cases committed
  material_isSome := by simp [prepared]
  numbered := by
    have empty : Numbered [] := by
      intro before entry after split
      simp at split
    exact empty.concat rfl
  generation_eq := rfl
  word := by
    show [EventKind.prepared.asStr] ++ [] ∈ event .prepared * retry∗
    exact Language.append_mem_mul (mem_event _) (Language.nil_mem_kstar _)

/-- The commit material that goes with an event: there from verification on, and repeated by the
payload of a commit. -/
def MaterialFits (sha256 : Sha256) (kind : EventKind) (payload : ContentDigest)
    (material : Option CommitMaterial) : Prop :=
  (material.isSome ↔ kind.state = .verified ∨ kind.state = .committed) ∧
    ∀ material', kind.state = .committed → material = some material' →
      payload = commitPayload sha256 material'.desired material'.graph material'.provenance

/-- It stays so when an event that may follow is added. -/
theorem WellFormed.advance (wellFormed : history.WellFormed) {kind : EventKind}
    {payload : ContentDigest} {material : Option CommitMaterial}
    (follows : Follows history.state kind) (fits : MaterialFits sha256 kind payload material) :
    (history.advance kind payload material).WellFormed where
  namespace_eq := wellFormed.namespace_eq
  bindings := wellFormed.bindings
  generation_lt := wellFormed.generation_lt
  stateVersion_pos := Nat.succ_pos _
  log_length := by
    have length := wellFormed.log_length
    simp only [History.advance, History.generation, List.length_append, List.length_cons,
      List.length_nil] at length ⊢
    omega
  tail := ⟨history.log, _, rfl, rfl, rfl, rfl, fits.2⟩
  material_isSome := fits.1
  numbered := by
    apply wellFormed.numbered.concat
    rw [List.countP_append, ← wellFormed.generation_eq]
    simp [AuditEntry.startsGeneration, follows.ne_recoveryReprepared]
  generation_eq := by
    show history.generation = _
    rw [History.advance, List.countP_append, ← wellFormed.generation_eq]
    simp [AuditEntry.startsGeneration, follows.ne_recoveryReprepared]
  word := by
    rw [History.kinds, History.advance, List.map_append]
    exact follows.logsIn_mul_le (Language.append_mem_mul wellFormed.word (mem_event kind))

/-- It stays so when the next generation is prepared. -/
theorem WellFormed.renew (wellFormed : history.WellFormed) {observation : ContentDigest}
    {next : AuthorityBinding sha256} (indeterminate : history.state = .indeterminate)
    (own : next.transactionId = history.transactionId)
    (lt : history.generation + 1 < maxTransactionGenerations) :
    (history.renew observation next).WellFormed where
  namespace_eq := wellFormed.namespace_eq
  bindings := by
    intro binding member
    rcases List.mem_append.mp member with old | new
    · exact wellFormed.bindings binding old
    · rw [List.mem_singleton.mp new]
      exact own
  generation_lt := by
    simpa [History.renew, History.generation] using lt
  stateVersion_pos := Nat.succ_pos _
  log_length := by
    have length := wellFormed.log_length
    simp only [History.renew, History.generation, List.length_append, List.length_cons,
      List.length_nil] at length ⊢
    omega
  tail := by
    refine ⟨_, _, rfl, ?_, rfl, rfl, ?_⟩
    · simp [History.renew, History.generation]
    · intro material committed
      cases committed
  material_isSome := by
    have isSome := wellFormed.material_isSome
    rw [indeterminate] at isSome
    simpa [History.renew] using isSome
  numbered := by
    have retired : Numbered (history.log ++ [⟨history.generation, history.stateVersion + 1,
        .recoveryRetiredNoEffect, observation⟩]) := by
      apply wellFormed.numbered.concat
      rw [List.countP_append, ← wellFormed.generation_eq]
      rfl
    apply retired.concat
    rw [List.countP_append, List.countP_append, ← wellFormed.generation_eq]
    rfl
  generation_eq := by
    have count := wellFormed.generation_eq
    rw [History.renew, List.countP_append, List.countP_append, ← count]
    simp [History.generation, AuditEntry.startsGeneration]
  word := by
    have word := wellFormed.word
    rw [indeterminate] at word
    have grown := Language.append_mem_mul (Language.append_mem_mul word
      (mem_event .recoveryRetiredNoEffect)) (mem_event .recoveryReprepared)
    have closed : event .prepared * retry∗ * attempt * event .recoveryRetiredNoEffect *
        event .recoveryReprepared ≤ logsIn .prepared := by
      have regroup : event .prepared * retry∗ * attempt * event .recoveryRetiredNoEffect *
          event .recoveryReprepared = event .prepared * (retry∗ * retry) := by
        simp only [retry, mul_assoc]
      rw [regroup]
      exact mul_le_mul_right kstar_mul_le_kstar _
    have member : history.kinds ++ [EventKind.recoveryRetiredNoEffect.asStr] ++
        [EventKind.recoveryReprepared.asStr] ∈ logsIn .prepared := closed grown
    simpa [History.kinds, History.renew] using member

/-- An event that follows without commit material. -/
theorem materialFits_none {kind : EventKind} {payload : ContentDigest}
    (unverified : kind.state ≠ .verified) (uncommitted : kind.state ≠ .committed) :
    MaterialFits sha256 kind payload none :=
  ⟨by simp [unverified, uncommitted], fun _ committed => absurd committed uncommitted⟩

variable {transition : Transition sha256}

/-- What a transition can do: append an event that follows, or start the next generation. -/
theorem apply_cases (applied : history.apply transition = some history') :
    (∃ kind payload material, Follows history.state kind ∧
      MaterialFits sha256 kind payload material ∧
      history' = history.advance kind payload material) ∨
    ∃ observation next, history.state = .indeterminate ∧
      next.transactionId = history.transactionId ∧
      history.generation + 1 < maxTransactionGenerations ∧
      history' = history.renew observation next := by
  cases transition with
  | handOff authorityUse =>
    obtain ⟨prepared, same⟩ := Option.ite_none_right_eq_some.mp applied
    refine .inl ⟨_, _, _, ?_, materialFits_none (by decide) (by decide),
      (Option.some.inj same).symm⟩
    rw [prepared]
    exact .handOff
  | verify observation material =>
    obtain ⟨indeterminate, same⟩ := Option.ite_none_right_eq_some.mp applied
    refine .inl ⟨_, _, _, ?_, ⟨by simp [EventKind.state], ?_⟩, (Option.some.inj same).symm⟩
    · rw [indeterminate]
      exact .verify
    · intro material' committed
      cases committed
  | block observation =>
    obtain ⟨indeterminate, same⟩ := Option.ite_none_right_eq_some.mp applied
    refine .inl ⟨_, _, _, ?_, materialFits_none (by decide) (by decide),
      (Option.some.inj same).symm⟩
    rw [indeterminate]
    exact .block
  | leaveIndeterminate observation =>
    obtain ⟨indeterminate, same⟩ := Option.ite_none_right_eq_some.mp applied
    refine .inl ⟨_, _, _, ?_, materialFits_none (by decide) (by decide),
      (Option.some.inj same).symm⟩
    rw [indeterminate]
    exact .leaveIndeterminate
  | reprepare observation next =>
    obtain ⟨⟨indeterminate, own, lt⟩, same⟩ := Option.ite_none_right_eq_some.mp applied
    exact .inr ⟨observation, next, indeterminate, own, lt, (Option.some.inj same).symm⟩
  | commit material =>
    obtain ⟨⟨verified, -⟩, same⟩ := Option.ite_none_right_eq_some.mp applied
    refine .inl ⟨_, _, _, ?_, ⟨by simp [EventKind.state], ?_⟩, (Option.some.inj same).symm⟩
    · rw [verified]
      exact .commit
    · rintro material' - ⟨⟩
      rfl
  | abort reason =>
    obtain ⟨prepared, same⟩ := Option.ite_none_right_eq_some.mp applied
    refine .inl ⟨_, _, _, ?_, materialFits_none (by decide) (by decide),
      (Option.some.inj same).symm⟩
    rw [prepared]
    exact .abort

/-- Every transition keeps a history well-formed. -/
theorem WellFormed.apply (wellFormed : history.WellFormed)
    (applied : history.apply transition = some history') : history'.WellFormed := by
  rcases apply_cases applied with ⟨kind, payload, material, follows, fits, rfl⟩ |
    ⟨observation, next, indeterminate, own, lt, rfl⟩
  · exact wellFormed.advance follows fits
  · exact wellFormed.renew indeterminate own lt

/-- A transition raises the version by one, starts in a nonterminal state, and keeps the identity.
-/
theorem apply_facts (applied : history.apply transition = some history') :
    isNonterminal history.state = true ∧ history'.stateVersion = history.stateVersion + 1 ∧
      history'.transactionId = history.transactionId := by
  rcases apply_cases applied with ⟨kind, payload, material, follows, -, rfl⟩ |
    ⟨observation, next, indeterminate, -, -, rfl⟩
  · exact ⟨follows.isNonterminal, rfl, rfl⟩
  · rw [indeterminate]
    exact ⟨rfl, rfl, rfl⟩

/-- A transition leaves the state of being prepared, unless it starts the next generation. -/
theorem apply_progress (applied : history.apply transition = some history') :
    (history'.generation = history.generation ∧ history'.state ≠ .prepared) ∨
      history'.generation = history.generation + 1 := by
  rcases apply_cases applied with ⟨kind, payload, material, follows, -, rfl⟩ |
    ⟨observation, next, -, -, -, rfl⟩
  · left
    exact ⟨rfl, follows.state_ne_prepared⟩
  · right
    simp [renew, generation]

end History

end Linura.Persistence
