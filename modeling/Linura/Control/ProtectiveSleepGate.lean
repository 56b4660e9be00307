import Linura.Control.SessionSafety
import Linura.Lib.Guarantee
import Linura.Lib.BTreeMap

/-!
# The gate before a native sleep

Before the machine sleeps, every graphical session must be covered by a secure lock.  The
gate lists the sessions, has uncovered ones locked, observes each lock anew, fences it, and
lists the sessions again.

The gate sees the system through a port whose answers may change between any two calls, and
a deadline is checked between them.  What the gate did is the list of calls and answers.  It
fences a lock only right after a fresh sample showed exactly this lock to be secure, and it
makes no call once the deadline has passed; if it admits the sleep, every session that it
listed first was fenced once.
-/

namespace Linura.Control

open Linura.Lib Linura.Core Linura.Observation Program

/-! ### The port -/

/-- A call with its answer, a reading of the clock, or a check of the deadline. -/
inductive GateEvent
  | listed (answer : Except String (List SessionEpoch))
  | observedSession (epoch : SessionEpoch) (answer : Except String ObservationEnvelope)
  | observedLock (epoch : SessionEpoch) (answer : Except String ObservationEnvelope)
  | converged (event : SleepInvocationId) (lock : SessionLockId) (answer : Except String Unit)
  | fenced (event : SleepInvocationId) (lock : SessionLockId) (answer : Except String Bool)
  | revalidated (event : SleepInvocationId) (answer : Except String Unit)
  | clockRead (sample : Option Nat)
  | deadline (elapsed : Nat)

/-- What the gate did, the newest first. -/
abbrev GateTrace := List GateEvent

/-- `NativeSleepCoveragePort`, with the clock and the time elapsed.  Every answer may depend on all
that was done before. -/
structure NativeSleepCoveragePort where
  sessionEpochs : GateTrace → Except String (List SessionEpoch)
  observeSession : GateTrace → SessionEpoch → Except String ObservationEnvelope
  observeLock : GateTrace → SessionEpoch → Except String ObservationEnvelope
  convergeProtectiveLock : GateTrace → SleepInvocationId → SessionLockId → Except String Unit
  fenceCoverage : GateTrace → SleepInvocationId → SessionLockId → Except String Bool
  revalidateEntry : GateTrace → SleepInvocationId → Except String Unit
  clock : GateTrace → Option Nat
  elapsed : GateTrace → Nat

/-- A program that may fail as the gate does. -/
abbrev GateProgram := Program GateTrace String

section Gate

variable (port : NativeSleepCoveragePort) (event : SleepInvocationId) (budget : Nat)

/-- Call the port and fail if it does. -/
def callPort {α : Type} (answer : GateTrace → Except String α)
    (record : Except String α → GateEvent) :
    GateProgram α := do
  let answered ← .ask answer fun answered trace => record answered :: trace
  .lift answered

def sessionEpochs : GateProgram (List SessionEpoch) := callPort port.sessionEpochs .listed

variable (epoch : SessionEpoch)

def observeSession : GateProgram ObservationEnvelope :=
  callPort (port.observeSession · epoch) (.observedSession epoch)

def observeLock : GateProgram ObservationEnvelope :=
  callPort (port.observeLock · epoch) (.observedLock epoch)

variable (lock : SessionLockId)

def convergeProtectiveLock : GateProgram Unit :=
  callPort (port.convergeProtectiveLock · event lock) (.converged event lock)

def fenceCoverage : GateProgram Bool :=
  callPort (port.fenceCoverage · event lock) (.fenced event lock)

def revalidateEntry : GateProgram Unit :=
  callPort (port.revalidateEntry · event) (.revalidated event)

/-- `check` -/
def checkDeadline : GateProgram Unit := do
  let elapsed ← .ask port.elapsed fun elapsed trace => .deadline elapsed :: trace
  .require (elapsed < budget) "native sleep coverage gate exceeded its original deadline"

/-- `now_ms` -/
def nowMs : GateProgram Nat := do
  match ← .ask port.clock fun sample trace => .clockRead sample :: trace with
  | none => .fail "native sleep gate clock is unavailable"
  | some sample => if u64Max < sample then .fail "native sleep gate clock overflow" else pure sample

/-- A set of epochs, in their order. -/
abbrev EpochSet := BTreeMap SessionEpoch Unit

/-- `requires_coverage` -/
def requiresCoverage (sample : ObservationEnvelope) : Except String Bool :=
  match sample.attributes.get? "session_class", sample.attributes.get? "session_type" with
  | some (.text sessionClass), some (.text sessionType) =>
    if ["user", "user-early", "user-light"].contains sessionClass ∧ sessionType = "wayland" then
      .ok true
    else if ["user", "user-early", "user-light"].contains sessionClass ∧ sessionType = "tty"
        ∨ ["manager", "manager-early", "background", "background-light"].contains sessionClass
          ∧ sessionType = "unspecified" then .ok false
    else .error "native sleep inventory contains an unsupported session type/class"
  | _, _ => .error "native session inventory has incomplete type/class state"

/-- The sample is about the epoch that was listed. -/
def samplesEpoch (sample : ObservationEnvelope) (epoch : SessionEpoch) : Prop :=
  sample.attributes.get? "boot_id" = some (.text epoch.boot.value)
    ∧ sample.attributes.get? "session_id" = some (.text epoch.sessionId)
    ∧ sample.attributes.get? "uid" = some (.u64 epoch.uid)
    ∧ sample.attributes.get? "created_monotonic_us" = some (.u64 epoch.createdMonotonicUs)

instance (sample : ObservationEnvelope) (epoch : SessionEpoch) :
    Decidable (samplesEpoch sample epoch) :=
  inferInstanceAs (Decidable (_ ∧ _ ∧ _ ∧ _))

/-- Whether a listed epoch needs coverage, as `inventory` finds out. -/
def inspectEpoch : GateProgram Bool := do
  let sample ← observeSession port epoch
  let resource ← .lift (epoch.resourceId.mapError (·.display))
  let now ← nowMs port
  .lift ((validateEnvelope sample "logind" "session.epoch.observe" resource now).mapError
    (·.display))
  .require (samplesEpoch sample epoch)
    "native sleep session inventory is not authoritative for its epoch"
  let required ← .lift (requiresCoverage sample)
  .require (required = true → epoch.uid ≠ 0) "root graphical sleep coverage is unsupported"
  return required

/-- The loop of `inventory`. -/
def inspectAll : List SessionEpoch → EpochSet → EpochSet → GateProgram EpochSet
  | [], _, selected => pure selected
  | epoch :: rest, seen, selected => do
    checkDeadline port budget
    .require (epoch.boot = event.boot ∧ seen.containsKey epoch = false)
      "native sleep session inventory has a duplicate epoch or changed boot"
    let required ← inspectEpoch port epoch
    inspectAll rest (seen.insert epoch ()) (if required then selected.insert epoch () else selected)

def inventory : GateProgram EpochSet := do
  checkDeadline port budget
  let resources ← sessionEpochs port
  .require (resources.length ≤ 16) "native sleep session inventory exceeds its bound"
  let selected ← inspectAll port event budget resources .empty .empty
  checkDeadline port budget
  return selected

/-- The first half of the loop body of `coordinate`: the lock of the epoch, which is converged if it
is not secure. -/
def protectEpoch : GateProgram (SessionLockId × AuthenticatedPrincipal) := do
  checkDeadline port budget
  let sample ← observeLock port epoch
  let lock ← .lift ((SessionLockId.fromResource sample.resource).mapError (·.display))
  .require (lock.epoch = epoch) "native sleep locker does not belong to the enumerated epoch"
  let native ← observeSession port epoch
  let owner ← .lift (AuthenticatedPrincipal.new epoch.ownerText)
  let now ← nowMs port
  let _ ← .lift ((SessionSafetyReview.review owner epoch .lock native now).mapError (·.display))
  let later ← nowMs port
  let secure ← .lift ((validateNativeLock lock sample later).mapError (·.display))
  if secure then return (lock, owner)
  else
    checkDeadline port budget
    revalidateEntry port event
    convergeProtectiveLock port event lock
    return (lock, owner)

/-- The second half: the lock is observed anew and fenced. -/
def fenceEpoch (owner : AuthenticatedPrincipal) : GateProgram Unit := do
  checkDeadline port budget
  let native ← observeSession port epoch
  let coverage ← observeLock port epoch
  let now ← nowMs port
  let reviewed ← .lift
    ((SessionSafetyReview.review owner epoch .lock native now).mapError (·.display))
  let later ← nowMs port
  let covered ← .lift ((reviewed.requireSecureCoverage coverage later).mapError (·.display))
  .require (covered = lock) "native sleep coverage generation changed"
  revalidateEntry port event
  checkDeadline port budget
  let accepted ← fenceCoverage port event lock
  .require (accepted = true) "native sleep coverage fence was refused"
  checkDeadline port budget

/-- The loop body of `coordinate`. -/
def coverEpoch : GateProgram Unit := do
  let (lock, owner) ← protectEpoch port event budget epoch
  fenceEpoch port event budget epoch lock owner

def coordinate : GateProgram Unit := do
  checkDeadline port budget
  revalidateEntry port event
  let epochs ← inventory port event budget
  .require (epochs.entries ≠ []) "native sleep gate has no qualified graphical session"
  epochs.keys.forM (coverEpoch port event budget)
  let again ← inventory port event budget
  .require (again = epochs) "native graphical session inventory changed; sleep denied"
  revalidateEntry port event
  checkDeadline port budget

end Gate

/-! ### What may be done when -/

section Order

variable (event : SleepInvocationId) (budget : Nat)

/-- Before a fence: the sleep entry was revalidated, after a fresh native sample showed exactly this
lock to be secure, and while a fresh sample of its owner's session counted. -/
def FenceReady (lock : SessionLockId) (earlier : GateTrace) : Prop :=
  ∃ elapsed now later session coverage rest,
    earlier = .deadline elapsed :: .revalidated event (.ok ()) :: .clockRead (some later) ::
      .clockRead (some now) :: .observedLock lock.epoch (.ok coverage) ::
      .observedSession lock.epoch (.ok session) :: rest ∧
    LockSample lock coverage later true ∧
    OwnerSession lock.epoch session now "session.epoch.observe" ∧
    session.observedAtUnixMs ≤ later ∧ later < session.observedAtUnixMs + session.validForMs

/-- Before a lock is converged: a fresh sample of it was valid and not secure. -/
def ConvergeReady (lock : SessionLockId) (earlier : GateTrace) : Prop :=
  ∃ elapsed now later native sample rest,
    earlier = .revalidated event (.ok ()) :: .deadline elapsed :: .clockRead (some later) ::
      .clockRead (some now) :: .observedSession lock.epoch (.ok native) ::
      .observedLock lock.epoch (.ok sample) :: rest ∧
    LockSample lock sample later false

/-- What must have happened before an event. -/
def Ready : GateEvent → GateTrace → Prop
  | .fenced event' lock _, earlier => event' = event ∧ FenceReady event lock earlier
  | .converged event' lock _, earlier => event' = event ∧ ConvergeReady event lock earlier
  | _, _ => True

/-- The newest event is a check that found the deadline passed. -/
def Expired : GateTrace → Prop
  | .deadline elapsed :: _ => budget ≤ elapsed
  | _ => False

/-- Every event came when it may, and none after the deadline was found passed. -/
def WellOrdered : GateTrace → Prop
  | [] => True
  | newest :: earlier => ¬ Expired budget earlier ∧ Ready event newest earlier ∧ WellOrdered earlier

/-- The fences, the newest first. -/
def fences : GateTrace → List (SessionLockId × Except String Bool)
  | [] => []
  | .fenced _ lock answer :: earlier => (lock, answer) :: fences earlier
  | _ :: earlier => fences earlier

/-- The locks that were converged, the newest first. -/
def converged : GateTrace → List SessionLockId
  | [] => []
  | .converged _ lock _ :: earlier => lock :: converged earlier
  | _ :: earlier => converged earlier

/-- An event that is neither a fence nor a convergence. -/
def GateEvent.IsPlain : GateEvent → Prop
  | .fenced _ _ _ | .converged _ _ _ => False
  | _ => True

variable {newest : GateEvent}

theorem fences_cons (plain : newest.IsPlain) (earlier : GateTrace) :
    fences (newest :: earlier) = fences earlier := by
  cases newest with
  | fenced event lock answer => exact plain.elim
  | _ => rfl

theorem converged_cons (plain : newest.IsPlain) (earlier : GateTrace) :
    converged (newest :: earlier) = converged earlier := by
  cases newest with
  | converged event lock answer => exact plain.elim
  | _ => rfl

theorem ready_of_isPlain (plain : newest.IsPlain) (earlier : GateTrace) :
    Ready event newest earlier := by
  cases newest with
  | fenced | converged => exact plain.elim
  | _ => trivial

/-- The trace is in order and has these fences and convergences. -/
structure Stopped (fenceList : List (SessionLockId × Except String Bool))
    (convergedList : List SessionLockId) (trace : GateTrace) : Prop where
  ordered : WellOrdered event budget trace
  fences_eq : fences trace = fenceList
  converged_eq : converged trace = convergedList

/-- The gate may go on: the deadline was not found passed. -/
structure GoesOn (fenceList : List (SessionLockId × Except String Bool))
    (convergedList : List SessionLockId) (trace : GateTrace) : Prop
    extends Stopped event budget fenceList convergedList trace where
  open_ : ¬ Expired budget trace

variable {event budget} {fenceList : List (SessionLockId × Except String Bool)}
variable {convergedList : List SessionLockId} {P : GateTrace → Prop} {E : GateTrace → Prop}

theorem GoesOn.plain {trace : GateTrace} (goes : GoesOn event budget fenceList convergedList trace)
    (plain : newest.IsPlain) : Stopped event budget fenceList convergedList (newest :: trace) :=
  ⟨⟨goes.open_, ready_of_isPlain event plain trace, goes.ordered⟩,
    (fences_cons plain trace).trans goes.fences_eq,
      (converged_cons plain trace).trans goes.converged_eq⟩

section Steps

variable {α β : Type} {next : α → GateProgram β} {Q : β → GateTrace → Prop} {trace : GateTrace}

/-- A call of a port is recorded with its answer. -/
theorem triple_callPort {answer : GateTrace → Except String α}
    {record : Except String α → GateEvent}
    (before : E trace) (after : ∀ answered, E (record answered :: trace)) :
    Triple (· = trace) (callPort answer record) (fun value =>
      (· = record (.ok value) :: trace)) E := by
  refine .bind (Q := fun answered => (· = record answered :: trace)) ?_ fun answered => ?_
  · refine .ask ?_ ?_ ?_
    · exact fun state same => same ▸ rfl
    · exact fun state same => same ▸ before
    · exact fun state same => same ▸ after _
  · refine .query ?_ ?_
    · rintro state value rfl rfl
      rfl
    · exact fun state same => same ▸ after _

variable {port : NativeSleepCoveragePort}

/-- The gate goes on only before its deadline. -/
theorem triple_checkDeadline (before : E trace)
    (after : ∀ elapsed, E (.deadline elapsed :: trace)) :
    Triple (· = trace) (checkDeadline port budget)
      (fun _ state => ∃ elapsed, elapsed < budget ∧ state = .deadline elapsed :: trace) E := by
  refine .bind (Q := fun elapsed => (· = .deadline elapsed :: trace)) ?_ fun elapsed => ?_
  · refine .ask ?_ ?_ ?_
    · exact fun state same => same ▸ rfl
    · exact fun state same => same ▸ before
    · exact fun state same => same ▸ after _
  · refine .require ?_ ?_
    · exact fun state same early => ⟨elapsed, early, same⟩
    · exact fun state same => same ▸ after _

theorem triple_nowMs (before : E trace) (after : ∀ sample, E (.clockRead sample :: trace)) :
    Triple (· = trace) (nowMs port) (fun now => (· = .clockRead (some now) :: trace)) E := by
  refine .bind (Q := fun sample => (· = .clockRead sample :: trace)) ?_ fun sample => ?_
  · refine .ask ?_ ?_ ?_
    · exact fun state same => same ▸ rfl
    · exact fun state same => same ▸ before
    · exact fun state same => same ▸ after _
  · cases sample with
    | none => exact .fail fun state same => same ▸ after _
    | some now =>
      dsimp only
      split
      · exact .fail fun state same => same ▸ after _
      · exact .pure fun state same => same

/-! The next step of a program whose trace so far is known. -/

/-- A call that is neither a fence nor a convergence. -/
theorem call_then {answer : GateTrace → Except String α} {record : Except String α → GateEvent}
    (goes : GoesOn event budget fenceList convergedList trace)
    (plain : ∀ answered, (record answered).IsPlain)
    (noDeadline : ∀ answered, ¬ Expired budget (record answered :: trace))
    (exc : ∀ trace, Stopped event budget fenceList convergedList trace → E trace)
    (rest : ∀ value, GoesOn event budget fenceList convergedList (record (.ok value) :: trace) →
      Triple (· = record (.ok value) :: trace) (next value) Q E) :
    Triple (· = trace) (callPort answer record >>= next) Q E :=
  (triple_callPort (exc _ goes.toStopped) fun _ => exc _ (goes.plain (plain _))).bind fun value =>
    rest value ⟨goes.plain (plain _), noDeadline _⟩

theorem check_then {next : Unit → GateProgram β}
    (goes : GoesOn event budget fenceList convergedList trace)
    (exc : ∀ trace, Stopped event budget fenceList convergedList trace → E trace)
    (rest : ∀ elapsed, GoesOn event budget fenceList convergedList (.deadline elapsed :: trace) →
      Triple (· = .deadline elapsed :: trace) (next ()) Q E) :
    Triple (· = trace) (checkDeadline port budget >>= next) Q E := by
  have stops : ∀ elapsed, Stopped event budget fenceList convergedList
    (.deadline elapsed :: trace) :=
    fun _ => goes.plain trivial
  refine (triple_checkDeadline (exc _ goes.toStopped) fun _ => exc _ (stops _)).bind fun _ =>
    Triple.of_forall ?_
  rintro state ⟨elapsed, early, rfl⟩
  exact rest elapsed ⟨stops elapsed, Nat.not_le.mpr early⟩

theorem now_then {next : Nat → GateProgram β}
    (goes : GoesOn event budget fenceList convergedList trace)
    (exc : ∀ trace, Stopped event budget fenceList convergedList trace → E trace)
    (rest : ∀ now, GoesOn event budget fenceList convergedList (.clockRead (some now) :: trace) →
      Triple (· = .clockRead (some now) :: trace) (next now) Q E) :
    Triple (· = trace) (nowMs port >>= next) Q E :=
  (triple_nowMs (exc _ goes.toStopped) fun _ => exc _ (goes.plain trivial)).bind fun now =>
    rest now ⟨goes.plain trivial, id⟩

theorem compute_then {computed : Except String α} (exc : E trace)
    (rest : ∀ value, computed = .ok value → Triple (· = trace) (next value) Q E) :
    Triple (· = trace) (.lift computed >>= next) Q E := by
  refine .bind (Q := fun value state => state = trace ∧ computed = .ok value) ?_ fun value =>
    Triple.of_forall ?_
  · exact .query (fun state value same computed => ⟨same, computed⟩) fun state same => same ▸ exc
  · rintro state ⟨rfl, computed⟩
    exact rest value computed

theorem demand_then {condition : Prop} [Decidable condition] {reason : String}
    {next : Unit → GateProgram β}
    (exc : E trace) (rest : condition → Triple (· = trace) (next ()) Q E) :
    Triple (· = trace) (.require condition reason >>= next) Q E := by
  refine .bind (Q := fun _ state => state = trace ∧ condition) ?_ fun _ => Triple.of_forall ?_
  · exact .require (fun state same met => ⟨same, met⟩) fun state same => same ▸ exc
  · rintro state ⟨rfl, met⟩
    exact rest met

end Steps

end Order

/-! ### Parts that neither fence nor converge -/

section Plain

variable (port : NativeSleepCoveragePort) (event : SleepInvocationId) (budget : Nat)

/-- A program that keeps the gate going and neither fences nor converges anything. -/
def Plainly {α : Type} (program : GateProgram α) : Prop :=
  ∀ fenceList convergedList, Triple (GoesOn event budget fenceList convergedList) program
    (fun _ => GoesOn event budget fenceList convergedList)
    (Stopped event budget fenceList convergedList)

variable {event budget}

namespace Plainly

theorem pure {α : Type} {value : α} : Plainly event budget (Pure.pure value) :=
  fun _ _ => .pure fun _ => id

theorem bind {α β : Type} {program : GateProgram α} {next : α → GateProgram β}
    (first : Plainly event budget program) (second : ∀ value, Plainly event budget (next value)) :
    Plainly event budget (program >>= next) :=
  fun fenceList convergedList => (first fenceList convergedList).bind fun value =>
    second value fenceList convergedList

theorem lift {α : Type} {computed : Except String α} :
    Plainly event budget (.lift computed : GateProgram α) :=
  fun _ _ => .query (fun _ _ holds _ => holds) fun _ holds => holds.toStopped

theorem require {condition : Prop} [Decidable condition] {reason : String} :
    Plainly event budget (.require condition reason : GateProgram Unit) :=
  fun _ _ => Triple.require (fun _ holds _ => holds) fun _ holds => holds.toStopped

end Plainly

theorem plainly_checkDeadline : Plainly event budget (checkDeadline port budget) := by
  refine fun _ _ => Triple.of_forall fun trace goes => ?_
  refine (triple_checkDeadline goes.toStopped fun _ => goes.plain trivial).consequence
    (fun _ => id) ?_ fun _ => id
  rintro _ state ⟨elapsed, early, rfl⟩
  exact ⟨goes.plain trivial, Nat.not_le.mpr early⟩

theorem plainly_nowMs : Plainly event budget (nowMs port) := by
  refine fun _ _ => Triple.of_forall fun trace goes => ?_
  refine (triple_nowMs goes.toStopped fun _ => goes.plain trivial).consequence
    (fun _ => id) ?_ fun _ => id
  rintro now state rfl
  exact ⟨goes.plain trivial, id⟩

theorem plainly_callPort {α : Type} {answer : GateTrace → Except String α}
    {record : Except String α → GateEvent} (plain : ∀ answered, (record answered).IsPlain)
    (noDeadline : ∀ answered trace, ¬ Expired budget (record answered :: trace)) :
    Plainly event budget (callPort answer record) := by
  refine fun _ _ => Triple.of_forall fun trace goes => ?_
  refine (triple_callPort goes.toStopped fun _ => goes.plain (plain _)).consequence
    (fun _ => id) ?_ fun _ => id
  rintro value state rfl
  exact ⟨goes.plain (plain _), noDeadline _ _⟩

theorem plainly_sessionEpochs : Plainly event budget (sessionEpochs port) :=
  plainly_callPort (fun _ => trivial) fun _ _ => id

theorem plainly_observeSession (epoch : SessionEpoch) : Plainly event budget
    (observeSession port epoch) :=
  plainly_callPort (fun _ => trivial) fun _ _ => id

theorem plainly_revalidateEntry (entry : SleepInvocationId) :
    Plainly event budget (revalidateEntry port entry) :=
  plainly_callPort (fun _ => trivial) fun _ _ => id

theorem plainly_inspectEpoch (epoch : SessionEpoch) : Plainly event budget
    (inspectEpoch port epoch) :=
  (plainly_observeSession port epoch).bind fun _ => Plainly.lift.bind fun _ =>
    (plainly_nowMs port).bind fun _ => Plainly.lift.bind fun _ => Plainly.require.bind fun _ =>
      Plainly.lift.bind fun _ => Plainly.require.bind fun _ => .pure

theorem plainly_inspectAll (epochs : List SessionEpoch) (seen selected : EpochSet) :
    Plainly event budget (inspectAll port event budget epochs seen selected) := by
  induction epochs generalizing seen selected with
  | nil => exact .pure
  | cons epoch rest ih =>
    exact (plainly_checkDeadline port).bind fun _ => Plainly.require.bind fun _ =>
      (plainly_inspectEpoch port epoch).bind fun _ => ih _ _

/-- The inventory neither fences nor converges. -/
theorem plainly_inventory : Plainly event budget (inventory port event budget) :=
  (plainly_checkDeadline port).bind fun _ => (plainly_sessionEpochs port).bind fun _ =>
    Plainly.require.bind fun _ => (plainly_inspectAll port _ _ _).bind fun _ =>
      (plainly_checkDeadline port).bind fun _ => .pure

/-- The inventory selects sessions of users in the boot of the sleep entry. -/
theorem mem_of_inspectAll {epochs : List SessionEpoch} {seen selected result : EpochSet}
    {trace trace' : GateTrace}
    (ended : Returns (inspectAll port event budget epochs seen selected) trace result trace')
    {epoch : SessionEpoch} (member : epoch ∈ result.keys) :
    epoch ∈ selected.keys ∨ epoch.boot = event.boot ∧ epoch.uid ≠ 0 := by
  induction epochs generalizing seen selected trace with
  | nil =>
    obtain ⟨rfl, -⟩ := ended.pure
    exact .inl member
  | cons first rest ih =>
    obtain ⟨_, _, -, compared⟩ := ended.bind
    obtain ⟨⟨boot, -⟩, inspecting⟩ := compared.bind_require
    obtain ⟨required, _, inspected, others⟩ := inspecting.bind
    rcases ih others with before | later
    · cases required with
      | false => exact .inl before
      | true =>
        rw [if_pos rfl, BTreeMap.mem_keys_insert] at before
        rcases before with rfl | before
        · refine .inr ⟨boot, ?_⟩
          obtain ⟨sample, _, -, naming⟩ := inspected.bind
          obtain ⟨resource, _, -, timing⟩ := naming.bind
          obtain ⟨now, _, -, validating⟩ := timing.bind
          obtain ⟨_, _, -, sampling⟩ := validating.bind
          obtain ⟨_, _, -, classifying⟩ := sampling.bind
          obtain ⟨needs, _, -, rooted⟩ := classifying.bind
          obtain ⟨user, last⟩ := rooted.bind_require
          obtain ⟨same, rfl⟩ := last.pure
          exact user same
        · exact .inl before
    · exact .inr later

/-- An inventory has epochs of the event's boot, none of root. -/
theorem mem_of_inventory {result : EpochSet} {trace trace' : GateTrace}
    (ended : Returns (inventory port event budget) trace result trace')
    {epoch : SessionEpoch} (member : epoch ∈ result.keys) :
    epoch.boot = event.boot ∧ epoch.uid ≠ 0 := by
  obtain ⟨_, _, -, listing⟩ := ended.bind
  obtain ⟨resources, _, -, bounding⟩ := listing.bind
  obtain ⟨_, _, -, inspecting⟩ := bounding.bind
  obtain ⟨selected, _, inspected, checking⟩ := inspecting.bind
  obtain ⟨_, _, -, last⟩ := checking.bind
  obtain ⟨rfl, rfl⟩ := last.pure
  rcases mem_of_inspectAll port inspected member with none | found
  · cases none
  · exact found

end Plain

/-! ### One session -/

section Session

variable (port : NativeSleepCoveragePort) (event : SleepInvocationId) (budget : Nat)

/-- The trace is in order, and its fences and convergences are for some of these epochs. -/
structure Within (epochs : List SessionEpoch) (trace : GateTrace) : Prop where
  ordered : WellOrdered event budget trace
  fenced : ((fences trace).map (·.1.epoch)).Sublist epochs
  converges : ((converged trace).map (·.epoch)).Sublist epochs

/-- The gate goes on, and these epochs are the ones with a fence, which was accepted. -/
structure Covered (epochs : List SessionEpoch) (trace : GateTrace) : Prop where
  ordered : WellOrdered event budget trace
  open_ : ¬ Expired budget trace
  fenced : (fences trace).map (·.1.epoch) = epochs
  accepted : ∀ fence ∈ fences trace, fence.2 = .ok true
  converges : ((converged trace).map (·.epoch)).Sublist epochs

variable {event budget} {fenceList : List (SessionLockId × Except String Bool)}
variable {convergedList : List SessionLockId} {epochs : List SessionEpoch} {trace : GateTrace}

theorem Stopped.within (stopped : Stopped event budget fenceList convergedList trace)
    (fenced : (fenceList.map (·.1.epoch)).Sublist epochs)
    (conv : (convergedList.map (·.epoch)).Sublist epochs) : Within event budget epochs trace :=
  ⟨stopped.ordered, stopped.fences_eq ▸ fenced, stopped.converged_eq ▸ conv⟩

theorem Within.mono {epochs' : List SessionEpoch} (within : Within event budget epochs trace)
    (fewer : epochs.Sublist epochs') : Within event budget epochs' trace :=
  ⟨within.ordered, within.fenced.trans fewer, within.converges.trans fewer⟩

theorem Covered.goesOn (covered : Covered event budget epochs trace) :
    GoesOn event budget (fences trace) (converged trace) trace :=
  ⟨⟨covered.ordered, rfl, rfl⟩, covered.open_⟩

variable {lock : SessionLockId}

/-- A convergence that is ready keeps the order. -/
theorem GoesOn.converge (goes : GoesOn event budget fenceList convergedList trace)
    (ready : ConvergeReady event lock trace) (answer : Except String Unit) :
    GoesOn event budget fenceList (lock :: convergedList)
      (.converged event lock answer :: trace) where
  ordered := ⟨goes.open_, ⟨rfl, ready⟩, goes.ordered⟩
  fences_eq := goes.fences_eq
  converged_eq := congrArg (lock :: ·) goes.converged_eq
  open_ := id

/-- So does a fence that is ready. -/
theorem GoesOn.fence (goes : GoesOn event budget fenceList convergedList trace)
    (ready : FenceReady event lock trace) (answer : Except String Bool) :
    GoesOn event budget ((lock, answer) :: fenceList) convergedList
      (.fenced event lock answer :: trace) where
  ordered := ⟨goes.open_, ⟨rfl, ready⟩, goes.ordered⟩
  fences_eq := congrArg ((lock, answer) :: ·) goes.fences_eq
  converged_eq := goes.converged_eq
  open_ := id

/-- The first half of the loop body gives the lock of the epoch; if anything was converged, it was
this lock. -/
theorem triple_protectEpoch (epoch : SessionEpoch) (fenced : fenceList.map (·.1.epoch) = epochs)
    (conv : (convergedList.map (·.epoch)).Sublist epochs) :
    Triple (GoesOn event budget fenceList convergedList) (protectEpoch port event budget epoch)
      (fun result trace => result.1.epoch = epoch ∧ result.2.value = epoch.ownerText ∧
        ∃ convergedList', (convergedList'.map (·.epoch)).Sublist (epoch :: epochs) ∧
          GoesOn event budget fenceList convergedList' trace)
      (Within event budget (epoch :: epochs)) := by
  have fewer : (fenceList.map (·.1.epoch)).Sublist (epoch :: epochs) :=
    fenced ▸ List.sublist_cons_self _ _
  have stops : ∀ trace, Stopped event budget fenceList convergedList trace →
      Within event budget (epoch :: epochs) trace :=
    fun _ stopped => stopped.within fewer (conv.cons _)
  refine .of_forall fun trace goes => ?_
  refine check_then goes stops fun _ goes₁ => ?_
  refine call_then goes₁ (fun _ => trivial) (fun _ => id) stops fun sample goes₂ => ?_
  refine compute_then (stops _ goes₂.toStopped) fun lock named => ?_
  refine demand_then (stops _ goes₂.toStopped) fun own => ?_
  subst own
  refine call_then goes₂ (fun _ => trivial) (fun _ => id) stops fun native goes₃ => ?_
  refine compute_then (stops _ goes₃.toStopped) fun owner owned => ?_
  refine now_then goes₃ stops fun now goes₄ => ?_
  refine compute_then (stops _ goes₄.toStopped) fun reviewed accepted => ?_
  have owner_eq := (SessionSafetyReview.ownerSession_of_reviewNativeSession
    (mapError_eq_ok.mp accepted)).2.1
  refine now_then goes₄ stops fun later goes₅ => ?_
  refine compute_then (stops _ goes₅.toStopped) fun secure validated => ?_
  cases secure with
  | true => exact .pure fun _ same => ⟨rfl, owner_eq, convergedList, conv.cons _, same ▸ goes₅⟩
  | false =>
    -- Only here the lock is converged, after the sample that was not secure.
    refine check_then goes₅ stops fun elapsed goes₆ => ?_
    refine call_then goes₆ (fun _ => trivial) (fun _ => id) stops fun _ goes₇ => ?_
    have goes₈ := goes₇.converge ⟨elapsed, now, later, native, sample, _, rfl,
      lockSample_of_validateNativeLock (mapError_eq_ok.mp validated)⟩
    have conv' : ((lock :: convergedList).map (·.epoch)).Sublist (lock.epoch :: epochs) :=
      conv.cons_cons _
    refine (triple_callPort (stops _ goes₇.toStopped) fun answered =>
      (goes₈ answered).toStopped.within fewer conv').bind fun _ => ?_
    exact .pure fun _ same => ⟨rfl, owner_eq, _, conv', same ▸ goes₈ _⟩

/-- The second half: the lock is fenced once, after it was seen to be secure. -/
theorem triple_fenceEpoch {owner : AuthenticatedPrincipal}
    (fenced : fenceList.map (·.1.epoch) = epochs)
    (conv : (convergedList.map (·.epoch)).Sublist (lock.epoch :: epochs)) :
    Triple (GoesOn event budget fenceList convergedList)
      (fenceEpoch port event budget lock.epoch lock owner)
      (fun _ => GoesOn event budget ((lock, .ok true) :: fenceList) convergedList)
      (Within event budget (lock.epoch :: epochs)) := by
  have stops : ∀ trace, Stopped event budget fenceList convergedList trace →
      Within event budget (lock.epoch :: epochs) trace :=
    fun _ stopped => stopped.within (fenced ▸ List.sublist_cons_self _ _) conv
  have stopsFenced : ∀ answer trace,
    Stopped event budget ((lock, answer) :: fenceList) convergedList trace →
      Within event budget (lock.epoch :: epochs) trace :=
    fun _ _ stopped => stopped.within (fenced ▸ List.Sublist.refl _) conv
  refine .of_forall fun trace goes => ?_
  refine check_then goes stops fun _ goes₁ => ?_
  refine call_then goes₁ (fun _ => trivial) (fun _ => id) stops fun native goes₂ => ?_
  refine call_then goes₂ (fun _ => trivial) (fun _ => id) stops fun coverage goes₃ => ?_
  refine now_then goes₃ stops fun now goes₄ => ?_
  refine compute_then (stops _ goes₄.toStopped) fun reviewed reviewing => ?_
  refine now_then goes₄ stops fun later goes₅ => ?_
  refine compute_then (stops _ goes₅.toStopped) fun covered covering => ?_
  refine demand_then (stops _ goes₅.toStopped) fun same => ?_
  subst same
  refine call_then goes₅ (fun _ => trivial) (fun _ => id) stops fun _ goes₆ => ?_
  refine check_then goes₆ stops fun elapsed goes₇ => ?_
  obtain ⟨session, -, rfl⟩ := SessionSafetyReview.ownerSession_of_reviewNativeSession
    (mapError_eq_ok.mp reviewing)
  obtain ⟨-, secure, notBefore, notAfter⟩ := SessionSafetyReview.requireSecureCoverage_eq_ok
    (mapError_eq_ok.mp covering)
  have goes₈ := goes₇.fence ⟨elapsed, now, later, native, coverage, _, rfl, secure, session,
    notBefore, notAfter⟩
  refine (triple_callPort (stops _ goes₇.toStopped) fun answered =>
    stopsFenced answered _ (goes₈ answered).toStopped).bind fun accepted => ?_
  refine demand_then (stopsFenced _ _ (goes₈ _).toStopped) fun yes => ?_
  subst yes
  exact (plainly_checkDeadline port _ _).consequence (fun _ same => same ▸ goes₈ _)
    (fun _ _ => id) (stopsFenced _)

/-- The loop body covers one more epoch. -/
theorem triple_coverEpoch (epoch : SessionEpoch) :
    Triple (Covered event budget epochs) (coverEpoch port event budget epoch)
      (fun _ => Covered event budget (epoch :: epochs))
        (Within event budget (epoch :: epochs)) := by
  refine .of_forall fun trace covered => ?_
  refine ((triple_protectEpoch port epoch covered.fenced covered.converges).consequence
    (fun _ same => same ▸ covered.goesOn) (fun _ _ => id) fun _ => id).bind ?_
  rintro ⟨lock, owner⟩
  refine .of_forall ?_
  rintro trace' ⟨rfl, -, convergedList, conv, goes⟩
  refine (triple_fenceEpoch port covered.fenced conv).consequence (fun _ same => same ▸ goes) ?_
    fun _ => id
  intro _ trace'' goes'
  refine ⟨goes'.ordered, goes'.open_, ?_, ?_, goes'.converged_eq ▸ conv⟩
  · rw [goes'.fences_eq, List.map_cons, covered.fenced]
  · rw [goes'.fences_eq]
    exact List.forall_mem_cons.mpr ⟨rfl, covered.accepted⟩

/-- The loop covers its epochs one after another. -/
theorem triple_coverAll (todo : List SessionEpoch) :
    Triple (Covered event budget epochs) (todo.forM (coverEpoch port event budget))
      (fun _ => Covered event budget (todo.reverse ++ epochs))
      (Within event budget (todo.reverse ++ epochs)) := by
  induction todo generalizing epochs with
  | nil => exact .pure fun _ => id
  | cons epoch rest ih =>
    have split : (epoch :: rest).reverse ++ epochs = rest.reverse ++ epoch :: epochs := by
      rw [List.reverse_cons, List.append_assoc, List.singleton_append]
    rw [split]
    refine .bind ?_ fun _ => ih
    exact (triple_coverEpoch port epoch).weaken fun _ within =>
      within.mono (List.sublist_append_right _ _)

end Session

/-! ### The gate -/

section Admission

variable (port : NativeSleepCoveragePort) {event : SleepInvocationId} {budget : Nat}

variable {trace : GateTrace}

theorem Covered.within {epochs : List SessionEpoch} (covered : Covered event budget epochs trace) :
    Within event budget epochs trace :=
  ⟨covered.ordered, covered.fenced ▸ List.Sublist.refl _, covered.converges⟩

/-- What neither fences nor converges leaves the epochs covered. -/
theorem Plainly.covered {α : Type} {program : GateProgram α} (plain : Plainly event budget program)
    {epochs : List SessionEpoch} : Triple (Covered event budget epochs) program
      (fun _ => Covered event budget epochs) (Within event budget epochs) := by
  refine .of_forall fun trace covered => ?_
  refine (plain (fences trace) (converged trace)).consequence (fun _ same =>
    same ▸ covered.goesOn) ?_ ?_
  · intro _ trace' goes
    exact ⟨goes.ordered, goes.open_, goes.fences_eq ▸ covered.fenced,
      goes.fences_eq ▸ covered.accepted,
      goes.converged_eq ▸ covered.converges⟩
  · intro trace' stopped
    exact stopped.within (covered.fenced ▸ List.Sublist.refl _) covered.converges

theorem covered_nil : Covered event budget [] [] :=
  ⟨trivial, id, rfl, fun _ none => (List.not_mem_nil none).elim, List.Sublist.refl _⟩

/-- However the gate ends, its trace is in order and no epoch has two fences or convergences. -/
theorem triple_coordinate :
    Triple (· = []) (coordinate port event budget)
      (fun _ trace => ∃ epochs, epochs.Nodup ∧ Within event budget epochs trace)
      (fun trace => ∃ epochs, epochs.Nodup ∧ Within event budget epochs trace) := by
  have first : ∀ trace, Within event budget [] trace →
      ∃ epochs : List SessionEpoch, epochs.Nodup ∧ Within event budget epochs trace :=
    fun _ within => ⟨[], List.nodup_nil, within⟩
  have before : ∀ {α : Type} {program : GateProgram α}, Plainly event budget program →
      Triple (Covered event budget []) program (fun _ => Covered event budget [])
        (fun trace => ∃ epochs, epochs.Nodup ∧ Within event budget epochs trace) :=
    fun plain => plain.covered.weaken first
  refine .bind (Q := fun _ => Covered event budget []) ?_ fun _ => ?_
  · exact (before (plainly_checkDeadline port)).consequence (fun _ same => same ▸ covered_nil)
      (fun _ _ => id) fun _ => id
  refine (before (plainly_revalidateEntry port event)).bind fun _ => ?_
  refine (before (plainly_inventory port)).bind fun epochs => ?_
  refine (before Plainly.require).bind fun _ => ?_
  have nodup : (epochs.keys.reverse ++ []).Nodup := by
    rw [List.append_nil]
    exact List.nodup_reverse.mpr epochs.keys_nodup
  have after : ∀ {α : Type} {program : GateProgram α}, Plainly event budget program →
      Triple (Covered event budget (epochs.keys.reverse ++ [])) program
        (fun _ => Covered event budget (epochs.keys.reverse ++ []))
        (fun trace => ∃ epochs, epochs.Nodup ∧ Within event budget epochs trace) :=
    fun plain => plain.covered.weaken fun _ within => ⟨_, nodup, within⟩
  refine .bind ((triple_coverAll port epochs.keys).weaken fun _ within => ⟨_, nodup, within⟩)
    fun _ => ?_
  refine (after (plainly_inventory port)).bind fun again => ?_
  refine (after Plainly.require).bind fun _ => ?_
  refine (after (plainly_revalidateEntry port event)).bind fun _ => ?_
  exact (after (plainly_checkDeadline port)).consequence (fun _ => id)
    (fun _ _ covered => ⟨_, nodup, covered.within⟩) fun _ => id

theorem WellOrdered.suffix {later earlier : GateTrace}
    (ordered : WellOrdered event budget (later ++ earlier)) : WellOrdered event budget earlier := by
  induction later with
  | nil => exact ordered
  | cons newest later ih => exact ih ordered.2.2

private theorem length_filter_epoch {α : Type} (list : List α) (epochOf : α → SessionEpoch)
    (epoch : SessionEpoch) :
    (list.filter fun item => epochOf item = epoch).length = (list.map epochOf).count epoch := by
  rw [← List.countP_eq_length_filter, List.count, List.countP_map]
  rfl

theorem returns_revalidateEntry {trace' : GateTrace} {value : Unit}
    (ended : Returns (revalidateEntry port event) trace value trace') :
    trace' = .revalidated event (.ok ()) :: trace := by
  have post : Triple (· = trace) (revalidateEntry port event)
      (fun value => (· = .revalidated event (.ok value) :: trace)) (fun _ => True) :=
    triple_callPort trivial fun _ => trivial
  exact post.of_returns ended rfl

theorem returns_checkDeadline {trace' : GateTrace} {value : Unit}
    (ended : Returns (checkDeadline port budget) trace value trace') :
    ∃ elapsed, elapsed < budget ∧ trace' = .deadline elapsed :: trace := by
  have post : Triple (· = trace) (checkDeadline port budget) _ (fun _ => True) :=
    triple_checkDeadline trivial fun _ => trivial
  exact post.of_returns ended rfl

/-- The gate that admits the sleep: the first and the last inventory select the same sessions, and
each of them has exactly one fence, which was accepted. -/
theorem returns_coordinate {value : Unit}
    (ended : Returns (coordinate port event budget) [] value trace) :
    ∃ (epochs : EpochSet) (listed relisting relisted : GateTrace) (first last : Nat),
      Returns (inventory port event budget) [.revalidated event (.ok ()),
        .deadline first] epochs listed ∧
      Returns (inventory port event budget) relisting epochs relisted ∧
      trace = .deadline last :: .revalidated event (.ok ()) :: relisted ∧
      epochs.keys ≠ [] ∧ Covered event budget epochs.keys.reverse trace := by
  obtain ⟨_, _, opening, entering⟩ := ended.bind
  obtain ⟨first, early, rfl⟩ := returns_checkDeadline port opening
  obtain ⟨_, _, entered, listing⟩ := entering.bind
  cases returns_revalidateEntry port entered
  obtain ⟨epochs, listed, inventoried, choosing⟩ := listing.bind
  obtain ⟨some, covering⟩ := choosing.bind_require
  obtain ⟨_, relisting, covered, checking⟩ := covering.bind
  obtain ⟨again, relisted, inventoriedAgain, comparing⟩ := checking.bind
  obtain ⟨rfl, leaving⟩ := comparing.bind_require
  obtain ⟨_, _, left, closing⟩ := leaving.bind
  cases returns_revalidateEntry port left
  obtain ⟨last, late, rfl⟩ := returns_checkDeadline port closing
  refine ⟨again, listed, relisting, relisted, first, last, inventoried,
    inventoriedAgain, rfl, ?_, ?_⟩
  · exact fun none => some (List.map_eq_nil_iff.mp none)
  -- From the empty trace every part keeps the epochs that are covered so far.
  have opened : Covered event budget [] _ :=
    (plainly_checkDeadline port).covered.of_returns opening covered_nil
  have entered' := (plainly_revalidateEntry port event).covered.of_returns entered opened
  have inventoried' := (plainly_inventory port).covered.of_returns inventoried entered'
  have covered' := (triple_coverAll port again.keys).of_returns covered inventoried'
  rw [List.append_nil] at covered'
  have again' := (plainly_inventory port).covered.of_returns inventoriedAgain covered'
  have left' := (plainly_revalidateEntry port event).covered.of_returns left again'
  exact (plainly_checkDeadline port).covered.of_returns closing left'

/-- Sleep is admitted only with full coverage, whatever the port answers and however time passes.
In every run a lock is fenced only right after it was seen to be secure, and converged only after it
was seen not to be; no epoch has two fences or two convergences; and nothing is done after a check
that found the deadline passed. -/
theorem coordinate_covers_sessions (event : SleepInvocationId) (budget : Nat)
    (faults : List Fault) :
    let run := coordinate port event budget ⟨[], faults⟩
    let trace := run.2.state
    (∀ entry lock answer later earlier, trace = later ++ .fenced entry lock answer :: earlier →
      entry = event ∧ FenceReady event lock earlier) ∧
    (∀ entry lock answer later earlier, trace = later ++ .converged entry lock answer :: earlier →
      entry = event ∧ ConvergeReady event lock earlier) ∧
    (∀ epoch, ((fences trace).filter fun fence => fence.1.epoch = epoch).length ≤ 1 ∧
      ((converged trace).filter fun lock => lock.epoch = epoch).length ≤ 1) ∧
    (∀ elapsed newest later earlier, trace = later ++ newest :: .deadline elapsed :: earlier →
      elapsed < budget) ∧
    (run.1 = .ok () →
      ∃ (epochs : EpochSet) (listed relisting relisted : GateTrace) (first last : Nat),
      Returns (inventory port event budget) [.revalidated event (.ok ()),
        .deadline first] epochs listed ∧
      Returns (inventory port event budget) relisting epochs relisted ∧
      trace = .deadline last :: .revalidated event (.ok ()) :: relisted ∧
      epochs.keys ≠ [] ∧
      ∀ epoch ∈ epochs.keys, epoch.boot = event.boot ∧ epoch.uid ≠ 0 ∧
        ∃ lock : SessionLockId, lock.epoch = epoch ∧
          ((fences trace).filter fun fence => fence.1.epoch = epoch) = [(lock, .ok true)]) := by
  rcases ended : coordinate port event budget ⟨[], faults⟩ with ⟨outcome, trace, unused⟩
  dsimp only
  obtain ⟨all, nodup, within⟩ : ∃ epochs, epochs.Nodup ∧ Within event budget epochs trace := by
    have ordered : Triple (· = []) (coordinate port event budget) _ _ := triple_coordinate port
    have post := ordered.run ⟨[], faults⟩ rfl
    rw [ended] at post
    cases outcome with
    | ok | error | crashed => exact post
  refine ⟨?_, ?_, ?_, ?_, ?_⟩
  · rintro entry lock answer later earlier rfl
    exact within.ordered.suffix.2.1
  · rintro entry lock answer later earlier rfl
    exact within.ordered.suffix.2.1
  · intro epoch
    rw [length_filter_epoch (fences trace) (·.1.epoch),
      length_filter_epoch (converged trace) (·.epoch)]
    exact ⟨List.nodup_iff_count_le_one.mp (nodup.sublist within.fenced) epoch,
      List.nodup_iff_count_le_one.mp (nodup.sublist within.converges) epoch⟩
  · rintro elapsed newest later earlier rfl
    exact Nat.not_le.mp within.ordered.suffix.1
  · rintro rfl
    obtain ⟨epochs, listed, relisting, relisted, first, last, once, again,
      trace_eq, some, covered⟩ :=
      returns_coordinate port ⟨faults, unused, ended⟩
    refine ⟨epochs, listed, relisting, relisted, first, last, once, again, trace_eq, some, ?_⟩
    intro epoch member
    obtain ⟨boot, user⟩ := mem_of_inventory port once member
    refine ⟨boot, user, ?_⟩
    have single : ((fences trace).filter fun fence => fence.1.epoch = epoch).length = 1 := by
      rw [length_filter_epoch (fences trace) (·.1.epoch), covered.fenced, List.count_reverse]
      exact List.count_eq_one_of_mem epochs.keys_nodup member
    obtain ⟨⟨lock, answer⟩, only⟩ := List.length_eq_one_iff.mp single
    have found : (lock, answer) ∈ (fences trace).filter fun fence => fence.1.epoch = epoch :=
      only ▸ List.mem_singleton_self _
    obtain ⟨present, same⟩ := List.mem_filter.mp found
    cases covered.accepted _ present
    exact ⟨lock, of_decide_eq_true same, only⟩

end Admission

/-! A machine with one session, whose lock is secure once it was converged. -/

namespace OneSession

def boot : BootId := ⟨"11111111-2222-3333-4444-555555555555", by decide⟩

def epoch : SessionEpoch := ⟨boot, 1000, "c1", 7, by decide +kernel⟩

def lock : SessionLockId :=
  ⟨epoch, ⟨"66666666-7777-8888-9999-aaaaaaaaaaaa", by decide⟩, 3, by decide⟩

def envelope (provider : String) (resource : ResourceId) (capability : String)
    (attributes : BTreeMap String ObservedValue) : Except String ObservationEnvelope := do
  let provider ← (TypedId.new "provider id" provider).mapError fun _ => "provider"
  let capability ← (TypedId.new "capability id" capability).mapError fun _ => "capability"
  return ⟨provider, resource, capability, .nativeApi, 100, 1000, 1, attributes⟩

def identity : BTreeMap String ObservedValue :=
  (((BTreeMap.empty.insert "boot_id" (.text boot.value)).insert "session_id"
    (.text "c1")).insert "uid"
    (.u64 1000)).insert "created_monotonic_us" (.u64 7)

def session : Except String ObservationEnvelope := do
  let resource ← epoch.resourceId.mapError (·.display)
  envelope "logind" resource "session.epoch.observe" <|
    ((((((identity.insert "session_type" (.text "wayland")).insert "session_class"
      (.text "user")).insert
      "state" (.text "active")).insert "active" (.bool true)).insert "remote" (.bool false)).insert
      "seat" (.text "seat0")).insert "leader_present" (.bool true)

def locker (secure : Bool) : Except String ObservationEnvelope := do
  let resource ← lock.resourceId.mapError (·.display)
  envelope "session-locker" resource "session.secure-lock.observe" <|
    (((identity.insert "lock_generation" (.u64 3)).insert "security_owner_invocation"
      (.text lock.securityOwnerInvocation.value)).insert "lock_protocol"
      (.text "ext-session-lock-v1")).insert "secure" (.bool secure)

def port : NativeSleepCoveragePort where
  sessionEpochs _ := .ok [epoch]
  observeSession _ _ := session
  observeLock trace _ := locker (!(converged trace).isEmpty)
  convergeProtectiveLock _ _ _ := .ok ()
  fenceCoverage _ _ _ := .ok true
  revalidateEntry _ _ := .ok ()
  clock _ := some 500
  elapsed trace := trace.length

def event : SleepInvocationId := ⟨boot, "bbbbbbbb-cccc-dddd-eeee-ffffffffffff", by decide⟩

/-- The lock is converged once and fenced once. -/
theorem admits : (coordinate port event 100 ⟨[], []⟩).1 = .ok () := by decide +kernel

/-- The sleep is admitted, and with coverage. -/
theorem coordinate_covers_sessions_one_session : ∃ epochs : EpochSet, epochs.keys ≠ [] ∧
    ∀ epoch ∈ epochs.keys, ∃ lock : SessionLockId, lock.epoch = epoch ∧
      ((fences (coordinate port event 100 ⟨[], []⟩).2.state).filter fun fence =>
        fence.1.epoch = epoch) = [(lock, .ok true)] := by
  obtain ⟨epochs, -, -, -, -, -, -, -, -, some, covered⟩ :=
    (coordinate_covers_sessions port event 100 []).2.2.2.2 admits
  exact ⟨epochs, some, fun epoch member => (covered epoch member).2.2⟩

end OneSession

end Linura.Control
