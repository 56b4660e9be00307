import Linura.Core.Session
import Linura.Lib.Except
import Linura.Lib.Split

/-!
# Discovery of the native security owner

`linura-linux-session::owner`: among the names on the bus, one connection of the supervised process
must expose the private endpoint.  The bus may change its answers from call to call, so the model
takes each listed name together with what the bus answers when it is asked about it there.  A peer
that vanishes discards the whole enumeration, and one more may follow, within the same budgets of
names and of time.
-/

namespace Linura.SecurityOwner

open Linura.Lib Linura.Core

inductive NativeCallError
  | transitionPending
  | credentialPeerVanished
  | endpointPeerVanished
  | endpointAbsent
  | failure (label : String)
  deriving DecidableEq

def NativeCallError.label : NativeCallError → String
  | .transitionPending =>
    "native session call failed: class=transition-pending; stage=lock-observation"
  | .credentialPeerVanished =>
    "native session call failed: class=peer-unavailable; stage=credentials"
  | .endpointPeerVanished => "native session call failed: class=peer-unavailable; stage=mechanism"
  | .endpointAbsent => "native session call failed: class=unsupported; stage=mechanism"
  | .failure label => label

/-- `unique_name` -/
def uniqueName (value : String) : Bool :=
  match stripLead value ":" with
  | none => false
  | some suffix => value.utf8ByteSize ≤ 128 && suffix.toList.contains '.' &&
      (splitAll suffix '.').all fun part => !part.isEmpty && part.toList.all Char.isDigit

/-- A user and a process. -/
abbrev Credentials := Nat × Nat

/-- A listed name, and what the bus answers about its credentials and its endpoint when asked. -/
structure Peer where
  name : String
  credentials : Except NativeCallError Credentials
  endpoint : Except NativeCallError Bool

/-- What the body of the loop makes of a listed name. -/
inductive Finding
  | passed
  | endpoint
  | vanished
  | failed (reason : String)
  deriving DecidableEq

/-- The body of the loop of `select_owner_connection`. -/
def Peer.finding (expected : Credentials) (peer : Peer) : Finding :=
  if uniqueName peer.name then
    match peer.credentials with
    | .error .credentialPeerVanished => .vanished
    | .error error => .failed error.label
    | .ok credentials =>
      if credentials ≠ expected then .passed
      else match peer.endpoint with
        | .ok true => .endpoint
        | .ok false => .passed
        | .error .endpointAbsent => .passed
        | .error .endpointPeerVanished => .vanished
        | .error error => .failed error.label
  else .passed

/-- The loop of `select_owner_connection`, with the connection found so far. -/
def selectPeer (expected : Credentials) (found : Option String) : List Peer →
    Except String (Option String)
  | [] => match found with
    | some name => .ok (some name)
    | none => .error "native owner has no authenticated bus connection"
  | peer :: rest => match peer.finding expected with
    | .passed => selectPeer expected found rest
    | .vanished => .ok none
    | .failed reason => .error reason
    | .endpoint =>
      if found.isSome then .error "native owner has ambiguous bus connections"
      else selectPeer expected (some peer.name) rest

/-- `select_owner_connection`, which returns what remains of the budget of names. -/
def selectOwnerConnection (peers : List Peer) (expected : Credentials) (remaining : Nat) :
    Except String (Option String × Nat) := do
  demand (peers.length ≤ remaining) "native bus enumeration exceeds its aggregate bound"
  let found ← selectPeer expected none peers
  .ok (found, remaining - peers.length)

/-- What systemd says of the owner: its process and its invocation. -/
abbrev Supervised := Nat × SecurityOwnerInvocationId

structure NativeOwnerIdentity where
  uniqueName : String
  uid : Nat
  pid : Nat
  invocation : SecurityOwnerInvocationId

/-- `PROBE_BUDGET`, in nanoseconds. -/
def probeBudget : Nat := 2 * 10 ^ 9

section Attempts

variable (uid : Nat) (expected : Supervised) (elapsed : Nat → Nat)
  (snapshot : Nat → Nat → Except String (Option NativeOwnerIdentity × Nat))

/-- The loop of `complete_owner_discovery`.  The clock is read once before each snapshot and once
more before an identity is returned. -/
def attempts : Nat → Nat → Nat → Except String NativeOwnerIdentity
  | 0, _, _ => .error "native owner discovery remained unstable within its bounded probe"
  | left + 1, attempt, remaining => do
    demand (elapsed attempt < probeBudget) "native owner discovery exceeded its original deadline"
    match ← snapshot attempt remaining with
    | (none, remaining) => attempts left (attempt + 1) remaining
    | (some identity, _) =>
      demand (uniqueName identity.uniqueName ∧ identity.uid = uid ∧
          (identity.pid, identity.invocation) = expected)
        "native security owner changed during discovery"
      demand (elapsed (attempt + 1) < probeBudget)
        "native owner discovery exceeded its original deadline"
      .ok identity

/-- `complete_owner_discovery` -/
def completeOwnerDiscovery : Except String NativeOwnerIdentity :=
  attempts uid expected elapsed snapshot 2 0 256

end Attempts

/-- The answers to the calls of one snapshot. -/
structure Sighting where
  supervised : Except String Supervised
  names : Except String (List Peer)
  supervisedAgain : Except String Supervised
  credentialsAgain : Except String Credentials

/-- `revalidate` -/
def Sighting.revalidate (identity : NativeOwnerIdentity) (sighting : Sighting) :
    Except String Unit := do
  let supervised ← sighting.supervisedAgain
  demand (supervised = (identity.pid, identity.invocation))
    "native security owner changed during the operation"
  let credentials ← sighting.credentialsAgain
  demand (credentials = (identity.uid, identity.pid))
    "native security owner changed during the operation"

/-- The snapshots that `discover` takes. -/
def Sighting.snapshot (uid : Nat) (expected : Supervised) (sighting : Sighting) (remaining : Nat) :
    Except String (Option NativeOwnerIdentity × Nat) := do
  let supervised ← sighting.supervised
  demand (supervised = expected) "native security owner changed during discovery"
  let peers ← sighting.names
  match ← selectOwnerConnection peers (uid, supervised.1) remaining with
  | (none, remaining) => .ok (none, remaining)
  | (some name, remaining) =>
    let identity := ⟨name, uid, supervised.1, supervised.2⟩
    sighting.revalidate identity
    .ok (some identity, remaining)

/-- `discover`, with the first answer about the supervised owner. -/
def discover (uid : Nat) (first : Except String Supervised) (elapsed : Nat → Nat)
    (sightings : Nat → Sighting) :
    Except String NativeOwnerIdentity := do
  let expected ← first
  completeOwnerDiscovery uid expected elapsed fun attempt =>
    (sightings attempt).snapshot uid expected

/-! ### Selecting a connection -/

section Selection

variable {expected : Credentials} {peers : List Peer} {name : String}

def Peer.Exposes (expected : Credentials) (peer : Peer) : Prop :=
  uniqueName peer.name ∧ peer.credentials = .ok expected ∧ peer.endpoint = .ok true

theorem Peer.finding_eq_endpoint {peer : Peer} : peer.finding expected = .endpoint ↔
    peer.Exposes expected := by
  unfold Peer.finding Peer.Exposes
  by_cases unique : uniqueName peer.name = true
  · rw [if_pos unique]
    cases peer.credentials with
    | error error => cases error <;> simp
    | ok credentials =>
      by_cases same : credentials = expected
      · cases peer.endpoint with
        | error error => cases error <;> simp [same]
        | ok exposed => cases exposed <;> simp [same, unique]
      · simp [same]
  · simp [unique]

/-- One peer has the name and exposes the endpoint, and every other was asked and passed over. -/
def Sole (expected : Credentials) (peers : List Peer) (name : String) : Prop :=
  ∃ before peer after, peers = before ++ peer :: after ∧ peer.name = name ∧ peer.Exposes expected ∧
    ∀ other ∈ before ++ after, other.finding expected = .passed

theorem sole_cons {first : Peer} : Sole expected (first :: peers) name ↔
    (first.name = name ∧ first.finding expected = .endpoint ∧
      ∀ other ∈ peers, other.finding expected = .passed) ∨
      (first.finding expected = .passed ∧ Sole expected peers name) := by
  rw [Peer.finding_eq_endpoint]
  constructor
  · rintro ⟨before, peer, after, same, named, exposes, others⟩
    cases before with
    | nil =>
      cases same
      exact .inl ⟨named, exposes, others⟩
    | cons head before =>
      cases same
      obtain ⟨passed, others⟩ := List.forall_mem_cons.mp others
      exact .inr ⟨passed, before, peer, after, rfl, named, exposes, others⟩
  · rintro (⟨named, exposes, others⟩ | ⟨passed, before, peer, after, rfl, named, exposes, others⟩)
    · exact ⟨[], first, peers, rfl, named, exposes, others⟩
    · exact ⟨first :: before, peer, after, rfl, named, exposes,
        List.forall_mem_cons.mpr ⟨passed, others⟩⟩

theorem selectPeer_some {found : String} :
    selectPeer expected (some found) peers = .ok (some name) ↔
      found = name ∧ ∀ peer ∈ peers, peer.finding expected = .passed := by
  induction peers with
  | nil => simp [selectPeer]
  | cons peer rest ih =>
    rw [selectPeer, List.forall_mem_cons]
    split <;> simp_all

/-- A sole peer is selected. -/
theorem selectPeer_none : selectPeer expected none peers = .ok (some name) ↔
    Sole expected peers name := by
  induction peers with
  | nil => simp [selectPeer, Sole]
  | cons first rest ih =>
    rw [sole_cons, ← ih, selectPeer]
    cases first.finding expected <;> simp [selectPeer_some]

/-- A peer vanished, after peers that were asked without a failure and of which, with those known
before, at most one exposes the endpoint. -/
def Discards (expected : Credentials) (known : Nat) (peers : List Peer) : Prop :=
  ∃ before peer after, peers = before ++ peer :: after ∧ peer.finding expected = .vanished ∧
    (∀ other ∈ before, other.finding expected = .passed ∨ other.finding expected = .endpoint) ∧
    known + before.countP (·.finding expected = .endpoint) ≤ 1

theorem discards_cons {first : Peer} {known : Nat} : Discards expected known (first :: peers) ↔
    (first.finding expected = .vanished ∧ known ≤ 1) ∨
      (first.finding expected = .passed ∧ Discards expected known peers) ∨
      (first.finding expected = .endpoint ∧ Discards expected (known + 1) peers) := by
  constructor
  · rintro ⟨before, peer, after, same, vanished, asked, few⟩
    cases before with
    | nil =>
      cases same
      exact .inl ⟨vanished, few⟩
    | cons head before =>
      cases same
      obtain ⟨passed | exposes, asked⟩ := List.forall_mem_cons.mp asked
      · refine .inr (.inl ⟨passed, before, peer, after, rfl, vanished, asked, ?_⟩)
        simpa [passed] using few
      · refine .inr (.inr ⟨exposes, before, peer, after, rfl, vanished, asked, ?_⟩)
        simp only [List.countP_cons, exposes, decide_true, if_true] at few
        omega
  · rintro (⟨vanished, few⟩ | ⟨passed, before, peer, after, rfl, vanished, asked, few⟩ |
      ⟨exposes, before, peer, after, rfl, vanished, asked, few⟩)
    · exact ⟨[], first, peers, rfl, vanished, by simp, few⟩
    · refine ⟨first :: before, peer, after, rfl, vanished,
        List.forall_mem_cons.mpr ⟨.inl passed, asked⟩, ?_⟩
      simpa [passed] using few
    · refine ⟨first :: before, peer, after, rfl, vanished,
        List.forall_mem_cons.mpr ⟨.inr exposes, asked⟩, ?_⟩
      simp only [List.countP_cons, exposes, decide_true, if_true]
      omega

/-- An enumeration is discarded exactly if a peer vanished before anything failed. -/
theorem selectPeer_eq_none {found : Option String} :
    selectPeer expected found peers = .ok none ↔ Discards expected found.toList.length peers := by
  induction peers generalizing found with
  | nil => cases found <;> simp [selectPeer, Discards]
  | cons first rest ih =>
    rw [discards_cons, selectPeer]
    cases first.finding expected with
    | passed => simpa using ih
    | vanished => cases found <;> simp
    | failed reason => simp
    | endpoint =>
      cases found with
      | none => simpa using @ih (some first.name)
      | some name =>
        suffices ¬ Discards expected (1 + 1) rest by simpa
        rintro ⟨_, _, _, _, _, _, few⟩
        omega

/-- What a selection that succeeded has found. -/
theorem selectOwnerConnection_eq_ok {remaining rest : Nat} {found : Option String} :
    selectOwnerConnection peers expected remaining = .ok (found, rest) ↔ peers.length ≤ remaining ∧
      selectPeer expected none peers = .ok found ∧ rest = remaining - peers.length := by
  simp only [selectOwnerConnection, demand_eq_ok, bind_eq_ok, Except.ok.injEq, Prod.mk.injEq]
  grind

end Selection

/-! ### Discovering the owner -/

section Discovery

variable {uid remaining : Nat} {expected : Supervised} {identity : NativeOwnerIdentity}
    {sighting : Sighting}

def Sighting.listed (sighting : Sighting) : List Peer := sighting.names.toOption.getD []

theorem snapshot_eq_ok {found : Option NativeOwnerIdentity} {rest : Nat}
    (taken : sighting.snapshot uid expected remaining = .ok (found, rest)) :
    sighting.listed.length + rest = remaining ∧
      (found = none → Discards (uid, expected.1) 0 sighting.listed) ∧
      ∀ identity, found = some identity →
      Sole (uid, expected.1) sighting.listed identity.uniqueName ∧
        sighting.revalidate identity = .ok () := by
  simp only [Sighting.snapshot, bind_eq_ok, demand_eq_ok] at taken
  obtain ⟨_, -, _, rfl, peers, names, ⟨name, left⟩, selected, taken⟩ := taken
  obtain ⟨few, chosen, rfl⟩ := selectOwnerConnection_eq_ok.mp selected
  have listed : sighting.listed = peers := by rw [Sighting.listed, names]; rfl
  rw [listed]
  cases name with
  | none =>
    cases taken
    exact ⟨by omega, fun _ => selectPeer_eq_none.mp chosen, nofun⟩
  | some name =>
    obtain ⟨valid, taken⟩ := check_bind_eq_ok.mp taken
    cases taken
    refine ⟨by omega, nofun, ?_⟩
    rintro _ ⟨⟩
    exact ⟨selectPeer_none.mp chosen, valid⟩

/-- The identity comes from a snapshot after `discarded` others, the first of them the one of
`attempt`; a peer vanished in each of those, and together they listed at most `budget` names. -/
structure Discovered (uid : Nat) (expected : Supervised) (elapsed : Nat → Nat)
    (sightings : Nat → Sighting)
    (attempt discarded budget : Nat) (identity : NativeOwnerIdentity) : Prop where
  names : ((List.range' attempt (discarded + 1)).map fun taken =>
    (sightings taken).listed.length).sum ≤ budget
  vanished : ∀ taken ∈ List.range' attempt discarded,
    Discards (uid, expected.1) 0 (sightings taken).listed
  user : identity.uid = uid
  supervised : (identity.pid, identity.invocation) = expected
  early : elapsed (attempt + discarded) < probeBudget
  late : elapsed (attempt + discarded + 1) < probeBudget
  sole : Sole (uid, expected.1) (sightings (attempt + discarded)).listed identity.uniqueName
  revalidated : (sightings (attempt + discarded)).revalidate identity = .ok ()

/-- The owner that attempts end with is the sole one of the last sighting. -/
theorem discovered_of_attempts {elapsed : Nat → Nat} {sightings : Nat → Sighting}
    {left attempt : Nat}
    (ended : attempts uid expected elapsed (fun attempt =>
      (sightings attempt).snapshot uid expected) left
      attempt remaining = .ok identity) :
    ∃ discarded < left, Discovered uid expected elapsed sightings attempt discarded
      remaining identity := by
  induction left generalizing attempt remaining with
  | zero => cases ended
  | succ left ih =>
    simp only [attempts, demand_eq_ok, bind_eq_ok] at ended
    obtain ⟨_, early, ⟨found, rest⟩, taken, ended⟩ := ended
    obtain ⟨count, vanished, seen⟩ := snapshot_eq_ok taken
    cases found with
    | none =>
      obtain ⟨discarded, lt, later⟩ := ih ended
      have shift : attempt + (discarded + 1) = attempt + 1 + discarded := by omega
      refine ⟨discarded + 1, by omega, ?_, ?_, later.user, later.supervised, ?_, ?_, ?_, ?_⟩
      · have names := later.names
        rw [List.range'_succ, List.map_cons, List.sum_cons]
        omega
      · rw [List.range'_succ]
        exact List.forall_mem_cons.mpr ⟨vanished rfl, later.vanished⟩
      · exact shift ▸ later.early
      · exact shift ▸ later.late
      · exact shift ▸ later.sole
      · exact shift ▸ later.revalidated
    | some value =>
      simp only [check_bind_eq_ok, demand_eq_ok] at ended
      obtain ⟨⟨-, uids, processes⟩, late, returned⟩ := ended
      cases returned
      obtain ⟨sole, valid⟩ := seen _ rfl
      refine ⟨0, by omega, ?_, by simp, uids, processes, early, late, sole, valid⟩
      rw [List.range'_one, List.map_singleton, List.sum_singleton]
      omega

end Discovery

/-- For every list of names and all answers: a connection is selected exactly if it is the only one
that exposes the endpoint, and an enumeration is discarded exactly if a peer vanished before
anything failed.  What is discovered
is an identity of the user, with the process and the invocation that were supervised at first,
within the budget of time, after at most two enumerations with at most 256 names together. -/
theorem owner_discovery_bounded (uid : Nat) (first : Except String Supervised) (elapsed : Nat → Nat)
    (sightings : Nat → Sighting) :
    (∀ peers expected remaining name rest,
      selectOwnerConnection peers expected remaining = .ok (some name, rest) ↔
        peers.length ≤ remaining ∧ Sole expected peers name ∧ rest = remaining - peers.length) ∧
    (∀ peers expected remaining rest,
      selectOwnerConnection peers expected remaining = .ok (none, rest) ↔
        peers.length ≤ remaining ∧ Discards expected 0 peers ∧ rest = remaining - peers.length) ∧
    ∀ identity, discover uid first elapsed sightings = .ok identity →
      ∃ expected, first = .ok expected ∧
      ∃ discarded < 2, Discovered uid expected elapsed sightings 0 discarded 256 identity := by
  refine ⟨fun peers expected remaining name rest => ?_, fun peers expected remaining rest => ?_,
    fun identity discovered => ?_⟩
  · rw [selectOwnerConnection_eq_ok, selectPeer_none]
  · rw [selectOwnerConnection_eq_ok, selectPeer_eq_none, Option.toList_none, List.length_nil]
  · obtain ⟨expected, supervised, ended⟩ := bind_eq_ok.mp discovered
    exact ⟨expected, supervised, discovered_of_attempts ended⟩

end Linura.SecurityOwner
