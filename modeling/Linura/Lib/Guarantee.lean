import Linura.Lib.Program

/-!
# What a program guarantees

A program guarantees a relation if it holds between the state the program starts in and the
state it ends in, however it ends.  For a reflexive and transitive relation the guarantee of a
program follows from those of its parts, with nothing to say about the states in between; an
invariant that the relation carries along is then kept by the whole program.

A program may also ask its surroundings, which answer as they like, depending on everything
that has happened.  What was asked and answered is recorded.
-/

namespace Linura.Lib.Program

variable {σ τ ε ε' α β : Type}
variable {state state' : σ} {next : α → Program σ ε β} {computed : Except ε α}

/-! ### Checks and questions -/

/-- Fail unless a condition holds. -/
def require (condition : Prop) [Decidable condition] (reason : ε) : Program σ ε Unit :=
  if condition then pure () else fail reason

/-- Ask the surroundings and record the answer.  A crash comes before the question or after the
answer. -/
def ask (answer : σ → α) (record : α → σ → σ) : Program σ ε α := fun s =>
  let asked := record (answer s.state) s.state
  match s.faults with
  | .crash progress :: rest => (.crashed, ⟨if progress = 0 then s.state else asked, rest⟩)
  | _ :: rest => (.ok (answer s.state), ⟨asked, rest⟩)
  | [] => (.ok (answer s.state), ⟨asked, []⟩)

section Rules

variable {P E : σ → Prop} {Q : α → σ → Prop}

theorem Triple.require {condition : Prop} [Decidable condition] {reason : ε} {Q : Unit → σ → Prop}
    (holds : ∀ state, P state → condition → Q () state) (exc : ∀ state, P state → E state) :
    Triple P (Program.require condition reason) Q E := by
  unfold Program.require
  split
  · rename_i met
    exact Triple.pure fun state pre => holds state pre met
  · exact Triple.fail exc

theorem Triple.ask {answer : σ → α} {record : α → σ → σ}
    (holds : ∀ state, P state → Q (answer state) (record (answer state) state))
    (before : ∀ state, P state → E state)
    (after : ∀ state, P state → E (record (answer state) state)) :
    Triple P (Program.ask answer record : Program σ ε α) Q E := by
  unfold Triple
  rintro ⟨state, faults⟩ pre
  cases faults with
  | nil => exact holds _ pre
  | cons fault rest =>
    cases fault with
    | none | fail => exact holds _ pre
    | crash progress =>
      change E (if progress = 0 then state else record (answer state) state)
      split
      · exact before _ pre
      · exact after _ pre

/-- A program that returns does so in the postcondition. -/
theorem Triple.of_returns {P E : σ → Prop} {Q : α → σ → Prop} {program : Program σ ε α}
    {value : α} (triple : Triple P program Q E) (ended : Returns program state value state')
    (holds : P state) : Q value state' := by
  unfold Triple at triple
  obtain ⟨faults, faults', ended⟩ := ended
  have post := triple ⟨state, faults⟩ holds
  rw [ended] at post
  exact post

/-- A requirement that was passed holds. -/
theorem Returns.require {condition : Prop} [Decidable condition] {reason : ε}
    {value : Unit} (ended : Returns (Program.require condition reason) state value state') :
    condition ∧ state = state' := by
  unfold Program.require at ended
  split at ended
  · rename_i met
    exact ⟨met, ended.pure.2⟩
  · exact ended.not_fail.elim

theorem Returns.ask {answer : σ → α} {record : α → σ → σ} {value : α}
    (ended : Returns (Program.ask answer record : Program σ ε α) state value state') :
    value = answer state ∧ state' = record (answer state) state := by
  obtain ⟨faults, faults', ended⟩ := ended
  cases faults with
  | nil =>
    cases ended
    exact ⟨rfl, rfl⟩
  | cons fault rest =>
    cases fault with
    | none | fail =>
      cases ended
      exact ⟨rfl, rfl⟩
    | crash progress => cases ended

theorem Returns.lift {value : α} (ended : Returns (Program.lift computed) state value state') :
    computed = .ok value ∧ state = state' :=
  Returns.query ended

section Bind

variable {β : Type} {next : α → Program σ ε β} {result : β}

/-- A program that starts with a computation goes on with its value. -/
theorem Returns.bind_lift (ended : Returns (Program.lift computed >>= next) state result state') :
    ∃ value, computed = .ok value ∧ Returns (next value) state result state' := by
  obtain ⟨value, _, first, ended⟩ := ended.bind
  obtain ⟨computed, rfl⟩ := first.lift
  exact ⟨value, computed, ended⟩

/-- A program that starts with a check goes on if it is met. -/
theorem Returns.bind_require {condition : Prop} [Decidable condition] {reason : ε}
    {next : Unit → Program σ ε β}
    (ended : Returns (Program.require condition reason >>= next) state result state') :
    condition ∧ Returns (next ()) state result state' := by
  obtain ⟨_, _, first, ended⟩ := ended.bind
  obtain ⟨met, rfl⟩ := first.require
  exact ⟨met, ended⟩

end Bind

theorem Returns.modify {update : σ → σ} {value : Unit}
    (ended : Returns (Program.modify update : Program σ ε Unit) state value state') :
    state' = update state := by
  obtain ⟨faults, faults', ended⟩ := ended
  cases ended
  rfl

theorem Returns.access {reason : Nat → ε} {value : Unit}
    (ended : Returns (Program.access reason : Program σ ε Unit) state value state') :
    state' = state := by
  unfold Program.access Program.atomically at ended
  exact (Returns.effect ended).symm

/-- A program with its errors handled by failing returns as the program does. -/
theorem Returns.mapError {program : Program σ ε α} {f : ε → ε'} {value : α}
    (ended : Returns (program.mapError f) state value state') :
    Returns program state value state' := by
  obtain ⟨faults, faults', ended⟩ := ended
  refine ⟨faults, faults', ?_⟩
  unfold Program.mapError Program.handle at ended
  rcases ran : program ⟨state, faults⟩ with ⟨outcome, s'⟩
  rw [ran] at ended
  cases outcome with
  | ok value =>
    cases ended
    rfl
  | error | crashed => cases ended

/-- A program on a part returned on that part. -/
theorem Returns.zoom {get : σ → τ} {set : τ → σ → σ} {inner : Program τ ε α}
    {value : α} (ended : Returns (inner.zoom get set) state value state') :
    ∃ part, Returns inner (get state) value part ∧ state' = set part state := by
  obtain ⟨faults, faults', ended⟩ := ended
  unfold Program.zoom at ended
  rcases ran : inner ⟨get state, faults⟩ with ⟨outcome, s'⟩
  rw [ran] at ended
  cases ended
  exact ⟨s'.state, ⟨faults, s'.faults, ran⟩, rfl⟩

end Rules

/-! ### Guarantees -/

/-- However a program ends, its first and its last state are related. -/
def Guarantees (R : σ → σ → Prop) (program : Program σ ε α) : Prop :=
  ∀ s : Faulty σ, R s.state (program s).2.state

namespace Guarantees

variable {R R' : σ → σ → Prop} {program : Program σ ε α}

theorem mono (guarantees : Guarantees R program) (weaker : ∀ state state', R state state' →
    R' state state') : Guarantees R' program :=
  fun s => weaker _ _ (guarantees s)

/-- A guarantee by triples from each state. -/
theorem of_triple
    (triple : ∀ start, Triple (· = start) program (fun _ state => R start state) (R start)) :
    Guarantees R program := by
  unfold Triple at triple
  intro s
  have ended := triple s.state s rfl
  rcases ran : program s with ⟨outcome, s'⟩
  rw [ran] at ended
  cases outcome with
  | ok | error | crashed => exact ended

/-- A program that returns does so in a related state, as one of its runs. -/
theorem returns (guarantees : Guarantees R program) {P E : σ → Prop} {Q : α → σ → Prop}
    (post : ∀ state value state', P state → R state state' → Returns program state value state' →
      Q value state')
    (exc : ∀ state state', P state → R state state' → E state') : Triple P program Q E := by
  unfold Triple
  intro s holds
  have related := guarantees s
  rcases ended : program s with ⟨outcome, s'⟩
  rw [ended] at related
  cases outcome with
  | ok value => exact post _ _ _ holds related ⟨s.faults, s'.faults, ended⟩
  | error | crashed => exact exc _ _ holds related

/-- A program that returned keeps its guarantee. -/
theorem related (guarantees : Guarantees R program) {value : α}
    (ended : Returns program state value state') : R state state' := by
  obtain ⟨faults, faults', ended⟩ := ended
  have related := guarantees ⟨state, faults⟩
  rw [ended] at related
  exact related

theorem modify {update : σ → σ} (related : ∀ state, R state (update state)) :
    Guarantees R (Program.modify update : Program σ ε Unit) :=
  fun s => related s.state

theorem effect {reason : Nat → ε} {interrupted : Nat → σ → σ} {complete : σ → σ}
    (related : ∀ state, R state (complete state))
    (relatedInterrupted : ∀ state progress, R state (interrupted progress state)) :
    Guarantees R (Program.effect reason interrupted complete) := by
  rintro ⟨state, faults⟩
  cases faults with
  | nil => exact related state
  | cons fault rest =>
    cases fault with
    | none => exact related state
    | fail code progress => exact relatedInterrupted state progress
    | crash progress => exact relatedInterrupted state progress

section Closure

variable [IsPreorder σ R]

theorem pure {value : α} : Guarantees R (Pure.pure value : Program σ ε α) :=
  fun s => refl_of R s.state

theorem fail {reason : ε} : Guarantees R (Program.fail reason : Program σ ε α) :=
  fun s => refl_of R s.state

theorem query {compute : σ → Except ε α} : Guarantees R (Program.query compute) := by
  intro s
  unfold Program.query
  split
  · exact refl_of R s.state
  · exact refl_of R s.state

theorem lift : Guarantees R (Program.lift computed : Program σ ε α) := query

theorem require {condition : Prop} [Decidable condition] {reason : ε} :
    Guarantees R (Program.require condition reason : Program σ ε Unit) := by
  unfold Program.require
  split
  · exact pure
  · exact fail

/-- What follows starts where the first program returned its value. -/
theorem bind_from (first : Guarantees R program)
    (second : ∀ state value state', Returns program state value state' →
      ∀ faults, R state' (next value ⟨state', faults⟩).2.state) :
    Guarantees R (program >>= next) := by
  intro s
  have start := first s
  rw [bind_apply]
  rcases ended : program s with ⟨outcome, s'⟩
  rw [ended] at start
  cases outcome with
  | ok value => exact trans_of R start (second _ value _ ⟨s.faults, s'.faults, ended⟩ s'.faults)
  | error | crashed => exact start

/-- What follows may use that the first program returned its value. -/
theorem bind_returns (first : Guarantees R program)
    (second : ∀ state value state', Returns program state value state' →
      Guarantees R (next value)) :
    Guarantees R (program >>= next) :=
  first.bind_from fun _ value _ ended faults => second _ value _ ended ⟨_, faults⟩

theorem bind (first : Guarantees R program)
    (second : ∀ value, Guarantees R (next value)) : Guarantees R (program >>= next) :=
  first.bind_returns fun _ value _ _ => second value

theorem lift_bind (second : ∀ value, computed = .ok value → Guarantees R (next value)) :
    Guarantees R (Program.lift computed >>= next) :=
  lift.bind_returns fun _ value _ ended => second value ended.lift.1

theorem handle {handler : ε → Program σ ε' α} (first : Guarantees R program)
    (second : ∀ reason, Guarantees R (handler reason)) : Guarantees R (program.handle handler) := by
  intro s
  have start := first s
  unfold Program.handle
  rcases ended : program s with ⟨outcome, s'⟩
  rw [ended] at start
  cases outcome with
  | ok value => exact start
  | error reason => exact trans_of R start (second reason s')
  | crashed => exact start

theorem mapError {f : ε → ε'} (guarantees : Guarantees R program) :
    Guarantees R (program.mapError f) :=
  guarantees.handle fun _ => fail

theorem ask {answer : σ → α} {record : α → σ → σ}
    (related : ∀ state, R state (record (answer state) state)) :
    Guarantees R (Program.ask answer record : Program σ ε α) := by
  rintro ⟨state, faults⟩
  cases faults with
  | nil => exact related state
  | cons fault rest =>
    cases fault with
    | none | fail => exact related state
    | crash progress =>
      change R state (if progress = 0 then state else record (answer state) state)
      split
      · exact refl_of R state
      · exact related state

theorem access {reason : Nat → ε} : Guarantees R (Program.access reason : Program σ ε Unit) :=
  effect (fun state => refl_of R state) fun state _ => refl_of R state

end Closure

/-- A part of the state related by `S` relates the whole. -/
theorem zoom {S : τ → τ → Prop} {get : σ → τ} {set : τ → σ → σ} {inner : Program τ ε α}
    (guarantees : Guarantees S inner)
    (whole : ∀ state part, S (get state) part → R state (set part state)) :
    Guarantees R (inner.zoom get set) := by
  intro s
  have part := guarantees ⟨get s.state, s.faults⟩
  unfold Program.zoom
  rcases ended : inner ⟨get s.state, s.faults⟩ with ⟨outcome, s'⟩
  rw [ended] at part
  exact whole _ _ part

end Guarantees

end Linura.Lib.Program
