import Mathlib.Tactic.Common

/-!
# Programs with faults

A program changes a state by effects, any of which may fail or be cut short by a
crash.  A schedule of faults, consumed one by one, decides how each effect fares,
so that a statement about all schedules is a statement about failures and crashes
at every point.  An interrupted effect may have made some progress, which the
fault records.

Two kinds of assertion are used, and a third that combines them.  A triple speaks
about every schedule and has a postcondition for the states in which a program fails
or crashes.  A success assertion speaks about the schedule without faults and promises
a result.
-/

namespace Linura.Lib

/-- How an attempted effect fares.  An effect that fails, with an error code, or is cut short by a
crash has made some progress. -/
inductive Fault
  | none
  | fail (code progress : Nat)
  | crash (progress : Nat)
  deriving DecidableEq, Repr

/-- How a program ends. -/
inductive Outcome (ε α : Type)
  | ok (value : α)
  | error (reason : ε)
  | crashed
  deriving DecidableEq, Repr

/-- A state with the faults that the next effects meet.  After the last one there are none. -/
structure Faulty (σ : Type) where
  state : σ
  faults : List Fault

/-- A program over a state `σ` that fails with an `ε`. -/
def Program (σ ε α : Type) : Type := Faulty σ → Outcome ε α × Faulty σ

namespace Program

variable {σ ε ε' α β : Type}
variable {next : α → Program σ ε β} {compute : σ → Except ε α} {complete : σ → σ} {reason : Nat → ε}
  {interrupted : Nat → σ → σ} {handler : ε → Program σ ε' α}

instance : Monad (Program σ ε) where
  pure value := fun s => (.ok value, s)
  bind first next := fun s =>
    match first s with
    | (.ok value, s') => next value s'
    | (.error reason, s') => (.error reason, s')
    | (.crashed, s') => (.crashed, s')

theorem pure_apply {value : α} {s : Faulty σ} :
    (pure value : Program σ ε α) s = (.ok value, s) := rfl

theorem bind_apply {program : Program σ ε α} {s : Faulty σ} : (program >>= next) s =
    match program s with
    | (.ok value, s') => next value s'
    | (.error reason, s') => (.error reason, s')
    | (.crashed, s') => (.crashed, s') := rfl

def fail (reason : ε) : Program σ ε α := fun s => (.error reason, s)

/-- Fail if a computation on the state fails, otherwise return its value. -/
def query (compute : σ → Except ε α) : Program σ ε α := fun s =>
  match compute s.state with
  | .ok value => (.ok value, s)
  | .error reason => (.error reason, s)

/-- Return or fail as a computation says. -/
def lift (result : Except ε α) : Program σ ε α := query fun _ => result

/-- Change the state; this cannot be interrupted. -/
def modify (update : σ → σ) : Program σ ε Unit := fun s =>
    (.ok (), { s with state := update s.state })

/-- Attempt an effect: on a fault only `interrupted` happens, with the progress made. -/
def effect (reason : Nat → ε) (interrupted : Nat → σ → σ) (complete : σ → σ) : Program σ ε Unit :=
  fun s =>
    match s.faults with
    | [] => (.ok (), ⟨complete s.state, []⟩)
    | .none :: rest => (.ok (), ⟨complete s.state, rest⟩)
    | .fail code progress :: rest => (.error (reason code), ⟨interrupted progress s.state, rest⟩)
    | .crash progress :: rest => (.crashed, ⟨interrupted progress s.state, rest⟩)

/-- An effect that happens entirely or not at all. -/
def atomically (reason : Nat → ε) (complete : σ → σ) : Program σ ε Unit :=
  effect reason (fun _ => id) complete

/-- An effect that changes nothing, but may fail. -/
def access (reason : Nat → ε) : Program σ ε Unit := atomically reason id

/-- Handle an error.  A crash cannot be handled. -/
def handle (first : Program σ ε α) (handler : ε → Program σ ε' α) : Program σ ε' α := fun s =>
  match first s with
  | (.ok value, s') => (.ok value, s')
  | (.error reason, s') => handler reason s'
  | (.crashed, s') => (.crashed, s')

/-- Rename errors. -/
def mapError (f : ε → ε') (first : Program σ ε α) : Program σ ε' α :=
  first.handle fun reason => fail (f reason)

/-- Run a program on a part of the state. -/
def zoom {τ : Type} (get : σ → τ) (set : τ → σ → σ) (inner : Program τ ε α) : Program σ ε α :=
  fun s =>
    match inner ⟨get s.state, s.faults⟩ with
    | (outcome, s') => (outcome, ⟨set s'.state s.state, s'.faults⟩)

/-! ### Triples -/

/-- From a state in `P`, a program that returns does so in `Q`, and one that fails or crashes
leaves a state in `E`. -/
def Triple (P : σ → Prop) (program : Program σ ε α) (Q : α → σ → Prop) (E : σ → Prop) : Prop :=
  ∀ s : Faulty σ, P s.state →
    match program s with
    | (.ok value, s') => Q value s'.state
    | (.error _, s') => E s'.state
    | (.crashed, s') => E s'.state

/-- Every state a program ends in, however it ends, satisfies `I` if the first one does. -/
def Keeps (I : σ → Prop) (program : Program σ ε α) : Prop := Triple I program (fun _ => I) I

namespace Triple

variable {P P' E E' : σ → Prop} {Q Q' : α → σ → Prop} {R : β → σ → Prop}
variable {program : Program σ ε α}

theorem pure {value : α} (holds : ∀ state, P state → Q value state) :
    Triple P (Pure.pure value : Program σ ε α) Q E := fun s => holds s.state

theorem fail {reason : ε} (holds : ∀ state, P state → E state) :
    Triple P (Program.fail reason : Program σ ε α) Q E := fun s => holds s.state

/-- The rule of sequence. -/
theorem bind (first : Triple P program Q E)
    (second : ∀ value, Triple (Q value) (next value) R E) : Triple P (program >>= next) R E := by
  intro s holds
  have step := first s holds
  change match (match program s with
    | (.ok value, s') => next value s'
    | (.error reason, s') => (.error reason, s')
    | (.crashed, s') => (.crashed, s')) with
    | (.ok value, s') => R value s'.state
    | (.error _, s') => E s'.state
    | (.crashed, s') => E s'.state
  rcases ended : program s with ⟨outcome, s'⟩
  rw [ended] at step
  cases outcome with
  | ok value => exact second value s' step
  | error | crashed => exact step

/-- What a triple says of one run. -/
theorem run (triple : Triple P program Q E) (s : Faulty σ) (holds : P s.state) :
    match program s with
    | (.ok value, s') => Q value s'.state
    | (.error _, s') => E s'.state
    | (.crashed, s') => E s'.state := triple s holds

/-- A triple may be chosen for each state it may start in. -/
theorem of_exists (each : ∀ state, P state → ∃ P', P' state ∧ Triple P' program Q E) :
    Triple P program Q E := by
  intro s holds
  obtain ⟨P', starts, triple⟩ := each s.state holds
  exact triple s starts

/-- Nothing runs from a state that cannot be. -/
theorem of_false : Triple (fun _ => False) program Q E := fun _ never => never.elim

/-- A triple is one for each state it may start in. -/
theorem of_forall (each : ∀ state, P state → Triple (· = state) program Q E) :
    Triple P program Q E :=
  of_exists fun state holds => ⟨(· = state), rfl, each state holds⟩

/-- How a program ends, from its triple. -/
theorem cases (triple : Triple P program Q E) {s : Faulty σ} (holds : P s.state) :
    (∃ value s', program s = (.ok value, s') ∧ Q value s'.state) ∨
      (∃ reason s', program s = (.error reason, s') ∧ E s'.state) ∨
      ∃ s', program s = (.crashed, s') ∧ E s'.state := by
  have step := triple s holds
  rcases ended : program s with ⟨outcome, s'⟩
  rw [ended] at step
  cases outcome with
  | ok value => exact .inl ⟨value, s', rfl, step⟩
  | error reason => exact .inr (.inl ⟨reason, s', rfl, step⟩)
  | crashed => exact .inr (.inr ⟨s', rfl, step⟩)

/-- The rule of consequence. -/
theorem consequence (triple : Triple P program Q E) (pre : ∀ state, P' state → P state)
    (post : ∀ value state, Q value state → Q' value state) (exc : ∀ state, E state → E' state) :
    Triple P' program Q' E' := by
  intro s holds
  have step := triple s (pre _ holds)
  rcases ended : program s with ⟨outcome, s'⟩
  rw [ended] at step
  cases outcome with
  | ok value => exact post _ _ step
  | error | crashed => exact exc _ step

/-- More may be left by a program that fails or crashes. -/
theorem weaken (triple : Triple P program Q E) (exc : ∀ state, E state → E' state) :
    Triple P program Q E' :=
  triple.consequence (fun _ => id) (fun _ _ => id) exc

/-- A triple from one state. -/
theorem start (triple : Triple P program Q E) (first : σ) (holds : P first) :
    Triple (fun state => state = first) program Q E := by
  apply triple.consequence ?_ (fun _ _ => id) fun _ => id
  rintro _ rfl
  exact holds

/-- Two triples of one program. -/
theorem and (left : Triple P program Q E) (right : Triple P' program Q' E') :
    Triple (fun state => P state ∧ P' state) program (fun value state =>
      Q value state ∧ Q' value state)
      fun state => E state ∧ E' state := by
  intro s holds
  have first := left s holds.1
  have second := right s holds.2
  rcases ended : program s with ⟨outcome, s'⟩
  rw [ended] at first second
  cases outcome with
  | ok | error | crashed => exact ⟨first, second⟩

/-- Part of a precondition may say what the program is. -/
theorem assume {p : Prop} (triple : p → Triple P program Q E) :
    Triple (fun state => P state ∧ p) program Q E :=
  fun s holds => triple holds.2 s holds.1

/-- What is known of a value alone, the program that goes on with it may assume. -/
theorem bind_assume {M : σ → Prop} {φ : α → Prop}
    (first : Triple P program (fun value state => M state ∧ φ value) E)
    (second : ∀ value, φ value → Triple M (next value) R E) : Triple P (program >>= next) R E :=
  first.bind fun value => assume (second value)

theorem query (holds : ∀ state value, P state →
    compute state = .ok value → Q value state) (exc : ∀ state, P state → E state) :
    Triple P (Program.query compute) Q E := by
  intro s pre
  simp only [Program.query]
  cases result : compute s.state with
  | ok value => exact holds _ _ pre result
  | error reason => exact exc _ pre

/-- A computation from the state comes first, and nothing is kept of its value. -/
theorem peek {compute : σ → Except ε α} (exc : ∀ state, P state → E state)
    (second : ∀ value, Triple P (next value) R E) : Triple P (Program.query compute >>= next) R E :=
  bind (query (fun _ _ holds _ => holds) exc) second

/-- A program that starts with a computation goes on with its value. -/
theorem bind_lift {computed : Except ε α} (exc : ∀ state, P state → E state)
    (second : ∀ value, computed = .ok value → Triple P (next value) R E) :
    Triple P (Program.lift computed >>= next) R E :=
  bind_assume (query (fun _ _ holds ok => ⟨holds, ok⟩) exc) second

theorem modify {update : σ → σ} {Q : Unit → σ → Prop}
    (holds : ∀ state, P state → Q () (update state)) :
    Triple P (Program.modify update : Program σ ε Unit) Q E := fun s => holds s.state

theorem effect {Q : Unit → σ → Prop} (holds : ∀ state, P state → Q () (complete state))
    (exc : ∀ state progress, P state → E (interrupted progress state)) :
    Triple P (Program.effect reason interrupted complete) Q E := by
  rintro ⟨state, faults⟩ pre
  cases faults with
  | nil => exact holds _ pre
  | cons fault rest =>
    cases fault with
    | none => exact holds _ pre
    | fail | crash => exact exc _ _ pre

theorem atomically {Q : Unit → σ → Prop}
    (holds : ∀ state, P state → Q () (complete state)) (exc : ∀ state, P state → E state) :
    Triple P (Program.atomically reason complete) Q E :=
  effect holds fun state _ pre => exc state pre

theorem access (exc : ∀ state, P state → E state) :
    Triple P (Program.access reason) (fun _ => P) E :=
  atomically (fun _ => id) exc

theorem handle {F : σ → Prop} (first : Triple P program Q F)
    (second : ∀ reason, Triple F (handler reason) Q E) (crashed : ∀ state, F state → E state) :
    Triple P (program.handle handler) Q E := by
  intro s holds
  have step := first s holds
  unfold Program.handle
  rcases ended : program s with ⟨outcome, s'⟩
  rw [ended] at step
  cases outcome with
  | ok value => exact step
  | error reason => exact second reason s' step
  | crashed => exact crashed _ step

theorem mapError {f : ε → ε'} (triple : Triple P program Q E) : Triple P (program.mapError f) Q E :=
  triple.handle (fun _ => Triple.fail fun _ => id) fun _ => id

/-- A triple about a part of the state, with the rest of the state fixed. -/
theorem zoom {τ : Type} {get : σ → τ} {set : τ → σ → σ} {inner : Program τ ε α}
    (triple : ∀ outer, P outer → Triple (fun part => part = get outer) inner
      (fun value part => Q value (set part outer)) fun part => E (set part outer)) :
    Triple P (inner.zoom get set) Q E := by
  intro s holds
  have step := triple s.state holds ⟨get s.state, s.faults⟩ rfl
  unfold Program.zoom
  rcases ended : inner ⟨get s.state, s.faults⟩ with ⟨outcome, s'⟩
  rw [ended] at step
  cases outcome with
  | ok | error | crashed => exact step

end Triple

namespace Keeps

variable {I : σ → Prop} {program : Program σ ε α}

theorem pure {value : α} : Keeps I (Pure.pure value : Program σ ε α) :=
  Triple.pure fun _ => id

theorem fail {reason : ε} : Keeps I (Program.fail reason : Program σ ε α) :=
  Triple.fail fun _ => id

theorem query : Keeps I (Program.query compute) :=
  Triple.query (fun _ _ holds _ => holds) fun _ => id

theorem access : Keeps I (Program.access reason : Program σ ε Unit) :=
  Triple.access fun _ => id

theorem bind (first : Keeps I program) (second : ∀ value, Keeps I (next value)) :
    Keeps I (program >>= next) :=
  Triple.bind first second

/-- A loop keeps what its body keeps. -/
theorem forM {items : List β} {body : β → Program σ ε PUnit} (keeps : ∀ item, Keeps I (body item)) :
    Keeps I (items.forM body) := by
  induction items with
  | nil => exact pure
  | cons item rest ih =>
    change Keeps I (body item >>= fun _ => rest.forM body)
    exact (keeps item).bind fun _ => ih

end Keeps

/-! ### Success without faults -/

/-- Without faults, a program started in `state` returns `value` in `state'`. -/
def Runs (program : Program σ ε α) (state : σ) (value : α) (state' : σ) : Prop :=
  program ⟨state, []⟩ = (.ok value, ⟨state', []⟩)

section Runs

variable {state state' state'' : σ} {value : α} {result : β} {program : Program σ ε α}

theorem Runs.pure : Runs (Pure.pure value : Program σ ε α) state value state := rfl

theorem Runs.bind (first : Runs program state value state')
    (second : Runs (next value) state' result state'') :
    Runs (program >>= next) state result state'' := by
  change (match program ⟨state, []⟩ with
    | (.ok value, s') => next value s'
    | (.error reason, s') => (.error reason, s')
    | (.crashed, s') => (.crashed, s')) = _
  rw [first]
  exact second

theorem Runs.query (computed : compute state = .ok value) :
    Runs (Program.query compute) state value state := by
  simp only [Runs, Program.query, computed]

theorem Runs.lift {computed : Except ε α} (ok : computed = .ok value) :
    Runs (Program.lift computed) state value state :=
  Runs.query ok

theorem Runs.effect :
    Runs (Program.effect reason interrupted complete) state () (complete state) := rfl

theorem Runs.atomically : Runs (Program.atomically reason complete) state () (complete state) := rfl

theorem Runs.modify {update : σ → σ} :
    Runs (Program.modify update : Program σ ε Unit) state () (update state) := rfl

theorem Runs.handle (ran : Runs program state value state') :
    Runs (program.handle handler) state value state' := by
  rw [Runs, Program.handle, ran]

theorem Runs.zoom {τ : Type} {get : σ → τ} {set : τ → σ → σ} {inner : Program τ ε α} {part : τ}
    (ran : Runs inner (get state) value part) :
    Runs (inner.zoom get set) state value (set part state) := by
  unfold Runs at ran ⊢
  simp only [Program.zoom, ran]

end Runs

/-- From a state in `P` and without faults, a program returns, in a state in `Q`. -/
def Succeeds (P : σ → Prop) (program : Program σ ε α) (Q : α → σ → Prop) : Prop :=
  ∀ state, P state → ∃ value state', Runs program state value state' ∧ Q value state'

namespace Succeeds

variable {P P' : σ → Prop} {Q Q' : α → σ → Prop} {R : β → σ → Prop}
variable {program : Program σ ε α}

theorem pure {value : α} (holds : ∀ state, P state → Q value state) :
    Succeeds P (Pure.pure value : Program σ ε α) Q :=
  fun state pre => ⟨value, state, rfl, holds state pre⟩

theorem bind (first : Succeeds P program Q)
    (second : ∀ value, Succeeds (Q value) (next value) R) : Succeeds P (program >>= next) R := by
  intro state pre
  obtain ⟨value, state', ended, mid⟩ := first state pre
  obtain ⟨result, state'', finished, post⟩ := second value state' mid
  exact ⟨result, state'', ended.bind finished, post⟩

theorem consequence (succeeds : Succeeds P program Q) (pre : ∀ state, P' state → P state)
    (post : ∀ value state, Q value state → Q' value state) : Succeeds P' program Q' := by
  intro state holds
  obtain ⟨value, state', ended, result⟩ := succeeds state (pre _ holds)
  exact ⟨value, state', ended, post _ _ result⟩

theorem query (holds : ∀ state, P state → ∃ value, compute state = .ok value ∧ Q value state) :
    Succeeds P (Program.query compute) Q := by
  intro state pre
  obtain ⟨value, computed, post⟩ := holds state pre
  exact ⟨value, state, Runs.query computed, post⟩

theorem modify {update : σ → σ} {Q : Unit → σ → Prop}
    (holds : ∀ state, P state → Q () (update state)) :
    Succeeds P (Program.modify update : Program σ ε Unit) Q :=
  fun state pre => ⟨(), update state, rfl, holds state pre⟩

theorem effect {Q : Unit → σ → Prop} (holds : ∀ state, P state → Q () (complete state)) :
    Succeeds P (Program.effect reason interrupted complete) Q :=
  fun state pre => ⟨(), complete state, rfl, holds state pre⟩

theorem handle (first : Succeeds P program Q) : Succeeds P (program.handle handler) Q := by
  intro state pre
  obtain ⟨value, state', ended, post⟩ := first state pre
  exact ⟨value, state', ended.handle, post⟩

theorem mapError {f : ε → ε'} (succeeds : Succeeds P program Q) :
    Succeeds P (program.mapError f) Q :=
  succeeds.handle

end Succeeds

/-! ### Triples of programs that succeed -/

/-- A triple of a program that, if `sure`, returns when there are no faults. -/
structure Completes (sure : Prop) (P : σ → Prop) (program : Program σ ε α) (Q : α → σ → Prop)
    (E : σ → Prop) : Prop where
  triple : Triple P program Q E
  succeeds : sure → Succeeds P program Q

namespace Completes

variable {sure : Prop} {P P' E : σ → Prop} {Q : α → σ → Prop} {R : β → σ → Prop}
variable {program : Program σ ε α}

/-- The triple of a program about whose success nothing is known. -/
theorem sound (completes : Completes False P program Q E) : Triple P program Q E := completes.triple

/-- A program that is always sure to return. -/
theorem of_true (completes : Completes True P program Q E) : Completes sure P program Q E :=
  ⟨completes.triple, fun _ => completes.succeeds trivial⟩

theorem pure {value : α} (holds : ∀ state, P state → Q value state) :
    Completes sure P (Pure.pure value : Program σ ε α) Q E :=
  ⟨.pure holds, fun _ => .pure holds⟩

theorem bind (first : Completes sure P program Q E)
    (second : ∀ value, Completes sure (Q value) (next value) R E) :
    Completes sure P (program >>= next) R E :=
  ⟨first.triple.bind fun value => (second value).triple,
    fun certain => (first.succeeds certain).bind fun value => (second value).succeeds certain⟩

theorem query (holds : ∀ state, P state → ∃ value, compute state = .ok value ∧ Q value state)
    (exc : ∀ state, P state → E state) : Completes sure P (Program.query compute) Q E := by
  refine ⟨.query ?_ exc, fun _ => .query holds⟩
  intro state value pre computed
  obtain ⟨expected, same, post⟩ := holds state pre
  rw [computed] at same
  cases same
  exact post

/-- A question that is sure to be answered only if the whole program is sure to return. -/
theorem ask (holds : ∀ state value, P state → compute state = .ok value → Q value state)
    (certain : sure → ∀ state, P state → ∃ value, compute state = .ok value)
    (exc : ∀ state, P state → E state) : Completes sure P (Program.query compute) Q E := by
  refine ⟨.query holds exc, fun now => .query ?_⟩
  intro state pre
  obtain ⟨value, computed⟩ := certain now state pre
  exact ⟨value, computed, holds state value pre computed⟩

theorem lift {computed : Except ε α} {value : α} (ok : computed = .ok value)
    (holds : ∀ state, P state → Q value state) (exc : ∀ state, P state → E state) :
    Completes sure P (Program.lift computed) Q E :=
  query (fun state pre => ⟨value, ok, holds state pre⟩) exc

theorem effect {Q : Unit → σ → Prop} (holds : ∀ state, P state → Q () (complete state))
    (exc : ∀ state progress, P state → E (interrupted progress state)) :
    Completes sure P (Program.effect reason interrupted complete) Q E :=
  ⟨.effect holds exc, fun _ => .effect holds⟩

theorem atomically {Q : Unit → σ → Prop}
    (holds : ∀ state, P state → Q () (complete state)) (exc : ∀ state, P state → E state) :
    Completes sure P (Program.atomically reason complete) Q E :=
  effect holds fun state _ => exc state

theorem access (exc : ∀ state, P state → E state) :
    Completes sure P (Program.access reason) (fun _ => P) E :=
  atomically (fun _ => id) exc

theorem modify {update : σ → σ} {Q : Unit → σ → Prop}
    (holds : ∀ state, P state → Q () (update state)) :
    Completes sure P (Program.modify update : Program σ ε Unit) Q E :=
  ⟨.modify holds, fun _ => .modify holds⟩

theorem handle {F : σ → Prop} (first : Completes sure P program Q F)
    (second : ∀ reason, Triple F (handler reason) Q E) (crashed : ∀ state, F state → E state) :
    Completes sure P (program.handle handler) Q E :=
  ⟨first.triple.handle second crashed, fun certain => (first.succeeds certain).handle⟩

theorem mapError {f : ε → ε'} (completes : Completes sure P program Q E) :
    Completes sure P (program.mapError f) Q E :=
  ⟨completes.triple.mapError, fun certain => (completes.succeeds certain).mapError⟩

/-- Part of a precondition may say what the program is. -/
theorem assume {p : Prop} (completes : p → Completes sure P program Q E) :
    Completes sure (fun state => P state ∧ p) program Q E :=
  ⟨fun s holds => (completes holds.2).triple s holds.1,
    fun certain state holds => (completes holds.2).succeeds certain state holds.1⟩

/-- What is known of a value alone, the program that goes on with it may assume. -/
theorem bind_assume {M : σ → Prop} {φ : α → Prop}
    (first : Completes sure P program (fun value state => M state ∧ φ value) E)
    (second : ∀ value, φ value → Completes sure M (next value) R E) :
    Completes sure P (program >>= next) R E :=
  first.bind fun value => assume (second value)

/-- A program that starts with a computation goes on with its value. -/
theorem bind_lift {computed : Except ε α} (certain : sure → ∃ value, computed = .ok value)
    (exc : ∀ state, P state → E state)
    (second : ∀ value, computed = .ok value → Completes sure P (next value) R E) :
    Completes sure P (Program.lift computed >>= next) R E :=
  bind_assume (ask (fun _ _ holds ok => ⟨holds, ok⟩) (fun now _ _ => certain now) exc) second

/-- So does one whose first computation is known to succeed. -/
theorem bind_ok {computed : Except ε α} {value : α} (ok : computed = .ok value)
    (second : Completes sure P (next value) R E) :
    Completes sure P (Program.lift computed >>= next) R E := by
  subst ok
  exact second

theorem cases (left : Completes sure P program Q E) (right : Completes sure P' program Q E) :
    Completes sure (fun state => P state ∨ P' state) program Q E :=
  ⟨fun s holds => holds.elim (left.triple s) (right.triple s),
    fun certain state holds =>
      holds.elim (left.succeeds certain state) (right.succeeds certain state)⟩

theorem consequence {E' : σ → Prop} {Q' : α → σ → Prop} (completes : Completes sure P program Q E)
    (pre : ∀ state, P' state → P state) (post : ∀ value state, Q value state → Q' value state)
    (exc : ∀ state, E state → E' state) : Completes sure P' program Q' E' :=
  ⟨completes.triple.consequence pre post exc,
    fun certain => (completes.succeeds certain).consequence pre post⟩

/-- More may be left by a program that fails or crashes. -/
theorem weaken {E' : σ → Prop} (completes : Completes sure P program Q E)
    (exc : ∀ state, E state → E' state) : Completes sure P program Q E' :=
  completes.consequence (fun _ => id) (fun _ _ => id) exc

end Completes

/-! ### Programs that leave a part of the state alone -/

/-- However a program ends, `f` of the state is what it was. -/
def Leaves {τ : Type} (f : σ → τ) (program : Program σ ε α) : Prop :=
  ∀ part, Keeps (fun state => f state = part) program

namespace Leaves

variable {τ : Type} {f : σ → τ} {program : Program σ ε α}

theorem state_eq (leaves : Leaves f program) (s : Faulty σ) :
    f (program s).2.state = f s.state := by
  have step := leaves (f s.state) s rfl
  rcases ended : program s with ⟨outcome, s'⟩
  rw [ended] at step
  cases outcome with
  | ok | error | crashed => exact step

/-- Whatever is said of the part only goes on to hold. -/
theorem keeps (leaves : Leaves f program) (P : τ → Prop) :
    Keeps (fun state => P (f state)) program := by
  intro s holds
  have same := leaves.state_eq s
  rcases ended : program s with ⟨outcome, s'⟩
  rw [ended] at same
  change P (f s.state) at holds
  rw [← same] at holds
  cases outcome with
  | ok | error | crashed => exact holds

theorem pure {value : α} : Leaves f (Pure.pure value : Program σ ε α) :=
  fun _ => Triple.pure fun _ => id

theorem fail {reason : ε} : Leaves f (Program.fail reason : Program σ ε α) :=
  fun _ => Triple.fail fun _ => id

theorem bind (first : Leaves f program)
    (second : ∀ value, Leaves f (next value)) : Leaves f (program >>= next) :=
  fun part => (first part).bind fun value => second value part

theorem query : Leaves f (Program.query compute) :=
  fun _ => Triple.query (fun _ _ holds _ => holds) fun _ => id

theorem modify {update : σ → σ} (same : ∀ state, f (update state) = f state) :
    Leaves f (Program.modify update : Program σ ε Unit) :=
  fun _ => Triple.modify fun state holds => (same state).trans holds

theorem effect (same : ∀ state, f (complete state) = f state)
    (sameInterrupted : ∀ progress state, f (interrupted progress state) = f state) :
    Leaves f (Program.effect reason interrupted complete) :=
  fun _ => Triple.effect (fun state holds => (same state).trans holds)
    fun state progress holds => (sameInterrupted progress state).trans holds

theorem atomically (same : ∀ state, f (complete state) = f state) :
    Leaves f (Program.atomically reason complete) :=
  effect same fun _ _ => rfl

theorem handle (first : Leaves f program)
    (second : ∀ reason, Leaves f (handler reason)) : Leaves f (program.handle handler) :=
  fun part => (first part).handle (fun reason => second reason part) fun _ => id

theorem mapError {g : ε → ε'} (leaves : Leaves f program) : Leaves f (program.mapError g) :=
  leaves.handle fun _ => fail

theorem zoom {υ : Type} {get : σ → υ} {set : υ → σ → σ} {inner : Program υ ε α}
    (same : ∀ part state, f (set part state) = f state) : Leaves f (inner.zoom get set) := by
  intro part
  refine Triple.zoom fun outer holds => ?_
  intro s _
  rcases ended : inner s with ⟨outcome, s'⟩
  cases outcome with
  | ok | error | crashed => exact (same _ _).trans holds

end Leaves

/-! ### Programs that return -/

/-- With some faults, a program started in `state` returns `value` in `state'`. -/
def Returns (program : Program σ ε α) (state : σ) (value : α) (state' : σ) : Prop :=
  ∃ faults faults', program ⟨state, faults⟩ = (.ok value, ⟨state', faults'⟩)

section Returns

variable {state state' : σ} {value value' : α} {result : β} {program : Program σ ε α}

/-- A sequence that returned did so through a middle state. -/
theorem Returns.bind (ended : Returns (program >>= next) state result state') :
    ∃ value mid, Returns program state value mid ∧ Returns (next value) mid result state' := by
  obtain ⟨faults, faults', ended⟩ := ended
  rw [bind_apply] at ended
  rcases first : program ⟨state, faults⟩ with ⟨outcome, s'⟩
  rw [first] at ended
  cases outcome with
  | ok value => exact ⟨value, s'.state, ⟨faults, s'.faults, first⟩, ⟨s'.faults, faults', ended⟩⟩
  | error | crashed => cases ended

theorem Returns.pure (ended : Returns (Pure.pure value : Program σ ε α) state value' state') :
    value = value' ∧ state = state' := by
  obtain ⟨faults, faults', ended⟩ := ended
  cases ended
  exact ⟨rfl, rfl⟩

theorem Returns.query (ended : Returns (Program.query compute) state value state') :
    compute state = .ok value ∧ state = state' := by
  obtain ⟨faults, faults', ended⟩ := ended
  unfold Program.query at ended
  split at ended
  · rename_i computed
    cases ended
    exact ⟨computed, rfl⟩
  · cases ended

theorem Returns.effect {value : Unit}
    (ended : Returns (Program.effect reason interrupted complete) state value state') :
    complete state = state' := by
  obtain ⟨faults, faults', ended⟩ := ended
  unfold Program.effect at ended
  split at ended
  · cases ended
    rfl
  · cases ended
    rfl
  · cases ended
  · cases ended

theorem Returns.not_fail {reason : ε} (ended : Returns (Program.fail reason) state value state') :
    False := by
  obtain ⟨faults, faults', ended⟩ := ended
  cases ended

/-- A program that returned left what it leaves. -/
theorem Returns.leaves {τ : Type} {f : σ → τ} (ended : Returns program state value state')
    (leaves : Leaves f program) : f state' = f state := by
  obtain ⟨faults, faults', ended⟩ := ended
  have same := leaves.state_eq ⟨state, faults⟩
  rw [ended] at same
  exact same

/-- The strongest triple: a program that returns does so as one of its runs. -/
theorem Triple.returns : Triple (fun state' => state' = state) program
    (fun value state' => Returns program state value state') fun _ => True := by
  rintro ⟨first, faults⟩ same
  change first = state at same
  subst same
  rcases ended : program ⟨first, faults⟩ with ⟨outcome, s'⟩
  cases outcome with
  | ok value => exact ⟨faults, s'.faults, ended⟩
  | error reason => trivial
  | crashed => trivial

end Returns

-- From here on a program is reasoned about by the rules, and never run to see what it does.
attribute [irreducible] Triple

end Program

end Linura.Lib
