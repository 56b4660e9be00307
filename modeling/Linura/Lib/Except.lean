import Mathlib.Tactic.Common

/-!
# Fallible computations

Equations and inversion rules for computations in `Except` and for readers that
thread a state through such computations.
-/

namespace Linura.Lib

variable {ε α β σ : Type}

@[simp]
theorem ok_bind (value : α) (next : α → Except ε β) : (Except.ok value >>= next) = next value := rfl

@[simp]
theorem error_bind (reason : ε) (next : α → Except ε β) :
    (Except.error reason >>= next) = .error reason := rfl

@[simp]
theorem map_ok (f : α → β) (value : α) : (f <$> (.ok value : Except ε α)) = .ok (f value) := rfl

theorem throw_eq_error (reason : ε) : (throw reason : Except ε α) = .error reason := rfl

theorem pure_eq_ok (value : α) : (pure value : Except ε α) = .ok value := rfl

variable {first : Except ε α}

/-- A sequence succeeds when its first part does and the rest succeeds on the result. -/
theorem bind_eq_ok {next : α → Except ε β} {result : β} :
    (first >>= next) = .ok result ↔ ∃ value, first = .ok value ∧ next value = .ok result := by
  cases first with
  | error | ok => simp

/-- A check and what follows it. -/
theorem check_bind_eq_ok {check : Except ε Unit} {next : Unit → Except ε β} {result : β} :
    check >>= next = .ok result ↔ check = .ok () ∧ next () = .ok result := by
  cases check with
  | error | ok => simp

/-- Renaming errors does not change what succeeds. -/
theorem mapError_eq_ok {ε' : Type} {f : ε → ε'} {value : α} :
    first.mapError f = .ok value ↔ first = .ok value := by
  cases first with
  | error | ok => simp [Except.mapError]

/-- A value that is demanded is there. -/
theorem elim_eq_ok {found : Option α} {reason : ε} {value : α} :
    found.elim (Except.error reason) .ok = .ok value ↔ found = some value := by
  cases found with
  | none | some => simp

/-- Fail unless a condition holds. -/
def demand (condition : Prop) [Decidable condition] (reason : ε) : Except ε Unit :=
  if condition then .ok () else .error reason

theorem demand_eq_ok {condition : Prop} [Decidable condition] {reason : ε} {value : Unit} :
    demand condition reason = .ok value ↔ condition := by
  unfold demand
  split
  · simp [*]
  · simp [*]

/-- A computation that reports success has a value. -/
theorem exists_eq_ok_of_isOk (ok : first.isOk = true) : ∃ value, first = .ok value := by
  cases first with
  | error reason => cases ok
  | ok value => exact ⟨value, rfl⟩

variable {values : List α}

/-- A loop over checks that all pass passes. -/
theorem forM_eq_ok {check : α → Except ε Unit} (passes : ∀ value ∈ values, check value = .ok ()) :
    values.forM check = .ok () := by
  induction values with
  | nil => rfl
  | cons value rest ih =>
    show (check value >>= fun _ => rest.forM check) = _
    rw [passes value List.mem_cons_self, ok_bind]
    exact ih fun value' member => passes value' (List.mem_cons_of_mem _ member)

/-- A run of checks succeeds exactly when each of them does. -/
theorem forM_eq_ok_iff {check : α → Except ε Unit} :
    values.forM check = .ok () ↔ ∀ value ∈ values, check value = .ok () := by
  refine ⟨fun passed => ?_, forM_eq_ok⟩
  induction values with
  | nil => simp
  | cons value rest ih =>
    obtain ⟨first, later⟩ := check_bind_eq_ok.mp passed
    exact List.forall_mem_cons.mpr ⟨first, ih later⟩

/-- A map over computations that all succeed succeeds. -/
theorem mapM_eq_ok {compute : α → Except ε β} {result : α → β}
    (succeeds : ∀ value ∈ values, compute value = .ok (result value)) :
    values.mapM compute = .ok (values.map result) := by
  induction values with
  | nil => rfl
  | cons value rest ih =>
    rw [List.mapM_cons, succeeds value List.mem_cons_self, ok_bind,
      ih fun value' member => succeeds value' (List.mem_cons_of_mem _ member), ok_bind]
    rfl

/-- What each step of a loop keeps, of the items done so far and the state, holds after all of them.
-/
theorem foldlM_rule {f : σ → α → Except ε σ} {I : List α → σ → Prop}
    (step : ∀ done item state state', I done state → f state item = .ok state' →
      I (done ++ [item]) state')
    (done : List α) {items : List α} {state state' : σ} (holds : I done state)
    (ended : items.foldlM f state = .ok state') : I (done ++ items) state' := by
  induction items generalizing done state with
  | nil =>
    cases ended
    simpa using holds
  | cons item rest ih =>
    rw [List.foldlM_cons] at ended
    obtain ⟨next, first, later⟩ := bind_eq_ok.mp ended
    have all := ih _ (step done item state next holds first) later
    rwa [List.append_assoc, List.singleton_append] at all

end Linura.Lib
