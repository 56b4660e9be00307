import Mathlib.Data.List.Basic
import Mathlib.Data.List.Induction

/-!
# Runs

A run is a left fold over a list of steps.  What is known of a run is proved from its last step; a
run up to some moment is a prefix of the list.
-/

namespace Linura.Lib

variable {σ α : Type}

/-- What holds at the start and is carried over by each further step holds of every run.  The
property may speak of the steps that were taken. -/
theorem run_induction {step : σ → α → σ} {start : σ} {P : List α → σ → Prop} (nil : P [] start)
    (concat : ∀ steps last, P steps (steps.foldl step start) →
      P (steps ++ [last]) (step (steps.foldl step start) last)) (steps : List α) :
    P steps (steps.foldl step start) := by
  induction steps using List.reverseRecOn with
  | nil => exact nil
  | append_singleton steps last ih =>
    rw [List.foldl_append]
    exact concat steps last ih

/-- An element of a longer list is the new one or an old one. -/
theorem concat_eq_append_cons {list before after : List α} {last item : α}
    (same : list ++ [last] = before ++ item :: after) :
    (after = [] ∧ list = before ∧ last = item) ∨
      ∃ after', after = after' ++ [last] ∧ list = before ++ item :: after' := by
  rcases List.eq_nil_or_concat' after with rfl | ⟨after', last', rfl⟩
  · obtain ⟨same, single⟩ := List.append_inj' same rfl
    exact .inl ⟨rfl, same, List.singleton_inj.mp single⟩
  · have longer : list ++ [last] = (before ++ item :: after') ++ [last'] := by simpa using same
    obtain ⟨shorter, single⟩ := List.append_inj' longer rfl
    obtain rfl := List.singleton_inj.mp single
    exact .inr ⟨after', rfl, shorter⟩

end Linura.Lib
