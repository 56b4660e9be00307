import Mathlib.Logic.Relation
import Mathlib.Algebra.Order.BigOperators.Group.List
import Mathlib.Algebra.Order.Ring.Nat
import Mathlib.Algebra.Group.Action.Defs
import Mathlib.Data.List.Basic
import Mathlib.Tactic.Common

/-!
# Worklists

A worklist takes the newest pending node, skips it if it was visited, and otherwise adds its
children to what is pending, as imperative code explores a graph that is given by the children of
its nodes.  It is written with fuel, and needs no more of it than nodes are pending and edges are
left.
-/

namespace Linura.Lib

/-- What a worklist does: where it goes on from a node, and what it does at the first visit. -/
structure Worklist (κ σ : Type) where
  children : κ → List κ
  visit : κ → σ → σ

namespace Worklist

variable {κ σ : Type} [DecidableEq κ] (worklist : Worklist κ σ)

/-- Work off what is pending, the newest first.  The result is what was visited and the state. -/
def explore : Nat → List κ → List κ → σ → Option (List κ × σ)
  | _, [], visited, state => some (visited, state)
  | 0, _ :: _, _, _ => none
  | fuel + 1, key :: rest, visited, state =>
    if key ∈ visited then explore fuel rest visited state
    else explore fuel ((worklist.children key).reverse ++ rest) (key :: visited)
      (worklist.visit key state)

variable {worklist} {fuel : Nat} {pending visited visited' : List κ} {state state' : σ}

/-- What a worklist keeps, skipping a node or visiting one, it has kept when it is done. -/
theorem explore_rule {I : List κ → List κ → σ → Prop}
    (skip : ∀ {key rest visited state}, I (key :: rest) visited state → key ∈ visited →
      I rest visited state)
    (enter : ∀ {key rest visited state}, I (key :: rest) visited state → key ∉ visited →
      I ((worklist.children key).reverse ++ rest) (key :: visited) (worklist.visit key state))
    (holds : I pending visited state)
    (done : worklist.explore fuel pending visited state = some (visited', state')) :
    I [] visited' state' := by
  induction fuel generalizing pending visited state with
  | zero =>
    cases pending with
    | nil =>
      cases done
      exact holds
    | cons key rest => cases done
  | succ fuel ih =>
    cases pending with
    | nil =>
      cases done
      exact holds
    | cons key rest =>
      rw [explore] at done
      split at done
      · rename_i seen
        exact ih (skip holds seen) done
      · rename_i unseen
        exact ih (enter holds unseen) done

/-- One node is a child of another. -/
def Child (worklist : Worklist κ σ) (key child : κ) : Prop := child ∈ worklist.children key

/-- What is visited is what can be reached from what was pending. -/
theorem mem_explore
    (done : worklist.explore fuel pending [] state = some (visited', state')) (key : κ) :
    key ∈ visited' ↔ ∃ root ∈ pending, Relation.ReflTransGen worklist.Child root key := by
  -- what was pending at first, or is a child of a visited node, is visited or pending
  have kept : (∀ root ∈ pending, root ∈ visited' ∨ root ∈ []) ∧
      (∀ key ∈ visited', ∀ child ∈ worklist.children key, child ∈ visited' ∨ child ∈ []) ∧
      ∀ key, key ∈ visited' ∨ key ∈ [] →
      ∃ root ∈ pending, Relation.ReflTransGen worklist.Child root key := by
    refine explore_rule (I := fun todo visited _ =>
      (∀ root ∈ pending, root ∈ visited ∨ root ∈ todo) ∧
      (∀ key ∈ visited, ∀ child ∈ worklist.children key, child ∈ visited ∨ child ∈ todo) ∧
      ∀ key, key ∈ visited ∨ key ∈ todo →
      ∃ root ∈ pending, Relation.ReflTransGen worklist.Child root key)
      ?_ ?_ ?_ done
    · intro key rest visited _ ⟨roots, closed, reached⟩ seen
      have moved : ∀ {other}, other ∈ visited ∨ other ∈ key :: rest →
          other ∈ visited ∨ other ∈ rest := by
        intro other member
        simp only [List.mem_cons] at member
        rcases member with old | rfl | later
        · exact .inl old
        · exact .inl seen
        · exact .inr later
      exact ⟨fun root member => moved (roots root member),
        fun other member child edge => moved (closed other member child edge),
        fun other member => reached other (member.imp_right (List.mem_cons_of_mem _))⟩
    · intro key rest visited _ ⟨roots, closed, reached⟩ _
      have moved : ∀ {other}, other ∈ visited ∨ other ∈ key :: rest →
          other ∈ key :: visited ∨ other ∈ (worklist.children key).reverse ++ rest := by
        intro other member
        simp only [List.mem_cons, List.mem_append] at member ⊢
        tauto
      refine ⟨fun root member => moved (roots root member), fun other member child edge => ?_,
        fun other member => ?_⟩
      · rcases List.mem_cons.mp member with rfl | old
        · exact .inr (List.mem_append_left _ (List.mem_reverse.mpr edge))
        · exact moved (closed other old child edge)
      · simp only [List.mem_cons, List.mem_append, List.mem_reverse] at member
        rcases member with (rfl | old) | edge | later
        · exact reached other (.inr List.mem_cons_self)
        · exact reached other (.inl old)
        · obtain ⟨root, first, path⟩ := reached key (.inr List.mem_cons_self)
          exact ⟨root, first, path.tail edge⟩
        · exact reached other (.inr (List.mem_cons_of_mem _ later))
    · exact ⟨fun root member => .inr member, fun key member => absurd member List.not_mem_nil,
        fun key member => ⟨key, by simpa using member, .refl⟩⟩
  obtain ⟨roots, closed, reached⟩ := kept
  simp only [List.not_mem_nil, or_false] at roots closed reached
  refine ⟨reached key, ?_⟩
  rintro ⟨root, first, path⟩
  induction path with
  | refl => exact roots root first
  | tail _ edge ih => exact closed _ ih _ edge

/-- The edges that leave the nodes not yet visited. -/
def edges (nodes : List κ) (degree : κ → Nat) (visited : List κ) : Nat :=
  ((nodes.filter (· ∉ visited)).map degree).sum

theorem edges_cons_le (nodes : List κ) (degree : κ → Nat) (key : κ) (visited : List κ) :
    edges nodes degree (key :: visited) ≤ edges nodes degree visited := by
  unfold edges
  apply List.Sublist.sum_le_sum _ fun _ _ => Nat.zero_le _
  apply List.Sublist.map
  apply List.monotone_filter_right
  intro node
  simp only [List.mem_cons, not_or, Bool.decide_and, Bool.and_eq_true, decide_eq_true_eq]
  exact And.right

theorem edges_cons {nodes : List κ} {degree : κ → Nat} {key : κ} (known : key ∈ nodes)
    (unseen : key ∉ visited) :
    edges nodes degree (key :: visited) + degree key ≤ edges nodes degree visited := by
  induction nodes with
  | nil => cases known
  | cons other rest ih =>
    have fewer := edges_cons_le rest degree key visited
    unfold edges at ih fewer ⊢
    by_cases same : other = key
    · subst same
      simp only [List.filter_cons, List.mem_cons, true_or, not_true,
        decide_false, Bool.false_eq_true,
        if_false, unseen, not_false_eq_true, decide_true, if_true, List.map_cons,
        List.sum_cons] at fewer ⊢
      omega
    · have step := ih ((List.mem_cons.mp known).resolve_left (Ne.symm same))
      by_cases seen : other ∈ visited
      · simpa [List.filter_cons, seen, same] using step
      · simp only [List.filter_cons, List.mem_cons, same, seen, or_self,
          not_false_eq_true, decide_true,
          if_true, List.map_cons, List.sum_cons] at step ⊢
        omega

/-- On a graph with finitely many edges a worklist is done after as many steps as nodes are pending
and edges are left. -/
theorem explore_isSome {nodes : List κ}
    (finite : ∀ key, key ∈ nodes ∨ worklist.children key = [])
    (enough : pending.length + edges nodes (fun key =>
      (worklist.children key).length) visited ≤ fuel) :
    (worklist.explore fuel pending visited state).isSome = true := by
  induction fuel generalizing pending visited state with
  | zero =>
    have none : pending = [] := List.length_eq_zero_iff.mp (by omega)
    rw [none]
    rfl
  | succ fuel ih =>
    cases pending with
    | nil => rfl
    | cons key rest =>
      rw [List.length_cons] at enough
      rw [explore]
      split
      · exact ih (by omega)
      · rename_i unseen
        apply ih
        rw [List.length_append, List.length_reverse]
        rcases finite key with known | none
        · have spent : edges nodes (fun key => (worklist.children key).length) (key :: visited) +
              (worklist.children key).length ≤ _ := edges_cons known unseen
          omega
        · have fewer := edges_cons_le nodes (fun key => (worklist.children key).length) key visited
          rw [none, List.length_nil]
          omega

end Worklist

end Linura.Lib
