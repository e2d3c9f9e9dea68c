import Mathlib.Logic.Relation

set_option relaxedAutoImplicit false
set_option autoImplicit false

/-!
# State machines

Reachability in a state machine and the invariant rule.

## Main definitions

* `Machine` — a set of initial states and a step relation.
* `Machine.Reachable` — the states of its runs.

## Main results

* `Machine.Reachable.invariant` — what holds initially and is kept by every step always holds.
* `Machine.Reachable.trans` — what a reachable state reaches is reachable.
* `Machine.Reachable.simulated` — the rule of forward simulation.
-/

/-- A state machine: its initial states and its steps. -/
structure Machine (σ : Type) where
  init : σ → Prop
  step : σ → σ → Prop

namespace Machine

variable {σ : Type} {M : Machine σ}

/-- The states that some run of the machine reaches. -/
inductive Reachable (M : Machine σ) : σ → Prop
  | init {s : σ} (h : M.init s) : Reachable M s
  | step {s t : σ} (hs : Reachable M s) (h : M.step s t) : Reachable M t

namespace Reachable

/-- **The invariant rule.** A step may use that its state is reachable. -/
theorem invariant {P : σ → Prop} (hinit : ∀ s, M.init s → P s)
    (hstep : ∀ s t, M.Reachable s → P s → M.step s t → P t) {s : σ} (h : M.Reachable s) : P s := by
  induction h with
  | init h => exact hinit _ h
  | step hs h ih => exact hstep _ _ hs ih h

/-- Finitely many steps from a reachable state lead to a reachable state. -/
lemma trans {s t : σ} (hs : M.Reachable s) (h : Relation.ReflTransGen M.step s t) :
    M.Reachable t := by
  induction h with
  | refl => exact hs
  | tail _ h ih => exact .step ih h

/-- **Forward simulation.** When every step of a machine is matched by steps of another one, every
reachable state is matched by a reachable state of the other. -/
theorem simulated {τ : Type} {A : Machine τ} (R : τ → σ → Prop)
    (hinit : ∀ s, M.init s → ∃ a, A.init a ∧ R a s)
    (hstep : ∀ a s t, R a s → M.step s t → ∃ b, Relation.ReflTransGen A.step a b ∧ R b t)
    {s : σ} (h : M.Reachable s) : ∃ a, A.Reachable a ∧ R a s := by
  induction h with
  | init h =>
    obtain ⟨a, ha, hR⟩ := hinit _ h
    exact ⟨a, .init ha, hR⟩
  | step _ h ih =>
    obtain ⟨a, ha, hR⟩ := ih
    obtain ⟨b, hb, hR⟩ := hstep _ _ _ hR h
    exact ⟨b, ha.trans hb, hR⟩

end Reachable

end Machine
