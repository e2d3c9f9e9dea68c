import Mathlib.Logic.Function.Basic
import Mathlib.Tactic

set_option relaxedAutoImplicit false
set_option autoImplicit false

/-!
# Locks and the phases of their holders

Tasks that move between phases, where the phase of a task says which locks it holds. A lock that
changes hands with the phases is always held by the one task inside, whatever the interleaving.

## Main definitions

* `Lock.pass` — the holder of a lock after a task has moved to a phase that holds it or not.
* `Lock.Guards` — the holder is the task whose phase holds the lock.

## Main results

* `Lock.Guards.unique` — mutual exclusion.
* `Lock.Guards.pass` — a task that only takes a free lock keeps the lock guarded.
-/

namespace Lock

variable {ι φ : Type}

/-- The holder of a lock after task `i` has moved to a phase that holds it or not. -/
def pass [DecidableEq ι] (i : ι) (holds : Bool) (lock : Option ι) : Option ι :=
  if holds then some i else if lock = some i then none else lock

/-- The holder of the lock is the task whose phase holds it, if there is one. -/
def Guards (lock : Option ι) (holds : φ → Bool) (phase : ι → φ) : Prop :=
  ∀ i, holds (phase i) ↔ lock = some i

namespace Guards

variable {lock : Option ι} {holds : φ → Bool} {phase : ι → φ}

/-- **Mutual exclusion.** -/
lemma unique (h : Guards lock holds phase) {i j : ι} (hi : holds (phase i))
    (hj : holds (phase j)) : i = j :=
  Option.some.inj (((h i).mp hi).symm.trans ((h j).mp hj))

/-- A lock that no phase holds is free. -/
lemma of_forall_not (h : ∀ i, ¬ holds (phase i)) : Guards none holds phase := fun i =>
  iff_of_false (h i) (by simp)

/-- **A lock stays guarded** when a task moves, as long as the task takes it only when it is free
or its own. -/
lemma pass [DecidableEq ι] (h : Guards lock holds phase) (i : ι) (p : φ)
    (hfree : holds p → lock = none ∨ lock = some i) :
    Guards (Lock.pass i (holds p) lock) holds (Function.update phase i p) := by
  intro j
  unfold Lock.pass
  by_cases hp : holds p
  · rw [if_pos hp]
    by_cases hji : j = i
    · rw [hji, Function.update_self]
      simp [hp]
    · rw [Function.update_of_ne hji, h j]
      rcases hfree hp with hlock | hlock
      · simp [hlock, Ne.symm hji]
      · rw [hlock]
  · rw [if_neg hp]
    by_cases hji : j = i
    · rw [hji, Function.update_self]
      refine iff_of_false hp fun hlock => ?_
      split_ifs at hlock with hi
      exact hi hlock
    · rw [Function.update_of_ne hji, h j]
      split_ifs with hi
      · simp [hi, Ne.symm hji]
      · rfl

end Guards

end Lock
