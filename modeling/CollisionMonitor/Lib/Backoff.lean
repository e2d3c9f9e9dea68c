import Mathlib.Algebra.Order.Field.Basic
import Mathlib.Tactic

set_option relaxedAutoImplicit false
set_option autoImplicit false

/-!
# Bounded exponential backoff

Delays that grow by a factor after every failure up to a maximum, and the length of the current
series of failures in a history of events.

## Main definitions

* `Backoff.delay`, `Backoff.next` — the delay after some failures, and the update of a retry loop.
* `Backoff.streak` — the failures of a history since its last reset.
* `Backoff.Overdue` — a further kind of event would have reset a series of failures.

## Main results

* `Backoff.next_delay` — the update steps through the delays.
* `Backoff.delay_eq_iff` — two delays are equal only at the maximum.
* `Backoff.streak_lt_iff` — exactly when a further kind of reset shortens the series.
-/

namespace Backoff

/-! ## Delays -/

section Delay

variable {K : Type} [Field K] [LinearOrder K]

/-- The delay after `n` failures in a row. -/
def delay (factor initial maximum : K) (n : ℕ) : K := min (initial * factor ^ n) maximum

/-- The update of a retry loop. -/
def next (factor maximum current : K) : K := min (current * factor) maximum

variable {factor initial maximum : K}

/-- The first delay is the initial one. -/
lemma delay_zero (h : initial ≤ maximum) : delay factor initial maximum 0 = initial := by
  rw [delay, pow_zero, mul_one, min_eq_left h]

/-- No delay exceeds the maximum. -/
lemma delay_le (n : ℕ) : delay factor initial maximum n ≤ maximum := min_le_right _ _

variable [IsStrictOrderedRing K]

/-- **The update steps through the delays**: capping before multiplying loses nothing. -/
lemma next_delay (hfactor : 1 ≤ factor) (hmax : 0 ≤ maximum) (n : ℕ) :
    next factor maximum (delay factor initial maximum n) =
      delay factor initial maximum (n + 1) := by
  have hpow : initial * factor ^ (n + 1) = initial * factor ^ n * factor := by ring
  have hmaximum : maximum ≤ maximum * factor := le_mul_of_one_le_right hmax hfactor
  rw [next, delay, delay, hpow]
  rcases le_total (initial * factor ^ n) maximum with h | h
  · rw [min_eq_left h]
  · have hgrown : maximum ≤ initial * factor ^ n * factor :=
      hmaximum.trans (mul_le_mul_of_nonneg_right h (zero_le_one.trans hfactor))
    rw [min_eq_right h, min_eq_right hgrown, min_eq_right hmaximum]

/-- **Delays of different series differ below the maximum.** -/
lemma delay_eq_iff (hfactor : 1 < factor) (hinit : 0 < initial) {m n : ℕ} (hmn : m < n) :
    delay factor initial maximum n = delay factor initial maximum m ↔
      maximum ≤ initial * factor ^ m := by
  have hlt : initial * factor ^ m < initial * factor ^ n :=
    mul_lt_mul_of_pos_left (pow_lt_pow_right₀ hfactor hmn) hinit
  constructor
  · intro h
    by_contra hbelow
    rw [not_le] at hbelow
    have hm : delay factor initial maximum m = initial * factor ^ m := min_eq_left hbelow.le
    have hn : initial * factor ^ m < delay factor initial maximum n := lt_min hlt hbelow
    rw [h, hm] at hn
    exact lt_irrefl _ hn
  · intro h
    rw [delay, delay, min_eq_right h, min_eq_right (h.trans hlt.le)]

end Delay

/-! ## Series of failures -/

section Streak

variable {α : Type} (fails resets extra : α → Bool)

/-- The failures since the last reset. -/
def streak (events : List α) : ℕ :=
  events.foldl (fun count event => if resets event then 0 else
    if fails event then count + 1 else count) 0

/-- A failure came after the last reset. -/
def Failing (events : List α) : Prop :=
  ∃ before failure after, events = before ++ failure :: after ∧ fails failure ∧
    ∀ event ∈ after, ¬ resets event

/-- After a failure an event of the kind `extra` came, and no reset since the failure. -/
def Overdue (events : List α) : Prop :=
  ∃ before failure after, events = before ++ failure :: after ∧ fails failure ∧
    (∀ event ∈ after, ¬ resets event) ∧ ∃ event ∈ after, extra event

variable {fails resets extra}

/-- Nothing has failed at the start. -/
@[simp] lemma streak_nil : streak fails resets [] = 0 := rfl

/-- The streak after one more event. -/
lemma streak_snoc (events : List α) (event : α) :
    streak fails resets (events ++ [event]) = if resets event then 0 else
      if fails event then streak fails resets events + 1 else streak fails resets events := by
  rw [streak, List.foldl_append, List.foldl_cons, List.foldl_nil, ← streak]

/-- A reset ends the streak. -/
lemma streak_snoc_of_resets (events : List α) {event : α} (h : resets event) :
    streak fails resets (events ++ [event]) = 0 := by
  rw [streak_snoc, if_pos h]

/-- A failure extends it. -/
lemma streak_snoc_of_fails (events : List α) {event : α} (hr : ¬ resets event) (hf : fails event) :
    streak fails resets (events ++ [event]) = streak fails resets events + 1 := by
  rw [streak_snoc, if_neg hr, if_pos hf]

/-- Another event leaves it. -/
lemma streak_snoc_of_neither (events : List α) {event : α} (hr : ¬ resets event)
    (hf : ¬ fails event) :
    streak fails resets (events ++ [event]) = streak fails resets events := by
  rw [streak_snoc, if_neg hr, if_neg hf]

/-- How a decomposition of a history at an event grows with the history. -/
lemma exists_split_snoc {P : α → List α → Prop} {events : List α} {event : α} :
    (∃ before failure after, events ++ [event] = before ++ failure :: after ∧ P failure after) ↔
      P event [] ∨ ∃ before failure after, events = before ++ failure :: after ∧
        P failure (after ++ [event]) := by
  constructor
  · rintro ⟨before, failure, after, heq, hP⟩
    rcases List.eq_nil_or_concat after with rfl | ⟨after, last, rfl⟩
    · obtain ⟨-, heq⟩ := List.append_inj' heq rfl
      obtain rfl := List.head_eq_of_cons_eq heq
      exact .inl hP
    · rw [List.concat_eq_append, ← List.cons_append, ← List.append_assoc] at heq
      obtain ⟨rfl, hlast⟩ := List.append_inj' heq rfl
      obtain rfl := List.head_eq_of_cons_eq hlast
      exact .inr ⟨before, failure, after, rfl, by rwa [List.concat_eq_append] at hP⟩
  · rintro (hP | ⟨before, failure, after, rfl, hP⟩)
    · exact ⟨events, event, [], rfl, hP⟩
    · exact ⟨before, failure, after ++ [event], by simp, hP⟩

/-- Failures count until the next reset. -/
lemma failing_snoc {events : List α} {event : α} : Failing fails resets (events ++ [event]) ↔
    fails event ∨ Failing fails resets events ∧ ¬ resets event := by
  unfold Failing
  rw [exists_split_snoc]
  simp only [List.forall_mem_append, List.forall_mem_singleton]
  grind

/-- An event of the kind `extra` counts while a failure does, and until the next reset. -/
lemma overdue_snoc {events : List α} {event : α} : Overdue fails resets extra (events ++ [event]) ↔
    ¬ resets event ∧ (Overdue fails resets extra events ∨
      extra event ∧ Failing fails resets events) := by
  unfold Overdue Failing
  rw [exists_split_snoc]
  simp only [List.mem_append, List.mem_singleton]
  grind

/-- A series is not empty iff a failure came after the last reset. -/
lemma streak_pos_iff (hfails : ∀ event, fails event → ¬ resets event) (events : List α) :
    0 < streak fails resets events ↔ Failing fails resets events := by
  induction events using List.reverseRecOn with
  | nil => simp [Failing]
  | append_singleton events event ih =>
    rw [failing_snoc, ← ih]
    by_cases hr : resets event
    · have hf : ¬ fails event := fun hf => hfails event hf hr
      simp [streak_snoc_of_resets events hr, hr, hf]
    · by_cases hf : fails event
      · simp [streak_snoc_of_fails events hr hf, hf]
      · simp [streak_snoc_of_neither events hr hf, hr, hf]

/-- **When a further kind of reset matters.** Resetting at the events `extra` as well shortens the
current series iff one of them came after a failure of it.

**Proof sketch.** Induction on the history, from its end. A failure lengthens both series, a reset
empties both, and an event `extra` empties the one that is counted from it, which matters iff the
other is not empty. -/
theorem streak_lt_iff (hfails : ∀ event, fails event → ¬ resets event ∧ ¬ extra event)
    (events : List α) : streak fails (fun event => resets event || extra event) events <
      streak fails resets events ↔ Overdue fails resets extra events := by
  induction events using List.reverseRecOn with
  | nil => simp [Overdue]
  | append_singleton events event ih =>
    rw [overdue_snoc, ← ih, ← streak_pos_iff (fun e he => (hfails e he).1), streak_snoc,
      streak_snoc]
    by_cases hr : resets event
    · simp [hr]
    · by_cases hx : extra event
      · have hf : ¬ fails event := fun hf => (hfails event hf).2 hx
        simp only [hr, hx, hf, Bool.or_true, if_true]
        simp only [Bool.false_eq_true, if_false, not_false_eq_true, true_and]
        omega
      · by_cases hf : fails event
        · simp [hr, hx, hf]
        · simp [hr, hx, hf]

/-- With more resets the streak is not longer. -/
lemma streak_le (events : List α) : streak fails (fun event => resets event || extra event) events ≤
    streak fails resets events := by
  induction events using List.reverseRecOn with
  | nil => exact le_refl _
  | append_singleton events event ih =>
    rw [streak_snoc, streak_snoc]
    by_cases hr : resets event
    · simp [hr]
    · by_cases hx : extra event
      · simp [hx]
      · by_cases hf : fails event
        · simp [hr, hx, hf, ih]
        · simp [hr, hx, hf, ih]

end Streak

end Backoff
