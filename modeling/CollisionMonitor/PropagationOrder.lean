import CollisionMonitor.Propagation

set_option relaxedAutoImplicit false
set_option autoImplicit false

/-!
# Propagation does not depend on the order of the clauses

A pass changes the assignment while it scans, so the states inside a run depend on the order of
the clauses. The result does not: whatever the order, a run stays below every closed assignment
above its start, so what it returns is the least one, and it fails only if there is none.

## Main results

* `PropagateRuns.least` — a run computes the least closed assignment.
* `propagate_congr` — the members of the clause list determine the outcome.
* `propagate_exact` — termination, soundness, closedness and order-independence together.
-/

namespace CollisionMonitor

open TwoClause

/-! ## Staying below a closed assignment -/

/-- **One clause stays below.** Under a closed assignment a clause never fails, and what it fixes
is contained in that assignment. -/
lemma propagateClause_le {clause : BinaryClause} {p : BinaryAssignment} (changed : Bool)
    {cs : List (Clause RobotId)} {u : RobotId → Option (Fin 2)} (hmem : clause.toTwo ∈ cs)
    (hu : Closed cs u) (hle : Le (values p) u) :
    ∃ q changed', propagateClause (p, changed) clause = some (q, changed') ∧ Le (values q) u := by
  rcases propagateClause_cases clause p changed with ⟨-, hres⟩ | ⟨hrefuted, -⟩ |
    ⟨l, hforces, hres⟩
  · exact ⟨p, changed, hres, hle⟩
  · exact absurd hrefuted (hu.not_refuted hle hmem)
  · exact ⟨_, true, hres, insert_le hle (hu.value_of_forces hle hmem hforces)⟩

/-- **One pass stays below.** -/
lemma propagatePass_le {clauses : List BinaryClause} {p : BinaryAssignment} (changed : Bool)
    {u : RobotId → Option (Fin 2)} (hu : Closed (twoClauses clauses) u) (hle : Le (values p) u) :
    ∃ q changed', clauses.foldlM propagateClause (p, changed) = some (q, changed') ∧
      Le (values q) u := by
  induction clauses generalizing p changed with
  | nil => exact ⟨p, changed, rfl, hle⟩
  | cons clause clauses ih =>
    have hmem : clause.toTwo ∈ twoClauses (clause :: clauses) := by simp [twoClauses]
    obtain ⟨q, changed', hclause, hq⟩ := propagateClause_le changed hmem hu hle
    have htail : Closed (twoClauses clauses) u := fun c hc => hu c (List.mem_cons_of_mem _ hc)
    obtain ⟨q', changed'', hpass, hq'⟩ := ih changed' htail hq
    refine ⟨q', changed'', ?_, hq'⟩
    rw [List.foldlM_cons, hclause, Option.bind_eq_bind, Option.bind_some, hpass]

/-- **A run stays below.** A closed assignment above the start rules out a failure and contains
the result. -/
lemma PropagateRuns.le {clauses : List BinaryClause} {p : BinaryAssignment}
    {result : Option BinaryAssignment} (h : PropagateRuns clauses p result)
    {u : RobotId → Option (Fin 2)} (hu : Closed (twoClauses clauses) u)
    (hle : Le (values p) u) : ∃ q, result = some q ∧ Le (values q) u := by
  induction h with
  | @fails p hpass =>
    obtain ⟨q, changed, hsome, -⟩ := propagatePass_le false hu hle
    rw [hpass] at hsome
    cases hsome
  | @stops p q hpass =>
    obtain ⟨q', changed, hsome, hq'⟩ := propagatePass_le false hu hle
    rw [hpass] at hsome
    cases hsome
    exact ⟨q, rfl, hq'⟩
  | @repeats p q result hpass hrest ih =>
    obtain ⟨q', changed, hsome, hq'⟩ := propagatePass_le false hu hle
    rw [hpass] at hsome
    cases hsome
    exact ih hq'

/-- **A run computes the least closed assignment** above its start. -/
theorem PropagateRuns.least {clauses : List BinaryClause} {p q : BinaryAssignment}
    (h : PropagateRuns clauses p (some q)) :
    LeastClosed (twoClauses clauses) (values p) (values q) where
  le := h.closed.1.grows
  closed := h.closed.2
  least u hle hu := by
    obtain ⟨q', hq', hle'⟩ := h.le hu hle
    obtain rfl := Option.some.inj hq'
    exact hle'

/-! ## The outcome depends on the members only -/

/-- The same clauses give the same two-literal clauses. -/
lemma mem_twoClauses_congr {clauses clauses' : List BinaryClause}
    (hmem : ∀ clause, clause ∈ clauses' ↔ clause ∈ clauses) (c : Clause RobotId) :
    c ∈ twoClauses clauses' ↔ c ∈ twoClauses clauses := by
  simp only [twoClauses, List.mem_map, hmem]

/-- With the same clauses in another order or number, a run ends as well, with the same values. -/
lemma propagate_some_congr {clauses clauses' : List BinaryClause} {p q : BinaryAssignment}
    (hmem : ∀ clause, clause ∈ clauses' ↔ clause ∈ clauses)
    (h : propagate p clauses = some q) :
    ∃ q', propagate p clauses' = some q' ∧ values q' = values q := by
  have hruns := propagate_runs clauses p
  rw [h] at hruns
  have hleast : LeastClosed (twoClauses clauses') (values p) (values q) :=
    hruns.least.of_mem_iff (mem_twoClauses_congr hmem)
  have hruns' := propagate_runs clauses' p
  obtain ⟨q', hq', -⟩ := hruns'.le hleast.closed hleast.le
  rw [hq'] at hruns'
  exact ⟨q', hq', hruns'.least.unique hleast⟩

/-- **The members of the clause list determine the outcome.** Both lists fail, or both return,
and then every robot has the same value. -/
theorem propagate_congr {clauses clauses' : List BinaryClause} (p : BinaryAssignment)
    (hmem : ∀ clause, clause ∈ clauses' ↔ clause ∈ clauses) :
    (propagate p clauses').map values = (propagate p clauses).map values := by
  cases hres : propagate p clauses with
  | some q =>
    obtain ⟨q', hq', hvalues⟩ := propagate_some_congr hmem hres
    rw [hq', Option.map_some, Option.map_some, hvalues]
  | none =>
    cases hres' : propagate p clauses' with
    | none => rfl
    | some q' =>
      obtain ⟨q, hq, -⟩ := propagate_some_congr (fun c => (hmem c).symm) hres'
      rw [hres] at hq
      cases hq

/-! ## Propagation as a whole -/

/-- **Unit propagation is sound, closed and independent of the clause order.** Every repeating
pass leaves fewer robots of the clauses open, and the loop ends with the result of `propagate`.
A returned assignment extends the given one, is contained in every solution above it, and
leaves each clause satisfied or untouched; a failure refutes every solution. A list with the same
clauses, in another order or number, gives the same flag and the same assignment.

**Proof sketch.** A pass that repeats has assigned a robot of the clauses, so the bound is never
reached (`propagate_runs`). Each value that it assigns is forced, and a pass that changes nothing
leaves no unit clause (`propagate_some`). The least closed assignment is unique, whatever the order
(`propagate_congr`). -/
theorem propagate_exact (clauses : List BinaryClause) (p : BinaryAssignment) :
    (∀ p₁ q₁, clauses.foldlM propagateClause (p₁, false) = some (q₁, true) →
      (openRobots clauses q₁).card < (openRobots clauses p₁).card) ∧
    PropagateRuns clauses p (propagate p clauses) ∧
    (∀ q, propagate p clauses = some q →
      Le (values p) (values q) ∧
      (∀ x, Extends x (values p) → Satisfies (twoClauses clauses) x → Extends x (values q)) ∧
      ∀ clause ∈ clauses, Settled q clause) ∧
    (propagate p clauses = none →
      ∀ x, Extends x (values p) → ¬ Satisfies (twoClauses clauses) x) ∧
    ∀ clauses', (∀ clause, clause ∈ clauses' ↔ clause ∈ clauses) →
      (propagate p clauses').map values = (propagate p clauses).map values := by
  refine ⟨fun _ _ => card_openRobots_lt, propagate_runs clauses p, fun q hq => ?_, fun hnone => ?_,
    fun _ => propagate_congr p⟩
  · obtain ⟨hforced, hclosed⟩ := propagate_some hq
    refine ⟨hforced.grows, fun x hext hx => hforced.sound x hx hext, fun clause hclause => ?_⟩
    exact hclosed _ (List.mem_map.mpr ⟨clause, hclause, rfl⟩)
  · exact fun x hext hx => propagate_none hnone x hx hext

/-- The chain `a = 1 → b = 1 → c = 1` in both orders: the seed `a = 1` fixes all three robots, in
one changing pass or in two. -/
example :
    let a : RobotId := ⟨"robot-a", by decide⟩
    let b : RobotId := ⟨"robot-b", by decide⟩
    let c : RobotId := ⟨"robot-c", by decide⟩
    let first : BinaryClause := ⟨(⟨a, 1⟩, ⟨b, 0⟩), ⟨[⟨a, 1⟩, ⟨b, 0⟩], (a, b), (.resume, .pause),
      by simp, by decide +kernel⟩⟩
    let second : BinaryClause := ⟨(⟨b, 1⟩, ⟨c, 0⟩), ⟨[⟨b, 1⟩, ⟨c, 0⟩], (b, c), (.resume, .pause),
      by simp, by decide +kernel⟩⟩
    let seed : BinaryAssignment := (∅ : BinaryAssignment).insert a 1
    [[first, second], [second, first]].map (fun clauses =>
      (propagate seed clauses).map fun q => [a, b, c].map q.lookup) =
        List.replicate 2 (some [some 1, some 1, some 1]) := by
  decide +kernel

end CollisionMonitor
