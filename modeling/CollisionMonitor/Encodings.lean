import CollisionMonitor.HeuristicSpec
import CollisionMonitor.Lib.Triple

set_option relaxedAutoImplicit false
set_option autoImplicit false

/-!
# The encodings of pair safety

The truth table of a pair is translated four times: into clauses and equalities of the CP-SAT model,
into the two-literal clauses and the seed of the heuristic, into the no-goods that validation
checks, and into the recorded safety results themselves. They agree on every assignment of a
component.

## Main definitions

* `solverValue` — the values of the Resume variables under a binary assignment.

## Main results

* `encodings_agree` — the four conditions are equivalent, and validation decides every answer.
-/

namespace CollisionMonitor

open Outcome TwoClause

section Encodings

variable {component : List RobotId} {constraints : List PairwiseCompatibility}
  {hard : Dict RobotId Action} {assignment : BinaryAssignment}

/-- The values of the Resume variables under a binary assignment. -/
def solverValue (assignment : BinaryAssignment) (r : RobotId) : ℤ :=
  ((assignment.lookup r).getD 0).val

/-- A variable of the solver is zero or one. -/
lemma solverValue_eq_zero_or_one (assignment : BinaryAssignment) (r : RobotId) :
    solverValue assignment r = 0 ∨ solverValue assignment r = 1 := by
  unfold solverValue
  rcases eq_zero_or_one ((assignment.lookup r).getD 0) with h | h <;> rw [h] <;> simp

/-- Both decoders read the same actions. -/
lemma actionOf_decode_solverValue (hkeys : ∀ r, r ∈ assignment ↔ r ∈ component) :
    actionOf (decodeActions (sorted component) (solverValue assignment)) =
      chosenAction assignment := by
  funext r
  by_cases hr : r ∈ component
  · rw [actionOf_eq (lookup_decodeActions (mem_sorted.mpr hr)), chosenAction, solverValue]
    rcases eq_zero_or_one ((assignment.lookup r).getD 0) with h | h <;> rw [h] <;> rfl
  · have hq : assignment.lookup r = none := AList.lookup_eq_none.mpr (by rwa [hkeys])
    have hd : r ∉ decodeActions (sorted component) (solverValue assignment) := by
      rwa [decodeActions, Dict.mem_ofKeys, mem_sorted]
    rw [actionOf, AList.lookup_eq_none.mpr hd, chosenAction, hq]
    rfl

/-- Respecting the hard actions, for an assignment of the component. -/
lemma respects_iff (hkeys : ∀ r, r ∈ assignment ↔ r ∈ component) :
    (∀ r a, hard.lookup r = some a → (assignment.lookup r).map binaryToAction = some a) ↔
      (∀ r ∈ hard, r ∈ component) ∧
        ∀ r a, hard.lookup r = some a → chosenAction assignment r = a := by
  constructor
  · intro h
    refine ⟨fun r hr => ?_, fun r a hra => ?_⟩
    · obtain ⟨a, ha⟩ := Dict.exists_lookup hr
      obtain ⟨b, hb, -⟩ := Option.map_eq_some_iff.mp (h r a ha)
      exact (hkeys r).mp (Dict.mem_of_lookup hb)
    · obtain ⟨b, hb, heq⟩ := Option.map_eq_some_iff.mp (h r a hra)
      rw [chosenAction, hb, Option.getD_some, heq]
  · rintro ⟨hmem, h⟩ r a hra
    obtain ⟨b, hb⟩ := Dict.exists_lookup ((hkeys r).mpr (hmem r (Dict.mem_of_lookup hra)))
    rw [← h r a hra, chosenAction, hb]
    rfl

/-- Extending the seed is respecting the hard actions. -/
lemma extends_seed_iff : (∀ r b, (seedOf hard).lookup r = some b → assignment.lookup r = some b) ↔
    ∀ r a, hard.lookup r = some a → (assignment.lookup r).map binaryToAction = some a := by
  have hlook : ∀ r, (seedOf hard).lookup r = (hard.lookup r).map actionToBinary := fun r =>
    Dict.lookup_ofPairs_entries hard actionToBinary r
  constructor
  · intro h r a hra
    rw [h r (actionToBinary a) (by rw [hlook, hra]; rfl), Option.map_some,
      binaryToAction_actionToBinary]
  · intro h r b hb
    rw [hlook] at hb
    obtain ⟨a, hra, rfl⟩ := Option.map_eq_some_iff.mp hb
    obtain ⟨v, hv, rfl⟩ := Option.map_eq_some_iff.mp (h r a hra)
    rw [hv, actionToBinary_binaryToAction]

/-- An assignment of the component satisfies every clause of the heuristic iff its actions are
safe. -/
lemma satisfiesClauses_iff
    (hin : ∀ pair ∈ constraints, pair.robotI ∈ component ∧ pair.robotJ ∈ component)
    {clauses : List BinaryClause} (hclauses : buildClauses constraints = .ok clauses)
    (hkeys : ∀ r, r ∈ assignment ↔ r ∈ component) :
    (∀ clause ∈ clauses, satisfiesLiteral assignment clause.literals.1 = true ∨
        satisfiesLiteral assignment clause.literals.2 = true) ↔
      Safe constraints (chosenAction assignment) := by
  obtain ⟨clauses', hok, hsat, hrobots⟩ := buildClauses_spec constraints
  obtain rfl := Except.ok.inj (hclauses.symm.trans hok)
  have hliteral : ∀ literal : NoGoodLiteral, literal.robotId ∈ component →
      (satisfiesLiteral assignment literal = true ↔
        (assignment.lookup literal.robotId).getD 0 ≠ literal.forbiddenValue) := by
    intro literal hr
    obtain ⟨b, hb⟩ := Dict.exists_lookup ((hkeys _).mpr hr)
    rw [satisfiesLiteral, hb, Option.getD_some]
    exact bne_iff_ne
  have hmem : ∀ clause ∈ clauses, clause.literals.1.robotId ∈ component ∧
      clause.literals.2.robotId ∈ component := by
    have hrobot : ∀ r ∈ clauseRobots clauses, r ∈ component := by
      intro r hr
      obtain ⟨pair, hpair, rfl | rfl⟩ := hrobots r hr
      · exact (hin pair hpair).1
      · exact (hin pair hpair).2
    intro clause hclause
    constructor <;> refine hrobot _ (List.mem_flatMap.mpr ⟨clause, hclause, ?_⟩) <;> simp
  refine Iff.trans ?_ (hsat fun r => (assignment.lookup r).getD 0)
  unfold Satisfies twoClauses
  rw [List.forall_mem_map]
  refine forall₂_congr fun clause hclause => ?_
  rw [hliteral _ (hmem clause hclause).1, hliteral _ (hmem clause hclause).2]
  rfl

/-- Validation accepts hard actions inside the component only. -/
lemma hard_mem_of_validate {decisions : Dict RobotId Action}
    (h : validateComponentDecisions component decisions constraints hard = .ok ()) :
    ∀ r ∈ hard, r ∈ component := by
  obtain ⟨_, hguard, h⟩ := bind_eq_ok.mp h
  obtain ⟨_, -, h⟩ := bind_eq_ok.mp h
  obtain ⟨_, -, h⟩ := bind_eq_ok.mp h
  have hkeys := Dict.sameKeys_iff.mp (not_not.mp (raiseIf_eq_ok.mp hguard))
  intro r hr
  obtain ⟨a, ha⟩ := Dict.exists_lookup hr
  have hlook := not_not.mp (forM_raiseIf_eq_ok.mp h ⟨r, a⟩ (AList.mem_lookup_iff.mp ha))
  exact mem_sorted.mp ((hkeys r).mp (Dict.mem_of_lookup hlook))

/-- **The encodings agree.** For records inside a component and any hard actions, these are
equivalent of every assignment of the component: the optimiser takes the hard actions and the values
satisfy its CP-SAT model; the assignment satisfies every clause of the heuristic and extends its
seed; validation accepts the actions decoded from the solver, or from the heuristic; and every
record is safe and every hard action respected. So validation accepts every solution of the model,
and it rejects every unsafe answer.

**Proof sketch.** All conditions are compared with the last one, that the hard actions are respected
and the actions safe. Validation says that by itself (`validateComponentDecisions_eq_ok`), the model
of the solver in its variables (`satisfiedBy_iff`), and the clauses robot by robot
(`satisfiesClauses_iff`). -/
theorem encodings_agree
    (hin : ∀ pair ∈ constraints, pair.robotI ∈ component ∧ pair.robotJ ∈ component)
    {coefficients : Dict RobotId ℤ} {model : CpModel}
    (hmodel : buildCpModel (sorted component) (componentNoGoods constraints) hard coefficients =
      .ok model)
    {clauses : List BinaryClause} (hclauses : buildClauses constraints = .ok clauses) :
    (∀ assignment : BinaryAssignment, (∀ r, r ∈ assignment ↔ r ∈ component) →
      [(∀ r ∈ hard, r ∈ component) ∧ model.SatisfiedBy (solverValue assignment),
        (∀ clause ∈ clauses, satisfiesLiteral assignment clause.literals.1 = true ∨
            satisfiesLiteral assignment clause.literals.2 = true) ∧
          ∀ r b, (seedOf hard).lookup r = some b → assignment.lookup r = some b,
        validateComponentDecisions component
          (decodeActions (sorted component) (solverValue assignment)) constraints hard = .ok (),
        ∃ decisions, actionsFromBinary component assignment = .ok decisions ∧
          validateComponentDecisions component decisions constraints hard = .ok (),
        (∀ pair ∈ constraints, pair.isSafe (chosenAction assignment pair.robotI)
            (chosenAction assignment pair.robotJ) = true) ∧
          ∀ r a, hard.lookup r = some a →
            (assignment.lookup r).map binaryToAction = some a].TFAE) ∧
    ∀ value : RobotId → ℤ,
      ((∀ r ∈ hard, r ∈ component) → model.SatisfiedBy value →
        validateComponentDecisions component (decodeActions (sorted component) value) constraints
          hard = .ok ()) ∧
      ∀ pair ∈ constraints,
        pair.isSafe (actionOf (decodeActions (sorted component) value) pair.robotI)
          (actionOf (decodeActions (sorted component) value) pair.robotJ) = false →
        ∃ message, validateComponentDecisions component (decodeActions (sorted component) value)
          constraints hard = .error (.unsafeOptimisationResultError message) := by
  have hdecoded : ∀ (value : RobotId → ℤ) (r : RobotId),
      r ∈ decodeActions (sorted component) value ↔ r ∈ component := fun value r => by
    rw [decodeActions, Dict.mem_ofKeys, mem_sorted]
  constructor
  · intro assignment hkeys
    -- every condition says that the hard actions are inside and the actions admissible
    have hvalidate : ∀ decisions : Dict RobotId Action, (∀ r, r ∈ decisions ↔ r ∈ component) →
        actionOf decisions = chosenAction assignment →
        (validateComponentDecisions component decisions constraints hard = .ok () ↔
          (∀ r ∈ hard, r ∈ component) ∧
            Admissible constraints hard (chosenAction assignment)) := by
      intro decisions hdec hact
      constructor
      · intro h
        have hhard := hard_mem_of_validate h
        rw [validateComponentDecisions_eq_ok hin hhard, hact] at h
        exact ⟨hhard, h.2⟩
      · rintro ⟨hhard, hadm⟩
        rw [validateComponentDecisions_eq_ok hin hhard, hact]
        exact ⟨hdec, hadm⟩
    obtain ⟨decisions, hok, hdec, hact⟩ := actionsFromBinary_total hkeys
    tfae_have 1 ↔ 3 := by
      rw [hvalidate _ (hdecoded _) (actionOf_decode_solverValue hkeys)]
      refine and_congr_right fun hhard => ?_
      rw [satisfiedBy_iff hin hhard hmodel, actionOf_decode_solverValue hkeys]
      exact and_iff_right fun r _ => solverValue_eq_zero_or_one assignment r
    tfae_have 2 ↔ 5 := and_congr (satisfiesClauses_iff hin hclauses hkeys) extends_seed_iff
    tfae_have 3 ↔ 5 := by
      rw [hvalidate _ (hdecoded _) (actionOf_decode_solverValue hkeys), respects_iff hkeys]
      exact and_left_comm
    tfae_have 4 ↔ 5 := by
      rw [respects_iff hkeys, hok]
      simp only [Except.ok.injEq, exists_eq_left']
      rw [hvalidate decisions hdec hact]
      exact and_left_comm
    tfae_finish
  · intro value
    refine ⟨fun hhard hsat => ?_, fun pair hpair hunsafe => ?_⟩
    · rw [validateComponentDecisions_eq_ok hin hhard]
      exact ⟨hdecoded value, ((satisfiedBy_iff hin hhard hmodel).mp hsat).2⟩
    · cases h : validateComponentDecisions component (decodeActions (sorted component) value)
        constraints hard with
      | error e =>
        obtain ⟨message, rfl⟩ := validateComponentDecisions_error hin h
        exact ⟨message, rfl⟩
      | ok _ =>
        obtain ⟨-, hsafe, -⟩ :=
          (validateComponentDecisions_eq_ok hin (hard_mem_of_validate h)).mp h
        rw [hsafe pair hpair] at hunsafe
        cases hunsafe

end Encodings

/-! ## Three robots with asymmetric pairs -/

/-- The first robot may be resumed only together with the second, the second only without the
third. -/
def chainedPairs : List PairwiseCompatibility :=
  [{ robotI := robotA, robotJ := robotB, ordered := robotA_lt_robotB
     compatibility := fun a b => decide (¬ (a = .resume ∧ b = .pause))
     envelopeBounds := fun _ _ => ((0, 0, 0, 0), (0, 0, 0, 0)) },
    { robotI := robotB, robotJ := robotC, ordered := by decide
      compatibility := fun a b => decide (¬ (a = .resume ∧ b = .resume))
      envelopeBounds := fun _ _ => ((0, 0, 0, 0), (0, 0, 0, 0)) }]

/-- With the first robot resumed as a hard action, resuming the first two solves the CP-SAT model,
and resuming only the first is rejected. -/
theorem encodings_agree_chained : ∃ model : CpModel,
    buildCpModel (sorted [robotA, robotB, robotC]) (componentNoGoods chainedPairs)
        (Dict.ofPairs [(robotA, .resume)])
        (Dict.ofPairs [(robotA, 1), (robotB, 1), (robotC, 1)]) = .ok model ∧
      model.SatisfiedBy (solverValue (Dict.ofPairs [(robotA, 1), (robotB, 1), (robotC, 0)])) ∧
      ¬ model.SatisfiedBy (solverValue (Dict.ofPairs [(robotA, 1), (robotB, 0), (robotC, 0)])) := by
  obtain ⟨clauses, hclauses, -⟩ := buildClauses_spec chainedPairs
  obtain ⟨model, hmodel, -⟩ := Returns.exists_ok (Q := fun _ => True)
    (x := buildCpModel (sorted [robotA, robotB, robotC]) (componentNoGoods chainedPairs)
      (Dict.ofPairs [(robotA, .resume)]) (Dict.ofPairs [(robotA, 1), (robotB, 1), (robotC, 1)]))
    (by decide +kernel)
  have hkeys : ∀ (a b c : Fin 2) (r : RobotId),
      r ∈ Dict.ofPairs [(robotA, a), (robotB, b), (robotC, c)] ↔ r ∈ [robotA, robotB, robotC] :=
    fun a b c r => by rw [Dict.mem_ofPairs]; rfl
  obtain ⟨hagree, -⟩ := encodings_agree (by decide) hmodel hclauses
  have hsolves : ∀ b : Fin 2, (∀ r ∈ Dict.ofPairs [(robotA, Action.resume)],
        r ∈ [robotA, robotB, robotC]) ∧ model.SatisfiedBy
          (solverValue (Dict.ofPairs [(robotA, 1), (robotB, b), (robotC, 0)])) ↔
      validateComponentDecisions [robotA, robotB, robotC] (decodeActions
        (sorted [robotA, robotB, robotC])
          (solverValue (Dict.ofPairs [(robotA, 1), (robotB, b), (robotC, 0)])))
        chainedPairs (Dict.ofPairs [(robotA, .resume)]) = .ok () :=
    fun b => (hagree _ (hkeys 1 b 0)).out 0 2
  have hhard : ∀ r ∈ Dict.ofPairs [(robotA, Action.resume)], r ∈ [robotA, robotB, robotC] := by
    decide
  refine ⟨model, hmodel, ((hsolves 1).mpr (by decide +kernel)).2, fun h => ?_⟩
  have hrejected := (hsolves 0).mp ⟨hhard, h⟩
  revert hrejected
  decide +kernel

end CollisionMonitor
