import CollisionMonitor.Priority

set_option relaxedAutoImplicit false
set_option autoImplicit false

/-!
# Exact optimisation of one component

The CP-SAT model of a component, the treatment of the solver's answer and the independent
validation of its decisions (`optimiser.py`). OR-Tools itself is a parameter: a backend maps the
model it is given to an answer.

## Main definitions

* `buildObjectiveEncoding` — the integer coefficients of the Resume variables.
* `validateComponentDecisions` — the independent check of a complete assignment.
* `CpModel`, `SolverAnswer`, `Backend` — what the solver is given and what it may answer.
* `optimise` — the decisions of a component, or a request for fallback.

## Main results

* `validateComponentDecisions_eq_ok` — the check accepts exactly the safe assignments that
  respect the hard actions.
* `optimise_decisions` — the decisions of a feasible result were accepted by the check.
-/

namespace CollisionMonitor

open Outcome

/-! ## The objective -/

/-- `_CP_SAT_INTEGER_LIMIT`. -/
def cpSatIntegerLimit : ℤ := 2 ^ 63 - 1

/-- Integer coefficients with robot-ID rank as the least-significant term. -/
structure ObjectiveEncoding where
  coefficients : Dict RobotId ℤ
  utilityScale : ℤ
  rankBonuses : Dict RobotId ℤ

/-- The check of `ObjectiveEncoding.__post_init__`. -/
def ObjectiveEncoding.postInit (encoding : ObjectiveEncoding) : Except PyException Unit :=
  raiseIf (encoding.utilityScale < 1) (.valueError "utility_scale must be positive")

/-- Rank bonuses in unit increments that favour smaller robot IDs. -/
def rankBonuses (ordered : List RobotId) : Dict RobotId ℤ :=
  Dict.ofPairs (ordered.zipIdx.map fun (robotId, index) =>
    (robotId, (ordered.length : ℤ) - index - 1))

/-- One more than the maximum aggregate rank bonus. -/
def utilityScale (ordered : List RobotId) : ℤ :=
  ((rankBonuses ordered).entries.map fun entry => entry.2).sum + 1

/-- The scaled utility of each robot plus its rank bonus. -/
def objectiveCoefficients (ordered : List RobotId) (priorities : Dict RobotId PriorityBreakdown) :
    Except PyException (Dict RobotId ℤ) :=
  Dict.collect id (fun robotId => do
    return (← item priorities robotId).val.finalScore * utilityScale ordered
      + (← item (rankBonuses ordered) robotId)) ordered

/-- Build deterministic tertiary tie-break coefficients. -/
def buildObjectiveEncoding (component : List RobotId)
    (priorities : Dict RobotId PriorityBreakdown) :
    Except PyException (Validated ObjectiveEncoding.postInit) := do
  let ordered := sorted component
  let missing := ordered.dedup.filter (· ∉ priorities)
  raiseIf (missing ≠ [])
    (.valueError ("priorities are missing for robots: " ++ pyReprList missing))
  let coefficients ← objectiveCoefficients ordered priorities
  raiseIf (∃ entry ∈ coefficients.entries, cpSatIntegerLimit < entry.2)
    (.valueError "objective coefficient exceeds the CP-SAT integer range")
  validate ObjectiveEncoding.postInit {
    coefficients
    utilityScale := utilityScale ordered
    rankBonuses := rankBonuses ordered }

/-- The encoding sorts the component itself. -/
lemma buildObjectiveEncoding_sorted (component : List RobotId)
    (priorities : Dict RobotId PriorityBreakdown) :
    buildObjectiveEncoding (sorted component) priorities =
      buildObjectiveEncoding component priorities := by
  unfold buildObjectiveEncoding
  rw [sorted_sorted]

/-- Every listed robot has a non-negative rank bonus. -/
lemma rankBonuses_spec {ordered : List RobotId} {r : RobotId} :
    (r ∈ rankBonuses ordered ↔ r ∈ ordered) ∧
      ∀ bonus, (rankBonuses ordered).lookup r = some bonus → 0 ≤ bonus := by
  have hfst : (ordered.zipIdx.map fun (robotId, index) =>
      (robotId, (ordered.length : ℤ) - index - 1)).map Prod.fst = ordered := by
    rw [List.map_map]
    exact List.zipIdx_map_fst 0 ordered
  refine ⟨by rw [rankBonuses, Dict.mem_ofPairs, hfst], fun bonus hbonus => ?_⟩
  obtain ⟨⟨robotId, index⟩, hmem, heq⟩ := List.mem_map.mp (Dict.mem_of_lookup_ofPairs hbonus)
  obtain ⟨-, rfl⟩ := Prod.mk.inj heq
  have := List.snd_lt_of_mem_zipIdx hmem
  dsimp only at this ⊢
  omega

/-- The scale of the utilities is at least one. -/
lemma one_le_utilityScale (ordered : List RobotId) : 1 ≤ utilityScale ordered := by
  unfold utilityScale
  have : 0 ≤ ((rankBonuses ordered).entries.map fun entry => entry.2).sum := by
    refine List.sum_nonneg fun bonus hbonus => ?_
    obtain ⟨⟨r, b⟩, hmem, rfl⟩ := List.mem_map.mp hbonus
    exact rankBonuses_spec.2 b (AList.mem_lookup_iff.mpr hmem)
  omega

/-- The coefficient of a robot is its scaled utility plus its rank bonus. -/
lemma objectiveCoefficients_spec {ordered : List RobotId}
    {priorities : Dict RobotId PriorityBreakdown} (h : ∀ r ∈ ordered, r ∈ priorities) :
    ∃ coefficients, objectiveCoefficients ordered priorities = .ok coefficients ∧
      (∀ r, r ∈ coefficients ↔ r ∈ ordered) ∧
      ∀ r ∈ ordered, ∃ p bonus, priorities.lookup r = some p ∧
        (rankBonuses ordered).lookup r = some bonus ∧
        coefficients.lookup r = some (p.val.finalScore * utilityScale ordered + bonus) := by
  have hvalue : ∀ r ∈ ordered, ∃ p bonus, priorities.lookup r = some p ∧
      (rankBonuses ordered).lookup r = some bonus ∧ (do
        return (← item priorities r).val.finalScore * utilityScale ordered
          + (← item (rankBonuses ordered) r)) =
        (.ok (p.val.finalScore * utilityScale ordered + bonus) : Except PyException ℤ) := by
    intro r hr
    obtain ⟨p, hp⟩ := Dict.exists_lookup (h r hr)
    obtain ⟨bonus, hbonus⟩ := Dict.exists_lookup (rankBonuses_spec.1.mpr hr)
    refine ⟨p, bonus, hp, hbonus, ?_⟩
    rw [item_eq_ok.mpr hp, ok_bind, item_eq_ok.mpr hbonus]
    rfl
  obtain ⟨coefficients, hok⟩ := Dict.collect_total id _ _ fun r hr => by
    obtain ⟨p, bonus, -, -, hval⟩ := hvalue r hr
    exact ⟨_, hval⟩
  refine ⟨coefficients, hok, fun r => ?_, fun r hr => ?_⟩
  · rw [Dict.mem_collect hok]
    simp
  · obtain ⟨v, hv, hlook⟩ := Dict.lookup_collect_id hok hr
    obtain ⟨p, bonus, hp, hbonus, hval⟩ := hvalue r hr
    rw [hval] at hv
    exact ⟨p, bonus, hp, hbonus, by rw [hlook, ← Except.ok.inj hv]⟩

/-- The bonus of a robot is the number of larger entries. Of a repeated robot the last entry
counts.

**Proof sketch.** By induction on the prefixes of the sorted list. The last entry of a prefix
overwrites an earlier one of the same robot, and no other entry is larger. -/
lemma lookup_rankBonuses {ordered : List RobotId} (hord : ordered.Pairwise (· ≤ ·)) {r : RobotId}
    (hr : r ∈ ordered) :
    (rankBonuses ordered).lookup r = some (ordered.countP (r < ·) : ℤ) := by
  have hprefix : ∀ (size : ℤ) (pre : List RobotId), pre.Pairwise (· ≤ ·) → r ∈ pre →
      (Dict.ofPairs (pre.zipIdx.map fun (robotId, index) => (robotId, size - index - 1))).lookup r =
        some (size - pre.length + pre.countP (r < ·)) := by
    intro size pre
    induction pre using List.reverseRecOn with
    | nil => exact fun _ h => by cases h
    | append_singleton pre x ih =>
      intro hpre hmem
      obtain ⟨hpre, -, hle⟩ := List.pairwise_append.mp hpre
      rw [List.zipIdx_append, List.map_append, List.zipIdx_singleton, List.map_singleton,
        Dict.lookup_ofPairs_append_singleton]
      have hlength : ((pre ++ [x]).length : ℤ) = pre.length + 1 := by simp
      split_ifs with heq
      · -- every entry before the last one is not larger than it
        have hnone : (pre ++ [x]).countP (r < ·) = 0 := List.countP_eq_zero.mpr fun s hs => by
          rw [decide_eq_true_eq, not_lt, heq]
          rcases List.mem_append.mp hs with hs | hs
          · exact hle s hs x (List.mem_singleton_self x)
          · exact (List.mem_singleton.mp hs).le
        rw [hnone, hlength]
        congr 1
        push_cast
        omega
      · have hmem' : r ∈ pre := (List.mem_append.mp hmem).resolve_right fun hlast =>
          heq (List.mem_singleton.mp hlast)
        have hlt : r < x := lt_of_le_of_ne (hle r hmem' x (List.mem_singleton_self x)) heq
        rw [ih hpre hmem', List.countP_append, hlength]
        simp only [List.countP_singleton, hlt, decide_true, if_true]
        congr 1
        push_cast
        omega
  rw [rankBonuses, hprefix _ ordered hord hr, sub_self, zero_add]

/-- Every coefficient of the component stays inside the integer range of CP-SAT. -/
def CoefficientsFit (component : List RobotId) (priorities : Dict RobotId PriorityBreakdown) :
    Prop :=
  ∀ r ∈ component, ∀ coefficients,
    objectiveCoefficients (sorted component) priorities = .ok coefficients →
      ∀ c, coefficients.lookup r = some c → c ≤ cpSatIntegerLimit

/-- An encoding that was built has a coefficient for each robot of the component. -/
lemma mem_coefficients_of_buildObjectiveEncoding {component : List RobotId}
    {priorities : Dict RobotId PriorityBreakdown} {objective : Validated ObjectiveEncoding.postInit}
    (h : buildObjectiveEncoding component priorities = .ok objective) (r : RobotId) :
    r ∈ objective.val.coefficients ↔ r ∈ component := by
  obtain ⟨_, -, h⟩ := bind_eq_ok.mp h
  obtain ⟨coefficients, hcoeff, h⟩ := bind_eq_ok.mp h
  obtain ⟨_, -, h⟩ := bind_eq_ok.mp h
  rw [val_of_validate h, Dict.mem_collect hcoeff]
  simp

/-- An encoding that was built scales the utility of each robot and adds its rank bonus. -/
lemma buildObjectiveEncoding_spec {component : List RobotId}
    {priorities : Dict RobotId PriorityBreakdown} {objective : Validated ObjectiveEncoding.postInit}
    (h : buildObjectiveEncoding component priorities = .ok objective) :
    objective.val.rankBonuses = rankBonuses (sorted component) ∧
      ∀ r ∈ component, ∃ p bonus, priorities.lookup r = some p ∧
        (rankBonuses (sorted component)).lookup r = some bonus ∧
        objective.val.coefficients.lookup r =
          some (p.val.finalScore * utilityScale (sorted component) + bonus) := by
  obtain ⟨_, hmissing, h⟩ := bind_eq_ok.mp h
  obtain ⟨coefficients, hcoeff, h⟩ := bind_eq_ok.mp h
  obtain ⟨_, -, h⟩ := bind_eq_ok.mp h
  have hmem : ∀ r ∈ sorted component, r ∈ priorities := by
    intro r hr
    have := List.filter_eq_nil_iff.mp (not_not.mp (raiseIf_eq_ok.mp hmissing)) r
      (List.mem_dedup.mpr hr)
    simpa using this
  obtain ⟨coefficients', hcoeff', -, hlook⟩ := objectiveCoefficients_spec hmem
  obtain rfl := Except.ok.inj (hcoeff.symm.trans hcoeff')
  rw [val_of_validate h]
  exact ⟨rfl, fun r hr => hlook r (mem_sorted.mpr hr)⟩

/-- The coefficients of an encoding that was built fit. -/
lemma coefficientsFit_of_buildObjectiveEncoding {component : List RobotId}
    {priorities : Dict RobotId PriorityBreakdown} {objective : Validated ObjectiveEncoding.postInit}
    (h : buildObjectiveEncoding component priorities = .ok objective) :
    CoefficientsFit component priorities := by
  obtain ⟨_, -, h⟩ := bind_eq_ok.mp h
  obtain ⟨coefficients, hcoeff, h⟩ := bind_eq_ok.mp h
  obtain ⟨_, hrange, -⟩ := bind_eq_ok.mp h
  intro r hr coefficients' hcoeff' c hc
  obtain rfl := Except.ok.inj (hcoeff.symm.trans hcoeff')
  by_contra hlt
  exact raiseIf_eq_ok.mp hrange ⟨⟨r, c⟩, AList.mem_lookup_iff.mp hc, not_le.mp hlt⟩

/-- The encoding is built when every robot has a priority and the coefficients fit. -/
lemma buildObjectiveEncoding_total (component : List RobotId)
    (priorities : Dict RobotId PriorityBreakdown) (hmem : ∀ r ∈ component, r ∈ priorities)
    (hfit : CoefficientsFit component priorities) :
    ∃ objective, buildObjectiveEncoding component priorities = .ok objective := by
  obtain ⟨coefficients, hok, hkeys, -⟩ := objectiveCoefficients_spec
    (fun r (hr : r ∈ sorted component) => hmem r (mem_sorted.mp hr))
  unfold buildObjectiveEncoding
  dsimp only
  rw [raiseIf_of_not _ ?_, ok_bind, hok, ok_bind, raiseIf_of_not _ ?_, ok_bind]
  · refine ⟨_, validate_of_accepted ?_⟩
    exact raiseIf_of_not _ (not_lt.mpr (one_le_utilityScale _))
  · rintro ⟨⟨r, c⟩, hentry, hlt⟩
    have hlook : coefficients.lookup r = some c := AList.mem_lookup_iff.mpr hentry
    have hr := mem_sorted.mp ((hkeys r).mp (Dict.mem_of_lookup hlook))
    exact absurd (hfit r hr coefficients hok c hlook) (not_le.mpr hlt)
  · simp only [ne_eq, not_not, List.filter_eq_nil_iff, List.mem_dedup, mem_sorted,
      decide_eq_true_eq]
    exact hmem

/-! ## Independent validation -/

/-- Regenerate no-goods from pairwise compatibility for independent provenance. -/
def componentNoGoods (pairwiseConstraints : List PairwiseCompatibility) : List NoGoodConstraint :=
  pairwiseConstraints.flatMap PairwiseCompatibility.noGoodConstraints

/-- Raise when the assignment violates the no-good. -/
def checkNoGood (binaryAssignment : Dict RobotId (Fin 2)) (noGood : NoGoodConstraint) :
    Except PyException Unit := do
  let violated ← noGood.isViolatedBy binaryAssignment
  raiseIf (violated = true) (.unsafeOptimisationResultError
    ("solver assignment violates no-good " ++ noGood.expression))

/-- Independently validate a complete assignment against every no-good. -/
def validateComponentDecisions (component : List RobotId) (decisions : Dict RobotId Action)
    (pairwiseConstraints : List PairwiseCompatibility) (hardAssignments : Dict RobotId Action) :
    Except PyException Unit := do
  let ordered := sorted component
  raiseIf (¬ decisions.SameKeys ordered) (.unsafeOptimisationResultError
    "solver decisions do not contain exactly the component robots")
  let binaryAssignment ← Dict.collect id (fun robotId => do
    return actionToBinary (← item decisions robotId)) ordered
  (componentNoGoods pairwiseConstraints).forM (checkNoGood binaryAssignment)
  hardAssignments.entries.forM fun ⟨robotId, requiredAction⟩ =>
    raiseIf (decisions.lookup robotId ≠ some requiredAction) (.unsafeOptimisationResultError
      ("solver assignment violates hard action for robot " ++ pyRepr robotId))

/-- The no-goods of a list of constraints rule out their unsafe action pairs. -/
lemma mem_componentNoGoods {constraints : List PairwiseCompatibility} {noGood : NoGoodConstraint} :
    noGood ∈ componentNoGoods constraints ↔
      ∃ pair ∈ constraints, ∃ a b, pair.isSafe a b = false ∧ noGood = pair.noGood (a, b) := by
  unfold componentNoGoods PairwiseCompatibility.noGoodConstraints
  simp only [List.mem_flatMap, List.mem_map, Prod.exists,
    PairwiseCompatibility.mem_forbiddenAssignments, eq_comm]

/-- A no-good is violated iff both robots take the forbidden actions. -/
lemma isViolatedBy_noGood {pair : PairwiseCompatibility} {binary : Dict RobotId (Fin 2)}
    {x y : Action} (hI : binary.lookup pair.robotI = some (actionToBinary x))
    (hJ : binary.lookup pair.robotJ = some (actionToBinary y)) (a b : Action) :
    (pair.noGood (a, b)).isViolatedBy binary = .ok (decide (x = a) && decide (y = b)) := by
  have hbeq : ∀ u v : Action, (actionToBinary u == actionToBinary v) = decide (u = v) := by
    intro u v
    cases u <;> cases v <;> rfl
  unfold NoGoodConstraint.isViolatedBy PairwiseCompatibility.noGood
  simp only [List.allM, item_eq_ok.mpr hI, item_eq_ok.mpr hJ, ok_bind, pure_def, hbeq]
  cases decide (x = a) <;> cases decide (y = b) <;> rfl

/-- The no-goods of a list of constraints pass iff the assignment is safe. -/
lemma checkNoGoods_eq_ok {constraints : List PairwiseCompatibility}
    {binary : Dict RobotId (Fin 2)} {x : RobotId → Action}
    (hbin : ∀ pair ∈ constraints,
      binary.lookup pair.robotI = some (actionToBinary (x pair.robotI)) ∧
        binary.lookup pair.robotJ = some (actionToBinary (x pair.robotJ))) :
    (componentNoGoods constraints).forM (checkNoGood binary) = .ok () ↔ Safe constraints x := by
  have hcheck : ∀ pair ∈ constraints, ∀ a b, checkNoGood binary (pair.noGood (a, b)) = .ok () ↔
      ¬ (x pair.robotI = a ∧ x pair.robotJ = b) := by
    intro pair hpair a b
    rw [checkNoGood, isViolatedBy_noGood (hbin pair hpair).1 (hbin pair hpair).2, ok_bind,
      raiseIf_eq_ok, Bool.and_eq_true, decide_eq_true_eq, decide_eq_true_eq]
  rw [forM_eq_ok]
  constructor
  · intro h pair hpair
    by_contra hviolated
    rw [Bool.not_eq_true] at hviolated
    have hok := h _ (mem_componentNoGoods.mpr ⟨pair, hpair, _, _, hviolated, rfl⟩)
    exact (hcheck pair hpair _ _).mp hok ⟨rfl, rfl⟩
  · intro h noGood hmem
    obtain ⟨pair, hpair, a, b, hviolated, rfl⟩ := mem_componentNoGoods.mp hmem
    refine (hcheck pair hpair a b).mpr ?_
    rintro ⟨rfl, rfl⟩
    have hsafe := h pair hpair
    rw [hviolated] at hsafe
    cases hsafe

/-- **Validation is exact.** For constraints and hard actions inside the component, the check
accepts exactly the complete assignments that are admissible.

**Proof sketch.** The first check compares the keys. With the right keys the two loops pass exactly
if no no-good and no hard action is violated, which is admissibility read robot by robot. -/
theorem validateComponentDecisions_eq_ok {component : List RobotId}
    {decisions hard : Dict RobotId Action} {constraints : List PairwiseCompatibility}
    (hin : ∀ pair ∈ constraints, pair.robotI ∈ component ∧ pair.robotJ ∈ component)
    (hhard : ∀ r ∈ hard, r ∈ component) :
    validateComponentDecisions component decisions constraints hard = .ok () ↔
      (∀ r, r ∈ decisions ↔ r ∈ component) ∧ Admissible constraints hard (actionOf decisions) := by
  have hkeys : decisions.SameKeys (sorted component) ↔ ∀ r, r ∈ decisions ↔ r ∈ component := by
    simp [Dict.sameKeys_iff]
  have hhardIff : (∀ r, r ∈ decisions ↔ r ∈ component) →
      ((∀ e ∈ hard.entries, ¬ decisions.lookup e.1 ≠ some e.2) ↔
        ∀ r a, hard.lookup r = some a → actionOf decisions r = a) := by
    intro hsame
    constructor
    · intro h r a hra
      exact actionOf_eq (not_not.mp (h ⟨r, a⟩ (AList.mem_lookup_iff.mp hra)))
    · rintro h ⟨r, a⟩ hmem
      have hra : hard.lookup r = some a := AList.mem_lookup_iff.mpr hmem
      rw [not_not, lookup_eq_actionOf ((hsame r).mpr (hhard r (Dict.mem_of_lookup hra))), h r a hra]
  have hbinary : (∀ r, r ∈ decisions ↔ r ∈ component) →
      ∃ binary, Dict.collect id (fun r => do return actionToBinary (← item decisions r))
        (sorted component) = .ok binary ∧
        ∀ r ∈ component, binary.lookup r = some (actionToBinary (actionOf decisions r)) := by
    intro hsame
    have hitem : ∀ r ∈ component, (do return actionToBinary (← item decisions r)) =
        (.ok (actionToBinary (actionOf decisions r)) : Except PyException (Fin 2)) := by
      intro r hr
      rw [item_eq_ok.mpr (lookup_eq_actionOf ((hsame r).mpr hr))]
      rfl
    obtain ⟨binary, hok⟩ := Dict.collect_total id _ (sorted component) fun r hr =>
      ⟨_, hitem r (mem_sorted.mp hr)⟩
    refine ⟨binary, hok, fun r hr => ?_⟩
    obtain ⟨v, hval, hv⟩ := Dict.lookup_collect_id hok (mem_sorted.mpr hr)
    rw [hitem r hr] at hval
    rw [hv, ← Except.ok.inj hval]
  unfold validateComponentDecisions
  dsimp only
  by_cases hsame : ∀ r, r ∈ decisions ↔ r ∈ component
  · obtain ⟨binary, hok, hlook⟩ := hbinary hsame
    rw [raiseIf_of_not _ (not_not.mpr (hkeys.mpr hsame)), ok_bind, hok, ok_bind, bind_eq_ok,
      and_iff_right hsame, Admissible, ← hhardIff hsame, ← checkNoGoods_eq_ok
        (fun pair hpair => ⟨hlook _ (hin pair hpair).1, hlook _ (hin pair hpair).2⟩)]
    constructor
    · rintro ⟨_, h1, h2⟩
      exact ⟨h1, forM_raiseIf_eq_ok.mp h2⟩
    · rintro ⟨h1, h2⟩
      exact ⟨(), h1, forM_raiseIf_eq_ok.mpr h2⟩
  · constructor
    · intro h
      obtain ⟨_, hguard, -⟩ := bind_eq_ok.mp h
      exact absurd (hkeys.mp (not_not.mp (raiseIf_eq_ok.mp hguard))) hsame
    · intro h
      exact absurd h.1 hsame

/-- Validation inside a component raises no other error than the rejection of the decisions. -/
lemma validateComponentDecisions_error {component : List RobotId}
    {decisions hard : Dict RobotId Action} {constraints : List PairwiseCompatibility}
    (hin : ∀ pair ∈ constraints, pair.robotI ∈ component ∧ pair.robotJ ∈ component)
    {e : PyException} (h : validateComponentDecisions component decisions constraints hard =
      .error e) : ∃ message, e = .unsafeOptimisationResultError message := by
  rcases bind_eq_error.mp h with h | ⟨_, hguard, h⟩
  · exact ⟨_, (raiseIf_eq_error.mp h).2.symm⟩
  have hsame := Dict.sameKeys_iff.mp (not_not.mp (raiseIf_eq_ok.mp hguard))
  obtain ⟨binary, hbinary⟩ := Dict.collect_total id
    (fun r => do return actionToBinary (← item decisions r)) (sorted component) (by
      intro r hr
      obtain ⟨a, ha⟩ := Dict.exists_lookup ((hsame r).mpr hr)
      exact ⟨actionToBinary a, by rw [item_eq_ok.mpr ha]; rfl⟩)
  rw [hbinary, ok_bind] at h
  have hlook : ∀ r ∈ component, ∃ x, binary.lookup r = some (actionToBinary x) := by
    intro r hr
    obtain ⟨v, hv, hlook⟩ := Dict.lookup_collect_id hbinary (mem_sorted.mpr hr)
    obtain ⟨a, -, heq⟩ := bind_eq_ok.mp hv
    exact ⟨a, by rw [hlook, ← Except.ok.inj heq]⟩
  rcases bind_eq_error.mp h with h | ⟨_, -, h⟩
  · obtain ⟨noGood, hmem, h⟩ := exists_of_forM_error h
    obtain ⟨pair, hpair, a, b, -, rfl⟩ := mem_componentNoGoods.mp hmem
    obtain ⟨x, hx⟩ := hlook _ (hin pair hpair).1
    obtain ⟨y, hy⟩ := hlook _ (hin pair hpair).2
    rw [checkNoGood, isViolatedBy_noGood hx hy, ok_bind] at h
    exact ⟨_, (raiseIf_eq_error.mp h).2.symm⟩
  · obtain ⟨⟨r, a⟩, -, h⟩ := exists_of_forM_error h
    exact ⟨_, (raiseIf_eq_error.mp h).2.symm⟩

/-! ## The CP-SAT model and its answers -/

/-- A Boolean literal: a Resume variable or its negation. -/
structure CpLiteral where
  robotId : RobotId
  positive : Bool

/-- The model handed to CP-SAT: one Boolean variable per robot, clauses, fixed values, and the
linear objective to maximise. -/
structure CpModel where
  boolVars : List RobotId
  clauses : List (List CpLiteral)
  equalities : List (RobotId × Fin 2)
  objective : List (ℤ × RobotId)

/-- The status that CP-SAT reports, by its name. -/
inductive CpStatus
  | optimal
  | feasible
  | unknown
  | infeasible
  | modelInvalid
  | unsupported (name : String)
  deriving DecidableEq

/-- What a solve call reports. A metric that is not finite is `none`. -/
structure SolverAnswer where
  status : CpStatus
  value : RobotId → ℤ
  wallTime : Option ℚ
  objectiveValue : Option ℚ
  bestObjectiveBound : Option ℚ

/-- The solver library, or its absence. -/
abbrev Backend := Option (CpModel → SolverAnswer)

/-- A literal holds under the solver's values. -/
def CpLiteral.Holds (literal : CpLiteral) (value : RobotId → ℤ) : Prop :=
  value literal.robotId = if literal.positive then 1 else 0

/-- The values are Boolean and satisfy every clause and equality of the model. -/
structure CpModel.SatisfiedBy (model : CpModel) (value : RobotId → ℤ) : Prop where
  boolean : ∀ robotId ∈ model.boolVars, value robotId = 0 ∨ value robotId = 1
  clauses : ∀ clause ∈ model.clauses, ∃ literal ∈ clause, literal.Holds value
  equalities : ∀ equality ∈ model.equalities, value equality.1 = equality.2.val

/-- Stable solver status names exposed to the decision engine. -/
inductive SolverStatus
  | optimal
  | feasible
  | unknown
  | infeasible
  | modelInvalid
  | unavailable
  | componentTooLarge
  deriving DecidableEq, Repr

/-- The text of a solver status in traces. -/
def SolverStatus.value : SolverStatus → String
  | .optimal => "OPTIMAL"
  | .feasible => "FEASIBLE"
  | .unknown => "UNKNOWN"
  | .infeasible => "INFEASIBLE"
  | .modelInvalid => "MODEL_INVALID"
  | .unavailable => "UNAVAILABLE"
  | .componentTooLarge => "COMPONENT_TOO_LARGE"

/-- The fields of `OptimisationResult`. -/
structure OptimisationFields where
  feasible : Bool
  decisions : Dict RobotId Action
  decisionSource : Option DecisionSource
  solverStatus : SolverStatus
  objectiveValue : Option ℤ
  bestBound : Option ℤ
  wallTimeSeconds : Option ℚ
  optimalityProven : Bool
  fallbackReason : Option String

/-- The checks of `OptimisationResult.__post_init__`. -/
def OptimisationFields.postInit (r : OptimisationFields) : Except PyException Unit := do
  raiseIf (∀ seconds ∈ r.wallTimeSeconds, seconds < 0)
    (.valueError "wall_time_seconds must be finite and non-negative")
  raiseIf (r.feasible = true ∧ r.decisions.keys = [])
    (.valueError "a feasible optimisation result must contain decisions")
  raiseIf (r.feasible = true ∧ r.decisionSource ≠ some .cpSat)
    (.valueError "a feasible CP-SAT result must identify CP-SAT as its source")
  raiseIf (r.feasible = true ∧ r.fallbackReason ≠ none)
    (.valueError "a feasible optimisation result cannot request fallback")
  raiseIf (r.feasible = false ∧ r.decisions.keys ≠ [])
    (.valueError "a fallback optimisation result cannot contain decisions")
  raiseIf (r.feasible = false ∧ r.decisionSource ≠ none)
    (.valueError "a result without decisions cannot identify a decision source")
  raiseIf (¬ (r.optimalityProven = true ↔ r.solverStatus = .optimal))
    (.valueError "optimality_proven is inconsistent with solver_status")

/-- A usable component assignment or an explicit request for fallback. -/
abbrev OptimisationResult := Validated OptimisationFields.postInit

/-! ## Optimising a component -/

/-- The checks that the optimiser and the heuristic make on their arguments; the sorted component
is returned. -/
def checkedComponent (component : List RobotId) (conflictModel : ConflictModel)
    (priorities : Dict RobotId PriorityBreakdown) (hardAssignments : Dict RobotId Action) :
    Except PyException (List RobotId) := do
  let ordered := sorted component
  raiseIf (ordered = []) (.valueError "component must contain at least one robot")
  raiseIf (¬ ordered.Nodup) (.valueError "component contains duplicate robot IDs")
  let unknown := ordered.filter (· ∉ conflictModel.snapshots)
  raiseIf (unknown ≠ []) (.valueError ("component contains unknown robots: " ++ pyReprList unknown))
  let missingPriorities := ordered.filter (· ∉ priorities)
  raiseIf (missingPriorities ≠ [])
    (.valueError ("priorities are missing for robots: " ++ pyReprList missingPriorities))
  ordered.forM fun robotId => do
    let priority ← item priorities robotId
    raiseIf (priority.val.robotId ≠ robotId)
      (.valueError ("priority key does not match robot " ++ pyRepr robotId))
  let unknownHard := hardAssignments.keys.filter (· ∉ ordered)
  raiseIf (unknownHard ≠ []) (.valueError
    ("hard assignments contain robots outside the component: " ++ pyReprList (sorted unknownHard)))
  return ordered

/-- Rounding to the nearest integer, ties to the even one. -/
def roundHalfEven (value : ℚ) : ℤ :=
  if value - ⌊value⌋ < 1 / 2 then ⌊value⌋
  else if 1 / 2 < value - ⌊value⌋ then ⌊value⌋ + 1
  else if ⌊value⌋ % 2 = 0 then ⌊value⌋ else ⌊value⌋ + 1

/-- Convert an integral CP-SAT diagnostic back to an integer. -/
def integerSolverMetric (value : Option ℚ) (name : String) : Except PyException ℤ :=
  match value with
  | none => .error (.optimiserInternalError ("solver returned non-finite " ++ name))
  | some value => do
    let rounded := roundHalfEven value
    raiseIf (¬ |value - rounded| ≤ 1 / 1000000) (.optimiserInternalError
      ("solver returned non-integral " ++ name ++ ": " ++ toString value))
    return rounded

/-- A result explicitly delegating the component to the heuristic. -/
def fallback (status : SolverStatus) (reason : String) (wallTimeSeconds : Option ℚ) :
    Except PyException OptimisationResult :=
  validate OptimisationFields.postInit {
    feasible := false
    decisions := ∅
    decisionSource := none
    solverStatus := status
    objectiveValue := none
    bestBound := none
    wallTimeSeconds
    optimalityProven := false
    fallbackReason := some reason }

/-- `x != 0` is `x` and `x != 1` is `not x`. -/
def cpLiteral (literal : NoGoodLiteral) : CpLiteral :=
  { robotId := literal.robotId, positive := decide (literal.forbiddenValue = 0) }

/-- The CP-SAT model of a component. -/
def buildCpModel (ordered : List RobotId) (noGoods : List NoGoodConstraint)
    (hardActions : Dict RobotId Action) (coefficients : Dict RobotId ℤ) :
    Except PyException CpModel := do
  let objective ← ordered.mapM fun robotId => do return (← item coefficients robotId, robotId)
  return {
    boolVars := ordered
    clauses := noGoods.map fun noGood => noGood.literals.map cpLiteral
    equalities := (sortedBy (fun entry => entry.1) hardActions.entries).map fun ⟨robotId, action⟩ =>
      (robotId, actionToBinary action)
    objective }

/-- The actions a solver's values stand for. -/
def decodeActions (ordered : List RobotId) (value : RobotId → ℤ) : Dict RobotId Action :=
  Dict.ofKeys ordered fun robotId => if value robotId = 1 then .resume else .pause

/-- Read a usable answer: decode, validate independently and convert the metrics. -/
def acceptAnswer (ordered : List RobotId) (pairwiseConstraints : List PairwiseCompatibility)
    (hardActions : Dict RobotId Action) (answer : SolverAnswer) (optimal : Bool) :
    Except PyException OptimisationResult := do
  let decisions := decodeActions ordered answer.value
  validateComponentDecisions ordered decisions pairwiseConstraints hardActions
  let objectiveValue ← integerSolverMetric answer.objectiveValue "objective value"
  let bestBound ← integerSolverMetric answer.bestObjectiveBound "best objective bound"
  validate OptimisationFields.postInit {
    feasible := true
    decisions
    decisionSource := some .cpSat
    solverStatus := if optimal then .optimal else .feasible
    objectiveValue := some objectiveValue
    bestBound := some bestBound
    wallTimeSeconds := answer.wallTime
    optimalityProven := optimal
    fallbackReason := none }

/-- Optimise a component or return a precise heuristic-fallback reason. -/
def optimise (config : MonitorConfig) (cpSat : Backend) (component : List RobotId)
    (conflictModel : ConflictModel) (priorities : Dict RobotId PriorityBreakdown)
    (hardAssignments : Dict RobotId Action) : Except PyException OptimisationResult := do
  let ordered ← checkedComponent component conflictModel priorities hardAssignments
  if config.maximumExactComponentSize < ordered.length then
    fallback .componentTooLarge "component_too_large_for_cp_sat" (some 0)
  else match cpSat with
    | none => fallback .unavailable "cp_sat_unavailable" (some 0)
    | some solve => do
      let pairwiseConstraints := componentConstraints component conflictModel
      let objective ← buildObjectiveEncoding ordered priorities
      let model ← buildCpModel ordered (componentNoGoods pairwiseConstraints) hardAssignments
        objective.val.coefficients
      let answer := solve model
      match answer.status with
      | .modelInvalid => .error (.cpSatModelInvalidError "CP-SAT rejected the model: MODEL_INVALID")
      | .unknown => fallback .unknown "cp_sat_unknown_without_incumbent" answer.wallTime
      | .infeasible => fallback .infeasible "cp_sat_model_infeasible" answer.wallTime
      | .unsupported name => .error (.optimiserInternalError
          ("CP-SAT returned unsupported status '" ++ name ++ "'"))
      | .optimal => acceptAnswer ordered pairwiseConstraints hardAssignments answer true
      | .feasible => acceptAnswer ordered pairwiseConstraints hardAssignments answer false

/-! ## What optimising gives -/

section Results

variable {component : List RobotId} {conflictModel : ConflictModel}
  {priorities : Dict RobotId PriorityBreakdown} {hard : Dict RobotId Action}

/-- What the argument checks of the optimiser and the heuristic establish. -/
structure ComponentInput (component : List RobotId) (conflictModel : ConflictModel)
    (priorities : Dict RobotId PriorityBreakdown) (hard : Dict RobotId Action) : Prop where
  nonempty : component ≠ []
  nodup : component.Nodup
  observed : ∀ r ∈ component, r ∈ conflictModel.snapshots
  scored : ∀ r ∈ component, ∃ p, priorities.lookup r = some p ∧ p.val.robotId = r
  hard_mem : ∀ r ∈ hard, r ∈ component

/-- The argument checks pass iff the input is well formed, and give the sorted component. -/
lemma checkedComponent_eq_ok {ordered : List RobotId} :
    checkedComponent component conflictModel priorities hard = .ok ordered ↔
      ordered = sorted component ∧ ComponentInput component conflictModel priorities hard := by
  have hcheck : ∀ r, (do
      let priority ← item priorities r
      raiseIf (priority.val.robotId ≠ r)
        (.valueError ("priority key does not match robot " ++ pyRepr r))) = .ok () ↔
      ∃ p, priorities.lookup r = some p ∧ p.val.robotId = r := by
    intro r
    rw [bind_eq_ok]
    simp only [item_eq_ok, raiseIf_eq_ok, not_not]
  have hfilter : ∀ (l : List RobotId) (p : RobotId → Prop) [DecidablePred p],
      ¬ l.filter (fun r => decide (¬ p r)) ≠ [] ↔ ∀ r ∈ l, p r := by
    intro l p _
    simp only [ne_eq, not_not, List.filter_eq_nil_iff, decide_eq_true_eq]
  unfold checkedComponent
  simp only [bind_eq_ok, raiseIf_eq_ok, forM_eq_ok, hcheck, hfilter, not_not, mem_sorted,
    sorted_eq_nil, sorted_nodup, ← AList.mem_keys, exists_const, pure_def]
  constructor
  · rintro ⟨hne, hnd, hobs, -, hscored, hhard, heq⟩
    exact ⟨(Except.ok.inj heq).symm, hne, hnd, hobs, hscored, hhard⟩
  · rintro ⟨rfl, hne, hnd, hobs, hscored, hhard⟩
    refine ⟨hne, hnd, hobs, fun r hr => ?_, hscored, hhard, rfl⟩
    obtain ⟨p, hp, -⟩ := hscored r hr
    exact Dict.mem_of_lookup hp

/-- The constraints of a component are about its robots. -/
lemma componentConstraints_inside (component : List RobotId) (conflictModel : ConflictModel) :
    ∀ pair ∈ componentConstraints component conflictModel,
      pair.robotI ∈ component ∧ pair.robotJ ∈ component :=
  fun _ hpair => (mem_componentConstraints.mp hpair).2

/-- A decoded answer passes validation iff it is admissible. -/
lemma validate_sorted_eq_ok (conflictModel : ConflictModel) {decisions : Dict RobotId Action}
    (hhard : ∀ r ∈ hard, r ∈ component) :
    validateComponentDecisions (sorted component) decisions
        (componentConstraints component conflictModel) hard = .ok () ↔
      (∀ r, r ∈ decisions ↔ r ∈ component) ∧
        Admissible (componentConstraints component conflictModel) hard (actionOf decisions) := by
  rw [validateComponentDecisions_eq_ok]
  · simp only [mem_sorted]
  · simpa only [mem_sorted] using componentConstraints_inside component conflictModel
  · simpa only [mem_sorted] using hhard

/-- A fallback result carries no decisions. -/
lemma fallback_not_feasible {status : SolverStatus} {reason : String} {wallTime : Option ℚ}
    {r : OptimisationResult} (h : fallback status reason wallTime = .ok r) :
    r.val.feasible = false := by
  rw [val_of_validate h]

/-- **Feasible decisions were validated**: they decide exactly the component, safely and with the
hard actions, whatever the solver answered.

**Proof sketch.** Fallback results are not feasible, and an answer is returned only after its
decisions were validated. -/
theorem optimise_decisions {config : MonitorConfig} {cpSat : Backend} {r : OptimisationResult}
    (h : optimise config cpSat component conflictModel priorities hard = .ok r)
    (hfeas : r.val.feasible = true) :
    (∀ robotId, robotId ∈ r.val.decisions ↔ robotId ∈ component) ∧
      Admissible (componentConstraints component conflictModel) hard
        (actionOf r.val.decisions) := by
  obtain ⟨ordered, hcheck, h⟩ := bind_eq_ok.mp h
  obtain ⟨rfl, hinput⟩ := checkedComponent_eq_ok.mp hcheck
  have haccept : ∀ answer optimal, acceptAnswer (sorted component)
      (componentConstraints component conflictModel) hard answer optimal = .ok r →
      (∀ robotId, robotId ∈ r.val.decisions ↔ robotId ∈ component) ∧
        Admissible (componentConstraints component conflictModel) hard
          (actionOf r.val.decisions) := by
    intro answer optimal h
    obtain ⟨_, hvalid, h⟩ := bind_eq_ok.mp h
    obtain ⟨_, -, h⟩ := bind_eq_ok.mp h
    obtain ⟨_, -, h⟩ := bind_eq_ok.mp h
    rw [val_of_validate h]
    exact (validate_sorted_eq_ok conflictModel hinput.hard_mem).mp hvalid
  split_ifs at h with hsize
  · simp [fallback_not_feasible h] at hfeas
  · cases cpSat with
    | none => simp [fallback_not_feasible h] at hfeas
    | some solve =>
      obtain ⟨objective, -, h⟩ := bind_eq_ok.mp h
      obtain ⟨model, -, h⟩ := bind_eq_ok.mp h
      dsimp only at h
      split at h
      · cases h
      · simp [fallback_not_feasible h] at hfeas
      · simp [fallback_not_feasible h] at hfeas
      · cases h
      · exact haccept _ _ h
      · exact haccept _ _ h

/-! ## Optimising never raises on a trustworthy answer -/

/-- What a solve call is documented to report: one of four statuses, values that satisfy the model
when there are any, a finite non-negative wall time and integral metrics. -/
structure SolverAnswer.Trustworthy (answer : SolverAnswer) (model : CpModel) : Prop where
  status : answer.status = .unknown ∨ answer.status = .infeasible ∨ answer.status = .optimal ∨
    answer.status = .feasible
  satisfies : answer.status = .optimal ∨ answer.status = .feasible →
    model.SatisfiedBy answer.value
  wallTime : ∃ seconds, answer.wallTime = some seconds ∧ 0 ≤ seconds
  metrics : answer.status = .optimal ∨ answer.status = .feasible →
    ∃ n k : ℤ, answer.objectiveValue = some (n : ℚ) ∧ answer.bestObjectiveBound = some (k : ℚ)

/-- A metric that is an integer is read as it is. -/
lemma integerSolverMetric_intCast (n : ℤ) (name : String) :
    integerSolverMetric (some (n : ℚ)) name = .ok n := by
  have hround : roundHalfEven (n : ℚ) = n := by
    rw [roundHalfEven, Int.floor_intCast, sub_self, if_pos (by norm_num)]
  unfold integerSolverMetric
  dsimp only
  rw [hround, raiseIf_of_not _ (by norm_num)]
  rfl

/-- A fallback with a valid time returns a result. -/
lemma fallback_total (status : SolverStatus) (hstatus : status ≠ .optimal) (reason : String)
    {wallTime : Option ℚ} (hwall : ∃ seconds, wallTime = some seconds ∧ 0 ≤ seconds) :
    ∃ r, fallback status reason wallTime = .ok r := by
  obtain ⟨seconds, rfl, hseconds⟩ := hwall
  refine ⟨_, validate_of_accepted ?_⟩
  unfold OptimisationFields.postInit
  simp only [bind_eq_ok, raiseIf_eq_ok]
  simp [hseconds, hstatus]

/-- A robot is resumed iff its variable is one. -/
lemma lookup_decodeActions {ordered : List RobotId} {value : RobotId → ℤ} {r : RobotId}
    (hr : r ∈ ordered) : (decodeActions ordered value).lookup r =
      some (if value r = 1 then .resume else .pause) :=
  Dict.lookup_ofKeys_of_mem hr

/-- A literal of a no-good holds iff the decoded action is not the forbidden one. -/
lemma cpLiteral_holds_iff {ordered : List RobotId} {value : RobotId → ℤ} {r : RobotId} {a : Action}
    (hr : r ∈ ordered) (hbool : value r = 0 ∨ value r = 1) :
    (cpLiteral ⟨r, actionToBinary a⟩).Holds value ↔
      actionOf (decodeActions ordered value) r ≠ a := by
  rw [actionOf_eq (lookup_decodeActions hr)]
  unfold cpLiteral CpLiteral.Holds
  rcases hbool with h | h <;> cases a <;> simp [h, actionToBinary]

/-- The clause of a no-good holds iff not both decoded actions are the forbidden ones. -/
lemma cpClause_holds_iff {ordered : List RobotId} {value : RobotId → ℤ}
    {pair : PairwiseCompatibility} (hI : pair.robotI ∈ ordered) (hJ : pair.robotJ ∈ ordered)
    (hbool : ∀ r ∈ ordered, value r = 0 ∨ value r = 1) (a b : Action) :
    (∃ literal ∈ (pair.noGood (a, b)).literals.map cpLiteral, literal.Holds value) ↔
      ¬ (actionOf (decodeActions ordered value) pair.robotI = a ∧
        actionOf (decodeActions ordered value) pair.robotJ = b) := by
  rw [not_and_or, ← ne_eq, ← ne_eq, ← cpLiteral_holds_iff hI (hbool _ hI),
    ← cpLiteral_holds_iff hJ (hbool _ hJ)]
  simp [PairwiseCompatibility.noGood]

/-- **The CP-SAT model is exact.** Its solutions are the Boolean values that decode to admissible
actions.

**Proof sketch.** Robot by robot: with Boolean values a clause of the model holds exactly if its
no- good does not (`cpClause_holds_iff`), and an equality exactly if the decoded action is the hard
one. -/
theorem satisfiedBy_iff {constraints : List PairwiseCompatibility}
    (hin : ∀ pair ∈ constraints, pair.robotI ∈ component ∧ pair.robotJ ∈ component)
    (hhard : ∀ r ∈ hard, r ∈ component) {coefficients : Dict RobotId ℤ} {model : CpModel}
    (hmodel : buildCpModel (sorted component) (componentNoGoods constraints) hard coefficients =
      .ok model) {value : RobotId → ℤ} :
    model.SatisfiedBy value ↔ (∀ r ∈ component, value r = 0 ∨ value r = 1) ∧
      Admissible constraints hard (actionOf (decodeActions (sorted component) value)) := by
  obtain ⟨objective, -, heq⟩ := bind_eq_ok.mp hmodel
  obtain rfl := Except.ok.inj heq
  have hclause : (∀ r ∈ sorted component, value r = 0 ∨ value r = 1) → ∀ pair ∈ constraints,
      ∀ a b, _ := fun hbool pair hpair => cpClause_holds_iff
    (mem_sorted.mpr (hin pair hpair).1) (mem_sorted.mpr (hin pair hpair).2) hbool
  have hequality : (∀ r ∈ sorted component, value r = 0 ∨ value r = 1) → ∀ r ∈ component, ∀ a,
      value r = ((actionToBinary a).val : ℤ) ↔
        actionOf (decodeActions (sorted component) value) r = a := by
    intro hbool r hr a
    rw [actionOf_eq (lookup_decodeActions (mem_sorted.mpr hr))]
    rcases hbool r (mem_sorted.mpr hr) with h | h <;> cases a <;> simp [h, actionToBinary]
  constructor
  · intro h
    refine ⟨fun r hr => h.boolean r (mem_sorted.mpr hr), fun pair hpair => ?_, fun r a hra => ?_⟩
    · by_contra hviolated
      rw [Bool.not_eq_true] at hviolated
      exact (hclause h.boolean pair hpair _ _).mp (h.clauses _ (List.mem_map.mpr
        ⟨_, mem_componentNoGoods.mpr ⟨pair, hpair, _, _, hviolated, rfl⟩, rfl⟩)) ⟨rfl, rfl⟩
    · refine (hequality h.boolean r (hhard r (Dict.mem_of_lookup hra)) a).mp ?_
      exact h.equalities (r, actionToBinary a) (List.mem_map.mpr
        ⟨⟨r, a⟩, (mem_sortedBy _ _).mpr (AList.mem_lookup_iff.mp hra), rfl⟩)
  · rintro ⟨hbool, hsafe, hrespected⟩
    replace hbool : ∀ r ∈ sorted component, value r = 0 ∨ value r = 1 := fun r hr =>
      hbool r (mem_sorted.mp hr)
    refine ⟨hbool, fun clause hmem => ?_, fun equality hmem => ?_⟩
    · obtain ⟨noGood, hnoGood, rfl⟩ := List.mem_map.mp hmem
      obtain ⟨pair, hpair, a, b, hviolated, rfl⟩ := mem_componentNoGoods.mp hnoGood
      refine (hclause hbool pair hpair a b).mpr ?_
      rintro ⟨rfl, rfl⟩
      have := hsafe pair hpair
      rw [hviolated] at this
      cases this
    · obtain ⟨⟨r, a⟩, hentry, rfl⟩ := List.mem_map.mp hmem
      have hra := AList.mem_lookup_iff.mpr ((mem_sortedBy _ _).mp hentry)
      exact (hequality hbool r (hhard r (Dict.mem_of_lookup hra)) a).mpr (hrespected r a hra)

/-- **A satisfying answer is admissible.** -/
lemma admissible_of_satisfiedBy {coefficients : Dict RobotId ℤ} {model : CpModel}
    {value : RobotId → ℤ} (hhard : ∀ r ∈ hard, r ∈ component)
    (hmodel : buildCpModel (sorted component)
      (componentNoGoods (componentConstraints component conflictModel)) hard coefficients =
        .ok model) (hsat : model.SatisfiedBy value) :
    Admissible (componentConstraints component conflictModel) hard
      (actionOf (decodeActions (sorted component) value)) :=
  ((satisfiedBy_iff (componentConstraints_inside component conflictModel) hhard hmodel).mp hsat).2

/-- **Optimising never raises**: checked arguments, coefficients in range and a trustworthy
answer give a result.

**Proof sketch.** Encoding and model can be built from scored robots with fitting coefficients. A
trustworthy answer that has a solution satisfies the model, so its decisions pass the validation,
and its metrics are finite; every other answer ends in the fallback. -/
theorem optimise_total {config : MonitorConfig} {cpSat : Backend}
    (hinput : ComponentInput component conflictModel priorities hard)
    (hfit : CoefficientsFit component priorities)
    (hsolve : ∀ solve, cpSat = some solve → ∀ model, (solve model).Trustworthy model) :
    ∃ r, optimise config cpSat component conflictModel priorities hard = .ok r := by
  have hmem : ∀ r ∈ component, r ∈ priorities := fun r hr => by
    obtain ⟨p, hp, -⟩ := hinput.scored r hr
    exact Dict.mem_of_lookup hp
  unfold optimise
  rw [checkedComponent_eq_ok.mpr ⟨rfl, hinput⟩, ok_bind]
  split_ifs
  · exact fallback_total _ (by decide) _ ⟨0, rfl, le_rfl⟩
  cases cpSat with
  | none => exact fallback_total _ (by decide) _ ⟨0, rfl, le_rfl⟩
  | some solve =>
    obtain ⟨objective, hobj⟩ := buildObjectiveEncoding_total (sorted component)
      priorities (fun r hr => hmem r (mem_sorted.mp hr)) (by
        intro r hr coefficients hcoeff
        rw [sorted_eq_self (pairwise_sorted_lt hinput.nodup)] at hcoeff
        exact hfit r (mem_sorted.mp hr) coefficients hcoeff)
    have hkeys := mem_coefficients_of_buildObjectiveEncoding hobj
    obtain ⟨terms, hterms⟩ := mapM_total (l := sorted component)
      (f := fun r => do return (← item objective.val.coefficients r, r)) (by
        intro r hr
        obtain ⟨c, hc⟩ := Dict.exists_lookup ((hkeys r).mpr hr)
        exact ⟨(c, r), by rw [item_eq_ok.mpr hc]; rfl⟩)
    obtain ⟨model, hmodel⟩ : ∃ model, buildCpModel (sorted component)
        (componentNoGoods (componentConstraints component conflictModel)) hard
          objective.val.coefficients = .ok model :=
      ⟨_, by rw [buildCpModel, hterms]; rfl⟩
    have htrust := hsolve solve rfl model
    have haccept : ∀ optimal, (solve model).status = .optimal ∨ (solve model).status = .feasible →
        ∃ r, acceptAnswer (sorted component) (componentConstraints component conflictModel) hard
          (solve model) optimal = .ok r := by
      intro optimal hstatus
      have hadm := admissible_of_satisfiedBy hinput.hard_mem hmodel (htrust.satisfies hstatus)
      obtain ⟨n, k, hn, hk⟩ := htrust.metrics hstatus
      obtain ⟨seconds, hwall, hseconds⟩ := htrust.wallTime
      have hvalid := (validate_sorted_eq_ok conflictModel hinput.hard_mem).mpr
          ⟨fun r => by rw [decodeActions, Dict.mem_ofKeys, mem_sorted], hadm⟩
      have hne : (decodeActions (sorted component) (solve model).value).keys ≠ [] := by
        obtain ⟨r, hr⟩ := List.exists_mem_of_ne_nil _ hinput.nonempty
        refine List.ne_nil_of_mem (a := r) (AList.mem_keys.mp ?_)
        rw [decodeActions, Dict.mem_ofKeys]
        exact mem_sorted.mpr hr
      unfold acceptAnswer
      dsimp only
      rw [hvalid, ok_bind, hn, integerSolverMetric_intCast, ok_bind, hk,
        integerSolverMetric_intCast, ok_bind, validate_of_accepted]
      · exact ⟨_, rfl⟩
      · unfold OptimisationFields.postInit
        simp only [bind_eq_ok, raiseIf_eq_ok]
        cases optimal <;> simp [hwall, hseconds, hne]
    dsimp only
    rw [hobj, ok_bind, hmodel, ok_bind]
    rcases htrust.status with h | h | h | h
    · rw [h]
      exact fallback_total _ (by decide) _ htrust.wallTime
    · rw [h]
      exact fallback_total _ (by decide) _ htrust.wallTime
    · simp only [h]
      exact haccept true (.inl h)
    · simp only [h]
      exact haccept false (.inr h)

end Results

end CollisionMonitor
