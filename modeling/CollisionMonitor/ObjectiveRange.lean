import CollisionMonitor.Ties

set_option relaxedAutoImplicit false
set_option autoImplicit false

/-!
# The range of the encoded objective

`build_objective_encoding` keeps each coefficient inside the integer range of CP-SAT. The solver
adds the coefficients up, and rejects a model whose objective can exceed its own limit. How large
that limit is, is a parameter.

## Main definitions

* `ObjectiveInRange` — the objective of every set of resumed robots is in range.
* `RejectsAbove` — the solver rejects the models whose objective can exceed a limit.
* `scoreBudget` — the total final score that some number of robots can have below the limit.

## Main results

* `objectiveInRange_iff` — the objective is in range and accepted iff the scores keep to the budget.
-/

namespace CollisionMonitor

open Outcome

/-- The total number of larger entries, over the robots of a component. -/
def rankTotal (component : List RobotId) : ℤ := ∑ r ∈ component.toFinset, rankOf component r

/-- The objective of every set of robots of the component is in the integer range of CP-SAT. -/
def ObjectiveInRange (component : List RobotId) (coefficients : Dict RobotId ℤ) : Prop :=
  ∀ robots ⊆ component.toFinset, ∑ r ∈ robots, coefficientOf coefficients r ≤ cpSatIntegerLimit

/-- The greatest value that the objective of a model has at Boolean values. -/
def CpModel.objectiveBound (model : CpModel) : ℤ :=
  (model.objective.map fun term => max term.1 0).sum

/-- The solver validates the objective: it rejects exactly the models whose objective can exceed
the limit. -/
def RejectsAbove (limit : ℤ) (solve : CpModel → SolverAnswer) : Prop :=
  ∀ model, (solve model).status = .modelInvalid ↔ limit < model.objectiveBound

/-- The greatest total final score of a number of robots whose objective keeps to the limit. -/
def scoreBudget (limit : ℤ) (robots : ℕ) : ℤ :=
  (limit - robots.choose 2) / (robots.choose 2 + 1)

section Range

variable {component : List RobotId} {priorities : Dict RobotId PriorityBreakdown}
  {objective : Validated ObjectiveEncoding.postInit} {m : ConflictModel}
  {hard : Dict RobotId Action} {config : MonitorConfig} {limit : ℤ}
  {solve : CpModel → SolverAnswer}

/-- Final scores are not negative. -/
lemma finalOf_nonneg (priorities : Dict RobotId PriorityBreakdown) (r : RobotId) :
    0 ≤ finalOf priorities r := by
  unfold finalOf
  cases priorities.lookup r with
  | none => exact le_rfl
  | some p => exact (PriorityTerms.postInit_eq_ok.mp p.property).1 _ (by simp [PriorityTerms.terms])

/-- The utility scale exceeds the total rank bonus by one. -/
lemma utilityScale_eq (hobj : buildObjectiveEncoding component priorities = .ok objective) :
    utilityScale (sorted component) = rankTotal component + 1 := by
  have hkeys : (rankBonuses (sorted component)).keys.toFinset = component.toFinset := by
    refine Finset.ext fun r => ?_
    rw [List.mem_toFinset, List.mem_toFinset, ← AList.mem_keys, rankBonuses_spec.1, mem_sorted]
  rw [utilityScale, sum_values_eq, hkeys, ← (buildObjectiveEncoding_spec hobj).1, rankTotal]
  congr 1
  exact Finset.sum_congr rfl fun r hr => rankBonus_eq hobj (List.mem_toFinset.mp hr)

/-- The ranks of distinct robots add up to the number of pairs. -/
lemma rankTotal_eq (hnd : component.Nodup) : rankTotal component = component.length.choose 2 := by
  have hlist : ∀ l : List RobotId, l.Pairwise (· < ·) →
      (l.map fun r => (l.countP (r < ·) : ℤ)).sum = l.length.choose 2 := by
    intro l
    induction l with
    | nil => intro _; rfl
    | cons r l ih =>
      intro h
      obtain ⟨hr, hl⟩ := List.pairwise_cons.mp h
      have hfirst : (r :: l).countP (r < ·) = l.length := by
        rw [List.countP_cons_of_neg (by simp)]
        exact List.countP_eq_length.mpr fun s hs => decide_eq_true (hr s hs)
      have hrest : ∀ s ∈ l, (r :: l).countP (s < ·) = l.countP (s < ·) := fun s hs =>
        List.countP_cons_of_neg (by simpa using (hr s hs).le)
      rw [List.map_cons, List.sum_cons, hfirst, List.map_congr_left fun s hs =>
        congrArg Nat.cast (hrest s hs), ih hl, List.length_cons, Nat.choose_succ_succ,
        Nat.choose_one_right, Nat.cast_add]
  have hset : (sorted component).toFinset = component.toFinset :=
    List.toFinset_eq_of_perm _ _ (sorted_perm component)
  have hrank : ∀ r, rankOf component r = ((sorted component).countP (r < ·) : ℤ) := fun r => by
    rw [rankOf, (sorted_perm component).countP_eq]
  rw [rankTotal, ← hset, List.sum_toFinset _ (sorted_nodup.mpr hnd), funext hrank,
    hlist _ (pairwise_sorted_lt hnd), (sorted_perm component).length_eq]

/-- A coefficient in terms of the final score and the rank, neither of which is negative. -/
lemma coefficient_eq (hobj : buildObjectiveEncoding component priorities = .ok objective)
    {r : RobotId} (hr : r ∈ component) :
    coefficientOf objective.val.coefficients r =
      finalOf priorities r * (rankTotal component + 1) + rankOf component r ∧
      0 ≤ coefficientOf objective.val.coefficients r := by
  have hrank : ∀ r, 0 ≤ rankOf component r := fun r => Int.natCast_nonneg _
  have hscale : 0 ≤ rankTotal component + 1 :=
    add_nonneg (Finset.sum_nonneg fun r _ => hrank r) one_pos.le
  have heq : coefficientOf objective.val.coefficients r =
      finalOf priorities r * (rankTotal component + 1) + rankOf component r := by
    rw [coefficientOf_eq hobj hr, rankBonus_eq hobj hr, utilityScale_eq hobj]
  exact ⟨heq, heq ▸ add_nonneg (mul_nonneg (finalOf_nonneg priorities r) hscale) (hrank r)⟩

/-- **The total of the coefficients keeps to a limit iff the scores keep to the budget.** -/
lemma total_le_iff (hnd : component.Nodup)
    (hobj : buildObjectiveEncoding component priorities = .ok objective) (limit : ℤ) :
    ∑ r ∈ component.toFinset, coefficientOf objective.val.coefficients r ≤ limit ↔
      ∑ r ∈ component.toFinset, finalOf priorities r ≤ scoreBudget limit component.length := by
  have htotal : ∑ r ∈ component.toFinset, coefficientOf objective.val.coefficients r =
      (∑ r ∈ component.toFinset, finalOf priorities r) * (rankTotal component + 1) +
        rankTotal component := by
    rw [Finset.sum_congr rfl fun r hr => (coefficient_eq hobj (List.mem_toFinset.mp hr)).1,
      Finset.sum_add_distrib, ← Finset.sum_mul, rankTotal]
  rw [htotal, rankTotal_eq hnd, scoreBudget, Int.le_ediv_iff_mul_le (by positivity),
    le_sub_iff_add_le]

/-- No set of robots exceeds the whole component. -/
lemma objectiveInRange_iff_total
    (hobj : buildObjectiveEncoding component priorities = .ok objective) :
    ObjectiveInRange component objective.val.coefficients ↔
      ∑ r ∈ component.toFinset, coefficientOf objective.val.coefficients r ≤
        cpSatIntegerLimit := by
  constructor
  · intro h
    exact h _ subset_rfl
  · intro h robots hsub
    refine (Finset.sum_le_sum_of_subset_of_nonneg hsub fun r hr _ => ?_).trans h
    exact (coefficient_eq hobj (List.mem_toFinset.mp hr)).2

/-- The bound of the model's objective is the total of the coefficients. -/
lemma objectiveBound_eq (hnd : component.Nodup)
    (hobj : buildObjectiveEncoding component priorities = .ok objective)
    {noGoods : List NoGoodConstraint} {model : CpModel}
    (hmodel : buildCpModel (sorted component) noGoods hard objective.val.coefficients = .ok model) :
    model.objectiveBound =
      ∑ r ∈ component.toFinset, coefficientOf objective.val.coefficients r := by
  have hset : (sorted component).toFinset = component.toFinset :=
    List.toFinset_eq_of_perm _ _ (sorted_perm component)
  rw [CpModel.objectiveBound, objective_of_buildCpModel hmodel, List.map_map, ← hset,
    List.sum_toFinset _ (sorted_nodup.mpr hnd)]
  exact congrArg List.sum (List.map_congr_left fun r hr =>
    max_eq_left (coefficient_eq hobj (mem_sorted.mp hr)).2)

/-- The solver rejects the model of a component iff the scores exceed the budget. -/
lemma rejected_iff (hnd : component.Nodup)
    (hobj : buildObjectiveEncoding component priorities = .ok objective)
    (hsolve : RejectsAbove limit solve) {noGoods : List NoGoodConstraint} {model : CpModel}
    (hmodel : buildCpModel (sorted component) noGoods hard objective.val.coefficients = .ok model) :
    (solve model).status = .modelInvalid ↔
      ¬ ∑ r ∈ component.toFinset, finalOf priorities r ≤ scoreBudget limit component.length := by
  rw [hsolve, objectiveBound_eq hnd hobj hmodel, ← total_le_iff hnd hobj, not_le]

/-! ### What the optimiser raises -/

/-- The validator of results raises ValueErrors only. -/
lemma optimisationFields_error {r : OptimisationFields} {e : PyException}
    (h : r.postInit = .error e) : ∃ message, e = .valueError message := by
  unfold OptimisationFields.postInit at h
  iterate 6
    rcases bind_eq_error.mp h with h | ⟨_, -, h⟩
    · exact ⟨_, (raiseIf_eq_error.mp h).2.symm⟩
  exact ⟨_, (raiseIf_eq_error.mp h).2.symm⟩

/-- Reading a metric raises internal errors only. -/
lemma integerSolverMetric_error {value : Option ℚ} {name : String} {e : PyException}
    (h : integerSolverMetric value name = .error e) :
    ∃ message, e = .optimiserInternalError message := by
  unfold integerSolverMetric at h
  cases value with
  | none => exact ⟨_, (Except.error.inj h).symm⟩
  | some value =>
    rcases bind_eq_error.mp h with h | ⟨_, -, h⟩
    · exact ⟨_, (raiseIf_eq_error.mp h).2.symm⟩
    · cases h

/-- A fallback does not raise the rejection of a model. -/
lemma not_rejected_of_fallback {status : SolverStatus} {reason : String} {wallTime : Option ℚ}
    (message : String) :
    fallback status reason wallTime ≠ .error (.cpSatModelInvalidError message) := by
  intro h
  obtain ⟨_, heq⟩ := optimisationFields_error (error_of_validate h)
  cases heq

/-- An answer that is read does not raise the rejection of a model. -/
lemma not_rejected_of_acceptAnswer {answer : SolverAnswer} {optimal : Bool} (message : String) :
    acceptAnswer (sorted component) (componentConstraints component m) hard answer optimal ≠
      .error (.cpSatModelInvalidError message) := by
  intro h
  rcases bind_eq_error.mp h with h | ⟨_, -, h⟩
  · obtain ⟨_, heq⟩ := validateComponentDecisions_error (fun pair hpair => by
      rw [mem_sorted, mem_sorted]
      exact componentConstraints_inside component m pair hpair) h
    cases heq
  rcases bind_eq_error.mp h with h | ⟨_, -, h⟩
  · obtain ⟨_, heq⟩ := integerSolverMetric_error h
    cases heq
  rcases bind_eq_error.mp h with h | ⟨_, -, h⟩
  · obtain ⟨_, heq⟩ := integerSolverMetric_error h
    cases heq
  · obtain ⟨_, heq⟩ := optimisationFields_error (error_of_validate h)
    cases heq

/-- **The optimiser raises the rejection of a model exactly if the solver rejected it.** -/
lemma optimise_rejected_iff (hinput : ComponentInput component m priorities hard)
    (hsize : component.length ≤ config.maximumExactComponentSize)
    (hobj : buildObjectiveEncoding component priorities = .ok objective) {model : CpModel}
    (hmodel : buildCpModel (sorted component) (componentNoGoods (componentConstraints component m))
      hard objective.val.coefficients = .ok model) :
    (∃ message, optimise config (some solve) component m priorities hard =
      .error (.cpSatModelInvalidError message)) ↔ (solve model).status = .modelInvalid := by
  have hlen : (sorted component).length = component.length := (sorted_perm component).length_eq
  unfold optimise
  rw [checkedComponent_eq_ok.mpr ⟨rfl, hinput⟩, ok_bind, if_neg (by rw [hlen]; omega)]
  dsimp only
  rw [buildObjectiveEncoding_sorted, hobj, ok_bind, hmodel, ok_bind]
  cases hstatus : (solve model).status with
  | modelInvalid => exact iff_of_true ⟨_, rfl⟩ rfl
  | unknown => exact iff_of_false (fun ⟨_, h⟩ => not_rejected_of_fallback _ h) nofun
  | infeasible => exact iff_of_false (fun ⟨_, h⟩ => not_rejected_of_fallback _ h) nofun
  | unsupported name => exact iff_of_false (fun ⟨_, h⟩ => by cases h) nofun
  | optimal => exact iff_of_false (fun ⟨_, h⟩ => not_rejected_of_acceptAnswer _ h) nofun
  | feasible => exact iff_of_false (fun ⟨_, h⟩ => not_rejected_of_acceptAnswer _ h) nofun

/-- **The objective is in range and never rejected iff the scores keep to the budget.** For every
component of distinct robots, priorities whose encoding is accepted, and a solver that rejects the
objectives above some limit of the integer range: the objective of every Resume set is in range and
no model with the encoded coefficients is rejected, iff the final scores of the component add up to
at most the budget; and above the budget, and only there, the optimiser raises the rejection.

**Proof sketch.** The largest sum of coefficients belongs to the set of all robots, and is the total
score times the scale plus the total rank, a binomial coefficient (`rankTotal_eq`). The bound that
the solver computes from the model is this sum (`rejected_iff`). -/
theorem objectiveInRange_iff (hnd : component.Nodup)
    (hobj : buildObjectiveEncoding component priorities = .ok objective)
    (hlimit : limit ≤ cpSatIntegerLimit) (hsolve : RejectsAbove limit solve) :
    ((ObjectiveInRange component objective.val.coefficients ∧
        ∀ noGoods hard model, buildCpModel (sorted component) noGoods hard
          objective.val.coefficients = .ok model → (solve model).status ≠ .modelInvalid) ↔
      ∑ r ∈ component.toFinset, finalOf priorities r ≤ scoreBudget limit component.length) ∧
    ∀ config : MonitorConfig, component.length ≤ config.maximumExactComponentSize → ∀ m hard,
      ComponentInput component m priorities hard →
        ((∃ message, optimise config (some solve) component m priorities hard =
            .error (.cpSatModelInvalidError message)) ↔
          ¬ ∑ r ∈ component.toFinset, finalOf priorities r ≤
            scoreBudget limit component.length) := by
  refine ⟨⟨fun ⟨_, haccepted⟩ => ?_, fun hbudget => ⟨?_, ?_⟩⟩, fun config hsize m hard hinput => ?_⟩
  · obtain ⟨model, hmodel⟩ := buildCpModel_total ∅ [] hobj
    exact not_not.mp (mt (rejected_iff hnd hobj hsolve hmodel).mpr (haccepted [] ∅ model hmodel))
  · rw [objectiveInRange_iff_total hobj]
    exact ((total_le_iff hnd hobj limit).mpr hbudget).trans hlimit
  · intro noGoods hard model hmodel hstatus
    exact (rejected_iff hnd hobj hsolve hmodel).mp hstatus hbudget
  · obtain ⟨model, hmodel⟩ := buildCpModel_total hard
      (componentNoGoods (componentConstraints component m)) hobj
    rw [optimise_rejected_iff hinput hsize hobj hmodel, rejected_iff hnd hobj hsolve hmodel]

end Range

/-- A solver that validates objectives and then runs out of time. -/
def validatingSolver (limit : ℤ) (model : CpModel) : SolverAnswer :=
  if limit < model.objectiveBound then { unknownAnswer with status := .modelInvalid }
  else unknownAnswer

/-- The solver that validates rejects exactly the models beyond its limit. -/
lemma rejectsAbove_validatingSolver (limit : ℤ) : RejectsAbove limit (validatingSolver limit) := by
  intro model
  unfold validatingSolver
  split_ifs with h <;> simp [h, unknownAnswer]

/-- The default scores of two approaching robots keep the objective below the limit `2 ^ 62 - 1`. -/
theorem objectiveInRange_iff_approaching : ∃ m priorities objective,
    buildConflictModel lineGeometry approaching = .ok m ∧
    scoreComponentPriorities defaultConfig [robotA, robotB] m 0
      (Dict.ofKeys [robotA, robotB] fun _ => 0) [] = .ok priorities ∧
    buildObjectiveEncoding [robotA, robotB] priorities = .ok objective ∧
    ObjectiveInRange [robotA, robotB] objective.val.coefficients ∧
    ∀ message, optimise defaultConfig (some (validatingSolver (2 ^ 62 - 1))) [robotA, robotB] m
      priorities ∅ ≠ .error (.cpSatModelInvalidError message) := by
  have hrun : (do
      let m ← buildConflictModel lineGeometry approaching
      let priorities ← scoreComponentPriorities defaultConfig [robotA, robotB] m 0
        (Dict.ofKeys [robotA, robotB] fun _ => 0) []
      let _ ← checkedComponent [robotA, robotB] m priorities ∅
      let _ ← buildObjectiveEncoding [robotA, robotB] priorities
      raiseIf (¬ ∑ r ∈ [robotA, robotB].toFinset, finalOf priorities r ≤
        scoreBudget (2 ^ 62 - 1) [robotA, robotB].length) (.valueError "above the budget")).isOk =
      true := by
    decide +kernel
  obtain ⟨_, hok⟩ := exists_of_isOk hrun
  obtain ⟨m, hm, hok⟩ := bind_eq_ok.mp hok
  obtain ⟨priorities, hscore, hok⟩ := bind_eq_ok.mp hok
  obtain ⟨_, hcheck, hok⟩ := bind_eq_ok.mp hok
  obtain ⟨objective, hobj, hok⟩ := bind_eq_ok.mp hok
  have hbudget := not_not.mp (raiseIf_eq_ok.mp hok)
  have hinput := (checkedComponent_eq_ok.mp hcheck).2
  obtain ⟨hrange, hraised⟩ := objectiveInRange_iff hinput.nodup hobj (by decide)
    (rejectsAbove_validatingSolver (2 ^ 62 - 1))
  exact ⟨m, priorities, objective, hm, hscore, hobj, (hrange.mpr hbudget).1, fun message hraise =>
    (hraised defaultConfig (by decide) m ∅ hinput).mp ⟨message, hraise⟩ hbudget⟩

/-- Settings with a large base progress value. -/
def largeProgressConfig : MonitorConfig :=
  ⟨{ priorityBaseProgressValue := 10 ^ 18 }, by decide +kernel⟩

/-- Two approaching robots whose coefficients are each in range and together are not. -/
theorem objectiveInRange_fails_approaching : ∃ m priorities objective,
    buildConflictModel lineGeometry approaching = .ok m ∧
    scoreComponentPriorities largeProgressConfig [robotA, robotB] m 0
      (Dict.ofKeys [robotA, robotB] fun _ => 0) [] = .ok priorities ∧
    buildObjectiveEncoding [robotA, robotB] priorities = .ok objective ∧
    ¬ ObjectiveInRange [robotA, robotB] objective.val.coefficients := by
  have hrun : (do
      let m ← buildConflictModel lineGeometry approaching
      let priorities ← scoreComponentPriorities largeProgressConfig [robotA, robotB] m 0
        (Dict.ofKeys [robotA, robotB] fun _ => 0) []
      let objective ← buildObjectiveEncoding [robotA, robotB] priorities
      raiseIf (∑ r ∈ {robotA, robotB}, coefficientOf objective.val.coefficients r ≤
        cpSatIntegerLimit) (.valueError "in range")).isOk = true := by
    decide +kernel
  obtain ⟨_, hok⟩ := exists_of_isOk hrun
  obtain ⟨m, hm, hok⟩ := bind_eq_ok.mp hok
  obtain ⟨priorities, hscore, hok⟩ := bind_eq_ok.mp hok
  obtain ⟨objective, hobj, hok⟩ := bind_eq_ok.mp hok
  exact ⟨m, priorities, objective, hm, hscore, hobj,
    fun h => raiseIf_eq_ok.mp hok (h {robotA, robotB} (by decide))⟩

end CollisionMonitor
