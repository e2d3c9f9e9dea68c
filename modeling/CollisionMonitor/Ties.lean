import CollisionMonitor.Objective

set_option relaxedAutoImplicit false
set_option autoImplicit false

/-!
# Ties of the encoded objective

The rank bonuses are meant to break every tie between assignments. They do so, whatever the no-goods
and hard assignments of the component are, iff no two different groups of its robots have the same
total final score and the same total rank.

## Main definitions

* `Exchangeable`, `NoExchange` — groups of robots with the same totals, and their absence.
* `eitherOr` — no-goods that leave two sets of resumed robots only.
* `SolverIndependent` — honest solvers lead to the same proven-optimal decisions.

## Main results

* `oneOptimum_iff` — the tie-break decides every tie exactly when there is no exchange.
-/

namespace CollisionMonitor

open Outcome

/-! ## Groups with the same totals -/

/-- Two disjoint groups of robots of the component have the same total final score and the same
total rank. -/
structure Exchangeable (component : List RobotId) (priorities : Dict RobotId PriorityBreakdown)
    (A B : Finset RobotId) : Prop where
  left : A ⊆ component.toFinset
  right : B ⊆ component.toFinset
  disjoint : Disjoint A B
  score : ∑ r ∈ A, finalOf priorities r = ∑ r ∈ B, finalOf priorities r
  rank : ∑ r ∈ A, rankOf component r = ∑ r ∈ B, rankOf component r

/-- No two different groups of robots of the component have the same totals. -/
def NoExchange (component : List RobotId) (priorities : Dict RobotId PriorityBreakdown) : Prop :=
  ∀ A B, Exchangeable component priorities A B → A = B

/-- Two actions are equal if one is Resume exactly when the other is. -/
lemma action_eq_of_resume_iff {a b : Action} (h : a = .resume ↔ b = .resume) : a = b := by
  cases a <;> cases b <;> simp_all

section Exchange

variable {component : List RobotId} {m : ConflictModel}
  {priorities : Dict RobotId PriorityBreakdown} {hard : Dict RobotId Action}
  {objective : Validated ObjectiveEncoding.postInit}

/-- Over robots of the component, rank bonuses add up to the total rank. -/
lemma sum_rankBonuses (hobj : buildObjectiveEncoding component priorities = .ok objective)
    {A : Finset RobotId} (hA : A ⊆ component.toFinset) :
    ∑ r ∈ A, coefficientOf objective.val.rankBonuses r = ∑ r ∈ A, rankOf component r :=
  Finset.sum_congr rfl fun _ hr => rankBonus_eq hobj (List.mem_toFinset.mp (hA hr))

/-- **Equal objectives are equal totals** of final scores and of ranks. -/
lemma sum_coefficients_eq_iff (hobj : buildObjectiveEncoding component priorities = .ok objective)
    {A B : Finset RobotId} (hA : A ⊆ component.toFinset) (hB : B ⊆ component.toFinset) :
    ∑ r ∈ A, coefficientOf objective.val.coefficients r =
        ∑ r ∈ B, coefficientOf objective.val.coefficients r ↔
      ∑ r ∈ A, finalOf priorities r = ∑ r ∈ B, finalOf priorities r ∧
        ∑ r ∈ A, rankOf component r = ∑ r ∈ B, rankOf component r := by
  have hAB := coefficients_lt_iff hobj hA hB
  have hBA := coefficients_lt_iff hobj hB hA
  rw [Prod.Lex.toLex_lt_toLex, sum_rankBonuses hobj hA, sum_rankBonuses hobj hB] at hAB hBA
  dsimp only at hAB hBA
  omega

/-- Sets of robots with equal totals exchange what they do not share. -/
lemma exchangeable_sdiff {A B : Finset RobotId} (hA : A ⊆ component.toFinset)
    (hB : B ⊆ component.toFinset)
    (hscore : ∑ r ∈ A, finalOf priorities r = ∑ r ∈ B, finalOf priorities r)
    (hrank : ∑ r ∈ A, rankOf component r = ∑ r ∈ B, rankOf component r) :
    Exchangeable component priorities (A \ B) (B \ A) := by
  have hsplit : ∀ weight : RobotId → ℤ, ∑ r ∈ A, weight r = ∑ r ∈ B, weight r →
      ∑ r ∈ A \ B, weight r = ∑ r ∈ B \ A, weight r := by
    intro weight heq
    have hleft := Finset.sum_inter_add_sum_sdiff A B weight
    have hright := Finset.sum_inter_add_sum_sdiff B A weight
    rw [Finset.inter_comm] at hright
    omega
  exact
    { left := Finset.sdiff_subset.trans hA
      right := Finset.sdiff_subset.trans hB
      disjoint := disjoint_sdiff_sdiff
      score := hsplit _ hscore
      rank := hsplit _ hrank }

/-- **Without an exchange there is one optimum**: two best assignments resume the same robots. -/
lemma atMostOne_of_noExchange
    (hobj : buildObjectiveEncoding component priorities = .ok objective)
    (hnone : NoExchange component priorities) :
    AtMostOne (feasibleDecisions component m hard) component
      (coefficientOf objective.val.coefficients) := by
  rintro decisions decisions' ⟨hmem, hmax⟩ ⟨hmem', hmax'⟩ r
  have htotal := le_antisymm (hmax' _ hmem) (hmax _ hmem')
  obtain ⟨hscore, hrank⟩ := (sum_coefficients_eq_iff hobj (Finset.filter_subset _ _)
    (Finset.filter_subset _ _)).mp htotal
  have hexchange := exchangeable_sdiff (Finset.filter_subset _ _) (Finset.filter_subset _ _)
    hscore hrank
  have hsame := hnone _ _ hexchange
  have hempty := hexchange.disjoint
  rw [← hsame, disjoint_self, Finset.bot_eq_empty] at hempty
  rw [hempty] at hsame
  have heq := (Finset.sdiff_eq_empty_iff_subset.mp hempty).antisymm
    (Finset.sdiff_eq_empty_iff_subset.mp hsame.symm)
  by_cases hr : r ∈ component
  · have hact := Finset.ext_iff.mp heq r
    rw [Finset.mem_filter, Finset.mem_filter, List.mem_toFinset, and_iff_right hr,
      and_iff_right hr] at hact
    rw [lookup_eq_actionOf ((hmem.1 r).mpr hr), lookup_eq_actionOf ((hmem'.1 r).mpr hr),
      action_eq_of_resume_iff hact]
  · rw [AList.lookup_eq_none.mpr (mt (hmem.1 r).mp hr),
      AList.lookup_eq_none.mpr (mt (hmem'.1 r).mp hr)]

end Exchange

/-! ## No-goods that leave two assignments -/

/-- The robots of a set resume, all others pause. -/
def actionIn (robots : Finset RobotId) (robotId : RobotId) : Action :=
  if robotId ∈ robots then .resume else .pause

/-- The robots of the set are resumed. -/
lemma actionIn_eq_resume {robots : Finset RobotId} {r : RobotId} :
    actionIn robots r = .resume ↔ r ∈ robots := by
  unfold actionIn
  split_ifs with h <;> simp [h]

/-- A pair of robots that may act as when `A` resumes or as when `B` resumes. -/
def eitherOr (A B : Finset RobotId) (robotI robotJ : RobotId) (ordered : robotI < robotJ) :
    PairwiseCompatibility where
  robotI
  robotJ
  compatibility := fun a b => decide ((a = actionIn A robotI ∧ b = actionIn A robotJ) ∨
    a = actionIn B robotI ∧ b = actionIn B robotJ)
  envelopeBounds := fun _ _ => ((0, 0, 0, 0), (0, 0, 0, 0))
  ordered

/-- The pairs of a component, all of this kind. -/
def eitherOrConstraints (component : List RobotId) (A B : Finset RobotId) :
    List PairwiseCompatibility :=
  component.flatMap fun i => component.filterMap fun j =>
    if h : i < j then some (eitherOr A B i j h) else none

/-- A conflict model with these pairs. -/
def eitherOrModel (component : List RobotId) (A B : Finset RobotId) : ConflictModel where
  snapshots := Dict.ofPairs (component.map fun r => (r, lineSnapshot r 0 1))
  pairwiseConstraints := eitherOrConstraints component A B
  noGoodConstraints := componentNoGoods (eitherOrConstraints component A B)
  edges := (eitherOrConstraints component A B).map PairwiseCompatibility.robotPair
  adjacency := Dict.ofKeys component fun r => component.filter (· ≠ r)
  isolatedRobots := component.filter fun r => (component.filter (· ≠ r)).isEmpty
  connectedComponents := [component]

section EitherOr

variable {component : List RobotId} {A B : Finset RobotId}

/-- The constraints of the gadget are those of its pairs. -/
lemma mem_eitherOrConstraints {pair : PairwiseCompatibility} :
    pair ∈ eitherOrConstraints component A B ↔ ∃ i ∈ component, ∃ j ∈ component,
      ∃ h : i < j, pair = eitherOr A B i j h := by
  simp only [eitherOrConstraints, List.mem_flatMap, List.mem_filterMap]
  constructor
  · rintro ⟨i, hi, j, hj, h⟩
    split_ifs at h with hlt
    exact ⟨i, hi, j, hj, hlt, (Option.some.inj h).symm⟩
  · rintro ⟨i, hi, j, hj, hlt, rfl⟩
    exact ⟨i, hi, j, hj, dif_pos hlt⟩

/-- **The two sets are the safe ones**, provided some robot of the component tells them apart.

**Proof sketch.** The safe assignments agree on every pair of robots with one of the two sets. A
robot on which the sets differ tells which one it is, and its pairs with all the others fix their
actions. -/
lemma safe_eitherOr_iff {r : RobotId} (hr : r ∈ component) (hne : actionIn A r ≠ actionIn B r)
    (x : RobotId → Action) :
    Safe (componentConstraints component (eitherOrModel component A B)) x ↔
      (∀ s ∈ component, x s = actionIn A s) ∨ ∀ s ∈ component, x s = actionIn B s := by
  have hsafe : Safe (componentConstraints component (eitherOrModel component A B)) x ↔
      ∀ i ∈ component, ∀ j ∈ component, i < j → (x i = actionIn A i ∧ x j = actionIn A j) ∨
        x i = actionIn B i ∧ x j = actionIn B j := by
    constructor
    · intro h i hi j hj hlt
      have hpair := h (eitherOr A B i j hlt) (mem_componentConstraints.mpr
        ⟨mem_eitherOrConstraints.mpr ⟨i, hi, j, hj, hlt, rfl⟩, hi, hj⟩)
      exact of_decide_eq_true hpair
    · intro h pair hpair
      obtain ⟨hpair, -⟩ := mem_componentConstraints.mp hpair
      obtain ⟨i, hi, j, hj, hlt, rfl⟩ := mem_eitherOrConstraints.mp hpair
      exact decide_eq_true (h i hi j hj hlt)
  rw [hsafe]
  constructor
  · intro h
    -- the robot `r` tells which of the two sets is taken, and its pairs fix all others
    have hother : ∀ s ∈ component, s ≠ r → (x r = actionIn A r ∧ x s = actionIn A s) ∨
        x r = actionIn B r ∧ x s = actionIn B s := by
      intro s hs hsr
      rcases lt_or_gt_of_ne hsr with hlt | hlt
      · exact (h s hs r hr hlt).imp And.symm And.symm
      · exact h r hr s hs hlt
    have hchoice : x r = actionIn A r ∨ x r = actionIn B r := by
      revert hne
      cases x r <;> cases actionIn A r <;> cases actionIn B r <;> simp
    rcases hchoice with hxr | hxr
    · refine .inl fun s hs => ?_
      by_cases hsr : s = r
      · rw [hsr, hxr]
      · rcases hother s hs hsr with ⟨-, h⟩ | ⟨hB, -⟩
        · exact h
        · exact absurd (hxr.symm.trans hB) hne
    · refine .inr fun s hs => ?_
      by_cases hsr : s = r
      · rw [hsr, hxr]
      · rcases hother s hs hsr with ⟨hA, -⟩ | ⟨-, h⟩
        · exact absurd (hA.symm.trans hxr) hne
        · exact h
  · rintro (h | h) i hi j hj -
    · exact .inl ⟨h i hi, h j hj⟩
    · exact .inr ⟨h i hi, h j hj⟩

/-- The model is well formed input for its component. -/
lemma eitherOr_input {priorities : Dict RobotId PriorityBreakdown} (hne : component ≠ [])
    (hnd : component.Nodup)
    (hscored : ∀ r ∈ component, ∃ p, priorities.lookup r = some p ∧ p.val.robotId = r) :
    ComponentInput component (eitherOrModel component A B) priorities ∅ where
  nonempty := hne
  nodup := hnd
  observed r hr := by
    rw [eitherOrModel, Dict.mem_ofPairs, List.map_map]
    exact List.mem_map.mpr ⟨r, hr, rfl⟩
  scored := hscored
  hard_mem r hr := absurd hr (AList.notMem_empty r)

/-- The decisions that resume a set of robots of the component have its total. -/
lemma resumeTotal_actionIn {robots : Finset RobotId} (hsub : robots ⊆ component.toFinset)
    (weight : RobotId → ℤ) {decisions : Dict RobotId Action}
    (hdec : ∀ r ∈ component, actionOf decisions r = actionIn robots r) :
    resumeTotal component weight decisions = ∑ r ∈ robots, weight r := by
  refine Finset.sum_congr (Finset.ext fun r => ?_) fun _ _ => rfl
  rw [Finset.mem_filter]
  constructor
  · rintro ⟨hr, hact⟩
    rw [hdec r (List.mem_toFinset.mp hr)] at hact
    exact actionIn_eq_resume.mp hact
  · intro hr
    exact ⟨hsub hr, by rw [hdec r (List.mem_toFinset.mp (hsub hr)), actionIn_eq_resume.mpr hr]⟩

/-- **An exchange leaves two optima** to the component whose no-goods admit the two groups only.

**Proof sketch.** Both sets are feasible under the no-goods that admit only them, and both are
optimal, because their totals are equal. They differ on a robot of the component. -/
lemma not_atMostOne_eitherOr {priorities : Dict RobotId PriorityBreakdown}
    {objective : Validated ObjectiveEncoding.postInit}
    (hobj : buildObjectiveEncoding component priorities = .ok objective)
    (h : Exchangeable component priorities A B) {r : RobotId} (hr : r ∈ component)
    (hne : actionIn A r ≠ actionIn B r) :
    ¬ AtMostOne (feasibleDecisions component (eitherOrModel component A B) ∅) component
      (coefficientOf objective.val.coefficients) := by
  have hact : ∀ robots, ∀ s ∈ component,
      actionOf (Dict.ofKeys component (actionIn robots)) s = actionIn robots s := fun robots s hs =>
    actionOf_eq (Dict.lookup_ofKeys_of_mem hs)
  have htotal := (sum_coefficients_eq_iff hobj h.left h.right).mpr ⟨h.score, h.rank⟩
  have hbest : ∀ robots, robots = A ∨ robots = B →
      Maximises (feasibleDecisions component (eitherOrModel component A B) ∅) component
        (coefficientOf objective.val.coefficients) (Dict.ofKeys component (actionIn robots)) := by
    intro robots hrobots
    have hsum : resumeTotal component (coefficientOf objective.val.coefficients)
        (Dict.ofKeys component (actionIn robots)) =
          ∑ r ∈ A, coefficientOf objective.val.coefficients r := by
      rcases hrobots with rfl | rfl
      · exact resumeTotal_actionIn h.left _ (hact _)
      · rw [resumeTotal_actionIn h.right _ (hact _), htotal]
    refine ⟨⟨fun s => Dict.mem_ofKeys, ?_, fun s a hs => ?_⟩, fun other hother => ?_⟩
    · rw [safe_eitherOr_iff hr hne]
      rcases hrobots with rfl | rfl
      · exact .inl (hact _)
      · exact .inr (hact _)
    · rw [AList.lookup_empty] at hs
      cases hs
    · rw [hsum]
      rcases (safe_eitherOr_iff hr hne _).mp hother.2.1 with hA | hB
      · exact (resumeTotal_actionIn h.left _ hA).le
      · rw [resumeTotal_actionIn h.right _ hB, htotal]
  intro hone
  have heq := hone _ _ (hbest A (.inl rfl)) (hbest B (.inr rfl)) r
  rw [Dict.lookup_ofKeys_of_mem hr, Dict.lookup_ofKeys_of_mem hr] at heq
  exact hne (Option.some.inj heq)

/-- **One optimum for all no-goods and hard assignments iff there is no exchange.** -/
lemma atMostOne_iff {priorities : Dict RobotId PriorityBreakdown}
    {objective : Validated ObjectiveEncoding.postInit} (hnd : component.Nodup)
    (hscored : ∀ r ∈ component, ∃ p, priorities.lookup r = some p ∧ p.val.robotId = r)
    (hobj : buildObjectiveEncoding component priorities = .ok objective) :
    (∀ m hard, ComponentInput component m priorities hard →
      AtMostOne (feasibleDecisions component m hard) component
        (coefficientOf objective.val.coefficients)) ↔ NoExchange component priorities := by
  constructor
  · intro hone A B h
    by_contra hAB
    obtain ⟨r, hr⟩ : ∃ r, ¬ (r ∈ A ↔ r ∈ B) := by
      by_contra hall
      push Not at hall
      exact hAB (Finset.ext hall)
    have hmem : r ∈ component := by
      by_cases hA : r ∈ A
      · exact List.mem_toFinset.mp (h.left hA)
      · exact List.mem_toFinset.mp (h.right (by tauto))
    have hne : actionIn A r ≠ actionIn B r := fun heq =>
      hr (by rw [← actionIn_eq_resume, ← actionIn_eq_resume, heq])
    exact not_atMostOne_eitherOr hobj h hmem hne
      (hone _ _ (eitherOr_input (List.ne_nil_of_mem hmem) hnd hscored))
  · exact fun hnone _ _ _ => atMostOne_of_noExchange hobj hnone

end EitherOr

/-! ## Independence of the solver -/

/-- The value of a model's objective. -/
def CpModel.objectiveAt (model : CpModel) (value : RobotId → ℤ) : ℤ :=
  (model.objective.map fun term => term.1 * value term.2).sum

/-- A solve call is honest: what it reports is trustworthy, and `OPTIMAL` is a proof. -/
structure SolverAnswer.Honest (answer : SolverAnswer) (model : CpModel) : Prop
    extends answer.Trustworthy model where
  optimal : answer.status = .optimal → ∀ value, model.SatisfiedBy value →
    model.objectiveAt value ≤ model.objectiveAt answer.value

/-- Honest solvers lead to the same proven-optimal decisions. -/
def SolverIndependent (config : MonitorConfig) (component : List RobotId) (m : ConflictModel)
    (priorities : Dict RobotId PriorityBreakdown) (hard : Dict RobotId Action) : Prop :=
  ∀ solve solve' : CpModel → SolverAnswer, (∀ model, (solve model).Honest model) →
    (∀ model, (solve' model).Honest model) → ∀ r r',
      optimise config (some solve) component m priorities hard = .ok r →
      optimise config (some solve') component m priorities hard = .ok r' →
      r.val.optimalityProven = true → r'.val.optimalityProven = true →
      ∀ robotId, r.val.decisions.lookup robotId = r'.val.decisions.lookup robotId

section Solver

variable {component : List RobotId} {m : ConflictModel}
  {priorities : Dict RobotId PriorityBreakdown} {hard : Dict RobotId Action}
  {objective : Validated ObjectiveEncoding.postInit} {model : CpModel}

/-- The Boolean values that decisions stand for. -/
def valueOf (decisions : Dict RobotId Action) (robotId : RobotId) : ℤ :=
  if actionOf decisions robotId = .resume then 1 else 0

/-- The value of a robot is zero or one. -/
lemma valueOf_eq_zero_or_one (decisions : Dict RobotId Action) (r : RobotId) :
    valueOf decisions r = 0 ∨ valueOf decisions r = 1 := by
  unfold valueOf
  split_ifs <;> simp

/-- The model of a component lists one objective term for each robot. -/
lemma objective_of_buildCpModel {coefficients : Dict RobotId ℤ} {noGoods : List NoGoodConstraint}
    (hmodel : buildCpModel (sorted component) noGoods hard coefficients = .ok model) :
    model.objective = (sorted component).map fun r => (coefficientOf coefficients r, r) := by
  obtain ⟨terms, hterms, h⟩ := bind_eq_ok.mp hmodel
  rw [← Except.ok.inj h]
  simpa using map_of_mapM (g := id) hterms fun r term hterm => by
    obtain ⟨c, hc, heq⟩ := bind_eq_ok.mp hterm
    rw [← Except.ok.inj heq, coefficientOf, item_eq_ok.mp hc]
    rfl

/-- The model of a component is built. -/
lemma buildCpModel_total (hard : Dict RobotId Action) (noGoods : List NoGoodConstraint)
    (hobj : buildObjectiveEncoding component priorities = .ok objective) :
    ∃ model, buildCpModel (sorted component) noGoods hard objective.val.coefficients =
      .ok model := by
  obtain ⟨terms, hterms⟩ := mapM_total (l := sorted component)
    (f := fun r => do return (← item objective.val.coefficients r, r)) fun r hr => by
      obtain ⟨c, hc⟩ := Dict.exists_lookup
        ((mem_coefficients_of_buildObjectiveEncoding hobj r).mpr (mem_sorted.mp hr))
      exact ⟨(c, r), by rw [item_eq_ok.mpr hc]; rfl⟩
  exact ⟨_, by rw [buildCpModel, hterms]; rfl⟩

/-- At Boolean values the objective of the model is the total coefficient of the decoded
decisions. -/
lemma objectiveAt_eq (hnd : component.Nodup) {coefficients : Dict RobotId ℤ}
    {noGoods : List NoGoodConstraint}
    (hmodel : buildCpModel (sorted component) noGoods hard coefficients = .ok model)
    {value : RobotId → ℤ} (hbool : ∀ r ∈ component, value r = 0 ∨ value r = 1) :
    model.objectiveAt value = resumeTotal component (coefficientOf coefficients)
      (decodeActions (sorted component) value) := by
  have hset : (sorted component).toFinset = component.toFinset :=
    List.toFinset_eq_of_perm _ _ (sorted_perm component)
  rw [CpModel.objectiveAt, objective_of_buildCpModel hmodel, List.map_map, resumeTotal,
    Finset.sum_filter, ← hset, List.sum_toFinset _ (sorted_nodup.mpr hnd)]
  refine congrArg List.sum (List.map_congr_left fun r hr => ?_)
  rw [Function.comp_apply, actionOf_eq (lookup_decodeActions hr)]
  rcases hbool r (mem_sorted.mp hr) with h | h <;> simp [h]

/-- Decoding the values of complete decisions gives them back. -/
lemma lookup_decode_valueOf {decisions : Dict RobotId Action}
    (hdec : decisions ∈ feasibleDecisions component m hard) (r : RobotId) :
    (decodeActions (sorted component) (valueOf decisions)).lookup r = decisions.lookup r := by
  by_cases hr : r ∈ component
  · rw [lookup_decodeActions (mem_sorted.mpr hr), lookup_eq_actionOf ((hdec.1 r).mpr hr), valueOf]
    cases actionOf decisions r <;> rfl
  · have hnone : r ∉ decodeActions (sorted component) (valueOf decisions) := by
      rwa [decodeActions, Dict.mem_ofKeys, mem_sorted]
    rw [AList.lookup_eq_none.mpr hnone, AList.lookup_eq_none.mpr (by rwa [hdec.1 r])]

/-- Totals depend on the looked-up actions only. -/
lemma resumeTotal_congr {weight : RobotId → ℤ} {decisions decisions' : Dict RobotId Action}
    (h : ∀ r, decisions.lookup r = decisions'.lookup r) :
    resumeTotal component weight decisions = resumeTotal component weight decisions' := by
  refine Finset.sum_congr (Finset.filter_congr fun r _ => ?_) fun _ _ => rfl
  rw [actionOf, actionOf, h]

/-- **Feasible decisions satisfy the model** of their component. -/
lemma satisfiedBy_of_feasible (hhard : ∀ r ∈ hard, r ∈ component) {coefficients : Dict RobotId ℤ}
    (hmodel : buildCpModel (sorted component) (componentNoGoods (componentConstraints component m))
      hard coefficients = .ok model) {decisions : Dict RobotId Action}
    (hdec : decisions ∈ feasibleDecisions component m hard) :
    model.SatisfiedBy (valueOf decisions) := by
  have hact : ∀ r, actionOf (decodeActions (sorted component) (valueOf decisions)) r =
      actionOf decisions r := fun r => by
    rw [actionOf, actionOf, lookup_decode_valueOf hdec]
  rw [satisfiedBy_iff (componentConstraints_inside component m) hhard hmodel, funext hact]
  exact ⟨fun r _ => valueOf_eq_zero_or_one decisions r, hdec.2⟩

/-- An optimal answer is accepted as a proof. -/
lemma optimise_eq_acceptAnswer {config : MonitorConfig}
    (hinput : ComponentInput component m priorities hard)
    (hsize : component.length ≤ config.maximumExactComponentSize)
    (hobj : buildObjectiveEncoding component priorities = .ok objective)
    (hmodel : buildCpModel (sorted component) (componentNoGoods (componentConstraints component m))
      hard objective.val.coefficients = .ok model) {solve : CpModel → SolverAnswer}
    (hstatus : (solve model).status = .optimal) :
    optimise config (some solve) component m priorities hard =
      acceptAnswer (sorted component) (componentConstraints component m) hard (solve model)
        true := by
  have hlen : (sorted component).length = component.length := (sorted_perm component).length_eq
  unfold optimise
  rw [checkedComponent_eq_ok.mpr ⟨rfl, hinput⟩, ok_bind, if_neg (by rw [hlen]; omega)]
  dsimp only
  rw [buildObjectiveEncoding_sorted, hobj, ok_bind, hmodel, ok_bind]
  simp only [hstatus]

/-- A fallback result proves nothing. -/
lemma not_proven_of_fallback {status : SolverStatus} {reason : String} {wallTime : Option ℚ}
    {r : OptimisationResult} (h : fallback status reason wallTime = .ok r) :
    r.val.optimalityProven = false := by
  rw [val_of_validate h]

/-- Only an optimal answer is reported as proven, and then the decisions are decoded from it. -/
lemma answer_of_proven {config : MonitorConfig}
    (hinput : ComponentInput component m priorities hard)
    (hobj : buildObjectiveEncoding component priorities = .ok objective)
    (hmodel : buildCpModel (sorted component) (componentNoGoods (componentConstraints component m))
      hard objective.val.coefficients = .ok model) {solve : CpModel → SolverAnswer}
    {r : OptimisationResult}
    (h : optimise config (some solve) component m priorities hard = .ok r)
    (hproven : r.val.optimalityProven = true) :
    (solve model).status = .optimal ∧
      r.val.decisions = decodeActions (sorted component) (solve model).value := by
  unfold optimise at h
  rw [checkedComponent_eq_ok.mpr ⟨rfl, hinput⟩, ok_bind] at h
  split_ifs at h with hsize
  · rw [not_proven_of_fallback h] at hproven
    cases hproven
  dsimp only at h
  rw [buildObjectiveEncoding_sorted, hobj, ok_bind, hmodel, ok_bind] at h
  have haccept : ∀ optimal, acceptAnswer (sorted component) (componentConstraints component m) hard
      (solve model) optimal = .ok r → r.val.optimalityProven = optimal ∧
        r.val.decisions = decodeActions (sorted component) (solve model).value := by
    intro optimal h
    obtain ⟨_, -, h⟩ := bind_eq_ok.mp h
    obtain ⟨_, -, h⟩ := bind_eq_ok.mp h
    obtain ⟨_, -, h⟩ := bind_eq_ok.mp h
    rw [val_of_validate h]
    exact ⟨rfl, rfl⟩
  split at h
  · cases h
  · rw [not_proven_of_fallback h] at hproven
    cases hproven
  · rw [not_proven_of_fallback h] at hproven
    cases hproven
  · cases h
  · next hstatus => exact ⟨hstatus, (haccept true h).2⟩
  · rw [(haccept false h).1] at hproven
    cases hproven

/-- An honest solver's proven decisions attain the greatest encoded objective. -/
lemma maximises_of_proven {config : MonitorConfig}
    (hinput : ComponentInput component m priorities hard)
    (hobj : buildObjectiveEncoding component priorities = .ok objective)
    (hmodel : buildCpModel (sorted component) (componentNoGoods (componentConstraints component m))
      hard objective.val.coefficients = .ok model) {solve : CpModel → SolverAnswer}
    (hhonest : (solve model).Honest model) {r : OptimisationResult}
    (h : optimise config (some solve) component m priorities hard = .ok r)
    (hproven : r.val.optimalityProven = true) :
    Maximises (feasibleDecisions component m hard) component
      (coefficientOf objective.val.coefficients) r.val.decisions := by
  obtain ⟨hstatus, hdecisions⟩ := answer_of_proven hinput hobj hmodel h hproven
  have hsat := hhonest.satisfies (.inl hstatus)
  have hbool : ∀ r ∈ component, (solve model).value r = 0 ∨ (solve model).value r = 1 :=
    fun r hr => hsat.boolean r (by
      obtain ⟨terms, -, heq⟩ := bind_eq_ok.mp hmodel
      rw [← Except.ok.inj heq]
      exact mem_sorted.mpr hr)
  rw [hdecisions]
  refine ⟨⟨fun r => ?_, admissible_of_satisfiedBy hinput.hard_mem hmodel hsat⟩,
    fun other hother => ?_⟩
  · rw [decodeActions, Dict.mem_ofKeys, mem_sorted]
  · have hle := hhonest.optimal hstatus _ (satisfiedBy_of_feasible hinput.hard_mem hmodel hother)
    rw [objectiveAt_eq hinput.nodup hmodel fun r _ => valueOf_eq_zero_or_one other r,
      objectiveAt_eq hinput.nodup hmodel hbool,
      resumeTotal_congr (lookup_decode_valueOf hother)] at hle
    exact hle

/-- The answer that reports given decisions as optimal. -/
def optimalAnswer (model : CpModel) (decisions : Dict RobotId Action) : SolverAnswer where
  status := .optimal
  value := valueOf decisions
  wallTime := some 0
  objectiveValue := some (model.objectiveAt (valueOf decisions))
  bestObjectiveBound := some (model.objectiveAt (valueOf decisions))

/-- The answer of a solver that ran out of time. -/
def unknownAnswer : SolverAnswer where
  status := .unknown
  value := fun _ => 0
  wallTime := some 0
  objectiveValue := none
  bestObjectiveBound := none

/-- Some honest solver reports any given optimum of a model. -/
lemma exists_honest (model : CpModel) {decisions : Dict RobotId Action}
    (hsat : model.SatisfiedBy (valueOf decisions))
    (hmax : ∀ value, model.SatisfiedBy value →
      model.objectiveAt value ≤ model.objectiveAt (valueOf decisions)) :
    ∃ solve : CpModel → SolverAnswer, (∀ model, (solve model).Honest model) ∧
      solve model = optimalAnswer model decisions := by
  classical
  refine ⟨fun other => if other = model then optimalAnswer model decisions else unknownAnswer,
    fun other => ?_, if_pos rfl⟩
  dsimp only
  by_cases h : other = model
  · subst h
    rw [if_pos rfl]
    exact
      { status := .inr (.inr (.inl rfl))
        satisfies := fun _ => hsat
        wallTime := ⟨0, rfl, le_rfl⟩
        metrics := fun _ => ⟨_, _, rfl, rfl⟩
        optimal := fun _ => hmax }
  · rw [if_neg h]
    exact
      { status := .inl rfl
        satisfies := by simp [unknownAnswer]
        wallTime := ⟨0, rfl, le_rfl⟩
        metrics := by simp [unknownAnswer]
        optimal := by simp [unknownAnswer] }

/-- **Every optimum can be the proven answer**: some honest solver makes the optimiser return it.

**Proof sketch.** The solver answers the model of the component with the optimum, and no other model
in time (`exists_honest`). Its answer is then accepted, and it is proven by the status. -/
lemma exists_solver {config : MonitorConfig}
    (hinput : ComponentInput component m priorities hard)
    (hsize : component.length ≤ config.maximumExactComponentSize)
    (hobj : buildObjectiveEncoding component priorities = .ok objective)
    {decisions : Dict RobotId Action}
    (hbest : Maximises (feasibleDecisions component m hard) component
      (coefficientOf objective.val.coefficients) decisions) :
    ∃ solve : CpModel → SolverAnswer, (∀ model, (solve model).Honest model) ∧
      ∃ r, optimise config (some solve) component m priorities hard = .ok r ∧
        r.val.optimalityProven = true ∧
        ∀ robotId, r.val.decisions.lookup robotId = decisions.lookup robotId := by
  obtain ⟨model, hmodel⟩ := buildCpModel_total hard
    (componentNoGoods (componentConstraints component m)) hobj
  obtain ⟨solve, hhonest, hanswer⟩ := exists_honest model
    (satisfiedBy_of_feasible hinput.hard_mem hmodel hbest.1)
    fun value hvalue => by
      have hbool : ∀ r ∈ component, value r = 0 ∨ value r = 1 := fun r hr => hvalue.boolean r (by
        obtain ⟨terms, -, heq⟩ := bind_eq_ok.mp hmodel
        rw [← Except.ok.inj heq]
        exact mem_sorted.mpr hr)
      rw [objectiveAt_eq hinput.nodup hmodel hbool,
        objectiveAt_eq hinput.nodup hmodel fun r _ => valueOf_eq_zero_or_one decisions r,
        resumeTotal_congr (lookup_decode_valueOf hbest.1)]
      refine hbest.2 _ ⟨fun r => ?_, admissible_of_satisfiedBy hinput.hard_mem hmodel hvalue⟩
      rw [decodeActions, Dict.mem_ofKeys, mem_sorted]
  have hstatus : (solve model).status = .optimal := by rw [hanswer]; rfl
  have heq := optimise_eq_acceptAnswer hinput hsize hobj hmodel hstatus
  obtain ⟨r, hr⟩ : ∃ r, optimise config (some solve) component m priorities hard = .ok r :=
    optimise_total hinput (coefficientsFit_of_buildObjectiveEncoding hobj)
      fun solve' hsolve' other => by
        rw [← Option.some.inj hsolve']
        exact (hhonest other).toTrustworthy
  refine ⟨solve, hhonest, r, hr, ?_⟩
  rw [heq] at hr
  obtain ⟨_, -, hr⟩ := bind_eq_ok.mp hr
  obtain ⟨_, -, hr⟩ := bind_eq_ok.mp hr
  obtain ⟨_, -, hr⟩ := bind_eq_ok.mp hr
  rw [val_of_validate hr]
  refine ⟨rfl, fun robotId => ?_⟩
  rw [← lookup_decode_valueOf hbest.1, hanswer]
  rfl

/-- **The proven decision is determined iff there is one optimum.** -/
lemma solverIndependent_iff {config : MonitorConfig}
    (hinput : ComponentInput component m priorities hard)
    (hsize : component.length ≤ config.maximumExactComponentSize)
    (hobj : buildObjectiveEncoding component priorities = .ok objective) :
    SolverIndependent config component m priorities hard ↔
      AtMostOne (feasibleDecisions component m hard) component
        (coefficientOf objective.val.coefficients) := by
  constructor
  · intro hindep decisions decisions' hbest hbest' robotId
    obtain ⟨solve, hhonest, r, hr, hproven, hlook⟩ := exists_solver hinput hsize hobj hbest
    obtain ⟨solve', hhonest', r', hr', hproven', hlook'⟩ := exists_solver hinput hsize hobj hbest'
    rw [← hlook, ← hlook']
    exact hindep solve solve' hhonest hhonest' r r' hr hr' hproven hproven' robotId
  · intro hone solve solve' hhonest hhonest' r r' hr hr' hproven hproven'
    obtain ⟨model, hmodel⟩ := buildCpModel_total hard
      (componentNoGoods (componentConstraints component m)) hobj
    exact hone _ _ (maximises_of_proven hinput hobj hmodel (hhonest model) hr hproven)
      (maximises_of_proven hinput hobj hmodel (hhonest' model) hr' hproven')

/-- A total, written out in ID order. -/
lemma resumeTotal_eq_sum (hnd : component.Nodup) (weight : RobotId → ℤ)
    (decisions : Dict RobotId Action) : resumeTotal component weight decisions =
      ((sorted component).map fun r =>
        if actionOf decisions r = .resume then weight r else 0).sum := by
  have hset : (sorted component).toFinset = component.toFinset :=
    List.toFinset_eq_of_perm _ _ (sorted_perm component)
  rw [resumeTotal, Finset.sum_filter, ← hset, List.sum_toFinset _ (sorted_nodup.mpr hnd)]

/-- With at most three robots, equal totals of positive scores and equal totals of ranks leave no
choice.

**Proof sketch.** By the number of robots. The ranks of all robots but the last are positive, and
different sets of them have different totals, so the total of ranks fixes their actions. The last
robot has rank zero, and its positive score fixes it. -/
lemma actions_eq_of_totals {ordered : List RobotId} (hord : ordered.Pairwise (· < ·))
    (hlen : ordered.length ≤ 3) {score : RobotId → ℤ} (hpos : ∀ r ∈ ordered, 0 < score r)
    {x y : RobotId → Action}
    (hscore : (ordered.map fun r => if x r = .resume then score r else 0).sum =
      (ordered.map fun r => if y r = .resume then score r else 0).sum)
    (hrank : (ordered.map fun r => if x r = .resume then (ordered.countP (r < ·) : ℤ) else 0).sum =
      (ordered.map fun r => if y r = .resume then (ordered.countP (r < ·) : ℤ) else 0).sum) :
    ∀ r ∈ ordered, x r = y r := by
  -- the last robot has rank `0`, so only its score tells its two actions apart
  have hlast : ∀ (r : RobotId) (u v : ℤ), 0 < score r → u = v →
      u + ((if x r = .resume then score r else 0) + 0) =
        v + ((if y r = .resume then score r else 0) + 0) → x r = y r := by
    intro r u v hr huv h
    refine action_eq_of_resume_iff ?_
    split_ifs at h with h₁ h₂ h₂ <;> first | omega | simp [h₁, h₂]
  match ordered with
  | [] => simp
  | [a] =>
    simp only [List.forall_mem_cons, List.not_mem_nil, false_imp_iff, implies_true, and_true]
      at hpos ⊢
    simp only [List.map_cons, List.map_nil, List.sum_cons, List.sum_nil] at hscore
    exact hlast a 0 0 hpos rfl (by rwa [zero_add, zero_add])
  | [a, b] =>
    simp only [List.pairwise_cons, List.forall_mem_cons, List.not_mem_nil, false_imp_iff,
      implies_true, and_true, List.Pairwise.nil] at hord hpos ⊢
    have hra : [a, b].countP (a < ·) = 1 := by simp [hord]
    have hrb : [a, b].countP (b < ·) = 0 := by simp [hord.le]
    simp only [List.map_cons, List.map_nil, List.sum_cons, List.sum_nil, hra, hrb] at hscore hrank
    have ha : x a = y a := action_eq_of_resume_iff (by
      split_ifs at hrank with h₁ h₂ h₃ h₄ h₂ h₃ h₄ <;> first | omega | simp [*])
    exact ⟨ha, hlast b _ _ hpos.2 (by rw [ha]) hscore⟩
  | [a, b, c] =>
    simp only [List.pairwise_cons, List.forall_mem_cons, List.not_mem_nil, false_imp_iff,
      implies_true, and_true, List.Pairwise.nil] at hord hpos ⊢
    obtain ⟨⟨hab, hac⟩, hbc⟩ := hord
    have hra : [a, b, c].countP (a < ·) = 2 := by simp [hab, hac]
    have hrb : [a, b, c].countP (b < ·) = 1 := by simp [hab.le, hbc]
    have hrc : [a, b, c].countP (c < ·) = 0 := by simp [hac.le, hbc.le]
    simp only [List.map_cons, List.map_nil, List.sum_cons, List.sum_nil, hra, hrb, hrc]
      at hscore hrank
    simp only [Nat.cast_ofNat, Nat.cast_one, Nat.cast_zero, ite_self, add_zero] at hrank
    have hboth : (x a = .resume ↔ y a = .resume) ∧ (x b = .resume ↔ y b = .resume) := by
      split_ifs at hrank with h₁ h₂ h₃ h₄ <;> first | omega | simp [*]
    have ha := action_eq_of_resume_iff hboth.1
    have hb := action_eq_of_resume_iff hboth.2
    rw [← add_assoc, ← add_assoc (if y a = .resume then score a else 0)] at hscore
    exact ⟨ha, hb, hlast c _ _ hpos.2.2 (by rw [ha, hb]) hscore⟩
  | _ :: _ :: _ :: _ :: _ =>
    simp only [List.length_cons] at hlen
    omega

/-- The total of a set, written out in ID order. -/
lemma sum_eq_sorted (hnd : component.Nodup) {robots : Finset RobotId}
    (hsub : robots ⊆ component.toFinset) (weight : RobotId → ℤ) :
    ∑ r ∈ robots, weight r = ((sorted component).map fun r =>
      if actionIn robots r = .resume then weight r else 0).sum := by
  have hact : ∀ r ∈ component,
      actionOf (Dict.ofKeys component (actionIn robots)) r = actionIn robots r := fun r hr =>
    actionOf_eq (Dict.lookup_ofKeys_of_mem hr)
  rw [← resumeTotal_actionIn hsub weight hact, resumeTotal_eq_sum hnd]
  exact congrArg List.sum (List.map_congr_left fun r hr => by rw [hact r (mem_sorted.mp hr)])

/-- **Three robots never tie**: in a component of at most three robots with positive scores there is
no exchange. -/
lemma noExchange_of_length_le_three (hnd : component.Nodup) (hlen : component.length ≤ 3)
    (hpos : ∀ r ∈ component, 0 < finalOf priorities r) : NoExchange component priorities := by
  intro A B h
  have hcount : rankOf component = fun r => ((sorted component).countP (r < ·) : ℤ) := by
    funext r
    rw [rankOf, (sorted_perm component).countP_eq]
  have hscore := h.score
  have hrank := h.rank
  rw [sum_eq_sorted hnd h.left, sum_eq_sorted hnd h.right] at hscore hrank
  rw [hcount] at hrank
  have heq := actions_eq_of_totals (pairwise_sorted_lt hnd)
    (by rwa [(sorted_perm component).length_eq]) (fun r hr => hpos r (mem_sorted.mp hr)) hscore
    hrank
  refine Finset.ext fun r => ?_
  by_cases hr : r ∈ component
  · rw [← actionIn_eq_resume, ← actionIn_eq_resume, heq r (mem_sorted.mpr hr)]
  · have hnot : ∀ {robots : Finset RobotId}, robots ⊆ component.toFinset → r ∉ robots :=
      fun hsub hmem => hr (List.mem_toFinset.mp (hsub hmem))
    exact iff_of_false (hnot h.left) (hnot h.right)

/-- **The tie-break decides every tie iff there is no exchange.** For every component and valid
priorities with an encodable objective: whatever the no-goods and hard assignments are, at most one
feasible assignment attains the greatest encoded objective, and the proven-optimal decisions are
the same for every honest solver, iff no two different groups of robots have the same total final
score and the same total rank. In a component of at most three robots with positive scores there
are no such groups.

**Proof sketch.** Two optima that differ have the same total score and the same total rank, and so
do the parts in which they differ: these are an exchange. For an exchange the no-goods of `eitherOr`
leave exactly two optima (`atMostOne_iff`). Two groups of at most three robots in all cannot agree
in both sums. -/
theorem oneOptimum_iff (hnd : component.Nodup)
    (hscored : ∀ r ∈ component, ∃ p, priorities.lookup r = some p ∧ p.val.robotId = r)
    (hobj : buildObjectiveEncoding component priorities = .ok objective) :
    ((∀ m hard, ComponentInput component m priorities hard →
        AtMostOne (feasibleDecisions component m hard) component
          (coefficientOf objective.val.coefficients)) ↔ NoExchange component priorities) ∧
    (∀ config : MonitorConfig, component.length ≤ config.maximumExactComponentSize →
      ((∀ m hard, ComponentInput component m priorities hard →
        SolverIndependent config component m priorities hard) ↔
          NoExchange component priorities)) ∧
    (component.length ≤ 3 → (∀ r ∈ component, 0 < finalOf priorities r) →
      NoExchange component priorities) := by
  refine ⟨atMostOne_iff hnd hscored hobj, fun config hsize => ?_,
    noExchange_of_length_le_three hnd⟩
  rw [← atMostOne_iff hnd hscored hobj]
  exact forall₃_congr fun m hard hinput => solverIndependent_iff hinput hsize hobj

/-- Two approaching robots never tie. -/
theorem oneOptimum_iff_approaching : ∃ m priorities objective,
    buildConflictModel lineGeometry approaching = .ok m ∧
    buildObjectiveEncoding [robotA, robotB] priorities = .ok objective ∧
    AtMostOne (feasibleDecisions [robotA, robotB] m ∅) [robotA, robotB]
      (coefficientOf objective.val.coefficients) := by
  obtain ⟨m, priorities, objective, -, hm, -, hscore, hinput, hobj, -⟩ := approaching_prepared
  obtain ⟨hone, -, hthree⟩ := oneOptimum_iff hinput.nodup hinput.scored hobj
  refine ⟨m, priorities, objective, hm, hobj, hone.mpr (hthree (by decide) fun r hr => ?_) m ∅
    hinput⟩
  obtain ⟨-, cap, hbounds⟩ := scoreComponentPriorities_bounds hscore
  obtain ⟨p, hp, h0, hle, hfinal⟩ := hbounds r hr
  rw [finalOf, hp, Option.map_some, Option.getD_some, hfinal]
  have := mul_nonneg (Int.natCast_nonneg [robotA, robotB].length) (h0.trans hle)
  omega

end Solver

/-! ## A tie that the ranks leave open -/

/-- A pair of robots that may not both resume. -/
def forbidBoth (robotI robotJ : RobotId) (ordered : robotI < robotJ) : PairwiseCompatibility where
  robotI
  robotJ
  compatibility := fun actionI actionJ => !(actionI == .resume && actionJ == .resume)
  envelopeBounds := fun _ _ => ((0, 0, 0, 0), (0, 0, 0, 0))
  ordered

/-- The conflicts of four equal robots at a crossing: the first and the last may resume together,
or the two in the middle. -/
def crossingConstraints : List PairwiseCompatibility :=
  [forbidBoth robotA robotB robotA_lt_robotB, forbidBoth robotA robotC (by decide),
    forbidBoth robotB robotD (by decide), forbidBoth robotC robotD (by decide)]

/-- The conflict model of the crossing. -/
def crossing : ConflictModel where
  snapshots := Dict.ofPairs ([robotA, robotB, robotC, robotD].map fun r => (r, lineSnapshot r 0 1))
  pairwiseConstraints := crossingConstraints
  noGoodConstraints := componentNoGoods crossingConstraints
  edges := crossingConstraints.map PairwiseCompatibility.robotPair
  adjacency := Dict.ofPairs [(robotA, [robotB, robotC]), (robotB, [robotA, robotD]),
    (robotC, [robotA, robotD]), (robotD, [robotB, robotC])]
  isolatedRobots := []
  connectedComponents := [[robotA, robotB, robotC, robotD]]

/-- The priorities of the four robots differ in nothing but the rank of their IDs. -/
lemma crossing_prepared : ∃ priorities objective,
    scoreComponentPriorities defaultConfig [robotA, robotB, robotC, robotD] crossing 0
      (Dict.ofKeys [robotA, robotB, robotC, robotD] fun _ => 0) [] = .ok priorities ∧
    ComponentInput [robotA, robotB, robotC, robotD] crossing priorities ∅ ∧
    buildObjectiveEncoding [robotA, robotB, robotC, robotD] priorities = .ok objective ∧
    [robotA, robotB, robotC, robotD].map (coefficientOf objective.val.coefficients) =
      [11903, 11902, 11901, 11900] := by
  have hrun : (do
      let priorities ← scoreComponentPriorities defaultConfig [robotA, robotB, robotC, robotD]
        crossing 0 (Dict.ofKeys [robotA, robotB, robotC, robotD] fun _ => 0) []
      let _ ← checkedComponent [robotA, robotB, robotC, robotD] crossing priorities ∅
      let objective ← buildObjectiveEncoding [robotA, robotB, robotC, robotD] priorities
      raiseIf (¬ [robotA, robotB, robotC, robotD].map (coefficientOf objective.val.coefficients) =
        [11903, 11902, 11901, 11900]) (.valueError "coefficients")).isOk = true := by
    decide +kernel
  obtain ⟨_, hok⟩ := exists_of_isOk hrun
  obtain ⟨priorities, hscore, hok⟩ := bind_eq_ok.mp hok
  obtain ⟨_, hcheck, hok⟩ := bind_eq_ok.mp hok
  obtain ⟨objective, hobj, hcoeff⟩ := bind_eq_ok.mp hok
  exact ⟨priorities, objective, hscore, (checkedComponent_eq_ok.mp hcheck).2, hobj,
    not_not.mp (raiseIf_eq_ok.mp hcoeff)⟩

/-- The outer robots resume and the middle ones pause, or the other way round. -/
def crossingDecisions (outer middle : Action) : Dict RobotId Action :=
  Dict.ofPairs [(robotA, outer), (robotB, middle), (robotC, middle), (robotD, outer)]

/-- Both ways through the crossing attain the greatest encoded objective.

**Proof sketch.** The objective is a sum over four robots with known coefficients. The no-goods of
the crossing leave few assignments, and none of their sums is greater. -/
lemma crossing_maximises {coefficients : Dict RobotId ℤ}
    (hcoeff : [robotA, robotB, robotC, robotD].map (coefficientOf coefficients) =
      [11903, 11902, 11901, 11900]) {outer middle : Action}
    (hways : (outer = .resume ∧ middle = .pause) ∨ (outer = .pause ∧ middle = .resume)) :
    Maximises (feasibleDecisions [robotA, robotB, robotC, robotD] crossing ∅)
      [robotA, robotB, robotC, robotD] (coefficientOf coefficients)
      (crossingDecisions outer middle) := by
  have hconstraints : componentConstraints [robotA, robotB, robotC, robotD] crossing =
      crossingConstraints := rfl
  have hsum : ∀ decisions, resumeTotal [robotA, robotB, robotC, robotD]
      (coefficientOf coefficients) decisions =
        (if actionOf decisions robotA = .resume then 11903 else 0) +
          ((if actionOf decisions robotB = .resume then 11902 else 0) +
            ((if actionOf decisions robotC = .resume then 11901 else 0) +
              (if actionOf decisions robotD = .resume then 11900 else 0))) := by
    intro decisions
    simp only [List.map_cons, List.map_nil, List.cons.injEq, and_true] at hcoeff
    obtain ⟨hA, hB, hC, hD⟩ := hcoeff
    rw [resumeTotal_eq_sum (by decide), sorted_eq_self (by decide)]
    simp only [List.map_cons, List.map_nil, List.sum_cons, List.sum_nil, add_zero, hA, hB, hC, hD]
  refine ⟨⟨fun r => ?_, ?_, fun r a hra => ?_⟩, fun other hother => ?_⟩
  · rw [crossingDecisions, Dict.mem_ofPairs]
    rfl
  · rw [hconstraints]
    unfold Safe
    rcases hways with ⟨rfl, rfl⟩ | ⟨rfl, rfl⟩ <;> decide
  · rw [AList.lookup_empty] at hra
    cases hra
  · have hsafe := hother.2.1
    rw [hconstraints] at hsafe
    simp only [Safe, crossingConstraints, List.forall_mem_cons, forbidBoth,
      PairwiseCompatibility.isSafe] at hsafe
    obtain ⟨hAB, hAC, hBD, hCD, -⟩ := hsafe
    have hbest : (11903 + 11900 : ℤ) = resumeTotal [robotA, robotB, robotC, robotD]
        (coefficientOf coefficients) (crossingDecisions outer middle) := by
      rw [hsum]
      rcases hways with ⟨rfl, rfl⟩ | ⟨rfl, rfl⟩ <;> decide
    rw [← hbest, hsum]
    revert hAB hAC hBD hCD
    generalize actionOf other robotA = a
    generalize actionOf other robotB = b
    generalize actionOf other robotC = c
    generalize actionOf other robotD = d
    cases a <;> cases b <;> cases c <;> cases d <;> decide

/-- **Four equal robots tie**: two different assignments attain the greatest objective, and which
of them is reported as the proven optimum depends on the solver. -/
theorem oneOptimum_fails_crossing : ∃ priorities objective,
    scoreComponentPriorities defaultConfig [robotA, robotB, robotC, robotD] crossing 0
      (Dict.ofKeys [robotA, robotB, robotC, robotD] fun _ => 0) [] = .ok priorities ∧
    ComponentInput [robotA, robotB, robotC, robotD] crossing priorities ∅ ∧
    buildObjectiveEncoding [robotA, robotB, robotC, robotD] priorities = .ok objective ∧
    ¬ AtMostOne (feasibleDecisions [robotA, robotB, robotC, robotD] crossing ∅)
      [robotA, robotB, robotC, robotD] (coefficientOf objective.val.coefficients) ∧
    ¬ SolverIndependent defaultConfig [robotA, robotB, robotC, robotD] crossing priorities ∅ := by
  obtain ⟨priorities, objective, hscore, hinput, hobj, hcoeff⟩ := crossing_prepared
  have hties : ¬ AtMostOne (feasibleDecisions [robotA, robotB, robotC, robotD] crossing ∅)
      [robotA, robotB, robotC, robotD] (coefficientOf objective.val.coefficients) := by
    intro hone
    have heq := hone _ _ (crossing_maximises hcoeff (.inl ⟨rfl, rfl⟩))
      (crossing_maximises hcoeff (.inr ⟨rfl, rfl⟩)) robotA
    exact absurd heq (by decide)
  exact ⟨priorities, objective, hscore, hinput, hobj, hties,
    mt (solverIndependent_iff hinput (by decide) hobj).mp hties⟩

end CollisionMonitor
