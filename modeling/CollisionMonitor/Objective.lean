import CollisionMonitor.HeuristicOptimum
import CollisionMonitor.Lib.LexWeights

set_option relaxedAutoImplicit false
set_option autoImplicit false

/-!
# The encoded objective

What the integer coefficients of `build_objective_encoding` order: the number of resumed robots
first, their secondary scores second and their rank bonuses last.

## Main definitions

* `lexScore` — the triple that the coefficients are meant to encode.
* `resumeTotal` — the total weight of the robots that decisions resume.
* `Maximises`, `AtMostOne` — assignments of greatest total weight, and whether there is just one.

## Main results

* `objective_lexicographic` — the coefficients compare subsets of a component by `lexScore`.
* `rankBonus_eq` — the rank bonus of a robot is the number of larger robots of its component.
-/

namespace CollisionMonitor

open Outcome

/-- The secondary score of a robot. -/
def secondaryOf (priorities : Dict RobotId PriorityBreakdown) (robotId : RobotId) : ℤ :=
  ((priorities.lookup robotId).map fun p => p.val.secondaryScore).getD 0

/-- The final score of a robot. -/
def finalOf (priorities : Dict RobotId PriorityBreakdown) (robotId : RobotId) : ℤ :=
  ((priorities.lookup robotId).map fun p => p.val.finalScore).getD 0

/-- The size of a set of robots, their total secondary score and their total rank bonus, in
lexicographic order. -/
def lexScore (priorities : Dict RobotId PriorityBreakdown) (rankBonuses : Dict RobotId ℤ)
    (robots : Finset RobotId) : ℕ ×ₗ ℤ ×ₗ ℤ :=
  toLex (robots.card, toLex (∑ r ∈ robots, secondaryOf priorities r,
    ∑ r ∈ robots, coefficientOf rankBonuses r))

/-! ## The two digits of a coefficient -/

section Encoding

variable {component : List RobotId} {priorities : Dict RobotId PriorityBreakdown}
  {objective : Validated ObjectiveEncoding.postInit}

/-- The values of a dictionary add up over its keys. -/
lemma sum_values_eq (d : Dict RobotId ℤ) :
    (d.entries.map fun entry => entry.2).sum = ∑ r ∈ d.keys.toFinset, coefficientOf d r := by
  rw [List.sum_toFinset _ d.keys_nodup]
  have hkeys : d.keys = d.entries.map fun entry => entry.1 := rfl
  rw [hkeys, List.map_map]
  refine congrArg List.sum (List.map_congr_left fun entry hentry => ?_)
  have hlook : d.lookup entry.1 = some entry.2 := AList.mem_lookup_iff.mpr hentry
  rw [Function.comp_apply, coefficientOf, hlook, Option.getD_some]

/-- A coefficient is the final score scaled by the utility scale plus the rank bonus. -/
lemma coefficientOf_eq (hobj : buildObjectiveEncoding component priorities = .ok objective)
    {r : RobotId} (hr : r ∈ component) :
    coefficientOf objective.val.coefficients r =
      finalOf priorities r * utilityScale (sorted component) +
        coefficientOf objective.val.rankBonuses r := by
  obtain ⟨hbonuses, hlook⟩ := buildObjectiveEncoding_spec hobj
  obtain ⟨p, bonus, hp, hbonus, hcoeff⟩ := hlook r hr
  rw [hbonuses, coefficientOf, coefficientOf, finalOf, hp, hbonus, hcoeff]
  rfl

/-- Rank bonuses are non-negative, and their total is below the utility scale. -/
lemma rankBonuses_bounds (hobj : buildObjectiveEncoding component priorities = .ok objective) :
    (∀ r ∈ component.toFinset, 0 ≤ coefficientOf objective.val.rankBonuses r) ∧
      ∑ r ∈ component.toFinset, coefficientOf objective.val.rankBonuses r <
        utilityScale (sorted component) := by
  obtain ⟨hbonuses, hlook⟩ := buildObjectiveEncoding_spec hobj
  rw [hbonuses]
  refine ⟨fun r hr => ?_, ?_⟩
  · obtain ⟨p, bonus, -, hbonus, -⟩ := hlook r (List.mem_toFinset.mp hr)
    rw [coefficientOf, hbonus]
    exact rankBonuses_spec.2 bonus hbonus
  · have hkeys : (rankBonuses (sorted component)).keys.toFinset = component.toFinset := by
      refine Finset.ext fun r => ?_
      rw [List.mem_toFinset, List.mem_toFinset, ← AList.mem_keys, rankBonuses_spec.1, mem_sorted]
    rw [utilityScale, sum_values_eq, hkeys]
    omega

/-- **Utility dominates rank**: the encoded objective compares subsets by their total final score
first and their total rank bonus second. -/
theorem coefficients_lt_iff (hobj : buildObjectiveEncoding component priorities = .ok objective)
    {A B : Finset RobotId} (hA : A ⊆ component.toFinset) (hB : B ⊆ component.toFinset) :
    ∑ r ∈ B, coefficientOf objective.val.coefficients r <
        ∑ r ∈ A, coefficientOf objective.val.coefficients r ↔
      toLex (∑ r ∈ B, finalOf priorities r,
          ∑ r ∈ B, coefficientOf objective.val.rankBonuses r) <
        toLex (∑ r ∈ A, finalOf priorities r,
          ∑ r ∈ A, coefficientOf objective.val.rankBonuses r) := by
  obtain ⟨hpos, hscale⟩ := rankBonuses_bounds hobj
  exact LexWeights.sum_lt_iff (fun r hr => coefficientOf_eq hobj (List.mem_toFinset.mp hr)) hpos
    hscale hA hB

/-- **Throughput dominates priority**: final scores of one component compare subsets by their size
first and their total secondary score second. -/
theorem finalScores_lt_iff {config : MonitorConfig} {m : ConflictModel} {nowMs : ℤ}
    {waitingAges : Dict RobotId ℤ} {activeGrants : List RobotId}
    (hscore : scoreComponentPriorities config component m nowMs waitingAges activeGrants =
      .ok priorities) {A B : Finset RobotId} (hA : A ⊆ component.toFinset)
    (hB : B ⊆ component.toFinset) :
    ∑ r ∈ B, finalOf priorities r < ∑ r ∈ A, finalOf priorities r ↔
      toLex ((B.card : ℤ), ∑ r ∈ B, secondaryOf priorities r) <
        toLex ((A.card : ℤ), ∑ r ∈ A, secondaryOf priorities r) := by
  obtain ⟨hnd, cap, hbounds⟩ := scoreComponentPriorities_bounds hscore
  have hrobot : ∀ r ∈ component.toFinset, 0 ≤ secondaryOf priorities r ∧
      secondaryOf priorities r ≤ cap ∧
      finalOf priorities r = 1 * (component.length * cap + 1) + secondaryOf priorities r := by
    intro r hr
    obtain ⟨p, hp, h0, hle, hfinal⟩ := hbounds r (List.mem_toFinset.mp hr)
    rw [secondaryOf, finalOf, hp, Option.map_some, Option.map_some, Option.getD_some,
      Option.getD_some, one_mul]
    exact ⟨h0, hle, hfinal⟩
  have htotal : ∑ r ∈ component.toFinset, secondaryOf priorities r <
      component.length * cap + 1 := by
    have hle := Finset.sum_le_card_nsmul component.toFinset (fun r => secondaryOf priorities r)
      cap fun r hr => (hrobot r hr).2.1
    rw [List.toFinset_card_of_nodup hnd, nsmul_eq_mul] at hle
    omega
  have h := LexWeights.sum_lt_iff (g := fun _ => 1) (fun r hr => (hrobot r hr).2.2)
    (fun r hr => (hrobot r hr).1) htotal hA hB
  simpa using h

/-- Equal totals of final scores mean equal sizes and equal secondary scores. -/
lemma finalScores_eq_iff {config : MonitorConfig} {m : ConflictModel} {nowMs : ℤ}
    {waitingAges : Dict RobotId ℤ} {activeGrants : List RobotId}
    (hscore : scoreComponentPriorities config component m nowMs waitingAges activeGrants =
      .ok priorities) {A B : Finset RobotId} (hA : A ⊆ component.toFinset)
    (hB : B ⊆ component.toFinset) :
    ∑ r ∈ B, finalOf priorities r = ∑ r ∈ A, finalOf priorities r ↔
      B.card = A.card ∧ ∑ r ∈ B, secondaryOf priorities r = ∑ r ∈ A, secondaryOf priorities r := by
  have hBA := finalScores_lt_iff hscore hA hB
  have hAB := finalScores_lt_iff hscore hB hA
  rw [Prod.Lex.toLex_lt_toLex] at hBA hAB
  dsimp only at hBA hAB
  omega

end Encoding

/-- **The encoded objective is exactly lexicographic.** On a connected component of a built
conflict model, for every time, non-negative waiting ages and active grants: scoring returns at
every non-negative time, and the coefficients compare any two subsets of the component by their
size, then their total secondary score, then their total rank bonus.

**Proof sketch.** The throughput reward of one robot exceeds the secondary scores of all others
together, so final scores compare size first and secondary scores next (`finalScores_lt_iff`). The
coefficients leave room for all rank bonuses below one unit (`coefficients_lt_iff`). -/
theorem objective_lexicographic {E : Type} {geometry : Geometry E} {snapshots : List RobotSnapshot}
    {m : ConflictModel} (config : MonitorConfig)
    (hmodel : buildConflictModel geometry snapshots = .ok m) {component : List RobotId}
    (hcomponent : component ∈ m.connectedComponents) (nowMs : ℤ) {waitingAges : Dict RobotId ℤ}
    (hages : ∀ r ∈ component, ∃ age, waitingAges.lookup r = some age ∧ 0 ≤ age)
    (activeGrants : List RobotId) :
    (0 ≤ nowMs → ∃ priorities, scoreComponentPriorities config component m nowMs waitingAges
      activeGrants = .ok priorities) ∧
    ∀ priorities objective,
      scoreComponentPriorities config component m nowMs waitingAges activeGrants =
        .ok priorities →
      buildObjectiveEncoding component priorities = .ok objective →
      ∀ A B : Finset RobotId, A ⊆ component.toFinset → B ⊆ component.toFinset →
        (∑ r ∈ B, coefficientOf objective.val.coefficients r <
            ∑ r ∈ A, coefficientOf objective.val.coefficients r ↔
          lexScore priorities objective.val.rankBonuses B <
            lexScore priorities objective.val.rankBonuses A) := by
  have hrep := buildConflictModel_represents hmodel
  have hwf := hrep.toWellFormed
  refine ⟨fun hnow => ?_, fun priorities objective hscore hobj A B hA hB => ?_⟩
  · have hids : ∀ r s, m.snapshots.lookup r = some s → s.deviceId = r := fun r s hs =>
      ((hrep.lookup_iff r s).mp hs).2
    obtain ⟨priorities, hscore, -⟩ := scoreComponentPriorities_total config hwf.pairs_nodup hids
      hnow activeGrants (hwf.decomposes.nonempty _ hcomponent) (hwf.nodup hcomponent)
      (fun r hr => hwf.mem_snapshots hcomponent hr) hages
    exact ⟨priorities, hscore⟩
  · rw [coefficients_lt_iff hobj hA hB, lexScore, lexScore, Prod.Lex.toLex_lt_toLex,
      Prod.Lex.toLex_lt_toLex, Prod.Lex.toLex_lt_toLex, finalScores_lt_iff hscore hA hB,
      finalScores_eq_iff hscore hA hB, Prod.Lex.toLex_lt_toLex]
    dsimp only
    omega

/-- The objective of two approaching robots is lexicographic. -/
theorem objective_lexicographic_approaching : ∃ m priorities objective,
    buildConflictModel lineGeometry approaching = .ok m ∧
    scoreComponentPriorities defaultConfig [robotA, robotB] m 0
      (Dict.ofKeys [robotA, robotB] fun _ => 0) [] = .ok priorities ∧
    buildObjectiveEncoding [robotA, robotB] priorities = .ok objective ∧
    (∑ r ∈ {robotB}, coefficientOf objective.val.coefficients r <
        ∑ r ∈ {robotA}, coefficientOf objective.val.coefficients r ↔
      lexScore priorities objective.val.rankBonuses {robotB} <
        lexScore priorities objective.val.rankBonuses {robotA}) := by
  obtain ⟨m, priorities, objective, -, hm, hcomponent, hscore, -, hobj, -⟩ := approaching_prepared
  refine ⟨m, priorities, objective, hm, hscore, hobj, ?_⟩
  have hages : ∀ r ∈ [robotA, robotB], ∃ age,
      (Dict.ofKeys [robotA, robotB] fun _ => (0 : ℤ)).lookup r = some age ∧ 0 ≤ age :=
    fun r hr => ⟨0, Dict.lookup_ofKeys_of_mem hr, le_rfl⟩
  exact (objective_lexicographic defaultConfig hm hcomponent 0 hages []).2 priorities objective
    hscore hobj {robotA} {robotB} (by decide) (by decide)

/-! ## Totals of decisions -/

/-- The total weight of the robots of a component that decisions resume. -/
def resumeTotal (component : List RobotId) (weight : RobotId → ℤ)
    (decisions : Dict RobotId Action) : ℤ :=
  ∑ r ∈ component.toFinset with actionOf decisions r = .resume, weight r

/-- The decisions have the greatest total weight of a set. -/
def Maximises (feasible : Set (Dict RobotId Action)) (component : List RobotId)
    (weight : RobotId → ℤ) (decisions : Dict RobotId Action) : Prop :=
  decisions ∈ feasible ∧ ∀ other ∈ feasible,
    resumeTotal component weight other ≤ resumeTotal component weight decisions

/-- At most one assignment of the set has the greatest total weight. -/
def AtMostOne (feasible : Set (Dict RobotId Action)) (component : List RobotId)
    (weight : RobotId → ℤ) : Prop :=
  ∀ decisions decisions', Maximises feasible component weight decisions →
    Maximises feasible component weight decisions' →
      ∀ r, decisions.lookup r = decisions'.lookup r

/-- The number of robots of the component whose ID is larger. -/
def rankOf (component : List RobotId) (robotId : RobotId) : ℤ := component.countP (robotId < ·)

section Ranks

variable {component : List RobotId} {priorities : Dict RobotId PriorityBreakdown}
  {objective : Validated ObjectiveEncoding.postInit}

/-- The rank bonus of a robot is its rank. -/
lemma rankBonus_eq (hobj : buildObjectiveEncoding component priorities = .ok objective)
    {r : RobotId} (hr : r ∈ component) :
    coefficientOf objective.val.rankBonuses r = rankOf component r := by
  have hord : (sorted component).Pairwise (· ≤ ·) := pairwise_sortedBy id component
  rw [(buildObjectiveEncoding_spec hobj).1, coefficientOf,
    lookup_rankBonuses hord (mem_sorted.mpr hr), Option.getD_some, rankOf,
    (sorted_perm component).countP_eq]

end Ranks

end CollisionMonitor
