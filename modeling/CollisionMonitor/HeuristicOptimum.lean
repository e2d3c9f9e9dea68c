import CollisionMonitor.HeuristicSpec

set_option relaxedAutoImplicit false
set_option autoImplicit false

/-!
# The heuristic as an exact lexicographic optimiser

Against the plain specification, the set of feasible decisions of a component compared in rank
order, the bounded search loses nothing, and its repair pass adds nothing.

## Main definitions

* `feasibleDecisions` — the complete decisions that respect the constraints and hard actions.
* `IsRanking` — the robots by decreasing coefficient, then ID.
* `resumeSet` — the robots that decisions resume.

## Main results

* `solve_greatest` — the heuristic returns the lexicographically greatest feasible decisions.
* `repairPass_none` — the repair pass finds nothing after a greedy pass that resumes nobody.
-/

namespace CollisionMonitor

open Outcome TwoClause

/-- The complete decisions of a component that respect its constraints and hard actions. -/
def feasibleDecisions (component : List RobotId) (conflictModel : ConflictModel)
    (hardAssignments : Dict RobotId Action) : Set (Dict RobotId Action) :=
  {decisions | Decides component (componentConstraints component conflictModel) hardAssignments
    decisions}

/-- The robots that decisions resume. -/
def resumeSet (decisions : Dict RobotId Action) : Set RobotId :=
  {robotId | decisions.lookup robotId = some .resume}

/-- The coefficient of a robot. -/
def coefficientOf (coefficients : Dict RobotId ℤ) (robotId : RobotId) : ℤ :=
  (coefficients.lookup robotId).getD 0

/-- `ranked` lists the robots of the component by decreasing coefficient, then ID. -/
structure IsRanking (component : List RobotId) (coefficients : Dict RobotId ℤ)
    (ranked : List RobotId) : Prop where
  perm : ranked.Perm component
  ordered : ranked.Pairwise fun a b =>
    coefficientOf coefficients b < coefficientOf coefficients a ∨
      coefficientOf coefficients a = coefficientOf coefficients b ∧ a < b

/-! ## Rankings -/

section Ranking

variable {component ranked : List RobotId} {coefficients : Dict RobotId ℤ}

/-- A component has one ranking. -/
lemma IsRanking.unique {ranked' : List RobotId} (h : IsRanking component coefficients ranked)
    (h' : IsRanking component coefficients ranked') : ranked = ranked' := by
  refine List.Perm.eq_of_pairwise (fun a b _ _ hab hba => ?_) h.ordered h'.ordered
    (h.perm.trans h'.perm.symm)
  rcases hab with hab | ⟨heq, hab⟩ <;> rcases hba with hba | ⟨heq', hba⟩
  · omega
  · omega
  · omega
  · exact absurd hab (lt_asymm hba)

/-- The ranking of the heuristic is that ranking. -/
lemma isRanking_of_rankRobots (hnd : component.Nodup)
    (h : rankRobots component coefficients = .ok ranked) :
    IsRanking component coefficients ranked := by
  obtain ⟨keyed, hkeyed, h⟩ := bind_eq_ok.mp h
  obtain rfl := Except.ok.inj h
  have hentry : ∀ r entry, (do return (-(← item coefficients r), r)) =
      (.ok entry : Except PyException (ℤ × RobotId)) →
      entry = (-coefficientOf coefficients r, r) := by
    intro r entry hr
    obtain ⟨c, hc, heq⟩ := bind_eq_ok.mp hr
    rw [← Except.ok.inj heq, coefficientOf, item_eq_ok.mp hc, Option.getD_some]
  have hmap : keyed = component.map fun r => (-coefficientOf coefficients r, r) := by
    simpa using map_of_mapM (g := id) hkeyed hentry
  have hsnd : keyed.map Prod.snd = component := by
    rw [hmap, List.map_map]
    exact List.map_id _
  refine ⟨hsnd ▸ (sortedBy_perm _ keyed).map Prod.snd, ?_⟩
  have hlt : (sortedBy (fun entry : ℤ × RobotId => toLex entry) keyed).Pairwise
      fun a b => toLex a < toLex b :=
    pairwise_sortedBy_lt ((List.Nodup.of_map Prod.snd (hsnd.symm ▸ hnd)).map fun _ _ h => h)
  rw [List.pairwise_map]
  refine hlt.imp_of_mem fun {a b} ha hb hab => ?_
  rw [mem_sortedBy, hmap, List.mem_map] at ha hb
  obtain ⟨r, -, rfl⟩ := ha
  obtain ⟨s, -, rfl⟩ := hb
  rw [Prod.Lex.toLex_lt_toLex] at hab
  simpa using hab

end Ranking

/-! ## The lexicographic optimum -/

section Optimum

variable {component : List RobotId} {m : ConflictModel}
  {priorities : Dict RobotId PriorityBreakdown} {hard : Dict RobotId Action}

/-- Values that are larger throughout are larger in lexicographic order. -/
lemma rankProfile_mono {x y : RobotId → Action} {ranked : List RobotId}
    (h : ∀ r ∈ ranked, x r = .resume → y r = .resume) :
    rankProfile ranked x ≤ rankProfile ranked y := by
  induction ranked with
  | nil => exact le_refl _
  | cons r ranked ih =>
    rw [List.forall_mem_cons] at h
    rw [rankProfile, rankProfile, List.map_cons, List.map_cons]
    by_cases heq : x r = y r
    · rw [heq]
      exact List.cons_le_cons _ (ih h.2)
    · -- the values differ only where `x` pauses and `y` resumes
      have hx : x r = .pause := Action.ne_resume_iff.mp fun hx => heq (hx.trans (h.1 hx).symm)
      have hy : y r = .resume := Action.ne_pause_iff.mp fun hy => heq (hx.trans hy.symm)
      rw [hx, hy]
      exact le_of_lt (List.Lex.rel (by decide))

/-- The resume set holds the robots of the component that are resumed. -/
lemma mem_resumeSet_iff {constraints : List PairwiseCompatibility}
    {decisions : Dict RobotId Action} (h : Decides component constraints hard decisions)
    {r : RobotId} : r ∈ resumeSet decisions ↔ r ∈ component ∧ actionOf decisions r = .resume := by
  constructor
  · intro hr
    exact ⟨(h.1 r).mp (Dict.mem_of_lookup hr), actionOf_eq hr⟩
  · rintro ⟨hr, hact⟩
    rw [resumeSet, Set.mem_ofPred_eq, lookup_eq_actionOf ((h.1 r).mpr hr), hact]

/-- Feasible decisions stand for the admissible assignments. -/
lemma nonempty_feasibleDecisions_iff (hard_mem : ∀ r ∈ hard, r ∈ component) :
    (feasibleDecisions component m hard).Nonempty ↔
      ∃ x, Admissible (componentConstraints component m) hard x := by
  constructor
  · rintro ⟨decisions, hdec⟩
    exact ⟨_, hdec.2⟩
  · rintro ⟨x, hx⟩
    have hact : ∀ r ∈ component, actionOf (Dict.ofKeys component x) r = x r := fun r hr =>
      actionOf_eq (Dict.lookup_ofKeys_of_mem hr)
    refine ⟨Dict.ofKeys component x, fun r => Dict.mem_ofKeys, hx.1.congr fun pair hpair => ?_,
      fun r a hra => ?_⟩
    · obtain ⟨hI, hJ⟩ := componentConstraints_inside component m pair hpair
      exact ⟨(hact _ hI).symm, (hact _ hJ).symm⟩
    · rw [hact r (hard_mem r (Dict.mem_of_lookup hra)), hx.2 r a hra]

/-- A component is its own ranking domain after sorting. -/
lemma IsRanking.sorted {coefficients : Dict RobotId ℤ} {ranked : List RobotId}
    (h : IsRanking component coefficients ranked) :
    IsRanking (sorted component) coefficients ranked :=
  ⟨h.perm.trans (sorted_perm component).symm, h.ordered⟩

/-- **The heuristic is an exact lexicographic optimiser.** It returns on every checked input with
an encodable objective; its result is feasible iff some decisions are; and then its decisions are
the lexicographically greatest feasible ones in rank order, with Resume above Pause. Its Resume
set is inclusion-maximal, and it reports progress iff some feasible decisions resume a robot.

**Proof sketch.** The greedy pass follows the rank order with complete propagation, so it finds the
greatest assignment of all (`solve_exact`). A larger Resume set would have a larger profile, which
makes the set inclusion-maximal. -/
theorem solve_greatest (config : MonitorConfig)
    (hinput : ComponentInput component m priorities hard)
    {objective : Validated ObjectiveEncoding.postInit}
    (hobj : buildObjectiveEncoding component priorities = .ok objective) {ranked : List RobotId}
    (hranked : IsRanking component objective.val.coefficients ranked) :
    ∃ r, solve config component m priorities hard = .ok r ∧
      (r.val.feasible = true ↔ (feasibleDecisions component m hard).Nonempty) ∧
      ((feasibleDecisions component m hard).Nonempty →
        r.val.decisions ∈ feasibleDecisions component m hard ∧
        (∀ decisions ∈ feasibleDecisions component m hard,
          rankProfile ranked (actionOf decisions) ≤
            rankProfile ranked (actionOf r.val.decisions)) ∧
        ∀ decisions ∈ feasibleDecisions component m hard,
          resumeSet r.val.decisions ⊆ resumeSet decisions →
            resumeSet decisions = resumeSet r.val.decisions) ∧
      (r.val.progressMade = true ↔
        ∃ decisions ∈ feasibleDecisions component m hard, (resumeSet decisions).Nonempty) := by
  rw [← buildObjectiveEncoding_sorted] at hobj
  obtain ⟨_, ranked', -, hranked', -⟩ := solve_prepared hinput hobj
  obtain rfl := hranked.sorted.unique
    (isRanking_of_rankRobots (sorted_nodup.mpr hinput.nodup) hranked')
  obtain ⟨r, hr, hsolves, htop⟩ := solve_exact config hinput hobj hranked'
  have hfeasible : r.val.feasible = true ↔ (feasibleDecisions component m hard).Nonempty :=
    hsolves.feasible_iff.trans (nonempty_feasibleDecisions_iff hinput.hard_mem).symm
  refine ⟨r, hr, hfeasible, fun hne => ?_, hsolves.progress_iff.trans ?_⟩
  · have hfeas := hfeasible.mpr hne
    have hdec := hsolves.decides hfeas
    have hgreatest : ∀ decisions ∈ feasibleDecisions component m hard,
        rankProfile ranked (actionOf decisions) ≤
          rankProfile ranked (actionOf r.val.decisions) := fun decisions hmem =>
      htop hfeas _ hmem.2
    refine ⟨hdec, hgreatest, fun decisions hmem hsub => ?_⟩
    -- a larger Resume set is also larger in rank order, so both profiles agree
    have hle : rankProfile ranked (actionOf r.val.decisions) ≤
        rankProfile ranked (actionOf decisions) := rankProfile_mono fun v hv hact =>
        ((mem_resumeSet_iff hmem).mp (hsub ((mem_resumeSet_iff hdec).mpr
          ⟨hranked.perm.mem_iff.mp hv, hact⟩))).2
    have heq := List.map_inj_left.mp (le_antisymm (hgreatest decisions hmem) hle)
    refine Set.ext fun v => ?_
    rw [mem_resumeSet_iff hmem, mem_resumeSet_iff hdec]
    refine and_congr_right fun hv => ?_
    rw [actionToBinary_inj.mp (heq v (hranked.perm.mem_iff.mpr hv))]
  · constructor
    · intro hcan
      have hprog := hsolves.progress_iff.mpr hcan
      obtain ⟨u, hu, hres⟩ := hsolves.resumes hprog
      have hdecides := hsolves.decides (hsolves.feasible_of_progress hprog)
      exact ⟨_, hdecides, u, (mem_resumeSet_iff hdecides).mpr ⟨hu, hres⟩⟩
    · rintro ⟨decisions, hmem, v, hv⟩
      obtain ⟨hv, hact⟩ := (mem_resumeSet_iff hmem).mp hv
      exact ⟨_, hmem.2, v, hv, hact⟩

/-- Two approaching robots are scored, encoded and ranked as one component. -/
lemma approaching_prepared : ∃ m priorities objective ranked,
    buildConflictModel lineGeometry approaching = .ok m ∧
    [robotA, robotB] ∈ m.connectedComponents ∧
    scoreComponentPriorities defaultConfig [robotA, robotB] m 0
      (Dict.ofKeys [robotA, robotB] fun _ => 0) [] = .ok priorities ∧
    ComponentInput [robotA, robotB] m priorities ∅ ∧
    buildObjectiveEncoding [robotA, robotB] priorities = .ok objective ∧
    IsRanking [robotA, robotB] objective.val.coefficients ranked := by
  have hrun : (do
      let m ← buildConflictModel lineGeometry approaching
      raiseIf ([robotA, robotB] ∉ m.connectedComponents) (.valueError "component")
      let priorities ← scoreComponentPriorities defaultConfig [robotA, robotB] m 0
        (Dict.ofKeys [robotA, robotB] fun _ => 0) []
      let _ ← checkedComponent [robotA, robotB] m priorities ∅
      let objective ← buildObjectiveEncoding [robotA, robotB] priorities
      rankRobots [robotA, robotB] objective.val.coefficients).isOk = true := by decide +kernel
  obtain ⟨ranked, hok⟩ := exists_of_isOk hrun
  obtain ⟨m, hm, hok⟩ := bind_eq_ok.mp hok
  obtain ⟨_, hcomponent, hok⟩ := bind_eq_ok.mp hok
  obtain ⟨priorities, hscore, hok⟩ := bind_eq_ok.mp hok
  obtain ⟨_, hcheck, hok⟩ := bind_eq_ok.mp hok
  obtain ⟨objective, hobj, hranked⟩ := bind_eq_ok.mp hok
  exact ⟨m, priorities, objective, ranked, hm, not_not.mp (raiseIf_eq_ok.mp hcomponent), hscore,
    (checkedComponent_eq_ok.mp hcheck).2, hobj, isRanking_of_rankRobots (by decide) hranked⟩

/-- The heuristic decides two approaching robots. -/
theorem solve_greatest_approaching : ∃ m priorities r,
    buildConflictModel lineGeometry approaching = .ok m ∧
    solve defaultConfig [robotA, robotB] m priorities ∅ = .ok r ∧
    (r.val.feasible = true ↔ (feasibleDecisions [robotA, robotB] m ∅).Nonempty) := by
  obtain ⟨m, priorities, objective, ranked, hm, -, -, hinput, hobj, hranked⟩ := approaching_prepared
  obtain ⟨r, hr, hfeasible, -⟩ := solve_greatest defaultConfig hinput hobj hranked
  exact ⟨m, priorities, r, hm, hr, hfeasible⟩

/-! ## The repair pass -/

/-- **The repair pass adds nothing.** After a greedy pass that returns nothing or pauses every
robot, the repair pass on the same seed, ranking and clauses returns nothing, whatever its cap.
So the heuristic never answers with a repair, and its result does not depend on the cap.

**Proof sketch.** A greedy pass that pauses everybody shows that the component cannot progress
(`not_canProgress_of_greedyPass`), and then no escape robot leads to a Resume
(`repairPass_of_stuck`). So the repair is never consulted with success, whatever its cap. -/
theorem repairPass_none (component : List RobotId) (m : ConflictModel)
    (priorities : Dict RobotId PriorityBreakdown) (hard : Dict RobotId Action) :
    (ComponentInput component m priorities hard → ∀ clauses ranked,
      buildClauses (componentConstraints component m) = .ok clauses →
      (∀ r, r ∈ ranked ↔ r ∈ component) →
      (∀ q, greedyPass ranked (seedOf hard) clauses = some q →
        ∀ r b, q.lookup r = some b → binaryToAction b = .pause) →
      ∀ config, repairPass (sorted component) clauses (componentConstraints component m) hard
        config ranked (seedOf hard) priorities = .ok none) ∧
    (∀ config r, solve config component m priorities hard = .ok r →
      r.val.decisionSource ≠ .repair) ∧
    ∀ config config', solve config component m priorities hard =
      solve config' component m priorities hard := by
  refine ⟨fun hinput clauses ranked hclauses hmem hstuck config => ?_, fun config r h hsource => ?_,
    fun config config' => ?_⟩
  · obtain ⟨clauses', hclauses', h⟩ := searchInput hinput
    obtain rfl := Except.ok.inj (hclauses.symm.trans hclauses')
    simp only [← mem_sorted (l := component)] at hmem
    refine repairPass_of_stuck h config ranked priorities hinput.mem_priorities
      (not_canProgress_of_greedyPass h hmem fun q hq v hv => ?_)
    -- a ranked robot has a value, and that value is `0`
    obtain ⟨b, hb⟩ := Dict.exists_lookup (mem_of_greedyPass_some h hmem hq v hv)
    rw [hb, ← actionToBinary_binaryToAction b, hstuck q hq v b hb]
    rfl
  · have hsolves := (solve_spec h).source
    rw [hsource] at hsolves
    split_ifs at hsolves
  · cases hcheck : checkedComponent component m priorities hard with
    | error e => simp only [solve, hcheck, error_bind]
    | ok ordered =>
      obtain ⟨rfl, hinput⟩ := checkedComponent_eq_ok.mp hcheck
      cases hobj : buildObjectiveEncoding (sorted component) priorities with
      | error e =>
        obtain ⟨clauses, hclauses, -⟩ := searchInput hinput
        simp only [solve, hcheck, ok_bind, hclauses, hobj, error_bind]
      | ok objective =>
        obtain ⟨clauses, ranked, hclauses, hranked, hmem, h⟩ := solve_prepared hinput hobj
        rw [solve_eq config hinput hobj hclauses hranked,
          solve_eq config' hinput hobj hclauses hranked]
        have hnone := fun hstuck config =>
          repairPass_of_stuck h config ranked priorities hinput.mem_priorities hstuck
        rcases greedyDecisions_spec h hmem with
          ⟨hgreedy, hstuck⟩ | ⟨decisions, hgreedy, -, hbest, -⟩
        · have hstuck' : ¬ CanProgress (sorted component) (componentConstraints component m) hard :=
            fun hcan => hstuck ⟨_, hcan.choose_spec.1⟩
          simp only [hgreedy, ok_bind, Option.filter_none, hnone hstuck']
        · by_cases hresume : anyResume decisions = true
          · simp only [hgreedy, ok_bind, Option.filter_some, if_pos hresume]
          · simp only [hgreedy, ok_bind, Option.filter_some, if_neg hresume,
              hnone (mt hbest hresume)]

/-- Two approaching robots that must both resume: the greedy pass fails and so does the repair. -/
theorem repairPass_none_approaching : ∃ m priorities clauses,
    buildConflictModel lineGeometry approaching = .ok m ∧
    repairPass (sorted [robotA, robotB]) clauses (componentConstraints [robotA, robotB] m)
      (Dict.ofKeys [robotA, robotB] fun _ => .resume) defaultConfig [robotA, robotB]
      (seedOf (Dict.ofKeys [robotA, robotB] fun _ => .resume)) priorities = .ok none := by
  have hrun : (do
      let m ← buildConflictModel lineGeometry approaching
      let priorities ← scoreComponentPriorities defaultConfig [robotA, robotB] m 0
        (Dict.ofKeys [robotA, robotB] fun _ => 0) []
      let _ ← checkedComponent [robotA, robotB] m priorities
        (Dict.ofKeys [robotA, robotB] fun _ => .resume)
      let clauses ← buildClauses (componentConstraints [robotA, robotB] m)
      raiseIf (¬ (greedyPass [robotA, robotB]
        (seedOf (Dict.ofKeys [robotA, robotB] fun _ => .resume)) clauses).isNone = true)
        (.valueError "greedy")).isOk = true := by decide +kernel
  obtain ⟨_, hok⟩ := exists_of_isOk hrun
  obtain ⟨m, hm, hok⟩ := bind_eq_ok.mp hok
  obtain ⟨priorities, -, hok⟩ := bind_eq_ok.mp hok
  obtain ⟨_, hcheck, hok⟩ := bind_eq_ok.mp hok
  obtain ⟨clauses, hclauses, hfails⟩ := bind_eq_ok.mp hok
  have hnone := Option.isNone_iff_eq_none.mp (not_not.mp (raiseIf_eq_ok.mp hfails))
  refine ⟨m, priorities, clauses, hm, (repairPass_none [robotA, robotB] m priorities _).1
    (checkedComponent_eq_ok.mp hcheck).2 clauses [robotA, robotB] hclauses (fun _ => Iff.rfl)
    (fun q hq => ?_) defaultConfig⟩
  rw [hnone] at hq
  cases hq

end Optimum

end CollisionMonitor
