import CollisionMonitor.EngineSpec
import CollisionMonitor.Lib.Loops

set_option relaxedAutoImplicit false
set_option autoImplicit false

/-!
# What a component's decision depends on

Scoring, solving, settling and repairing a component read the conflict model only through the
snapshots of its robots, the constraints inside it, and whether its robots have neighbours. Two
models that agree on these give the same results, whatever the rest of the fleet is.

## Main definitions

* `SameComponent` — two conflict models show the same of a component.
* `componentSolution` — the decisions and the source that solving gives a component.
* `valuesOn` — the values of the robots of a component.

## Main results

* `scoreComponentPriorities_congr`, `optimise_congr`, `solve_congr`, `settle_congr` — each stage
  depends on its component only.
* `componentSolution_congr`, `validateOrRepairComponent_congr` — so do solution and preview.
* `scorePriorities_own`, `solveComponents_own`, `validateOrRepairComponents_own` — each loop over
  the components gives a component what it has on its own.
-/

namespace CollisionMonitor

open Outcome

/-- **Two conflict models show the same of a component.** -/
structure SameComponent (K : List RobotId) (m m' : ConflictModel) : Prop where
  snapshots : ∀ r ∈ K, m.snapshots.lookup r = m'.snapshots.lookup r
  constraints : componentConstraints K m = componentConstraints K m'
  isolated : ∀ r ∈ K, neighbours m.adjacency r = [] ↔ neighbours m'.adjacency r = []

/-- Indexing sees only what stands at the key. -/
lemma item_congr {ν : Type} {d e : Dict RobotId ν} {r : RobotId} (h : d.lookup r = e.lookup r) :
    item d r = item e r := by
  rw [item, item, Dict.getItem, Dict.getItem, h]

section Congr

variable {config : MonitorConfig} {m m' : ConflictModel} {K : List RobotId}
  {priorities priorities' : Dict RobotId PriorityBreakdown} {hard hard' : Dict RobotId Action}

/-! ## Scoring -/

/-- Scores depend on the component, its waiting ages and its grant holders. -/
theorem scoreComponentPriorities_congr (h : SameComponent K m m') (nowMs : ℤ)
    {ages ages' : Dict RobotId ℤ} (hages : ∀ r ∈ K, ages.lookup r = ages'.lookup r)
    {active active' : List RobotId} (hactive : ∀ r ∈ K, r ∈ active ↔ r ∈ active') :
    scoreComponentPriorities config K m nowMs ages active =
      scoreComponentPriorities config K m' nowMs ages' active' := by
  have hsnap : ∀ r ∈ sorted K, m.snapshots.lookup r = m'.snapshots.lookup r := fun r hr =>
    h.snapshots r (mem_sorted.mp hr)
  have hage : ∀ r ∈ sorted K, ages.lookup r = ages'.lookup r := fun r hr =>
    hages r (mem_sorted.mp hr)
  unfold scoreComponentPriorities
  dsimp only
  rw [Dict.filter_notMem_congr hsnap, Dict.filter_notMem_congr hage, h.constraints]
  refine bind_congr fun _ => bind_congr fun _ => bind_congr fun _ => bind_congr fun _ => ?_
  refine Dict.collect_congr fun r hr => ?_
  rw [item_congr (hsnap r hr), item_congr (hage r hr),
    decide_eq_decide.mpr (hactive r (mem_sorted.mp hr))]

/-! ## Solving -/

/-- The checks of a component see only the component. -/
lemma checkedComponent_congr (h : SameComponent K m m')
    (hp : ∀ r ∈ K, priorities.lookup r = priorities'.lookup r) :
    checkedComponent K m priorities hard = checkedComponent K m' priorities' hard := by
  have hprior : ∀ r ∈ sorted K, priorities.lookup r = priorities'.lookup r := fun r hr =>
    hp r (mem_sorted.mp hr)
  unfold checkedComponent
  dsimp only
  rw [Dict.filter_notMem_congr fun r hr => h.snapshots r (mem_sorted.mp hr),
    Dict.filter_notMem_congr hprior, forM_congr fun r hr => by rw [item_congr (hprior r hr)]]

/-- So does the encoding of its objective. -/
lemma buildObjectiveEncoding_congr
    (hp : ∀ r ∈ K, priorities.lookup r = priorities'.lookup r) :
    buildObjectiveEncoding K priorities = buildObjectiveEncoding K priorities' := by
  have hprior : ∀ r ∈ sorted K, priorities.lookup r = priorities'.lookup r := fun r hr =>
    hp r (mem_sorted.mp hr)
  unfold buildObjectiveEncoding objectiveCoefficients
  dsimp only
  rw [Dict.filter_notMem_congr fun r hr => hprior r (List.mem_dedup.mp hr),
    Dict.collect_congr fun r hr => by rw [item_congr (hprior r hr)]]

/-- What is computed from the checked component may use that it is the sorted one. -/
lemma checkedComponent_bind_congr {α : Type} {f g : List RobotId → Except PyException α}
    (h : f (sorted K) = g (sorted K)) :
    (checkedComponent K m priorities hard >>= f) = checkedComponent K m priorities hard >>= g := by
  cases hchecked : checkedComponent K m priorities hard with
  | error e => rfl
  | ok ordered =>
    obtain ⟨rfl, -⟩ := checkedComponent_eq_ok.mp hchecked
    exact h

/-- **The exact optimiser** depends on the component and its priorities only. -/
theorem optimise_congr (h : SameComponent K m m')
    (hp : ∀ r ∈ K, priorities.lookup r = priorities'.lookup r) (cpSat : Backend) :
    optimise config cpSat K m priorities hard = optimise config cpSat K m' priorities' hard := by
  unfold optimise
  rw [checkedComponent_congr h hp, h.constraints]
  refine checkedComponent_bind_congr ?_
  rw [buildObjectiveEncoding_congr fun r hr => hp r (mem_sorted.mp hr)]

/-- The repair pass ranks its candidates by the priorities of the component. -/
lemma repairPass_congr (hp : ∀ r ∈ K, priorities.lookup r = priorities'.lookup r)
    (clauses : List BinaryClause) (constraints : List PairwiseCompatibility)
    (ranked : List RobotId) (seed : BinaryAssignment) :
    repairPass K clauses constraints hard config ranked seed priorities =
      repairPass K clauses constraints hard config ranked seed priorities' := by
  unfold repairPass
  rw [mapM_congr fun r hr => by rw [item_congr (hp r hr)]]

/-- **The heuristic** depends on the component and its priorities only. -/
theorem solve_congr (h : SameComponent K m m')
    (hp : ∀ r ∈ K, priorities.lookup r = priorities'.lookup r) :
    solve config K m priorities hard = solve config K m' priorities' hard := by
  have hprior : ∀ r ∈ sorted K, priorities.lookup r = priorities'.lookup r := fun r hr =>
    hp r (mem_sorted.mp hr)
  unfold solve
  rw [checkedComponent_congr h hp, h.constraints]
  refine checkedComponent_bind_congr ?_
  rw [buildObjectiveEncoding_congr hprior]
  simp only [repairPass_congr hprior]

/-- The hard actions of a component depend on the grants of its robots. -/
lemma componentHardAssignments_congr (h : SameComponent K m m')
    (hhard : ∀ r ∈ K, hard.lookup r = hard'.lookup r) :
    componentHardAssignments K m hard = componentHardAssignments K m' hard' := by
  unfold componentHardAssignments
  rw [foldlM_congr fun r hr d => by rw [item_congr (h.snapshots r hr)],
    List.filterMap_congr fun r hr => by rw [hhard r hr]]

/-! ## Settling grants -/

/-- Whether a robot is unavailable depends on its snapshot alone. -/
lemma unavailable_congr {r : RobotId} (h : m.snapshots.lookup r = m'.snapshots.lookup r) :
    Unavailable m r ↔ Unavailable m' r := by
  rw [Unavailable, Unavailable, h]

/-- Whether a group can be completed depends on its component alone. -/
lemma completable_congr (h : SameComponent K m m') (group : List RobotId) :
    Completable m K group ↔ Completable m' K group := by
  unfold Completable
  rw [h.constraints]
  refine exists_congr fun x => and_congr_right fun _ => and_congr_left fun _ => ?_
  exact forall₂_congr fun r hr => imp_congr (unavailable_congr (h.snapshots r hr)) Iff.rfl

/-- **Settling** depends on the component only. -/
theorem settle_congr (h : SameComponent K m m') (retained l : List RobotId) :
    settle m K retained l = settle m' K retained l := by
  induction l generalizing retained with
  | nil => rfl
  | cons r l ih =>
    by_cases hc : Completable m K (retained ++ [r])
    · rw [settle_of_completable hc, settle_of_completable ((completable_congr h _).mp hc), ih]
    · rw [settle_of_not_completable hc,
        settle_of_not_completable fun hc' => hc ((completable_congr h _).mpr hc'), ih]

/-- The settled grants of a component depend on the records of its robots. -/
lemma settled_congr (h : SameComponent K m m') {g g' : GrantManager}
    (hrecord : ∀ r ∈ K, g.record r = g'.record r) : g.settled m K = g'.settled m' K := by
  have hcand : g.grantCandidates m K = g'.grantCandidates m' K := by
    rw [GrantManager.grantCandidates_congr hrecord]
    unfold GrantManager.grantCandidates
    rw [List.filter_congr fun r hr => ?_]
    rw [Bool.not_inj_iff, Bool.eq_iff_iff, List.isEmpty_iff, List.isEmpty_iff]
    exact h.isolated r hr
  unfold GrantManager.settled
  rw [hcand, settle_congr h]

end Congr

/-! ## The solution of a component -/

section Solution

variable {G : Type} {config : MonitorConfig} {geometry : Geometry G} {cpSat : Backend}
  {m m' : ConflictModel} {K : List RobotId} {hard hard' : Dict RobotId Action}
  {priorities priorities' : Dict RobotId PriorityBreakdown}

/-- The decisions and the source that solving gives a component which is not isolated. -/
def componentSolution (config : MonitorConfig) (cpSat : Backend) (m : ConflictModel)
    (priorities : Dict RobotId PriorityBreakdown) (hard : Dict RobotId Action)
    (K : List RobotId) : Except PyException (Dict RobotId Action × DecisionSource) := do
  let hardAssignments ← componentHardAssignments K m hard
  let exactResult ← (if (K.length : ℤ) ≤ config.maximumExactComponentSize then
      some <$> optimise config cpSat K m priorities hardAssignments
    else pure none : Except PyException (Option OptimisationResult))
  match exactResult.filter fun result => result.val.feasible with
  | some result => return (result.val.decisions, .cpSat)
  | none => do
    let result ← solve config K m priorities hardAssignments
    return if result.val.feasible then (result.val.decisions, result.val.decisionSource)
      else (Dict.ofKeys K fun _ => .pause, .failSafe)

/-- **The solution** depends on the component only. -/
theorem componentSolution_congr (h : SameComponent K m m')
    (hp : ∀ r ∈ K, priorities.lookup r = priorities'.lookup r)
    (hhard : ∀ r ∈ K, hard.lookup r = hard'.lookup r) :
    componentSolution config cpSat m priorities hard K =
      componentSolution config cpSat m' priorities' hard' K := by
  unfold componentSolution
  simp only [componentHardAssignments_congr h hhard, optimise_congr h hp, solve_congr h hp]

/-- **Solving a component** takes its solution, when the solver answers every call alike.

**Proof sketch.** The two functions branch alike, and the counter of calls is all that the method
changes besides. -/
lemma solveComponent_solution (state : Solving) (call : ℕ) :
    Ensures (solveComponent config (shippedCollaborators config geometry fun _ => cpSat) m
      priorities hard state K) call
      (fun state' _ => isolatedComponent m K = true ∧ state' = state ∨
        ∃ decisions source diagnostic,
          componentSolution config cpSat m priorities hard K = .ok (decisions, source) ∧
          state' = state.take decisions source diagnostic) fun _ => True := by
  unfold solveComponent
  by_cases hisolated : isolatedComponent m K = true
  · rw [if_pos hisolated]
    exact Ensures.pure (.inl ⟨hisolated, rfl⟩)
  rw [if_neg hisolated]
  refine Ensures.bind_lift (Returns.of_runs (Q := fun d => componentHardAssignments K m hard =
    .ok d) (fun _ h => h) (.inl trivial)) fun d hd => ?_
  unfold componentSolution
  rw [hd, ok_bind]
  refine Ensures.bind (Q := fun exactResult _ =>
    (if (K.length : ℤ) ≤ config.maximumExactComponentSize then
        some <$> optimise config cpSat K m priorities d
      else pure none : Except PyException (Option OptimisationResult)) = .ok exactResult) ?_
    fun exactResult call' hexact => ?_
  · split_ifs
    · refine Ensures.map (Ensures.bind_get (Ensures.bind_set (Ensures.lift
        (Returns.of_runs (fun result hok => ?_) (.inl trivial)))))
      rw [hok]
      rfl
    · exact Ensures.pure rfl
  rw [hexact, ok_bind]
  cases exactResult.filter fun result => result.val.feasible with
  | some result => exact Ensures.pure (.inr ⟨_, _, _, rfl, rfl⟩)
  | none =>
    refine Ensures.bind (Q := fun result _ => solve config K m priorities d = .ok result)
      (Ensures.lift (Returns.of_runs (fun _ h => h) (.inl trivial))) fun result _ hsolve => ?_
    rw [hsolve, ok_bind]
    dsimp only
    split_ifs
    · exact Ensures.pure (.inr ⟨_, _, _, rfl, rfl⟩)
    · exact Ensures.pure (.inr ⟨_, _, _, rfl, rfl⟩)

/-- The solution decides exactly the component, and admissibly whenever it can progress.

**Proof sketch.** By cases on the branch. The exact result and the heuristic one are admissible; the
fail-safe is taken only if the heuristic found no progress, and then there is none. -/
lemma componentSolution_decides {decisions : Dict RobotId Action} {source : DecisionSource}
    (h : componentSolution config cpSat m priorities hard K = .ok (decisions, source)) :
    (∀ r, r ∈ decisions ↔ r ∈ K) ∧ ∀ d, componentHardAssignments K m hard = .ok d →
      CanProgress K (componentConstraints K m) d →
        Admissible (componentConstraints K m) d (actionOf decisions) := by
  obtain ⟨d, hd, h⟩ := bind_eq_ok.mp h
  rw [hd]
  obtain ⟨exactResult, hexact, h⟩ := bind_eq_ok.mp h
  split at h
  · rename_i result hfilter
    obtain ⟨hmem, hfeas⟩ := Option.filter_eq_some_iff.mp hfilter
    obtain ⟨rfl, -⟩ := Prod.mk.inj (Except.ok.inj h)
    split_ifs at hexact
    · cases hok : optimise config cpSat K m priorities d with
      | error e =>
        rw [hok] at hexact
        cases hexact
      | ok result' =>
        rw [hok] at hexact
        obtain rfl := Option.some.inj ((Except.ok.inj hexact).trans hmem)
        obtain ⟨hkeys, hadm⟩ := optimise_decisions hok hfeas
        exact ⟨hkeys, fun d' hd' _ => Except.ok.inj hd' ▸ hadm⟩
    · cases Except.ok.inj hexact
      cases hmem
  · obtain ⟨result, hsolve, h⟩ := bind_eq_ok.mp h
    have hsolves := solve_spec hsolve
    split_ifs at h with hfeas
    · obtain ⟨rfl, -⟩ := Prod.mk.inj (Except.ok.inj h)
      obtain ⟨hkeys, hadm⟩ := hsolves.decides hfeas
      exact ⟨hkeys, fun d' hd' _ => Except.ok.inj hd' ▸ hadm⟩
    · obtain ⟨rfl, -⟩ := Prod.mk.inj (Except.ok.inj h)
      refine ⟨fun r => Dict.mem_ofKeys, fun d' hd' hprog => ?_⟩
      -- the heuristic finds every assignment that progresses
      obtain rfl := Except.ok.inj hd'
      exact absurd (hsolves.feasible_of_progress (hsolves.progress_iff.mpr hprog)) hfeas

/-- **The solution obeys the retained grants** of a component that can progress with them. -/
lemma componentSolution_obeys (hobs : ∀ r ∈ K, r ∈ m.snapshots)
    (havail : ∀ r ∈ hard, ¬ Unavailable m r)
    (hprog : ∃ x, Safe (componentConstraints K m) x ∧ Obeys m hard K x ∧ ∃ r ∈ K, x r = .resume)
    {decisions : Dict RobotId Action} {source : DecisionSource}
    (h : componentSolution config cpSat m priorities hard K = .ok (decisions, source)) :
    Obeys m hard K (actionOf decisions) := by
  obtain ⟨d, hd, hcombines⟩ := componentHardAssignments_spec hobs havail
  obtain ⟨-, hadm⟩ := componentSolution_decides h
  exact (hcombines.admissible_iff.mp (hadm d hd (hcombines.canProgress_iff.mpr hprog))).2

end Solution

/-! ## Previewing a component -/

section Repair

variable {config : MonitorConfig} {m m' : ConflictModel} {K : List RobotId}
  {hard hard' : Dict RobotId Action} {priorities priorities' : Dict RobotId PriorityBreakdown}

/-- Two states of the preview agree on the robots of a component. -/
def AgreeUnder (K : List RobotId) (state state' : GrantManager.Repairing) : Prop :=
  ∀ r ∈ K, state.decisions.lookup r = state'.decisions.lookup r ∧
    state.decisionSources.lookup r = state'.decisionSources.lookup r

/-- Overwriting both sides alike keeps them alike. -/
lemma AgreeUnder.overwrite {state state' : GrantManager.Repairing} (h : AgreeUnder K state state')
    (decisions : Dict RobotId Action) (source : DecisionSource) :
    AgreeUnder K (state.overwrite decisions source) (state'.overwrite decisions source) := by
  intro r hr
  unfold GrantManager.Repairing.overwrite
  dsimp only
  rw [Dict.lookup_update, Dict.lookup_update, Dict.lookup_update, Dict.lookup_update, (h r hr).1,
    (h r hr).2]
  exact ⟨rfl, rfl⟩

/-- Without hard actions in the component, the preview copies none. -/
lemma componentHard_eq_nil (hnone : ∀ r ∈ K, r ∉ hard) :
    hard.entries.filter (fun entry => decide (entry.1 ∈ K)) = [] := by
  refine List.filter_eq_nil_iff.mpr fun entry hentry hmem => ?_
  exact hnone entry.1 (of_decide_eq_true hmem)
    (Dict.mem_of_lookup (AList.mem_lookup_iff.mpr hentry))

/-- **Previewing a component** depends on the component only. A component in which a hard action
resumes a robot is not repaired, so the repair sees no hard actions.

**Proof sketch.** Both calls take the same branch, because they see the same decisions and the same
neighbours. Where they repair, no hard action is in the component, so the two repairs get the same
arguments. -/
theorem validateOrRepairComponent_congr (h : SameComponent K m m')
    (hobs : ∀ r ∈ K, r ∈ m.snapshots)
    (hp : ∀ r ∈ K, priorities.lookup r = priorities'.lookup r)
    (hhard : ∀ r ∈ K, r ∈ hard ↔ r ∈ hard') {s s' t t' : GrantManager.Repairing}
    (hst : AgreeUnder K s t)
    (hresumed : (∃ r ∈ K, r ∈ hard) → ∃ r ∈ K, s.decisions.lookup r = some .resume)
    (hs : GrantManager.validateOrRepairComponent config m hard priorities s K = .ok s')
    (ht : GrantManager.validateOrRepairComponent config m' hard' priorities' t K = .ok t') :
    AgreeUnder K s' t' := by
  have hany : (K.any fun r => !(neighbours m.adjacency r).isEmpty) =
      K.any fun r => !(neighbours m'.adjacency r).isEmpty := by
    rw [Bool.eq_iff_iff, List.any_eq_true, List.any_eq_true]
    refine exists_congr fun r => and_congr_right fun hr => ?_
    rw [Bool.not_eq_true', Bool.not_eq_true', ← Bool.not_eq_true, ← Bool.not_eq_true,
      List.isEmpty_iff, List.isEmpty_iff, h.isolated r hr]
  unfold GrantManager.validateOrRepairComponent at hs ht
  rw [← hany] at ht
  split_ifs at hs ht with hsmall
  · obtain rfl := Except.ok.inj hs
    obtain rfl := Except.ok.inj ht
    exact hst
  obtain ⟨copied, hcopied, hs⟩ := bind_eq_ok.mp hs
  obtain ⟨copied', hcopied', ht⟩ := bind_eq_ok.mp ht
  obtain rfl : copied = copied' := by
    rw [Dict.collect_congr fun r hr => item_congr (hst r hr).1, hcopied'] at hcopied
    exact (Except.ok.inj hcopied).symm
  split_ifs at hs ht with hpaused
  · have hnone : ∀ r ∈ K, r ∉ hard := by
      intro r hr hmem
      obtain ⟨q, hq, hresume⟩ := hresumed ⟨r, hr, hmem⟩
      obtain ⟨a, ha, hlook⟩ := Dict.lookup_collect_id hcopied hq
      rw [item_eq_ok, hresume] at ha
      have := allPause_iff.mp hpaused q a hlook
      rw [← Option.some.inj ha] at this
      cases this
    have hobs' : ∀ r ∈ K, r ∈ m'.snapshots := fun r hr =>
      (Dict.mem_congr (h.snapshots r hr)).mp (hobs r hr)
    rw [componentHard_eq_nil hnone, unavailableIds_eq hobs, ok_bind, solve_congr h hp] at hs
    rw [componentHard_eq_nil fun r hr hmem => hnone r hr ((hhard r hr).mpr hmem),
      unavailableIds_eq hobs', ok_bind, ← List.filter_congr fun r hr => decide_eq_decide.mpr
        (unavailable_congr (h.snapshots r hr))] at ht
    obtain ⟨repair, hrepair, hs⟩ := bind_eq_ok.mp hs
    obtain ⟨repair', hrepair', ht⟩ := bind_eq_ok.mp ht
    obtain rfl := Except.ok.inj (hrepair.symm.trans hrepair')
    split_ifs at hs ht
    all_goals
      obtain rfl := Except.ok.inj hs
      obtain rfl := Except.ok.inj ht
      exact hst.overwrite _ _
  · obtain ⟨_, -, hs⟩ := bind_eq_ok.mp hs
    obtain ⟨_, -, ht⟩ := bind_eq_ok.mp ht
    obtain rfl := Except.ok.inj hs
    obtain rfl := Except.ok.inj ht
    exact hst

end Repair

/-! ## What a tick gives a component -/

section Own

variable {config : MonitorConfig} {m m' : ConflictModel} {K : List RobotId} {nowMs : ℤ}

/-- The components are distinct. -/
lemma ConflictModel.WellFormed.components_nodup (hm : m.WellFormed) :
    m.connectedComponents.Nodup := by
  refine (hm.decomposes.disjoint.imp_of_mem ?_ : m.connectedComponents.Pairwise (· ≠ ·))
  rintro K L hK - hdisj rfl
  obtain ⟨r, hr⟩ := List.exists_mem_of_ne_nil _ (hm.decomposes.nonempty K hK)
  exact hdisj hr hr

/-- The values of the robots of a component. -/
def valuesOn {ν : Type} (K : List RobotId) (d : Dict RobotId ν) : List (Option ν) :=
  K.map fun r => d.lookup r

/-- Values on a component are equal iff they are at each of its robots. -/
lemma valuesOn_eq_iff {ν : Type} {d e : Dict RobotId ν} :
    valuesOn K d = valuesOn K e ↔ ∀ r ∈ K, d.lookup r = e.lookup r :=
  List.map_inj_left

/-- Updating with values for another component is invisible. -/
lemma valuesOn_update {ν : Type} {d e : Dict RobotId ν} (h : ∀ r ∈ K, r ∉ e) :
    valuesOn K (d.update e) = valuesOn K d := by
  refine valuesOn_eq_iff.mpr fun r hr => ?_
  exact Dict.lookup_update_of_notMem (h r hr)

/-- Exactly the robots of the component are scored. -/
lemma mem_scores {ages : Dict RobotId ℤ} {active : List RobotId}
    {scores : Dict RobotId PriorityBreakdown}
    (h : scoreComponentPriorities config K m nowMs ages active = .ok scores) (r : RobotId) :
    r ∈ scores ↔ r ∈ K := by
  obtain ⟨_, -, h⟩ := bind_eq_ok.mp h
  obtain ⟨_, -, h⟩ := bind_eq_ok.mp h
  obtain ⟨_, -, h⟩ := bind_eq_ok.mp h
  obtain ⟨_, -, h⟩ := bind_eq_ok.mp h
  rw [Dict.mem_collect h]
  simp

/-- The robots of a component get the scores that it has on its own. -/
lemma scorePriorities_own (hm : m.WellFormed) (hK : K ∈ m.connectedComponents)
    {ages : Dict RobotId ℤ} {active : Dict RobotId GrantRecord}
    {priorities : Dict RobotId PriorityBreakdown}
    (h : scorePriorities config m ages active nowMs = .ok priorities) :
    ∃ scores, scoreComponentPriorities config K m nowMs
        (Dict.ofKeys m.snapshots.keys fun r => (ages.lookup r).getD 0) active.keys = .ok scores ∧
      ∀ r ∈ K, priorities.lookup r = scores.lookup r := by
  obtain ⟨t, t', hpass, -, hafter⟩ := (passes_of_foldlM h).own (valuesOn K)
    hm.components_nodup hK fun L hL hne t t' hpass => by
      obtain ⟨scores, hscores, hpass⟩ := bind_eq_ok.mp hpass
      obtain rfl := Except.ok.inj hpass
      exact valuesOn_update fun r hr hmem =>
        hne (hm.component_unique hL hK ((mem_scores hscores r).mp hmem) hr)
  obtain ⟨scores, hscores, hpass⟩ := bind_eq_ok.mp hpass
  obtain rfl := Except.ok.inj hpass
  refine ⟨scores, hscores, fun r hr => ?_⟩
  rw [valuesOn_eq_iff.mp hafter r hr, Dict.lookup_update_of_mem ((mem_scores hscores r).mpr hr)]

/-- **The scores of a component** depend on its own robots. -/
theorem scorePriorities_congr (hm : m.WellFormed) (hm' : m'.WellFormed)
    (hK : K ∈ m.connectedComponents) (hK' : K ∈ m'.connectedComponents) (h : SameComponent K m m')
    {ages ages' : Dict RobotId ℤ} (hages : ∀ r ∈ K, ages.lookup r = ages'.lookup r)
    {active active' : Dict RobotId GrantRecord} (hactive : ∀ r ∈ K, r ∈ active ↔ r ∈ active')
    {priorities priorities' : Dict RobotId PriorityBreakdown}
    (hs : scorePriorities config m ages active nowMs = .ok priorities)
    (ht : scorePriorities config m' ages' active' nowMs = .ok priorities') :
    ∀ r ∈ K, priorities.lookup r = priorities'.lookup r := by
  obtain ⟨scores, hscores, hown⟩ := scorePriorities_own hm hK hs
  obtain ⟨scores', hscores', hown'⟩ := scorePriorities_own hm' hK' ht
  have hzero : ∀ r ∈ K, (Dict.ofKeys m.snapshots.keys fun r => (ages.lookup r).getD 0).lookup r =
      (Dict.ofKeys m'.snapshots.keys fun r => (ages'.lookup r).getD 0).lookup r := fun r hr => by
    rw [Dict.lookup_ofKeys_of_mem (AList.mem_keys.mp (hm.mem_snapshots hK hr)),
      Dict.lookup_ofKeys_of_mem (AList.mem_keys.mp (hm'.mem_snapshots hK' hr)), hages r hr]
  have hkeys : ∀ r ∈ K, r ∈ active.keys ↔ r ∈ active'.keys := fun r hr => by
    rw [← AList.mem_keys, ← AList.mem_keys, hactive r hr]
  rw [scoreComponentPriorities_congr h nowMs hzero hkeys] at hscores
  obtain rfl := Except.ok.inj (hscores.symm.trans hscores')
  exact fun r hr => (hown r hr).trans (hown' r hr).symm

variable {G : Type} {geometry : Geometry G} {cpSat : Backend} {hard hard' : Dict RobotId Action}
  {priorities priorities' : Dict RobotId PriorityBreakdown}

/-- Taking a solution is invisible on the robots it does not decide. -/
lemma valuesOn_take (state : Solving) {decisions : Dict RobotId Action}
    (source : DecisionSource) (diagnostic : ComponentDiagnostic) (h : ∀ r ∈ K, r ∉ decisions) :
    valuesOn K (state.take decisions source diagnostic).decisions = valuesOn K state.decisions ∧
      valuesOn K (state.take decisions source diagnostic).sources = valuesOn K state.sources :=
  ⟨valuesOn_update h, valuesOn_update fun r hr => by
    rw [Dict.mem_ofKeys, ← AList.mem_keys]
    exact h r hr⟩

/-- The robots of a component with an edge get the solution that it has on its own. -/
lemma solveComponents_own (hm : m.WellFormed) (hK : K ∈ m.connectedComponents)
    (hlen : 2 ≤ K.length) {solved : Solving} {call call' : ℕ}
    (h : (solveComponents config (shippedCollaborators config geometry fun _ => cpSat) m priorities
      hard).run call = .ok solved call') :
    ∃ decisions source, componentSolution config cpSat m priorities hard K =
        .ok (decisions, source) ∧
      ∀ r ∈ K, solved.decisions.lookup r = decisions.lookup r ∧
        solved.sources.lookup r = some source := by
  obtain ⟨isolated, _, -, h⟩ := run_bind_eq_ok.mp h
  have hpasses := passes_of_run_foldlM h
  obtain ⟨t, t', ⟨w, w', hpass⟩, -, hafter⟩ := hpasses.own
    (fun s => (valuesOn K s.decisions, valuesOn K s.sources))
    hm.components_nodup hK fun L hL hne t t' ⟨w, w', hpass⟩ => by
      rcases (solveComponent_solution t w).get_ok hpass with ⟨-, rfl⟩ | ⟨decisions, source,
        diagnostic, hsolution, rfl⟩
      · rfl
      obtain ⟨hdec, hsrc⟩ := valuesOn_take t source diagnostic fun r hr hmem =>
        hne (hm.component_unique hL hK (((componentSolution_decides hsolution).1 r).mp hmem) hr)
      rw [hdec, hsrc]
  rcases (solveComponent_solution t w).get_ok hpass with ⟨hisolated, -⟩ | ⟨decisions, source,
    diagnostic, hsolution, rfl⟩
  · exact absurd hisolated (not_isolatedComponent hlen)
  obtain ⟨hdec, hsrc⟩ := Prod.mk.inj hafter
  refine ⟨decisions, source, hsolution, fun r hr => ?_⟩
  have hmem := ((componentSolution_decides hsolution).1 r).mpr hr
  have hkey : r ∈ decisions.keys := AList.mem_keys.mp hmem
  rw [valuesOn_eq_iff.mp hdec r hr, valuesOn_eq_iff.mp hsrc r hr, Solving.take,
    Dict.lookup_update_of_mem hmem, Dict.lookup_update_of_mem (Dict.mem_ofKeys.mpr hkey),
    Dict.lookup_ofKeys_of_mem hkey]
  exact ⟨rfl, rfl⟩

/-- Previewing a component is invisible on the others. -/
lemma validateOrRepairComponent_outside {state state' : GrantManager.Repairing}
    {L : List RobotId} (hdisj : ∀ r ∈ K, r ∉ L)
    (h : GrantManager.validateOrRepairComponent config m hard priorities state L = .ok state') :
    AgreeUnder K state' state := by
  have houtside : ∀ (d : Dict RobotId Action) (source : DecisionSource), (∀ r, r ∈ d ↔ r ∈ L) →
      AgreeUnder K (state.overwrite d source) state := fun d source hd r hr =>
    lookup_overwrite_of_notMem state source fun hmem => hdisj r hr ((hd r).mp hmem)
  unfold GrantManager.validateOrRepairComponent at h
  split_ifs at h
  · obtain rfl := Except.ok.inj h
    exact fun r _ => ⟨rfl, rfl⟩
  obtain ⟨copied, -, h⟩ := bind_eq_ok.mp h
  split_ifs at h
  · obtain ⟨unavailable, -, h⟩ := bind_eq_ok.mp h
    obtain ⟨repair, hrepair, h⟩ := bind_eq_ok.mp h
    split_ifs at h with hprogress
    · obtain rfl := Except.ok.inj h
      exact houtside _ _ ((solve_spec hrepair).decides (Bool.and_eq_true_iff.mp hprogress).1).1
    · obtain rfl := Except.ok.inj h
      exact houtside _ _ fun r => Dict.mem_ofKeys
  · obtain ⟨_, -, h⟩ := bind_eq_ok.mp h
    obtain rfl := Except.ok.inj h
    exact fun r _ => ⟨rfl, rfl⟩

/-- Agreement on a component is equality of the values on it. -/
lemma agreeUnder_iff {state state' : GrantManager.Repairing} : AgreeUnder K state state' ↔
    (valuesOn K state.decisions, valuesOn K state.decisionSources) =
      (valuesOn K state'.decisions, valuesOn K state'.decisionSources) := by
  rw [Prod.mk.injEq, valuesOn_eq_iff, valuesOn_eq_iff]
  exact forall₂_and

/-- The preview of a component is the one that it has on its own. -/
lemma validateOrRepairComponents_own (hm : m.WellFormed) (hK : K ∈ m.connectedComponents)
    {proposed : Dict RobotId Action} {sources : Dict RobotId DecisionSource}
    {state : GrantManager.Repairing}
    (h : GrantManager.validateOrRepairComponents config m hard priorities proposed sources =
      .ok state) :
    ∃ t t', GrantManager.validateOrRepairComponent config m hard priorities t K = .ok t' ∧
      (∀ r ∈ K, t.decisions.lookup r = proposed.lookup r ∧
        t.decisionSources.lookup r = sources.lookup r) ∧ AgreeUnder K state t' := by
  obtain ⟨t, t', hpass, hbefore, hafter⟩ := (passes_of_foldlM h).own
    (fun s => (valuesOn K s.decisions, valuesOn K s.decisionSources))
    hm.components_nodup hK fun L hL hne t t' hpass => agreeUnder_iff.mp
      (validateOrRepairComponent_outside (fun r hr hrL => hne (hm.component_unique hL hK hrL hr))
        hpass)
  exact ⟨t, t', hpass, agreeUnder_iff.mpr hbefore, agreeUnder_iff.mpr hafter⟩

/-- **The preview of a component** depends on its own robots. -/
theorem validateOrRepairComponents_congr (hm : m.WellFormed) (hm' : m'.WellFormed)
    (hK : K ∈ m.connectedComponents) (hK' : K ∈ m'.connectedComponents) (h : SameComponent K m m')
    (hp : ∀ r ∈ K, priorities.lookup r = priorities'.lookup r)
    (hhard : ∀ r ∈ K, r ∈ hard ↔ r ∈ hard') {proposed proposed' : Dict RobotId Action}
    {sources sources' : Dict RobotId DecisionSource}
    (hproposed : ∀ r ∈ K, proposed.lookup r = proposed'.lookup r ∧
      sources.lookup r = sources'.lookup r)
    (hresumed : (∃ r ∈ K, r ∈ hard) → ∃ r ∈ K, proposed.lookup r = some .resume)
    {state state' : GrantManager.Repairing}
    (hs : GrantManager.validateOrRepairComponents config m hard priorities proposed sources =
      .ok state)
    (ht : GrantManager.validateOrRepairComponents config m' hard' priorities' proposed' sources' =
      .ok state') : AgreeUnder K state state' := by
  obtain ⟨s, s', hpass, hbefore, hafter⟩ := validateOrRepairComponents_own hm hK hs
  obtain ⟨t, t', hpass', hbefore', hafter'⟩ := validateOrRepairComponents_own hm' hK' ht
  have hst : AgreeUnder K s t := fun r hr => by
    rw [(hbefore r hr).1, (hbefore r hr).2, (hbefore' r hr).1, (hbefore' r hr).2]
    exact hproposed r hr
  have hown : AgreeUnder K s' t' := validateOrRepairComponent_congr h
    (fun r hr => hm.mem_snapshots hK hr) hp hhard hst (fun hex => ?_) hpass hpass'
  · intro r hr
    rw [(hafter r hr).1, (hafter r hr).2, (hafter' r hr).1, (hafter' r hr).2]
    exact hown r hr
  · obtain ⟨r, hr, hresume⟩ := hresumed hex
    exact ⟨r, hr, by rw [(hbefore r hr).1, hresume]⟩

end Own

end CollisionMonitor
