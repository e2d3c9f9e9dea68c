import CollisionMonitor.Transaction

set_option relaxedAutoImplicit false
set_option autoImplicit false

/-!
# Robots that must not move

A stale or at-goal robot is paused by every tick, and holds no grant once a tick has committed.
Nothing is assumed of the conflict model but that it contains the observed snapshots: its
components, edges and constraints may be anything.

## Main definitions

* `ResumesAvailable` — a dictionary of actions resumes available robots only.
* `GrantsAvailable` — no observed robot that must not move holds a grant.
* `ShippedSolvers`, `ObservingBuilder` — the assumptions on the collaborators.

## Main results

* `prepareTick_available` — a prepared manager holds grants of available robots only.
* `decideTick_previews`, `CommitsFrom.available` — the actions of a tick, and the grants it leaves.
* `decide_unavailable` — the two for every reachable state.
-/

namespace CollisionMonitor

open Outcome

/-! ## Actions -/

section Actions

variable {m : ConflictModel} {K : List RobotId}

/-- The actions resume available robots only. -/
def ResumesAvailable (m : ConflictModel) (decisions : Dict RobotId Action) : Prop :=
  ∀ r, decisions.lookup r = some .resume → ¬ Unavailable m r

/-- Of two sets of decisions that resume only available robots, one may be updated by the other. -/
lemma ResumesAvailable.update {decisions decisions' : Dict RobotId Action}
    (h : ResumesAvailable m decisions) (h' : ResumesAvailable m decisions') :
    ResumesAvailable m (decisions.update decisions') := by
  intro r hr
  rw [Dict.lookup_update] at hr
  cases hlook : decisions'.lookup r with
  | none =>
    rw [hlook, Option.none_or] at hr
    exact h r hr
  | some a =>
    rw [hlook, Option.some_or] at hr
    exact h' r (hlook.trans hr)

/-- Pausing everything resumes nobody who is unavailable. -/
lemma resumesAvailable_pause (m : ConflictModel) (K : List RobotId) :
    ResumesAvailable m (Dict.ofKeys K fun _ => .pause) := by
  intro r hr
  rw [Dict.lookup_ofKeys] at hr
  split_ifs at hr
  cases hr

/-- Obedient actions of a component resume available robots only. -/
lemma resumesAvailable_of_obeys {hard decisions : Dict RobotId Action}
    (hkeys : ∀ r, r ∈ decisions ↔ r ∈ K) (hobeys : Obeys m hard K (actionOf decisions)) :
    ResumesAvailable m decisions := by
  intro r hr hu
  have hpause := hobeys.1 r ((hkeys r).mp (Dict.mem_of_lookup hr)) hu
  rw [actionOf_eq hr] at hpause
  cases hpause

/-- Admissible actions of a component obey a hard Pause. -/
lemma resumesAvailable_of_admissible {constraints : List PairwiseCompatibility}
    {hard decisions : Dict RobotId Action} (hkeys : ∀ r, r ∈ decisions ↔ r ∈ K)
    (hpause : ∀ r ∈ K, Unavailable m r → hard.lookup r = some .pause)
    (hadm : Admissible constraints hard (actionOf decisions)) : ResumesAvailable m decisions := by
  intro r hr hu
  have hobeys := hadm.2 r _ (hpause r ((hkeys r).mp (Dict.mem_of_lookup hr)) hu)
  rw [actionOf_eq hr] at hobeys
  cases hobeys

end Actions

/-! ## Solving -/

section Solve

variable {ω : Type} {config : MonitorConfig} {parts : Collaborators ω} {m : ConflictModel}
  {hard : Dict RobotId Action} {priorities : Dict RobotId PriorityBreakdown} {K : List RobotId}

/-- The optimiser and the heuristic are the shipped ones. CP-SAT may answer anything: its answers
are validated. -/
structure ShippedSolvers (config : MonitorConfig) (parts : Collaborators ω) : Prop where
  optimise : ∀ K m priorities hard world result world',
    (parts.optimise K m priorities hard).run world = .ok result world' →
      ∃ cpSat, CollisionMonitor.optimise config cpSat K m priorities hard = .ok result
  solve : ∀ K m priorities hard world result world',
    (parts.solve K m priorities hard).run world = .ok result world' →
      CollisionMonitor.solve config K m priorities hard = .ok result

/-- The builder returns models of the snapshots it was given. -/
def ObservingBuilder (config : MonitorConfig) (parts : Collaborators ω) : Prop :=
  ∀ ordered, Ordered ordered → ∀ world m world',
    (parts.conflictModelBuilder ordered config).run world = .ok m world' →
      ∀ r s, m.snapshots.lookup r = some s ↔ s ∈ ordered ∧ s.deviceId = r

/-- The Pause rule of a component overrides its grants. -/
lemma componentHardAssignments_pauses :
    Returns (componentHardAssignments K m hard)
      (fun d => ∀ r ∈ K, Unavailable m r → d.lookup r = some .pause) True := by
  unfold componentHardAssignments
  refine Returns.foldlM (fun pre (d : Dict RobotId Action) =>
    ∀ r ∈ pre, Unavailable m r → d.lookup r = some .pause) (fun _ h => by cases h) ?_
  intro pre r post d _ hd
  refine (Returns.of_runs (Q := fun s => m.snapshots.lookup r = some s)
    (fun _ hs => item_eq_ok.mp hs) (.inl trivial)).bind fun s hs => Returns.ok fun r' hr' hu => ?_
  rw [List.mem_append, List.mem_singleton] at hr'
  by_cases heq : r' = r
  · subst heq
    obtain ⟨s', hs', hunavailable⟩ := hu
    obtain rfl := Option.some.inj (hs.symm.trans hs')
    rw [if_pos hunavailable, Dict.lookup_insert_eq_ite, if_pos rfl]
  · have hbefore := hd r' (hr'.resolve_right heq) hu
    split_ifs
    · rw [Dict.lookup_insert_eq_ite, if_neg heq, hbefore]
    · exact hbefore

/-- The isolated robots that must not move are paused. -/
lemma decideIsolated_pauses : Returns (m.isolatedRobots.foldlM (decideIsolated m) {})
    (fun solved => ResumesAvailable m solved.decisions) True := by
  refine Returns.foldlM (fun _ (solved : Solving) => ResumesAvailable m solved.decisions)
    (fun r hr => by cases hr) ?_
  intro pre r post solved _ hsolved
  refine (Returns.of_runs (Q := fun s => m.snapshots.lookup r = some s)
    (fun _ hs => item_eq_ok.mp hs) (.inl trivial)).bind fun s hs => Returns.ok fun r' hr' hu => ?_
  change (solved.decisions.insert r _).lookup r' = some .resume at hr'
  rw [Dict.lookup_insert_eq_ite] at hr'
  split_ifs at hr' with heq hstale
  · cases hr'
  · subst heq
    obtain ⟨s', hs', hunavailable⟩ := hu
    obtain rfl := Option.some.inj (hs.symm.trans hs')
    exact hstale hunavailable
  · exact hsolved r' hr' hu

/-- **Solving one component** resumes available robots only, whichever mechanism solves it. -/
lemma solveComponent_pauses (hsolvers : ShippedSolvers config parts) {solved : Solving}
    (h : ResumesAvailable m solved.decisions) (world : ω) :
    Ensures (solveComponent config parts m priorities hard solved K) world
      (fun solved' _ => ResumesAvailable m solved'.decisions) fun _ => True := by
  unfold solveComponent
  by_cases hisolated : isolatedComponent m K = true
  · rw [if_pos hisolated]
    exact Ensures.pure h
  rw [if_neg hisolated]
  refine Ensures.bind_lift componentHardAssignments_pauses fun d hd => ?_
  refine Ensures.bind (Q := fun (exactResult : Option OptimisationResult) _ =>
    ∀ result ∈ exactResult, result.val.feasible = true →
      ResumesAvailable m result.val.decisions) ?_ fun exactResult world' hexact => ?_
  · split_ifs
    · refine Ensures.map (Ensures.of_runs fun result world' hrun result' hmem hfeas => ?_)
      obtain rfl := Option.some.inj hmem
      obtain ⟨cpSat, hok⟩ := hsolvers.optimise _ _ _ _ _ _ _ hrun
      obtain ⟨hkeys, hadm⟩ := optimise_decisions hok hfeas
      exact resumesAvailable_of_admissible hkeys hd hadm
    · exact Ensures.pure (by simp)
  split
  · rename_i result hfilter
    obtain ⟨hmem, hfeas⟩ := Option.filter_eq_some_iff.mp hfilter
    exact Ensures.pure (h.update (hexact result hmem hfeas))
  · refine (Ensures.of_runs fun result world'' hrun => hrun).bind fun result world'' hrun => ?_
    have hsolves := solve_spec (hsolvers.solve _ _ _ _ _ _ _ hrun)
    dsimp only
    split_ifs with hfeas
    · obtain ⟨hkeys, hadm⟩ := hsolves.decides hfeas
      exact Ensures.pure (h.update (resumesAvailable_of_admissible hkeys hd hadm))
    · exact Ensures.pure (h.update (resumesAvailable_pause m K))

/-- **Solving the components** resumes available robots only. -/
lemma solveComponents_pauses (hsolvers : ShippedSolvers config parts) (world : ω) :
    Ensures (solveComponents config parts m priorities hard) world
      (fun solved _ => ResumesAvailable m solved.decisions) fun _ => True := by
  unfold solveComponents
  refine Ensures.bind_lift decideIsolated_pauses fun isolated hisolated => ?_
  exact Ensures.foldlM (fun _ (solved : Solving) _ => ResumesAvailable m solved.decisions) hisolated
    fun _ _ _ _ world _ h => solveComponent_pauses hsolvers h world

end Solve

/-! ## Previewing -/

section Preview

variable {config : MonitorConfig} {m : ConflictModel} {hard : Dict RobotId Action}
  {priorities : Dict RobotId PriorityBreakdown} {K : List RobotId}

/-- What is found unavailable in a component are its unavailable robots. -/
lemma unavailableIds_eq_ok {ids : List RobotId} (h : unavailableIds K m = .ok ids) :
    ids = K.filter fun r => decide (Unavailable m r) := by
  have hobs : ∀ r ∈ K, r ∈ m.snapshots := fun r hr => by
    obtain ⟨b, hb⟩ := forall_ok_of_filterM h r hr
    obtain ⟨s, hs, -⟩ := bind_eq_ok.mp hb
    exact Dict.mem_of_lookup (item_eq_ok.mp hs)
  rw [unavailableIds_eq hobs] at h
  exact (Except.ok.inj h).symm

/-- **Validating or repairing one component** resumes available robots only. A repair searches
with the grants written over the Pause rule, and these are grants of available robots. -/
lemma validateOrRepairComponent_pauses (havail : ∀ r ∈ hard, ¬ Unavailable m r)
    {state : GrantManager.Repairing} (h : ResumesAvailable m state.decisions) :
    Returns (GrantManager.validateOrRepairComponent config m hard priorities state K)
      (fun state' => ResumesAvailable m state'.decisions) True := by
  unfold GrantManager.validateOrRepairComponent
  split_ifs
  · exact Returns.ok h
  dsimp only
  refine (Returns.of_runs (Q := fun _ => True) (fun _ _ => trivial) (.inl trivial)).bind
    fun componentDecisions _ => ?_
  by_cases hpaused : allPause componentDecisions = true
  · rw [if_pos hpaused]
    refine (Returns.of_runs (fun ids hids => unavailableIds_eq_ok hids) (.inl trivial)).bind
      fun unavailable hunavailable => ?_
    subst hunavailable
    have hcombines := combinesHard_repair havail (lookup_componentHard hard K)
    refine (Returns.of_runs (fun r hr => solve_spec hr) (.inl trivial)).bind
      fun repair hrepair => ?_
    by_cases hprogress : (repair.val.feasible && repair.val.progressMade) = true
    · rw [if_pos hprogress]
      obtain ⟨hkeys, hadm⟩ := hrepair.decides (Bool.and_eq_true_iff.mp hprogress).1
      obtain ⟨-, hobeys⟩ := hcombines.admissible_iff.mp hadm
      exact Returns.ok (h.update (resumesAvailable_of_obeys hkeys hobeys))
    · rw [if_neg hprogress]
      exact Returns.ok (h.update (resumesAvailable_pause m K))
  · rw [if_neg hpaused]
    exact (Returns.of_runs (Q := fun _ => True) (fun _ _ => trivial) (.inl trivial)).bind
      fun _ _ => Returns.ok h

/-- **A preview** resumes available robots only. -/
lemma validateOrRepairComponents_pauses (havail : ∀ r ∈ hard, ¬ Unavailable m r)
    {proposed : Dict RobotId Action} (h : ResumesAvailable m proposed)
    (sources : Dict RobotId DecisionSource) :
    Returns (GrantManager.validateOrRepairComponents config m hard priorities proposed sources)
      (fun previewed => ResumesAvailable m previewed.decisions) True := by
  unfold GrantManager.validateOrRepairComponents
  exact Returns.foldlM (fun _ (state : GrantManager.Repairing) =>
    ResumesAvailable m state.decisions) h fun _ _ _ _ _ hstate =>
      validateOrRepairComponent_pauses havail hstate

end Preview

/-! ## Ticks -/

section Tick

variable {E ω : Type} {config : MonitorConfig} {geometry : Geometry E} {parts : Collaborators ω}
  {nowMs : ℤ}

/-- **The preview of a tick** resumes available robots only. -/
theorem decideTick_previews (hsolvers : ShippedSolvers config parts)
    {state : EngineState ω Store ℕ} (hheld : Held state) (snapshots : List RobotSnapshot)
    (tickId : String) :
    Ensures (decideTick config geometry parts (managerApi config) snapshots nowMs tickId) state
      (fun tick _ => ResumesAvailable tick.conflictModel tick.preview.val.decisions)
      fun _ => True := by
  refine (decideTick_deliberates hheld snapshots tickId).mono ?_
  rintro tick _ ⟨copy, prepared, solved, previewed, hclone, hprepare, h⟩
  obtain ⟨-, -, -, havail, -⟩ := (GrantManager.prepareTick_frame _
    (hheld.consistent.clone hclone).1).get_ok hprepare
  obtain ⟨world, world', hsolve⟩ := h.solves
  rw [h.decisions]
  exact (validateOrRepairComponents_pauses havail
    ((solveComponents_pauses hsolvers world).get_ok hsolve) _).get h.previews

/-- **The grants after a commit** are grants of available or unobserved robots. -/
lemma CommitsFrom.available {tick : TickDecision ℕ} {g g' : GrantManager} (hg : g.Consistent)
    (h : CommitsFrom config nowMs tick g g') :
    ∀ r ∈ g'.activeGrants, ¬ Unavailable tick.conflictModel r := by
  obtain ⟨copy, prepared, previewed, revoked, proposed, proposedSources, preview, result, hclone,
    hprepare, hpreview, hrevoke, hval, hcommit, -⟩ := h
  obtain ⟨hcopy, -⟩ := hg.clone hclone
  obtain ⟨hin, -, hactive, -⟩ := (GrantManager.prepareTick_frame _ hcopy).get_ok hprepare
  obtain rfl := (previewTick_frame _ _ _ _ _).get_ok hpreview
  have hrevoked : revoked.InTick ∧ ∀ r ∈ revoked.activeGrants, r ∈ previewed.activeGrants := by
    unfold RevokesFrom at hrevoke
    split_ifs at hrevoke
    · rw [hrevoke]
      exact ⟨hin, fun _ hr => hr⟩
    · obtain ⟨hopen, -, -, hsub⟩ :=
        (GrantManager.revokeForSafety_frame (E := True) _ hin).get_ok hrevoke
      exact ⟨hopen, hsub⟩
  obtain ⟨-, -, -, -, -, hcommitted⟩ :=
    (GrantManager.commitTick_frame _ hrevoked.1).get_ok hcommit
  intro r hr
  rcases hcommitted.active hr with hr | hnot
  · exact hactive r (hrevoked.2 r hr)
  · exact hnot

/-- The robot must not move: its state is flagged as stale or too old, or it is at its goal. -/
def MustPause (config : MonitorConfig) (nowMs : ℤ) (s : RobotSnapshot) : Prop :=
  s.stale = true ∨ nowMs - s.receivedAtMs ≥ config.staleLimitMs ∨ s.atGoal = true

/-- **A robot that must not move** is paused by every call that returns, in every reachable state
and under any conflict model of the observed snapshots, and holds no grant after a committed one.

**Proof sketch.** The builder keeps the observed snapshot of the robot, so the robot is unavailable
under its model. The preview pauses every unavailable robot (`decideTick_previews`), overrides only
pause, and no grant that is held after the commit belongs to an unavailable robot. -/
theorem decide_unavailable (hsolvers : ShippedSolvers config parts)
    (hbuilder : ObservingBuilder config parts) {state state' : EngineState ω Store ℕ}
    (hreach : (engineMachine config geometry parts).Reachable state)
    {snapshots : List RobotSnapshot} {tickId : String} {d : EngineDecision}
    (h : (CollisionDecisionEngine.decide config geometry parts (managerApi config) snapshots nowMs
      tickId).run state = .ok d state') :
    ∀ s ∈ snapshots, MustPause config nowMs s →
      (d.decisionFor s.deviceId).map RobotDecision.action = some .pause ∧
        (d.tickMetadata.stateCommitted = true → s.deviceId ∉ state'.held.activeGrants) := by
  have hheld := reachable_held hreach
  obtain ⟨tick, htick, ⟨_, _, hreport⟩, -, hcommits⟩ :=
    (decide_outcome config geometry parts nowMs hheld snapshots tickId).get_ok h
  obtain ⟨hchecked, hresult, _, _, hbuilt⟩ :=
    (decideTick_checked state snapshots nowMs tickId).get_ok htick
  have hpreview := (decideTick_previews hsolvers hheld snapshots tickId).get_ok htick
  intro s hs hpause
  -- the snapshot as observed, which the builder returned
  set s' : RobotSnapshot := { s with
    stale := s.stale || decide (nowMs - s.receivedAtMs ≥ config.staleLimitMs) } with hs'
  have hobserved : s' ∈ observed config nowMs snapshots := mem_observed.mpr ⟨s, hs, rfl⟩
  have hunavailable : Unavailable tick.conflictModel s.deviceId := by
    refine ⟨s', (hbuilder _ hchecked.isOrdered _ _ _ hbuilt _ _).mpr ⟨hobserved, rfl⟩, ?_⟩
    rcases hpause with hstale | hage | hgoal
    · simp [RobotSnapshot.unavailable, hs', hstale]
    · simp [RobotSnapshot.unavailable, hs', hage]
    · simp [RobotSnapshot.unavailable, hs', hgoal]
  refine ⟨?_, fun hcommitted => ?_⟩
  · have hkeys : ∀ r, r ∈ tick.decisions ↔ ∃ s ∈ tick.ordered, s.deviceId = r := by
      rw [hchecked.ordered_eq]
      exact hchecked.overridden.validates.mem_decisions
    rw [hreport.lookup_eq hkeys]
    have hmem : s.deviceId ∈ tick.decisions :=
      (hchecked.overridden.validates.mem_decisions _).mpr ⟨s', hobserved, rfl⟩
    obtain ⟨a, ha⟩ := Dict.exists_lookup hmem
    rw [ha]
    rw [hchecked.overridden.lookup_decisions] at ha
    split_ifs at ha
    · exact ha.symm ▸ rfl
    · cases a with
      | pause => rfl
      | resume => exact absurd hunavailable (hpreview _ ha)
  · obtain ⟨-, hfrom⟩ := hcommits <| by
      rw [← Option.isSome_iff_ne_none, hresult, ← hreport.stateCommitted_iff, hcommitted]
    exact fun hactive => hfrom.available hheld.consistent _ hactive hunavailable

/-- The shipped collaborators meet the assumptions also with a builder that sees no conflicts. -/
lemma blind_shippedSolvers : ShippedSolvers defaultConfig blindCollaborators where
  optimise _ _ _ _ world _ _ h := by
    obtain ⟨_, _, hget, h⟩ := run_bind_eq_ok.mp h
    obtain ⟨_, _, hset, h⟩ := run_bind_eq_ok.mp h
    exact ⟨none, (run_lift_eq_ok.mp h).1⟩
  solve _ _ _ _ _ _ _ h := (run_lift_eq_ok.mp h).1

/-- The builder without conflicts keeps the snapshots. -/
lemma blind_observing : ObservingBuilder defaultConfig blindCollaborators := by
  rintro ordered hord world m world' h r s
  cases h
  have hnd : ((ordered.map fun s => (s.deviceId, s)).map Prod.fst).Nodup := by
    rw [List.map_map]
    exact List.pairwise_map.mpr (hord.increasing.imp fun h => h.ne)
  change (Dict.ofPairs (ordered.map fun s => (s.deviceId, s))).lookup r = some s ↔ _
  rw [Dict.lookup_ofPairs hnd, List.mem_map]
  constructor
  · rintro ⟨t, ht, heq⟩
    obtain ⟨rfl, rfl⟩ := Prod.mk.inj heq
    exact ⟨ht, rfl⟩
  · rintro ⟨hs, rfl⟩
    exact ⟨s, hs, rfl⟩

/-- Two approaching robots, one of them with a stale state. -/
def staleApproaching : List RobotSnapshot :=
  [lineSnapshot robotA 0 1, { lineSnapshot robotB 2 1 with stale := true }]

/-- The blind builder isolates the stale robot, and it is paused. -/
theorem decide_unavailable_stale : ∃ d state', (CollisionDecisionEngine.decide defaultConfig
      lineGeometry blindCollaborators (managerApi defaultConfig) staleApproaching 0 "first").run
        (EngineState.initial 0) = .ok d state' ∧
    (d.decisionFor robotB).map RobotDecision.action = some .pause ∧
      robotB ∉ state'.held.activeGrants := by
  obtain ⟨d, state', hrun, hcommitted⟩ := Ensures.exists_ok
    (x := CollisionDecisionEngine.decide defaultConfig lineGeometry blindCollaborators
      (managerApi defaultConfig) staleApproaching 0 "first") (s := EngineState.initial 0)
    (Q := fun d _ => d.tickMetadata.stateCommitted = true) (by decide +kernel)
  obtain ⟨hpaused, hgrant⟩ := decide_unavailable blind_shippedSolvers blind_observing
    (.init ⟨0, rfl⟩) hrun _ (List.mem_cons_of_mem _ List.mem_cons_self) (.inl rfl)
  exact ⟨d, state', hrun, hpaused, hgrant hcommitted⟩

end Tick

end CollisionMonitor
