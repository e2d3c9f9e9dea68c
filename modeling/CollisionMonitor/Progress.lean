import CollisionMonitor.ShippedTick

set_option relaxedAutoImplicit false
set_option autoImplicit false

/-!
# Progress of the shipped engine

A component with an edge progresses whenever some safe assignment lets it, and the alarm is raised
exactly when one cannot. A Resume counts as progress even when the next pose of its robot is the
current one, so the progress is real only where no robot has such a path.

## Main definitions

* `HasEdge` — a component contains an edge of the conflict graph.
* `Moves` — the next pose of a robot differs from its current one.
* `RealProgress` — a decision that raises no alarm moves a robot of every component with an edge.
* `outcomes` — the decisions that a run of calls returns.

## Main results

* `decide_progress_exact` — progress and the alarm are exact.
* `outcomes_realProgress` — progress is real in runs without idle paths.
-/

namespace CollisionMonitor

open Outcome

/-! ## Components with an edge -/

section Edge

variable {m : ConflictModel} {K : List RobotId}

/-- Some two robots of the component have a forbidden assignment. -/
def HasEdge (m : ConflictModel) (K : List RobotId) : Prop :=
  ∃ pair ∈ componentConstraints K m, pair.forbiddenAssignments ≠ []

/-- A component has an edge iff it has two robots. -/
lemma hasEdge_iff (hm : m.WellFormed) (hK : K ∈ m.connectedComponents) :
    HasEdge m K ↔ 2 ≤ K.length := by
  constructor
  · rintro ⟨pair, hpair, hforb⟩
    obtain ⟨hpair, hI, -⟩ := mem_componentConstraints.mp hpair
    refine hm.two_le_length hK hI (List.ne_nil_of_mem (a := pair.robotJ) ?_)
    exact (hm.adjacent_iff _ _).mpr ⟨pair, hpair, hforb, .inl rfl⟩
  · intro hlen
    obtain ⟨r, hr⟩ := List.exists_mem_of_ne_nil _ (hm.decomposes.nonempty K hK)
    obtain ⟨b, hb⟩ := List.exists_mem_of_ne_nil _ (hm.neighbours_ne_nil hK hlen hr)
    have hbK := hm.mem_of_neighbour hK hr hb
    obtain ⟨pair, hpair, hforb, heq | heq⟩ := (hm.adjacent_iff r b).mp hb
    all_goals
      obtain ⟨hI, hJ⟩ := Prod.mk.inj heq
      refine ⟨pair, mem_componentConstraints.mpr ⟨hpair, ?_, ?_⟩, hforb⟩
      · simpa [hI] using ‹_›
      · simpa [hJ] using ‹_›

/-- A component has an edge iff the first robot of some edge lies in it. -/
lemma hasEdge_iff_edges (hm : m.WellFormed) (hK : K ∈ m.connectedComponents) :
    HasEdge m K ↔ ∃ e ∈ m.edges, e.1 ∈ K := by
  constructor
  · rintro ⟨pair, hpair, hforb⟩
    obtain ⟨hpair, hI, -⟩ := mem_componentConstraints.mp hpair
    exact ⟨pair.robotPair, (hm.mem_edges _).mpr ⟨pair, hpair, hforb, rfl⟩, hI⟩
  · rintro ⟨e, he, hI⟩
    obtain ⟨pair, hpair, hforb, rfl⟩ := (hm.mem_edges e).mp he
    exact ⟨pair, mem_componentConstraints.mpr
      ⟨hpair, hI, (hm.same_component hK hpair hforb).mp hI⟩, hforb⟩

end Edge

/-! ## Exact progress -/

section Progress

variable {G : Type} {config : MonitorConfig} {geometry : Geometry G} {cpSat : ℕ → Backend}
  {snapshots : List RobotSnapshot} {nowMs : ℤ} {tickId : String}

/-- The alarm of a tick is the alarm of its preview. -/
lemma unresolvable_mem_tickAlarms {γ : Type} {tick : TickDecision γ} :
    AlarmCode.unresolvableWithPauseResume.value ∈ tickAlarms tick ↔
      .unresolvableWithPauseResume ∈ tick.preview.val.alarms := by
  have hengine : ∀ code : EngineAlarmCode,
      AlarmCode.unresolvableWithPauseResume.value ≠ code.value := by
    intro code
    cases code <;> decide
  unfold tickAlarms
  rw [List.mem_eraseDups]
  simp only [List.mem_append, List.mem_map]
  constructor
  · rintro ((⟨alarm, halarm, -⟩ | hstale) | ⟨diagnostic, -, hcode⟩)
    · cases alarm
      exact halarm
    · split_ifs at hstale
      · exact absurd (List.mem_singleton.mp hstale) (hengine _)
      · cases hstale
    · exact absurd hcode.symm (hengine _)
  · exact fun halarm => .inl (.inl ⟨_, halarm, trivial⟩)

/-- **Progress and the alarm are exact.** Whatever CP-SAT answers and whatever the configuration
is: a component with an edge that can progress is returned safe actions with a Resume, one that
cannot is paused as fail-safe, and the alarm is raised exactly when some component cannot.

**Proof sketch.** Every component with two robots is resolved (`ShippedTick.resolved`): by safe
decisions with a Resume if it can progress, by a fail-safe Pause if not, and the preview raises the
alarm in the second case. The report passes actions, sources and alarms on unchanged. -/
theorem decide_progress_exact {state state' : EngineState ℕ Store ℕ}
    (hreach : (shippedMachine config geometry cpSat).Reachable state) {d : EngineDecision}
    (h : (shippedDecide config geometry cpSat snapshots nowMs tickId).run state =
      .ok d state') :
    ∃ m, buildConflictModel geometry (observed config nowMs snapshots) = .ok m ∧
      d.tickMetadata.connectedComponents = m.connectedComponents ∧
      (∀ K ∈ m.connectedComponents, HasEdge m K →
        (Progressive m K → (∃ r ∈ K, d.returned r = .resume) ∧
          Safe (componentConstraints K m) d.returned) ∧
        (¬ Progressive m K → ∀ r ∈ K, d.returned r = .pause ∧ d.sourceOf r = some .failSafe)) ∧
      (AlarmCode.unresolvableWithPauseResume.value ∈ d.tickMetadata.alarms ↔
        ∃ K ∈ m.connectedComponents, HasEdge m K ∧ ¬ Progressive m K) := by
  obtain ⟨tick, after, prepared, _, _, hstages, hreport, -, -⟩ := shipped_of_reachable hreach h
  have hm := hstages.wellFormed
  have hreturned := hstages.returned_eq hreport
  obtain ⟨solved, -, hpreview⟩ := hstages.solved
  obtain ⟨_, hmeta⟩ := hreport.metadata
  refine ⟨tick.conflictModel, hstages.built, by rw [hmeta]; rfl, fun K hK hedge => ?_, ?_⟩
  · have hres := hstages.resolved hK ((hasEdge_iff hm hK).mp hedge)
    rw [hreturned]
    refine ⟨fun hprog => ?_, fun hnot r hr => ?_⟩
    · rcases hres with ⟨-, hsafe, -, hresume⟩ | ⟨hnot, -⟩
      · exact ⟨hresume, hsafe⟩
      · exact absurd hprog hnot
    · rcases hres with ⟨hprog, -⟩ | ⟨-, hpause⟩
      · exact absurd hprog hnot
      · obtain ⟨s, hs, rfl⟩ := (hstages.represents.mem_snapshots_iff r).mp (hm.mem_snapshots hK hr)
        rw [← hstages.checked.ordered_eq] at hs
        obtain ⟨decision, hfor, -, hsource⟩ := hreport.decisionFor hs
        obtain ⟨hact, hsrc⟩ := hpause _ hr
        refine ⟨hact, ?_⟩
        rw [EngineDecision.sourceOf, hfor, ← hsrc, hsource]
        rfl
  · have halarms : d.tickMetadata.alarms = tickAlarms tick := by rw [hmeta]; rfl
    rw [halarms, unresolvable_mem_tickAlarms, hpreview.alarm]
    refine exists_congr fun K => and_congr_right fun hK => ?_
    rw [hasEdge_iff hm hK]

/-- **Without the alarm** a fleet with an available robot has a resumed robot before its goal.

**Proof sketch.** The available robot is alone in its component and follows the policy, or the
component is resolved by a Resume, as there is no alarm. A resumed robot is not at its goal, because
it would have been paused. -/
lemma decide_resumes {state state' : EngineState ℕ Store ℕ}
    (hreach : (shippedMachine config geometry cpSat).Reachable state) {d : EngineDecision}
    (h : (shippedDecide config geometry cpSat snapshots nowMs tickId).run state = .ok d state')
    (hquiet : AlarmCode.unresolvableWithPauseResume.value ∉ d.tickMetadata.alarms)
    (havailable : ∃ s ∈ observed config nowMs snapshots, s.unavailable = false) :
    ∃ s ∈ observed config nowMs snapshots, s.atGoal = false ∧
      d.returned s.deviceId = .resume := by
  obtain ⟨tick, after, prepared, _, _, hstages, hreport, -, -⟩ := shipped_of_reachable hreach h
  have hm := hstages.wellFormed
  have hreturned := hstages.returned_eq hreport
  obtain ⟨s₀, hs₀, havailable⟩ := havailable
  have hmem := (hstages.represents.mem_snapshots_iff _).mpr ⟨s₀, hs₀, rfl⟩
  obtain ⟨K, hK, hsK⟩ := (hm.mem_component_iff _).mp hmem
  by_cases hlen : 2 ≤ K.length
  · rcases hstages.resolved hK hlen with ⟨-, -, -, r, hrK, hresume⟩ | ⟨hnot, -⟩
    · obtain ⟨s, hs, rfl⟩ := (hstages.represents.mem_snapshots_iff r).mp (hm.mem_snapshots hK hrK)
      refine ⟨s, hs, ?_, by rw [hreturned]; exact hresume⟩
      -- an unavailable robot would have been paused
      by_contra hgoal
      rw [Bool.not_eq_false] at hgoal
      rw [hstages.unavailable ⟨s, (hstages.represents.lookup_iff _ _).mpr ⟨hs, rfl⟩,
        by simp [RobotSnapshot.unavailable, hgoal]⟩] at hresume
      cases hresume
    · refine absurd ?_ hquiet
      obtain ⟨_, hmeta⟩ := hreport.metadata
      obtain ⟨solved, -, hpreview⟩ := hstages.solved
      rw [hmeta]
      exact unresolvable_mem_tickAlarms.mpr (hpreview.alarm.mpr ⟨K, hK, hlen, hnot⟩)
  · -- an isolated available robot follows the policy
    have hisolated := hstages.isolated ((hm.mem_isolated_iff hK hsK).mpr hlen)
    have hlookup := (hstages.represents.lookup_iff s₀.deviceId s₀).mpr ⟨hs₀, rfl⟩
    have hnot : ¬ Unavailable tick.conflictModel s₀.deviceId := by
      rintro ⟨s, hs, hun⟩
      obtain rfl := Option.some.inj (hlookup.symm.trans hs)
      rw [havailable] at hun
      cases hun
    refine ⟨s₀, hs₀, (Bool.or_eq_false_iff.mp havailable).2, ?_⟩
    rw [hreturned, actionOf_eq hisolated, isolatedAction, if_neg hnot]

/-- Two approaching robots can progress: there is no alarm. -/
theorem decide_progress_exact_approaching : ∃ d state', (shippedDecide defaultConfig lineGeometry
      (fun _ => none) approaching 0 "first").run (EngineState.initial 0) = .ok d state' ∧
    ∃ m, buildConflictModel lineGeometry (observed defaultConfig 0 approaching) = .ok m ∧
      ∀ K ∈ m.connectedComponents, HasEdge m K → Progressive m K := by
  obtain ⟨d, state', hrun, -, hquiet⟩ := approaching_returns
  obtain ⟨m, hm, -, -, halarm⟩ := decide_progress_exact (.init ⟨0, rfl⟩) hrun
  refine ⟨d, state', hrun, m, hm, fun K hK hedge => ?_⟩
  by_contra hnot
  exact hquiet (halarm.mpr ⟨K, hK, hedge, hnot⟩)

end Progress

/-! ## Real progress -/

section Real

variable {G : Type} {config : MonitorConfig} {geometry : Geometry G} {cpSat : ℕ → Backend}
  {wrappedAngle : ℚ → ℚ}

/-- The arguments of a call of `decide`. -/
structure Call where
  snapshots : List RobotSnapshot
  nowMs : ℤ
  tickId : String

/-- The snapshots of a call as the engine observes them. -/
def Call.observed (config : MonitorConfig) (call : Call) : List RobotSnapshot :=
  CollisionMonitor.observed config call.nowMs call.snapshots

/-- The next pose of the robot differs from its current one. -/
def Moves (wrappedAngle : ℚ → ℚ) (config : MonitorConfig) (s : RobotSnapshot) : Prop :=
  posesEqual wrappedAngle s.nextPose s.state.currentPose config.poseTolerance = .ok false

/-- The snapshot was built from a state, with the configured tolerance. -/
def FromState (wrappedAngle : ℚ → ℚ) (config : MonitorConfig) (s : RobotSnapshot) : Prop :=
  ∃ state receivedAtMs stale, RobotSnapshot.fromState wrappedAngle state receivedAtMs stale
    config.poseTolerance = .ok s

/-- Every fresh robot of a component with an edge whose path is not empty moves along it. -/
def NoIdlePath (wrappedAngle : ℚ → ℚ) (config : MonitorConfig) (geometry : Geometry G)
    (call : Call) : Prop :=
  ∀ m, buildConflictModel geometry (call.observed config) = .ok m →
    ∀ K ∈ m.connectedComponents, HasEdge m K → ∀ s ∈ call.observed config,
      s.deviceId ∈ K → s.stale = false → s.state.path ≠ [] → Moves wrappedAngle config s

/-- **Reported progress is real**: without the alarm, every component with an edge has a resumed
robot that moves, and every robot that acquired a grant moves. -/
def RealProgress (wrappedAngle : ℚ → ℚ) (config : MonitorConfig) (call : Call)
    (d : EngineDecision) : Prop :=
  (AlarmCode.unresolvableWithPauseResume.value ∉ d.tickMetadata.alarms →
    ∀ K ∈ d.tickMetadata.connectedComponents, (∃ e ∈ d.tickMetadata.conflictEdges, e.1 ∈ K) →
      ∃ s ∈ call.observed config, s.deviceId ∈ K ∧ d.returned s.deviceId = .resume ∧
        Moves wrappedAngle config s) ∧
  ∀ s ∈ call.observed config, s.deviceId ∈ d.tickMetadata.acquiredGrants →
    Moves wrappedAngle config s

/-- A snapshot built from a state is at its goal iff its path is empty. -/
lemma FromState.path_ne_nil {s : RobotSnapshot} (h : FromState wrappedAngle config s)
    (hgoal : s.atGoal = false) : s.state.path ≠ [] := by
  obtain ⟨state, receivedAtMs, stale, h⟩ := h
  obtain ⟨⟨nextPose, atGoal⟩, hnext, hs⟩ := bind_eq_ok.mp h
  obtain rfl := Except.ok.inj hs
  obtain rfl : atGoal = false := hgoal
  rcases deriveNextPose_cases hnext with ⟨-, -, h⟩ | ⟨rest, h, -⟩ | ⟨first, rest, h, -⟩
  · cases h
  · exact fun hnil => by simp [h] at hnil
  · exact fun hnil => by simp [h] at hnil

/-- Deriving staleness keeps what a snapshot was built from. -/
lemma Call.fromState_observed {call : Call}
    (h : ∀ s ∈ call.snapshots, FromState wrappedAngle config s) :
    ∀ s ∈ call.observed config, FromState wrappedAngle config s := by
  intro s hs
  obtain ⟨t, ht, rfl⟩ := mem_observed.mp hs
  obtain ⟨state, receivedAtMs, stale, hbuilt⟩ := h t ht
  obtain ⟨⟨nextPose, atGoal⟩, hnext, hbuilt⟩ := bind_eq_ok.mp hbuilt
  obtain rfl := Except.ok.inj hbuilt
  exact ⟨state, receivedAtMs, _, bind_eq_ok.mpr ⟨_, hnext, rfl⟩⟩

/-- A robot that is resumed in a component with an edge is available, so it moves when no path is
idle. -/
lemma ShippedTick.resumed_moves {call : Call} {g after prepared : GrantManager}
    {tick : TickDecision ℕ}
    (h : ShippedTick config geometry call.snapshots call.nowMs g tick after prepared)
    (hbuilt : ∀ s ∈ call.snapshots, FromState wrappedAngle config s)
    (hidle : NoIdlePath wrappedAngle config geometry call) {K : List RobotId}
    (hK : K ∈ tick.conflictModel.connectedComponents) (hlen : 2 ≤ K.length) {s : RobotSnapshot}
    (hs : s ∈ call.observed config) (hsK : s.deviceId ∈ K)
    (hresume : actionOf tick.decisions s.deviceId = .resume) : Moves wrappedAngle config s := by
  have havail : s.unavailable = false := by
    by_contra hun
    rw [Bool.not_eq_false] at hun
    rw [h.unavailable ⟨s, (h.represents.lookup_iff _ _).mpr ⟨hs, rfl⟩, hun⟩] at hresume
    cases hresume
  obtain ⟨hstale, hgoal⟩ := Bool.or_eq_false_iff.mp havail
  exact hidle _ h.built K hK ((hasEdge_iff h.wellFormed hK).mpr hlen) s hs hsK hstale
    ((Call.fromState_observed hbuilt s hs).path_ne_nil hgoal)

/-- **One call** from a reachable state makes real progress when no path is idle.

**Proof sketch.** A component with an edge is resolved (`ShippedTick.resolved`): by a Resume, which
moves its robot because the path is not idle, or by the alarm. A robot that acquired a grant is
resumed and has an edge. -/
lemma decide_realProgress {state state' : EngineState ℕ Store ℕ}
    (hreach : (shippedMachine config geometry cpSat).Reachable state) {call : Call}
    (hbuilt : ∀ s ∈ call.snapshots, FromState wrappedAngle config s)
    (hidle : NoIdlePath wrappedAngle config geometry call) {d : EngineDecision}
    (h : (shippedDecide config geometry cpSat call.snapshots call.nowMs call.tickId).run state =
      .ok d state') : RealProgress wrappedAngle config call d := by
  obtain ⟨tick, after, prepared, _, _, hstages, hreport, -, hgranted⟩ :=
    shipped_of_reachable hreach h
  have hm := hstages.wellFormed
  obtain ⟨solved, -, hpreview⟩ := hstages.solved
  have hreturned := hstages.returned_eq hreport
  obtain ⟨_, hmeta⟩ := hreport.metadata
  rw [RealProgress, hreturned, hmeta]
  refine ⟨fun hquiet K hK hedge => ?_, fun s hs hacquired => ?_⟩
  · change AlarmCode.unresolvableWithPauseResume.value ∉ tickAlarms tick at hquiet
    change K ∈ tick.conflictModel.connectedComponents at hK
    have hedge : HasEdge tick.conflictModel K := (hasEdge_iff_edges hm hK).mpr hedge
    have hlen := (hasEdge_iff hm hK).mp hedge
    rcases hstages.resolved hK hlen with ⟨-, -, -, r, hrK, hresume⟩ | ⟨hnot, -⟩
    · obtain ⟨s, hs, rfl⟩ := (hstages.represents.mem_snapshots_iff r).mp (hm.mem_snapshots hK hrK)
      exact ⟨s, hs, hrK, hresume, hstages.resumed_moves hbuilt hidle hK hlen hs hrK hresume⟩
    · refine absurd ?_ hquiet
      rw [unresolvable_mem_tickAlarms, hpreview.alarm]
      exact ⟨K, hK, hlen, hnot⟩
  · obtain ⟨result, hresult, hmem⟩ : ∃ result, tick.grantResult = some result ∧
        s.deviceId ∈ result.val.acquiredGrants := by
      change s.deviceId ∈ (tick.grantResult.map fun result =>
        result.val.acquiredGrants).getD [] at hacquired
      cases hgrant : tick.grantResult with
      | none =>
        rw [hgrant] at hacquired
        cases hacquired
      | some result =>
        rw [hgrant] at hacquired
        exact ⟨result, rfl, hacquired⟩
    obtain ⟨hresume, -, hadj⟩ := ((hgranted result hresult).2.2 _).mp hmem
    obtain ⟨K, hK, hsK⟩ := (hm.mem_component_iff _).mp
      ((hstages.represents.mem_snapshots_iff _).mpr ⟨s, hs, rfl⟩)
    exact hstages.resumed_moves hbuilt hidle hK (hm.two_le_length hK hsK hadj) hs hsK
      (actionOf_eq hresume)

/-- The calls of a run that return, with their decisions. A call that raises leaves its state to
the next one. -/
def outcomes (config : MonitorConfig) (geometry : Geometry G) (cpSat : ℕ → Backend) :
    List Call → EngineState ℕ Store ℕ → List (Call × EngineDecision)
  | [], _ => []
  | call :: calls, state =>
    match (shippedDecide config geometry cpSat call.snapshots call.nowMs call.tickId).run state with
    | .ok d state' => (call, d) :: outcomes config geometry cpSat calls state'
    | .error _ state' => outcomes config geometry cpSat calls state'

/-- What holds of every call from a reachable state holds along every run. -/
lemma forall_outcomes {P : Call → EngineDecision → Prop} {Good : Call → Prop}
    (hstep : ∀ state state' call d, (shippedMachine config geometry cpSat).Reachable state →
      Good call → (shippedDecide config geometry cpSat call.snapshots call.nowMs
        call.tickId).run state = .ok d state' → P call d)
    {calls : List Call} (hcalls : ∀ call ∈ calls, Good call) {state : EngineState ℕ Store ℕ}
    (hreach : (shippedMachine config geometry cpSat).Reachable state) :
    ∀ x ∈ outcomes config geometry cpSat calls state, P x.1 x.2 := by
  induction calls generalizing state with
  | nil => exact fun x hx => by cases hx
  | cons call calls ih =>
    rw [List.forall_mem_cons] at hcalls
    intro x hx
    unfold outcomes at hx
    split at hx
    · next d state' hrun =>
      have hnext := hreach.step (t := state')
        ⟨call.snapshots, call.nowMs, call.tickId, by rw [hrun]; rfl⟩
      rcases List.mem_cons.mp hx with rfl | hx
      · exact hstep _ _ _ _ hreach hcalls.1 hrun
      · exact ih hcalls.2 hnext x hx
    · next e state' hrun =>
      have hnext := hreach.step (t := state')
        ⟨call.snapshots, call.nowMs, call.tickId, by rw [hrun]; rfl⟩
      exact ih hcalls.2 hnext x hx

/-- **Progress is real in runs without idle paths.** Whatever CP-SAT answers, when every call of a
run is given snapshots of states and no path is idle, every decision of the run makes real
progress.

**Proof sketch.** Every call of the run starts in a reachable state, and there a tick makes real
progress (`decide_realProgress`): a Resume on an edge moves its robot, because a path that is not
idle leads away from where the robot stands. -/
theorem outcomes_realProgress {calls : List Call}
    (hbuilt : ∀ call ∈ calls, ∀ s ∈ call.snapshots, FromState wrappedAngle config s)
    (hidle : ∀ call ∈ calls, NoIdlePath wrappedAngle config geometry call) (world : ℕ) :
    ∀ x ∈ outcomes config geometry cpSat calls (EngineState.initial world),
      RealProgress wrappedAngle config x.1 x.2 :=
  forall_outcomes
    (fun _ _ _ _ hreach (hgood : (∀ s ∈ _, FromState wrappedAngle config s) ∧
      NoIdlePath wrappedAngle config geometry _) hrun =>
        decide_realProgress hreach hgood.1 hgood.2 hrun)
    (fun call hcall => ⟨hbuilt call hcall, hidle call hcall⟩) (.init ⟨world, rfl⟩)

/-- A robot on the line was built from its state. -/
lemma fromState_lineSnapshot (robotId : RobotId) (x next : ℚ) :
    FromState id defaultConfig (lineSnapshot robotId x next) := by
  refine ⟨lineState robotId x [x, next], 0, false, ?_⟩
  have hsame : posesEqual id (lineState robotId x [x, next]).currentPose ⟨x, 0, 0⟩
      defaultConfig.poseTolerance = .ok true :=
    posesEqual_self rfl _ defaultConfig.poseTolerance_pos.le
  exact bind_eq_ok.mpr ⟨(⟨next, 0, 0⟩, false), bind_eq_ok.mpr ⟨true, hsame, rfl⟩, rfl⟩

/-- A run of two calls about approaching robots. -/
def approachingCalls : List Call := [⟨approaching, 0, "first"⟩, ⟨approaching, 100, "second"⟩]

/-- Both calls about approaching robots make real progress. -/
theorem outcomes_realProgress_approaching :
    (outcomes defaultConfig lineGeometry (fun _ => none) approachingCalls
      (EngineState.initial 0)).length = 2 ∧
    ∀ x ∈ outcomes defaultConfig lineGeometry (fun _ => none) approachingCalls
      (EngineState.initial 0), RealProgress id defaultConfig x.1 x.2 := by
  have hmoves : ∀ call ∈ approachingCalls, ∀ s ∈ call.observed defaultConfig,
      Moves id defaultConfig s := by
    intro call hcall s hs
    obtain ⟨t, ht, rfl⟩ := mem_observed.mp hs
    refine posesEqual_of_lt_abs defaultConfig.poseTolerance_pos.le ?_
    simp only [approachingCalls, List.mem_cons, List.not_mem_nil, or_false] at hcall
    rcases hcall with rfl | rfl
    all_goals
      simp only [approaching, List.mem_cons, List.not_mem_nil, or_false] at ht
      rcases ht with rfl | rfl
      all_goals decide +kernel
  refine ⟨by decide +kernel, outcomes_realProgress (fun call hcall s hs => ?_)
    (fun call hcall _ _ _ _ _ s hs _ _ _ => hmoves call hcall s hs) 0⟩
  simp only [approachingCalls, List.mem_cons, List.not_mem_nil, or_false] at hcall
  rcases hcall with rfl | rfl
  all_goals
    simp only [approaching, List.mem_cons, List.not_mem_nil, or_false] at hs
    rcases hs with rfl | rfl
    all_goals exact fromState_lineSnapshot _ _ _

/-- The path of the first robot repeats its current pose, and it stands in the way of the second. -/
def idleCall : Call := ⟨[lineSnapshot robotA 0 0, lineSnapshot robotB 5 (-3)], 0, "first"⟩

/-- **An idle Resume hides a deadlock**: the second robot is paused for the first one, which is
resumed but has nowhere to go, and there is no alarm. -/
theorem decide_not_realProgress_idle :
    (∀ s ∈ idleCall.snapshots, FromState id defaultConfig s) ∧
    ∃ d state', (shippedDecide defaultConfig lineGeometry (fun _ => none) idleCall.snapshots
      idleCall.nowMs idleCall.tickId).run (EngineState.initial 0) = .ok d state' ∧
        ¬ RealProgress id defaultConfig idleCall d := by
  refine ⟨by simp [idleCall, fromState_lineSnapshot], ?_⟩
  obtain ⟨d, state', hrun, hquiet, hcomponent, hedge, hpaused⟩ := Ensures.exists_ok
    (x := shippedDecide defaultConfig lineGeometry (fun _ => none) idleCall.snapshots
      idleCall.nowMs idleCall.tickId) (s := EngineState.initial 0)
    (Q := fun d _ => AlarmCode.unresolvableWithPauseResume.value ∉ d.tickMetadata.alarms ∧
      [robotA, robotB] ∈ d.tickMetadata.connectedComponents ∧
      (robotA, robotB) ∈ d.tickMetadata.conflictEdges ∧ EngineDecision.returned d robotB = .pause)
    (by decide +kernel)
  refine ⟨d, state', hrun, fun hreal => ?_⟩
  obtain ⟨s, hs, -, hresume, hmoves⟩ := hreal.1 hquiet _ hcomponent ⟨_, hedge, by simp⟩
  obtain ⟨t, ht, rfl⟩ := mem_observed.mp hs
  simp only [idleCall, List.mem_cons, List.not_mem_nil, or_false] at ht
  rcases ht with rfl | rfl
  · -- the next pose of the first robot is its current one
    have hsame : posesEqual id ⟨0, 0, 0⟩ ⟨0, 0, 0⟩ defaultConfig.poseTolerance = .ok true :=
      posesEqual_self rfl _ defaultConfig.poseTolerance_pos.le
    cases hsame.symm.trans hmoves
  · cases hpaused.symm.trans hresume

end Real

end CollisionMonitor
