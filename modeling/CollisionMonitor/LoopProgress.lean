import CollisionMonitor.ClosedLoop
import CollisionMonitor.Progress

set_option relaxedAutoImplicit false
set_option autoImplicit false

/-!
# No silent deadlock in the closed loop

As long as the alarm for an unresolvable component is not raised, every tick resumes a robot that
still has a future node, so the robots advance by at least one node in each tick, and a run that is
long enough completes.

## Main definitions

* `Simulation.Quiet` — no tick so far reported the alarm.
* `Simulation.nodesAdvanced`, `ScenarioDefinition.futureNodes` — the nodes passed and those to pass.
* `LoopProgress` — what a quiet run has achieved.

## Main results

* `nodes_conserved` — the nodes that a robot passed and those that remain are those it started with.
* `loop_progress` — progress in every tick, and completion.
-/

namespace CollisionMonitor

open Outcome

/-! ## Counting nodes -/

section Nodes

variable {τ : Type} {transport : SimulatorTickTransport τ} {startEpochMs : ℤ}
  {scenario : ScenarioDefinition} {tickLimit : ℕ} {initial : τ} {s s' : Simulation τ}

/-- No tick so far reported a component that Pause and Resume cannot resolve. -/
def Simulation.Quiet (s : Simulation τ) : Prop :=
  ∀ outcome ∈ s.outcomes, AlarmCode.unresolvableWithPauseResume.value ∉ outcome.alarms

/-- The nodes that robots have advanced. -/
def nodesAdvanced (robots : List SimulatedRobot) : ℕ :=
  (robots.map SimulatedRobot.nodesAdvanced).sum

/-- The future path nodes of a scenario. -/
def ScenarioDefinition.futureNodes (scenario : ScenarioDefinition) : ℕ :=
  (scenario.robots.map fun robot => robot.path.length).sum

/-- The movement phase keeps the nodes passed and remaining of a robot together. -/
lemma SimulatedRobot.nodes_of_advance {robot moved : SimulatedRobot} {tick : ℤ}
    (h : robot.advanceForTick tick = .ok moved) :
    moved.nodesAdvanced + moved.remainingPath.length =
      robot.nodesAdvanced + robot.remainingPath.length := by
  rcases SimulatedRobot.advanceForTick_eq_ok h with ⟨-, -, hadvanced⟩ | ⟨-, rfl⟩
  · rw [hadvanced.nodesAdvanced, hadvanced.remainingPath, List.length_cons]
    omega
  · rfl

/-- **Nodes are conserved** along every run: what a robot has passed and what remains of its path
are what it started with. -/
theorem nodes_conserved
    (h : (simulationMachine transport startEpochMs scenario tickLimit initial).Reachable s) :
    (s.robots.map fun robot => robot.nodesAdvanced + robot.remainingPath.length).sum =
      (scenario.robots.map fun robot => robot.path.length + 1).sum := by
  refine h.invariant (P := fun s => (s.robots.map fun robot =>
    robot.nodesAdvanced + robot.remainingPath.length).sum =
      (scenario.robots.map fun robot => robot.path.length + 1).sum) ?_ fun s s' _ hs hstep => ?_
  · rintro _ ⟨robots, hrobots, rfl⟩
    have hcreated := map_of_mapM (g := fun robot : SimulatedRobot =>
        robot.nodesAdvanced + robot.remainingPath.length)
      (k := fun definition : ScenarioRobot => definition.path.length + 1) hrobots
      fun _ _ hcreate => by
        obtain ⟨-, -, hpath, -, hnodes, -⟩ := SimulatedRobot.create_eq_ok hcreate
        rw [hnodes, hpath, List.length_cons, Nat.zero_add]
    rw [hcreated]
    exact ((sortedBy_perm ScenarioRobot.deviceId scenario.robots).map _).sum_eq
  · obtain ⟨-, moved, payloads, outcome, hticked⟩ := ticked_of_step hstep
    obtain ⟨_, _, hdelivered⟩ := bind_eq_ok.mp hticked.delivered
    rw [← hs, ← Except.ok.inj hdelivered, List.map_map, List.map_map,
      ← map_of_mapM hticked.moved_eq fun _ _ hadvance =>
        SimulatedRobot.nodes_of_advance hadvance]
    congr 1
    refine List.map_congr_left fun robot _ => ?_
    obtain ⟨-, -, hpath, hnodes, -⟩ := robot.afterPublication_deliver_same outcome.actions
    exact congrArg₂ _ hnodes (congrArg _ hpath)

/-- A run keeps its robots. -/
lemma robots_length
    (h : (simulationMachine transport startEpochMs scenario tickLimit initial).Reachable s) :
    s.robots.length = scenario.robots.length := by
  refine h.invariant (P := fun s => s.robots.length = scenario.robots.length) ?_
    fun s s' _ hs hstep => ?_
  · rintro _ ⟨robots, hrobots, rfl⟩
    rw [← (mapM_eq_ok.mp hrobots).length_eq]
    exact (sortedBy_perm _ _).length_eq
  · obtain ⟨-, moved, payloads, outcome, hticked⟩ := ticked_of_step hstep
    have hids := congrArg List.length hticked.robotIds.2
    rwa [List.length_map, List.length_map, hs] at hids

/-- While robots remain before their goals, fewer nodes have been passed than the scenario has. -/
lemma nodesAdvanced_lt
    (h : (simulationMachine transport startEpochMs scenario tickLimit initial).Reachable s)
    (hunfinished : s.finished = false) : nodesAdvanced s.robots < scenario.futureNodes := by
  have hconserved := nodes_conserved h
  rw [List.sum_map_add, List.sum_map_add] at hconserved
  have hlength : s.robots.length = scenario.robots.length := robots_length h
  -- every remaining path holds the pose of its robot, and one holds another node
  have hremaining : (s.robots.map fun _ => 1).sum <
      (s.robots.map fun robot => robot.remainingPath.length).sum := by
    obtain ⟨robot, hrobot, hgoal⟩ := List.all_eq_false.mp hunfinished
    refine List.sum_lt_sum _ _ (fun other _ => ?_) ⟨robot, hrobot, ?_⟩
    · exact List.length_pos_of_mem (List.mem_of_mem_head? other.remaining_head)
    · simpa [SimulatedRobot.atGoal] using hgoal
  simp only [List.map_const', List.sum_replicate, smul_eq_mul, mul_one] at hremaining hconserved
  unfold nodesAdvanced ScenarioDefinition.futureNodes
  omega

/-- When some robot is resumed before its goal, the movement phase passes a node. -/
lemma nodesAdvanced_lt_moved {robots moved : List SimulatedRobot} {tick : ℤ}
    (h : robots.mapM (fun robot => robot.advanceForTick tick) = .ok moved)
    {robot : SimulatedRobot} (hrobot : robot ∈ robots) (hresume : robot.latestAction = .resume)
    (hgoal : robot.atGoal = false) : nodesAdvanced robots < nodesAdvanced moved := by
  have hcount : ∀ robot moved : SimulatedRobot, robot.advanceForTick tick = .ok moved →
      moved.nodesAdvanced = robot.nodesAdvanced +
        if robot.latestAction = .resume ∧ robot.atGoal = false then 1 else 0 := by
    intro robot moved hadvance
    rcases SimulatedRobot.advanceForTick_eq_ok hadvance with
      ⟨hresume, hgoal, hadvanced⟩ | ⟨hstays, rfl⟩
    · rw [hadvanced.nodesAdvanced, if_pos ⟨hresume, hgoal⟩]
    · rw [if_neg, Nat.add_zero]
      rintro ⟨hresume, hgoal⟩
      rw [hgoal] at hstays
      simp [hresume] at hstays
  unfold nodesAdvanced
  rw [map_of_mapM h hcount]
  refine List.sum_lt_sum _ _ (fun _ _ => Nat.le_add_right _ _) ⟨robot, hrobot, ?_⟩
  rw [if_pos ⟨hresume, hgoal⟩]
  exact Nat.lt_succ_self _

end Nodes

/-! ## Progress -/

section Progress

variable {E : Type} {wrappedAngle : ℚ → ℚ} {config : MonitorConfig} {geometry : Geometry E}
  {cpSat : ℕ → Backend} {runId : String} {startEpochMs : ℤ} {scenario : ScenarioDefinition}
  {tickLimit : ℕ}

/-- A robot with a future node is under a Resume of the last outcome. -/
def Simulation.Resumes {τ : Type} (s : Simulation τ) : Prop :=
  ∃ robot ∈ s.robots, robot.atGoal = false ∧ robot.latestAction = .resume ∧
    s.lastAction robot.robotId = some .resume

/-- What a quiet run has achieved between its ticks. -/
structure LoopProgress (s : LoopState) : Prop where
  resumes : 1 ≤ s.ticksRun → s.finished = false → s.Resumes
  advanced : s.ticksRun ≤ nodesAdvanced s.robots + 1

/-- **One tick** without the alarm resumes a robot before its goal, if there is one. -/
lemma LoopTick.resumes {s s' : LoopState} {fleet : List RobotSnapshot}
    {decision : EngineDecision} {outcome : SimulatorTickOutcome}
    (h : LoopTick wrappedAngle config geometry cpSat s s' fleet decision outcome)
    (hinv : LoopInvariant config geometry cpSat s) (hlimit : 1 ≤ config.staleLimitMs)
    (hquiet : s'.Quiet) (hunfinished : s'.finished = false) : s'.Resumes := by
  obtain ⟨snapshots, nowMs, tickId, rfl, hrun⟩ := h.decided
  have halarm : AlarmCode.unresolvableWithPauseResume.value ∉ decision.tickMetadata.alarms := by
    rw [← h.alarms]
    refine hquiet outcome ?_
    rw [h.outcomes]
    exact List.mem_append_right _ (List.mem_singleton_self _)
  -- a robot before its goal has just published, so it is available
  obtain ⟨waiting, hwaiting, hgoal⟩ := List.all_eq_false.mp hunfinished
  rw [Bool.not_eq_true] at hgoal
  obtain ⟨seen, hseen, hshows⟩ := h.seen waiting hwaiting
  obtain ⟨snapshot, hsnapshot, hnotGoal, hresume⟩ := decide_resumes hinv.engine hrun halarm
    ⟨seen, hseen, by
      rw [RobotSnapshot.unavailable, hshows.fresh hlimit hgoal, hshows.atGoal, hgoal]
      rfl⟩
  obtain ⟨robot, hrobot, hof⟩ := h.known snapshot hsnapshot
  have hid : snapshot.deviceId = robot.robotId := hof.describes.deviceId
  rw [hid] at hresume
  have hbefore : robot.atGoal = false := hof.atGoal ▸ hnotGoal
  obtain ⟨hlast, hlatest⟩ := h.latestAction hrobot
  exact ⟨robot, hrobot, hbefore, (hlatest hbefore).trans hresume, by rw [hlast, hresume]⟩

/-- In the movement phase after `ticksRun` quiet ticks, the robots have passed that many nodes. -/
lemma LoopProgress.moved {s : LoopState} (h : LoopProgress s) (hcontinues : s.Continues tickLimit)
    {moved : List SimulatedRobot} {tick : ℤ}
    (hmoved : s.robots.mapM (fun robot => robot.advanceForTick tick) = .ok moved) :
    s.ticksRun ≤ nodesAdvanced moved := by
  have hadvanced := h.advanced
  rcases hcontinues.2 with hzero | hunfinished
  · omega
  · rcases Nat.eq_zero_or_pos s.ticksRun with hzero | hpos
    · omega
    · obtain ⟨robot, hrobot, hgoal, hresume, -⟩ := h.resumes hpos hunfinished
      have hlt := nodesAdvanced_lt_moved hmoved hrobot hresume hgoal
      omega

/-- **A quiet run makes progress** in every tick. -/
lemma loopProgress (hlimit : 1 ≤ config.staleLimitMs) {s : LoopState}
    (hreach : (loopMachine wrappedAngle config geometry cpSat runId startEpochMs scenario
      tickLimit).Reachable s) : s.Quiet → LoopProgress s := by
  refine hreach.invariant (P := fun s => s.Quiet → LoopProgress s) ?_
    fun s s' hs hprogress hstep hquiet => ?_
  · rintro _ ⟨robots, -, rfl⟩ -
    exact ⟨fun hone => absurd hone (Nat.not_succ_le_zero 0), Nat.zero_le _⟩
  · obtain ⟨hcontinues, moved, payloads, outcome, hticked⟩ := ticked_of_step hstep
    have hinv := loopInvariant hs
    obtain ⟨-, fleet, decision, htick⟩ := hinv.tick hticked
    have hbefore : s.Quiet := fun earlier hearlier => hquiet earlier (by
      rw [hticked.outcomes]
      exact List.mem_append_left _ hearlier)
    refine ⟨fun _ hunfinished => htick.resumes hinv hlimit hquiet hunfinished, ?_⟩
    have hmoved := (hprogress hbefore).moved hcontinues hticked.moved_eq
    obtain ⟨_, _, hdelivered⟩ := bind_eq_ok.mp hticked.delivered
    have hsame : nodesAdvanced s'.robots = nodesAdvanced moved := by
      rw [← Except.ok.inj hdelivered, nodesAdvanced, List.map_map, List.map_map]
      refine congrArg _ (List.map_congr_left fun robot _ => ?_)
      exact (robot.afterPublication_deliver_same outcome.actions).2.2.2.1
    rw [hticked.ticksRun, hsame]
    omega

/-- **No silent deadlock in the closed loop.** Whatever CP-SAT answers: as long as no tick reported
the alarm and not every robot is at its goal, the outcome of every tick resumes a robot that still
has a future node, and after the movement phase of tick `T` at least `T - 1` nodes were passed. So a
run that never reports the alarm, with a tick limit above the number of future nodes, completes.

**Proof sketch.** As long as no alarm was reported, the last outcome resumes a robot before its goal
(`loopProgress`), which passes a node in the next movement phase. So the number of nodes passed
grows with the ticks, and it is bounded by that of the scenario (`nodesAdvanced_lt`). -/
theorem loop_progress (hlimit : 1 ≤ config.staleLimitMs) :
    (∀ tickLimit s, (loopMachine wrappedAngle config geometry cpSat runId startEpochMs scenario
        tickLimit).Reachable s → s.Quiet →
      (1 ≤ s.ticksRun → s.finished = false → ∃ robot ∈ s.robots, robot.atGoal = false ∧
        s.lastAction robot.robotId = some .resume) ∧
      (s.Continues tickLimit → ∀ moved : List SimulatedRobot,
        s.robots.mapM (fun robot => robot.advanceForTick (s.ticksRun + 1 : ℕ)) = .ok moved →
          s.ticksRun ≤ nodesAdvanced moved)) ∧
    ∀ maximumTicks result, runInMemoryScenario wrappedAngle config geometry cpSat runId scenario
        startEpochMs maximumTicks = .ok result →
      (∀ outcome ∈ result.tickOutcomes,
        AlarmCode.unresolvableWithPauseResume.value ∉ outcome.alarms) →
      (scenario.futureNodes + 1 : ℕ) ≤ maximumTicks.getD scenario.maxTicks →
      result.completed = true := by
  refine ⟨fun tickLimit s hreach hquiet => ?_, fun maximumTicks result hrun hquiet hlong => ?_⟩
  · have hprogress := loopProgress hlimit hreach hquiet
    refine ⟨fun hpos hunfinished => ?_, fun hcontinues moved hmoved =>
      hprogress.moved hcontinues hmoved⟩
    obtain ⟨robot, hrobot, hgoal, -, hlast⟩ := hprogress.resumes hpos hunfinished
    exact ⟨robot, hrobot, hgoal, hlast⟩
  · obtain ⟨-, s, hreach, hstops, rfl⟩ := runScenario_reachable hrun
    by_contra hincomplete
    have hunfinished : s.finished = false := (Bool.not_eq_true _).mp hincomplete
    have hadvanced := (loopProgress hlimit hreach hquiet).advanced
    have hremaining := nodesAdvanced_lt hreach hunfinished
    refine hstops ⟨?_, .inr hunfinished⟩
    omega

/-- The run of the two robots raises no alarm, so it completes within five ticks. -/
theorem loop_progress_following : ∃ result, runInMemoryScenario id defaultConfig lineGeometry
    (fun _ => none) "run" followingScenario 0 (some 5) = .ok result ∧ result.completed = true := by
  obtain ⟨result, hrun, hquiet⟩ := Returns.exists_ok
    (x := runInMemoryScenario id defaultConfig lineGeometry (fun _ => none) "run"
      followingScenario 0 (some 5))
    (Q := fun result => ∀ outcome ∈ result.tickOutcomes,
      AlarmCode.unresolvableWithPauseResume.value ∉ outcome.alarms) (by decide +kernel)
  exact ⟨result, hrun, (loop_progress (by decide +kernel)).2 (some 5) result hrun hquiet
    (by decide)⟩

end Progress

end CollisionMonitor
