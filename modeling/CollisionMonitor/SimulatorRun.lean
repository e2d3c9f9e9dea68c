import CollisionMonitor.Lib.Machine
import CollisionMonitor.Lib.Triple
import CollisionMonitor.Simulator

set_option relaxedAutoImplicit false
set_option autoImplicit false

/-!
# Runs of the simulator

The loop of a scenario run as a machine over the states between its ticks, for any transport, and
the law that relates the movements of a robot to the Resume actions it received.

## Main definitions

* `Simulation.Continues` — whether the loop starts another tick.
* `simulationMachine` — the states between the ticks of a run.
* `Ticked` — what one tick does.
* `Answered`, `OneMovementPerResume` — no robot under a Resume lost its action; one Resume
  authorises one movement.

## Main results

* `simulationTick_eq_ok` — every tick that returns does what `Ticked` says.
* `runScenario_reachable` — the result of a run is that of a state in which the loop stops.
* `oneMovementPerResume_iff` — the law holds in exactly the runs in which no action is lost.
-/

namespace CollisionMonitor

open Outcome

/-! ## The machine -/

section Machine

variable {τ : Type} (transport : SimulatorTickTransport τ) (startEpochMs : ℤ)

/-- The loop starts another tick: the limit is not reached, and after a tick some robot is not at
its goal. -/
def Simulation.Continues (tickLimit : ℕ) (simulation : Simulation τ) : Prop :=
  simulation.ticksRun < tickLimit ∧ (simulation.ticksRun = 0 ∨ simulation.finished = false)

/-- `int(scenario.tick_interval_seconds * 1_000)`. -/
def ScenarioDefinition.tickDurationMs (scenario : ScenarioDefinition) : ℤ :=
  ⌊scenario.tickIntervalSeconds * 1000⌋

/-- The states of a run between its ticks. -/
def simulationMachine (scenario : ScenarioDefinition) (tickLimit : ℕ) (initial : τ) :
    Machine (Simulation τ) where
  init := fun simulation => ∃ robots, scenario.createRobots startEpochMs = .ok robots ∧
    simulation = { robots, transport := initial }
  step := fun simulation simulation' => simulation.Continues tickLimit ∧
    (simulationTick transport startEpochMs scenario.tickDurationMs (simulation.ticksRun + 1)).run
      simulation = .ok ⟨⟩ simulation'

/-- **What one tick does.** The robots move, those that publish send their states, the transport
answers, and the actions are delivered. -/
structure Ticked (tickDurationMs : ℤ) (simulation simulation' : Simulation τ)
    (moved : List SimulatedRobot) (payloads : List StatePayloadFields)
    (outcome : SimulatorTickOutcome) : Prop where
  moved_eq : simulation.robots.mapM (fun robot =>
    robot.advanceForTick (simulation.ticksRun + 1 : ℕ)) = .ok moved
  published : (moved.filter SimulatedRobot.shouldPublishState).mapM (fun robot =>
    robot.statePayload (startEpochMs + simulation.ticksRun * tickDurationMs)) = .ok payloads
  exchanged : (transport.exchangeTick payloads (sorted (moved.map SimulatedRobot.robotId))).run
    simulation.transport = .ok outcome simulation'.transport
  delivered : deliverActions (moved.map fun robot =>
    if robot.shouldPublishState then robot.markStatePublished else robot) outcome.actions =
      .ok simulation'.robots
  outcomes : simulation'.outcomes = simulation.outcomes ++ [outcome]
  alarms : simulation'.alarms = simulation.alarms ++ outcome.alarms
  ticksRun : simulation'.ticksRun = simulation.ticksRun + 1

end Machine

section Runs

variable {τ : Type} {transport : SimulatorTickTransport τ} {startEpochMs tickDurationMs : ℤ}
  {scenario : ScenarioDefinition} {tickLimit : ℕ} {initial : τ}
  {simulation simulation' : Simulation τ}

/-- Every tick that returns does this. -/
lemma simulationTick_eq_ok {u : PUnit}
    (h : (simulationTick transport startEpochMs tickDurationMs (simulation.ticksRun + 1)).run
      simulation = .ok u simulation') :
    ∃ moved payloads outcome,
      Ticked transport startEpochMs tickDurationMs simulation simulation' moved payloads outcome := by
  obtain ⟨_, _, hget, h⟩ := run_bind_eq_ok.mp h
  cases hget
  obtain ⟨moved, _, hlift, h⟩ := run_bind_eq_ok.mp h
  obtain ⟨hmoved, rfl⟩ := run_lift_eq_ok.mp hlift
  obtain ⟨payloads, _, hlift, h⟩ := run_bind_eq_ok.mp h
  obtain ⟨hpayloads, rfl⟩ := run_lift_eq_ok.mp hlift
  obtain ⟨outcome, _, hzoom, h⟩ := run_bind_eq_ok.mp h
  obtain ⟨transport', rfl, hexchange⟩ := ((Ensures.of_runs fun o s hrun => hrun).zoom).get_ok hzoom
  obtain ⟨delivered, _, hlift, h⟩ := run_bind_eq_ok.mp h
  obtain ⟨hdelivered, rfl⟩ := run_lift_eq_ok.mp hlift
  obtain ⟨-, rfl⟩ := EStateM.Result.ok.inj h
  refine ⟨moved, payloads, outcome, hmoved, ?_, hexchange, hdelivered, rfl, rfl, rfl⟩
  simpa using hpayloads

/-- A step of the machine is a tick. -/
lemma ticked_of_step
    (h : (simulationMachine transport startEpochMs scenario tickLimit initial).step simulation
      simulation') :
    simulation.Continues tickLimit ∧ ∃ moved payloads outcome,
      Ticked transport startEpochMs scenario.tickDurationMs simulation simulation' moved payloads
        outcome :=
  ⟨h.1, simulationTick_eq_ok h.2⟩

/-- The loop runs the machine until it stops. -/
lemma simulationLoop_reachable (remaining : ℕ) {u : PUnit} :
    ∀ simulation, (simulationMachine transport startEpochMs scenario tickLimit initial).Reachable
        simulation →
      simulation.ticksRun + remaining = tickLimit →
      (simulation.ticksRun = 0 ∨ simulation.finished = false) →
      (simulationLoop transport startEpochMs scenario.tickDurationMs remaining
        (simulation.ticksRun + 1)).run simulation = .ok u simulation' →
      (simulationMachine transport startEpochMs scenario tickLimit initial).Reachable simulation' ∧
        ¬ simulation'.Continues tickLimit := by
  induction remaining with
  | zero =>
    intro simulation hreach hlimit _ h
    obtain ⟨-, rfl⟩ := EStateM.Result.ok.inj h
    exact ⟨hreach, fun hcontinues => by have := hcontinues.1; omega⟩
  | succ remaining ih =>
    intro simulation hreach hlimit hgoes h
    obtain ⟨_, next, htick, h⟩ := run_bind_eq_ok.mp h
    obtain ⟨_, _, hget, h⟩ := run_bind_eq_ok.mp h
    cases hget
    have hcontinues : simulation.Continues tickLimit := ⟨by omega, hgoes⟩
    have hnext := hreach.step ⟨hcontinues, htick⟩
    obtain ⟨_, _, _, hticked⟩ := simulationTick_eq_ok htick
    have hcount := hticked.ticksRun
    by_cases hfinished : next.finished = true
    · rw [if_pos hfinished] at h
      obtain ⟨-, rfl⟩ := EStateM.Result.ok.inj h
      refine ⟨hnext, fun hcontinues => ?_⟩
      rcases hcontinues.2 with hzero | hgoing
      · omega
      · rw [hfinished] at hgoing
        cases hgoing
    · rw [if_neg hfinished, ← hcount] at h
      exact ih next hnext (by omega) (.inr (by simpa using hfinished)) h

/-- **The result of a run** is that of a state in which the loop stops. -/
theorem runScenario_reachable {maximumTicks : Option ℤ} {result : SimulationResult}
    (h : runScenario transport startEpochMs scenario maximumTicks initial = .ok result) :
    1 ≤ maximumTicks.getD scenario.maxTicks ∧ ∃ simulation,
      (simulationMachine transport startEpochMs scenario
        (maximumTicks.getD scenario.maxTicks).toNat initial).Reachable simulation ∧
      ¬ simulation.Continues (maximumTicks.getD scenario.maxTicks).toNat ∧
      result = simulation.result scenario := by
  obtain ⟨robots, hrobots, h⟩ := bind_eq_ok.mp h
  obtain ⟨_, hlimit, h⟩ := bind_eq_ok.mp h
  refine ⟨by simpa using hlimit, ?_⟩
  have hlimit : 1 ≤ maximumTicks.getD scenario.maxTicks := by simpa using hlimit
  dsimp only at h
  split at h
  · next closed hclose =>
    obtain rfl := Except.ok.inj h
    unfold closingTransport at hclose
    dsimp only [EStateM.run] at hclose
    split at hclose
    · next u simulation hloop =>
      -- closing changes only the transport, and the result does not mention it
      obtain ⟨transport', rfl, -⟩ :=
        ((Ensures.of_runs fun o s hrun => hrun).zoom).get_ok hclose
      have hinit : (simulationMachine transport startEpochMs scenario
          (maximumTicks.getD scenario.maxTicks).toNat initial).Reachable
          { robots, transport := initial } :=
        .init ⟨robots, hrobots, rfl⟩
      obtain ⟨hreach, hstops⟩ :=
        simulationLoop_reachable _ _ hinit (Nat.zero_add _) (.inl rfl) hloop
      exact ⟨simulation, hreach, hstops, rfl⟩
    · next e simulation hloop =>
      split at hclose <;> cases hclose
  · cases h

/-! ## Robots in a tick -/

namespace SimulatedRobot

/-- The robot moved to the next node of its path. -/
structure Advanced (robot moved : SimulatedRobot) : Prop where
  resumed : robot.latestAction = .resume
  remainingPath : robot.remainingPath = robot.pose :: moved.remainingPath
  nodesAdvanced : moved.nodesAdvanced = robot.nodesAdvanced + 1
  robotId : moved.robotId = robot.robotId
  latestAction : moved.latestAction = robot.latestAction
  resumes : moved.resumes = robot.resumes
  terminalStatePublished : moved.terminalStatePublished = robot.terminalStatePublished

variable {robot moved : SimulatedRobot} {tick : ℤ}

/-- A created robot is at its initial pose, before its path, and paused. -/
lemma create_eq_ok {robotId : RobotId} {pose : Pose ℚ} {futurePath : List (Pose ℚ)} {loaded : Bool}
    {batteryLevel : ℚ} {deadlineMs : ℤ} {robot : SimulatedRobot}
    (h : create robotId pose futurePath loaded batteryLevel deadlineMs =
      .ok robot) :
    robot.robotId = robotId ∧ robot.pose = pose ∧ robot.remainingPath = pose :: futurePath ∧
      robot.latestAction = .pause ∧ robot.nodesAdvanced = 0 ∧
      robot.terminalStatePublished = false := by
  obtain ⟨_, _, h⟩ := bind_eq_ok.mp h
  obtain ⟨_, _, h⟩ := bind_eq_ok.mp h
  obtain rfl := Except.ok.inj h
  exact ⟨rfl, rfl, rfl, rfl, rfl, rfl⟩

/-- A robot before its goal has a second node. -/
lemma atGoal_eq_false_iff :
    robot.atGoal = false ↔ ∃ next rest, robot.remainingPath = robot.pose :: next :: rest := by
  have hhead := robot.remaining_head
  rcases hpath : robot.remainingPath with _ | ⟨first, _ | ⟨next, rest⟩⟩
  · rw [hpath] at hhead
    cases hhead
  · simp [atGoal, hpath]
  · rw [hpath] at hhead
    obtain rfl := Option.some.inj hhead
    simp [atGoal, hpath]

/-- **The movement phase.** A robot under a Resume that is not at its goal advances; every other
robot stays as it is. -/
lemma advanceForTick_eq_ok (h : robot.advanceForTick tick = .ok moved) :
    (robot.latestAction = .resume ∧ robot.atGoal = false ∧ robot.Advanced moved) ∨
      ((robot.latestAction ≠ .resume ∨ robot.atGoal = true) ∧ moved = robot) := by
  obtain ⟨_, _, h⟩ := bind_eq_ok.mp h
  have hmoved := (Except.ok.inj h).symm
  cases hgoal : robot.atGoal with
  | true =>
    refine .inr ⟨.inr rfl, hmoved.trans ?_⟩
    split
    · next hpath => simp [atGoal, hpath] at hgoal
    · rfl
  | false =>
    obtain ⟨next, rest, hpath⟩ := atGoal_eq_false_iff.mp hgoal
    cases hlatest : robot.latestAction with
    | resume =>
      refine .inl ⟨rfl, rfl, ?_⟩
      split at hmoved
      · next _ hpath' =>
        subst hmoved
        rw [hpath'] at hpath
        injection hpath with hfirst hrest
        exact ⟨hlatest, by rw [hpath', hfirst], rfl, rfl, rfl, rfl, rfl⟩
      · next hother => exact absurd hpath (hother _ _ _ hlatest)
    | pause =>
      refine .inr ⟨.inl (by simp), hmoved.trans ?_⟩
      split
      · next hresume _ => rw [hlatest] at hresume; cases hresume
      · rfl

/-- A robot advances to the second node of its path. -/
lemma Advanced.path (h : robot.Advanced moved) :
    ∃ rest, robot.remainingPath = robot.pose :: moved.pose :: rest := by
  obtain ⟨rest, hrest⟩ := List.head?_eq_some_iff.mp moved.remaining_head
  exact ⟨rest, by rw [h.remainingPath, hrest]⟩

/-- The movement phase of a positive tick raises nothing. -/
lemma advanceForTick_ok (htick : 1 ≤ tick) : ∃ moved, robot.advanceForTick tick = .ok moved := by
  simp [advanceForTick, raiseIf, not_lt.mpr htick]

/-- Whether or not the robot advanced, it is the same robot, with the actions it had. -/
lemma advanceForTick_same (h : robot.advanceForTick tick = .ok moved) :
    moved.robotId = robot.robotId ∧ moved.latestAction = robot.latestAction ∧
      moved.resumes = robot.resumes ∧
      moved.terminalStatePublished = robot.terminalStatePublished := by
  rcases advanceForTick_eq_ok h with ⟨-, -, hadvanced⟩ | ⟨-, rfl⟩
  · exact ⟨hadvanced.robotId, hadvanced.latestAction, hadvanced.resumes,
      hadvanced.terminalStatePublished⟩
  · exact ⟨rfl, rfl, rfl, rfl⟩

/-- A robot after the publication phase. -/
def afterPublication (robot : SimulatedRobot) : SimulatedRobot :=
  if robot.shouldPublishState then robot.markStatePublished else robot

/-- Publication changes only the terminal flag. -/
lemma afterPublication_same (robot : SimulatedRobot) :
    robot.afterPublication =
      { robot with terminalStatePublished := robot.afterPublication.terminalStatePublished } := by
  unfold afterPublication
  split <;> rfl

/-- A terminal publication is made at the goal. -/
lemma atGoal_of_terminal {robot : SimulatedRobot}
    (h : robot.afterPublication.terminalStatePublished = true) :
    robot.terminalStatePublished = true ∨ robot.atGoal = true := by
  unfold afterPublication at h
  split at h
  · exact (Bool.or_eq_true _ _).mp h
  · exact .inl h

/-- Delivery changes only the latest action and the counters of received actions. -/
lemma deliver_same (robot : SimulatedRobot) (actions : Dict RobotId ActionMessage) :
    (robot.deliver actions).robotId = robot.robotId ∧
      (robot.deliver actions).pose = robot.pose ∧
      (robot.deliver actions).remainingPath = robot.remainingPath ∧
      (robot.deliver actions).nodesAdvanced = robot.nodesAdvanced ∧
      (robot.deliver actions).terminalStatePublished = robot.terminalStatePublished := by
  unfold deliver
  split
  · exact ⟨rfl, rfl, rfl, rfl, rfl⟩
  · split <;> exact ⟨rfl, rfl, rfl, rfl, rfl⟩

/-- Publication and delivery leave a robot where it is. -/
lemma afterPublication_deliver_same (robot : SimulatedRobot)
    (actions : Dict RobotId ActionMessage) :
    (robot.afterPublication.deliver actions).robotId = robot.robotId ∧
      (robot.afterPublication.deliver actions).pose = robot.pose ∧
      (robot.afterPublication.deliver actions).remainingPath = robot.remainingPath ∧
      (robot.afterPublication.deliver actions).nodesAdvanced = robot.nodesAdvanced ∧
      (robot.afterPublication.deliver actions).terminalStatePublished =
        robot.afterPublication.terminalStatePublished := by
  obtain ⟨hid, hpose, hpath, hnodes, hterminal⟩ := robot.afterPublication.deliver_same actions
  have hsame := robot.afterPublication_same
  refine ⟨hid.trans ?_, hpose.trans ?_, hpath.trans ?_, hnodes.trans ?_, hterminal⟩
  all_goals rw [hsame]

/-- **What delivery does.** A robot before its goal takes the action that is there for it. -/
lemma deliver_received {actions : Dict RobotId ActionMessage} {message : ActionMessage}
    (hmessage : actions.lookup robot.robotId = some message) (hgoal : robot.atGoal = false) :
    robot.deliver actions = robot.receiveAction message.val.action := by
  simp [deliver, hmessage, hgoal]

end SimulatedRobot

/-! ## One Resume, one movement -/

/-- The action that the last outcome of a run has for a robot. -/
def Simulation.lastAction (simulation : Simulation τ) (robotId : RobotId) : Option Action :=
  simulation.outcomes.getLast?.bind fun outcome =>
    (outcome.actions.lookup robotId).map fun message => message.val.action

/-- Every robot that is not at its goal and under a Resume has an action in the last outcome. -/
def Answered (simulation : Simulation τ) : Prop :=
  ∀ robot ∈ simulation.robots, robot.latestAction = .resume → robot.atGoal = false →
    (simulation.lastAction robot.robotId).isSome

/-- **One Resume authorises one movement.** At every point of the run no robot has advanced more
often than it was resumed, and a robot advances in the next movement phase only if the last outcome
has a Resume for it. -/
def OneMovementPerResume (transport : SimulatorTickTransport τ) (startEpochMs : ℤ)
    (scenario : ScenarioDefinition) (tickLimit : ℕ) (initial : τ) : Prop :=
  ∀ simulation,
    (simulationMachine transport startEpochMs scenario tickLimit initial).Reachable simulation →
    (∀ robot ∈ simulation.robots, robot.nodesAdvanced ≤ robot.resumes) ∧
    (simulation.Continues tickLimit → ∀ robot ∈ simulation.robots, ∀ moved,
      robot.advanceForTick (simulation.ticksRun + 1 : ℕ) = .ok moved →
      (moved.nodesAdvanced ≠ robot.nodesAdvanced →
        simulation.lastAction robot.robotId = some .resume) ∧
      moved.nodesAdvanced ≤ moved.resumes)

/-- What every robot of a run in which no action is lost satisfies: a movement it is about to make
is covered by a Resume that no movement has used. -/
def Simulation.Authorised (simulation : Simulation τ) : Prop :=
  ∀ robot ∈ simulation.robots, robot.nodesAdvanced ≤ robot.resumes ∧
    (robot.latestAction = .resume → robot.atGoal = false →
      ∀ action, simulation.lastAction robot.robotId = some action →
        action = .resume ∧ robot.nodesAdvanced < robot.resumes)

/-- A robot of the next state comes from a robot of this state. -/
lemma Ticked.robot_cases {moved : List SimulatedRobot} {payloads : List StatePayloadFields}
    {outcome : SimulatorTickOutcome}
    (h : Ticked transport startEpochMs tickDurationMs simulation simulation' moved payloads outcome)
    {robot' : SimulatedRobot} (hrobot' : robot' ∈ simulation'.robots) :
    ∃ robot ∈ simulation.robots, ∃ movedRobot ∈ moved,
      robot.advanceForTick (simulation.ticksRun + 1 : ℕ) = .ok movedRobot ∧
      robot' = movedRobot.afterPublication.deliver outcome.actions := by
  obtain ⟨_, _, hdelivered⟩ := bind_eq_ok.mp h.delivered
  rw [← Except.ok.inj hdelivered, List.map_map] at hrobot'
  obtain ⟨movedRobot, hmoved, rfl⟩ := List.mem_map.mp hrobot'
  obtain ⟨robot, hrobot, hadvance⟩ := exists_of_mem_mapM h.moved_eq _ hmoved
  exact ⟨robot, hrobot, movedRobot, hmoved, hadvance, rfl⟩

/-- A tick keeps the robots and their order. -/
lemma Ticked.robotIds {moved : List SimulatedRobot} {payloads : List StatePayloadFields}
    {outcome : SimulatorTickOutcome}
    (h : Ticked transport startEpochMs tickDurationMs simulation simulation' moved payloads
      outcome) :
    moved.map SimulatedRobot.robotId = simulation.robots.map SimulatedRobot.robotId ∧
      simulation'.robots.map SimulatedRobot.robotId =
        simulation.robots.map SimulatedRobot.robotId := by
  have hmoved := map_of_mapM h.moved_eq fun _ _ hadvance =>
    (SimulatedRobot.advanceForTick_same hadvance).1
  refine ⟨hmoved, ?_⟩
  obtain ⟨_, _, hdelivered⟩ := bind_eq_ok.mp h.delivered
  rw [← Except.ok.inj hdelivered, ← hmoved, List.map_map, List.map_map]
  exact List.map_congr_left fun robot _ => (robot.afterPublication_deliver_same outcome.actions).1

/-- A robot that may move has its movement covered when its action was not lost. -/
lemma Simulation.Authorised.moved (h : simulation.Authorised) (hanswered : Answered simulation)
    {robot moved : SimulatedRobot} (hrobot : robot ∈ simulation.robots) {tick : ℤ}
    (hadvance : robot.advanceForTick tick = .ok moved) :
    (moved.nodesAdvanced ≠ robot.nodesAdvanced →
      simulation.lastAction robot.robotId = some .resume) ∧
    moved.nodesAdvanced ≤ moved.resumes := by
  rcases SimulatedRobot.advanceForTick_eq_ok hadvance with
    ⟨hresume, hgoal, hadvanced⟩ | ⟨-, rfl⟩
  · obtain ⟨action, haction⟩ := Option.isSome_iff_exists.mp (hanswered robot hrobot hresume hgoal)
    obtain ⟨rfl, hcovered⟩ := (h robot hrobot).2 hresume hgoal action haction
    refine ⟨fun _ => haction, ?_⟩
    rw [hadvanced.nodesAdvanced, hadvanced.resumes]
    exact hcovered
  · exact ⟨fun hne => absurd rfl hne, (h moved hrobot).1⟩

/-- **The step.** A tick from an answered state keeps the movements covered.

**Proof sketch.** The movements of the tick are covered by the last outcome. From the new one a
robot before its goal gets one Resume more or none, and its last action is the one that it
received. -/
lemma Ticked.authorised {moved : List SimulatedRobot} {payloads : List StatePayloadFields}
    {outcome : SimulatorTickOutcome}
    (h : Ticked transport startEpochMs tickDurationMs simulation simulation' moved payloads outcome)
    (hauthorised : simulation.Authorised) (hanswered : Answered simulation) :
    simulation'.Authorised := by
  intro robot' hrobot'
  obtain ⟨robot, hrobot, movedRobot, -, hadvance, rfl⟩ := h.robot_cases hrobot'
  have hcovered := (hauthorised.moved hanswered hrobot hadvance).2
  set published := movedRobot.afterPublication with hpublished
  have hsame := movedRobot.afterPublication_same
  rw [← hpublished] at hsame
  have hbound : published.nodesAdvanced ≤ published.resumes := by rw [hsame]; exact hcovered
  have hlast : simulation'.lastAction published.robotId =
      (outcome.actions.lookup published.robotId).map fun message => message.val.action := by
    simp [Simulation.lastAction, h.outcomes]
  obtain ⟨hid, -, hpath, hnodes, -⟩ := published.deliver_same outcome.actions
  rw [hid, hnodes, hlast]
  cases hmessage : outcome.actions.lookup published.robotId with
  | none =>
    have hkept : published.deliver outcome.actions = published := by
      simp [SimulatedRobot.deliver, hmessage]
    rw [hkept]
    exact ⟨hbound, by simp⟩
  | some message =>
    cases hgoal : published.atGoal with
    | true =>
      have hkept : published.deliver outcome.actions = published := by
        simp [SimulatedRobot.deliver, hmessage, hgoal]
      rw [hkept, hgoal]
      exact ⟨hbound, fun _ hfalse => by cases hfalse⟩
    | false =>
      rw [SimulatedRobot.deliver_received hmessage hgoal]
      refine ⟨hbound.trans (Nat.le_add_right _ _), fun hresume _ action haction => ?_⟩
      obtain rfl := Option.some.inj haction
      have hresume : message.val.action = .resume := hresume
      refine ⟨hresume, ?_⟩
      simp only [SimulatedRobot.receiveAction, hresume, if_true]
      omega

/-- No movement is made before the first action. -/
lemma Simulation.authorised_initial {robots : List SimulatedRobot}
    (h : scenario.createRobots startEpochMs = .ok robots) :
    ({ robots, transport := initial } : Simulation τ).Authorised := by
  intro robot hrobot
  obtain ⟨definition, -, hcreate⟩ := exists_of_mem_mapM h _ hrobot
  obtain ⟨-, -, -, haction, hnodes, -⟩ := SimulatedRobot.create_eq_ok hcreate
  refine ⟨hnodes ▸ Nat.zero_le _, fun hresume => ?_⟩
  rw [haction] at hresume
  cases hresume

/-- **One Resume authorises one movement, exactly when no action is lost**: before every movement
phase, each robot that is not at its goal and whose latest action is Resume has an action in the
last outcome. A robot whose action is missing keeps its Resume and moves again.

**Proof sketch.** From the law to the answers: a robot that is about to move has a movement to
account for. From the answers to the law, by induction over the run: every movement phase uses up
the Resumes of the last outcome (`Ticked.authorised`). -/
theorem oneMovementPerResume_iff (transport : SimulatorTickTransport τ) (startEpochMs : ℤ)
    (scenario : ScenarioDefinition) (tickLimit : ℕ) (initial : τ) :
    OneMovementPerResume transport startEpochMs scenario tickLimit initial ↔
      ∀ simulation,
        (simulationMachine transport startEpochMs scenario tickLimit initial).Reachable
          simulation →
        simulation.Continues tickLimit → Answered simulation := by
  constructor
  · intro hlaw simulation hreach hcontinues robot hrobot hresume hgoal
    obtain ⟨moved, hadvance⟩ : ∃ moved,
        robot.advanceForTick (simulation.ticksRun + 1 : ℕ) = .ok moved :=
      SimulatedRobot.advanceForTick_ok (by omega)
    rcases SimulatedRobot.advanceForTick_eq_ok hadvance with ⟨-, -, hadvanced⟩ | ⟨hstays, -⟩
    · have hne : moved.nodesAdvanced ≠ robot.nodesAdvanced := by
        rw [hadvanced.nodesAdvanced]
        omega
      rw [((hlaw simulation hreach).2 hcontinues robot hrobot moved hadvance).1 hne]
      rfl
    · rw [hgoal] at hstays
      simp [hresume] at hstays
  · intro hanswered simulation hreach
    have hauthorised : simulation.Authorised := by
      refine Machine.Reachable.invariant (P := Simulation.Authorised) ?_ ?_ hreach
      · rintro _ ⟨robots, hrobots, rfl⟩
        exact Simulation.authorised_initial hrobots
      · intro s t hs hauthorised hstep
        obtain ⟨hcontinues, _, _, _, hticked⟩ := ticked_of_step hstep
        exact hticked.authorised hauthorised (hanswered s hs hcontinues)
    exact ⟨fun robot hrobot => (hauthorised robot hrobot).1,
      fun hcontinues robot hrobot moved hadvance =>
        hauthorised.moved (hanswered simulation hreach hcontinues) hrobot hadvance⟩

end Runs

/-! ## A lost action -/

/-- A Resume for robot `a`. -/
def soleResume : ActionMessage where
  val := {
    runId := "run", deviceId := robotA, action := .resume, tickId := "tick-1"
    decisionTimestamp := 0, sourceStateTimestamp := 0, reasonCodes := ["ISOLATED"]
    reasonContext := ["1"], decisionSource := .policy, grantActive := false }
  property := by decide +kernel

/-- A transport that answers the first exchange; in the later ones the action times out. -/
def timingOutTransport : SimulatorTickTransport ℕ where
  exchangeTick _ _ := do
    let exchanges ← getModify (· + 1)
    return {
      actions := if exchanges = 0 then Dict.ofPairs [(soleResume.val.deviceId, soleResume)] else ∅
      alarms := []
      safetyValid := none }
  close := pure ⟨⟩

/-- One robot with two future nodes. -/
def twoNodeScenario : ScenarioDefinition where
  name := "two nodes"
  nominalSpeedMps := 1
  robots := [{
    deviceId := robotA, initialPose := ⟨0, 0, 0⟩, path := [⟨1, 0, 0⟩, ⟨2, 0, 0⟩]
    loaded := false, batteryLevel := 50, deadlineOffsetMs := 0, battery_range := half_battery }]
  speed_pos := by norm_num
  interval_pos := by norm_num
  maxTicks_pos := by norm_num
  robots_ne := by simp
  ids_nodup := by simp

/-- The robot uses its only Resume for two movements. -/
theorem oneMovementPerResume_timeout :
    ¬ OneMovementPerResume timingOutTransport 0 twoNodeScenario 3 0 := by
  intro hlaw
  obtain ⟨result, hrun, hcounters⟩ := Returns.exists_ok
    (x := runScenario timingOutTransport 0 twoNodeScenario (some 3) 0)
    (Q := fun result => result.robots.any fun robot => robot.resumes < robot.nodesAdvanced)
    (by decide +kernel)
  obtain ⟨-, simulation, hreach, -, rfl⟩ := runScenario_reachable hrun
  obtain ⟨_, hsummary, hless⟩ := List.any_eq_true.mp hcounters
  obtain ⟨robot, hrobot, rfl⟩ := List.mem_map.mp hsummary
  exact absurd ((hlaw simulation hreach).1 robot hrobot) (not_le.mpr (of_decide_eq_true hless))

end CollisionMonitor
