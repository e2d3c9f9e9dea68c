import CollisionMonitor.LoopProgress

set_option relaxedAutoImplicit false
set_option autoImplicit false

/-!
# The report of a scenario

A run counts for each robot the actions that it heard and the nodes that it passed, and reports the
tick in which it arrived. When the transport answers every robot in every tick, these numbers
determine each other.

## Main definitions

* `AnswersAll` — a transport that has an action for every robot in every outcome.
* `SimulationResult.AddsUp` — how the numbers of a report belong together.

## Main results

* `runInMemoryScenario_addsUp` — every report of an in-memory run adds up.
-/

namespace CollisionMonitor

open Outcome

/-- All Pause commands observed during the run. -/
def SimulationResult.totalPauses (result : SimulationResult) : ℕ :=
  (result.robots.map RobotSimulationSummary.pauses).sum

/-- All Resume commands observed during the run. -/
def SimulationResult.totalResumes (result : SimulationResult) : ℕ :=
  (result.robots.map RobotSimulationSummary.resumes).sum

/-- A transport whose outcomes have an action for every robot of the run. -/
def AnswersAll {τ : Type} (transport : SimulatorTickTransport τ) : Prop :=
  ∀ payloads robotIds state outcome state',
    (transport.exchangeTick payloads robotIds).run state = .ok outcome state' →
      ∀ r ∈ robotIds, ∃ message, outcome.actions.lookup r = some message

/-! ## One robot -/

namespace SimulatedRobot

/-- The counters of a robot after so many ticks in which it was answered. A robot before its goal
heard one action a tick, and has used up all its Resumes but the latest; a robot at its goal heard
one action a tick until it arrived. -/
structure Accounted (robot : SimulatedRobot) (ticks : ℕ) : Prop where
  underway : robot.atGoal = false → robot.goalTick = none ∧ robot.pauses + robot.resumes = ticks ∧
    robot.resumes = robot.nodesAdvanced + if robot.latestAction = .resume then 1 else 0
  arrived : robot.atGoal = true → robot.resumes = robot.nodesAdvanced ∧
    (robot.goalTick = none ∧ robot.pauses + robot.resumes = 0 ∨
      ∃ t : ℕ, robot.goalTick = some (t : ℤ) ∧ t ≤ ticks ∧ robot.pauses + robot.resumes + 1 = t)

/-- The counters between the movement phase and the delivery of a tick: every Resume is used up. -/
structure Moved (robot : SimulatedRobot) (ticks : ℕ) : Prop where
  used : robot.resumes = robot.nodesAdvanced
  underway : robot.atGoal = false → robot.goalTick = none ∧ robot.pauses + robot.resumes = ticks
  arrived : robot.atGoal = true → robot.goalTick = none ∧ robot.pauses + robot.resumes = 0 ∨
    ∃ t : ℕ, robot.goalTick = some (t : ℤ) ∧ t ≤ ticks + 1 ∧ robot.pauses + robot.resumes + 1 = t

variable {robot moved : SimulatedRobot} {ticks : ℕ}

/-- A robot hears at most one action a tick. -/
lemma Accounted.heard_le (h : robot.Accounted ticks) : robot.pauses + robot.resumes ≤ ticks := by
  cases hgoal : robot.atGoal with
  | false => exact (h.underway hgoal).2.1.le
  | true =>
    obtain ⟨-, ⟨-, hnever⟩ | ⟨t, -, hle, hsum⟩⟩ := h.arrived hgoal <;> omega

/-- What the movement phase does to the counters. -/
lemma advance_counters {tick : ℤ} (h : robot.advanceForTick tick = .ok moved) :
    moved.pauses = robot.pauses ∧ moved.resumes = robot.resumes ∧
      moved.goalTick = if robot.atGoal = false ∧ moved.atGoal = true ∧ robot.goalTick = none
        then some tick else robot.goalTick := by
  obtain ⟨_, _, h⟩ := bind_eq_ok.mp h
  obtain rfl := (Except.ok.inj h).symm
  split
  · next hpath =>
    refine ⟨rfl, rfl, ?_⟩
    simp [atGoal, hpath, List.length_eq_zero_iff]
  · refine ⟨rfl, rfl, ?_⟩
    rw [if_neg]
    rintro ⟨hgoal, hgoal', -⟩
    rw [hgoal] at hgoal'
    cases hgoal'

/-- The movement phase uses up the latest Resume. -/
lemma Accounted.advance (h : robot.Accounted ticks)
    (hadvance : robot.advanceForTick (ticks + 1 : ℕ) = .ok moved) : moved.Moved ticks := by
  obtain ⟨hpauses, hresumes, hgoalTick⟩ := advance_counters hadvance
  rcases advanceForTick_eq_ok hadvance with ⟨hresume, hgoal, hadvanced⟩ | ⟨hstays, rfl⟩
  · obtain ⟨hnone, htotal, hused⟩ := h.underway hgoal
    rw [if_pos hresume] at hused
    refine ⟨?_, fun hgoal' => ⟨?_, ?_⟩, fun hgoal' => .inr ⟨ticks + 1, ?_, le_rfl, ?_⟩⟩
    · rw [hresumes, hused, hadvanced.nodesAdvanced]
    · rw [hgoalTick, hgoal', if_neg (by simp), hnone]
    · rw [hpauses, hresumes, htotal]
    · rw [hgoalTick, if_pos ⟨hgoal, hgoal', hnone⟩]
    · rw [hpauses, hresumes, htotal]
  · cases hgoal : moved.atGoal with
    | false =>
      obtain ⟨hnone, htotal, hused⟩ := h.underway hgoal
      rw [if_neg (hstays.resolve_right (by simp [hgoal])), Nat.add_zero] at hused
      exact ⟨hused, fun _ => ⟨hnone, htotal⟩, fun htrue => by simp [hgoal] at htrue⟩
    | true =>
      obtain ⟨hused, harrived⟩ := h.arrived hgoal
      refine ⟨hused, fun hfalse => (by simp [hgoal] at hfalse), fun _ => harrived.imp_right ?_⟩
      rintro ⟨t, ht, hle, hsum⟩
      exact ⟨t, ht, hle.trans (Nat.le_succ _), hsum⟩

/-- Publication does not move a robot. -/
lemma Moved.afterPublication (h : robot.Moved ticks) : robot.afterPublication.Moved ticks := by
  rw [afterPublication_same]
  exact ⟨h.used, h.underway, h.arrived⟩

/-- A robot before its goal hears the action that is there for it. -/
lemma Moved.deliver (h : robot.Moved ticks) {actions : Dict RobotId ActionMessage}
    {message : ActionMessage} (hmessage : actions.lookup robot.robotId = some message) :
    (robot.deliver actions).Accounted (ticks + 1) := by
  cases hgoal : robot.atGoal with
  | true =>
    have hkept : robot.deliver actions = robot := by
      simp [SimulatedRobot.deliver, hmessage, hgoal]
    rw [hkept]
    exact ⟨fun hfalse => (by simp [hgoal] at hfalse), fun _ => ⟨h.used, h.arrived hgoal⟩⟩
  | false =>
    obtain ⟨hnone, htotal⟩ := h.underway hgoal
    rw [deliver_received hmessage hgoal]
    refine ⟨fun _ => ⟨hnone, ?_, ?_⟩, fun htrue => ?_⟩
    · rw [← htotal]
      cases message.val.action <;> simp only [receiveAction, reduceCtorEq, if_true, if_false] <;>
        omega
    · rw [receiveAction, ← h.used]
    · have hgoal' : robot.atGoal = true := htrue
      rw [hgoal] at hgoal'
      cases hgoal'

/-- **One tick of one robot** that is answered keeps the counters in order. -/
lemma Accounted.step (h : robot.Accounted ticks)
    (hadvance : robot.advanceForTick (ticks + 1 : ℕ) = .ok moved)
    {actions : Dict RobotId ActionMessage} {message : ActionMessage}
    (hmessage : actions.lookup robot.robotId = some message) :
    (moved.afterPublication.deliver actions).Accounted (ticks + 1) := by
  have hmessage' : actions.lookup moved.afterPublication.robotId = some message := by
    rw [afterPublication_same]
    rwa [← (advanceForTick_same hadvance).1] at hmessage
  exact (h.advance hadvance).afterPublication.deliver hmessage'

/-- Delivery does not change when the goal was reached. -/
lemma deliver_goalTick (robot : SimulatedRobot) (actions : Dict RobotId ActionMessage) :
    (robot.deliver actions).goalTick = robot.goalTick := by
  unfold SimulatedRobot.deliver
  split
  · rfl
  · split <;> rfl

/-- A new robot has heard nothing. -/
lemma accounted_of_create {robotId : RobotId} {pose : Pose ℚ} {futurePath : List (Pose ℚ)}
    {loaded : Bool} {batteryLevel : ℚ} {deadlineMs : ℤ}
    (h : create robotId pose futurePath loaded batteryLevel deadlineMs = .ok robot) :
    robot.Accounted 0 := by
  obtain ⟨_, _, h⟩ := bind_eq_ok.mp h
  obtain ⟨_, _, h⟩ := bind_eq_ok.mp h
  obtain rfl := Except.ok.inj h
  exact ⟨fun _ => ⟨rfl, rfl, rfl⟩, fun _ => ⟨rfl, .inl ⟨rfl, rfl⟩⟩⟩

end SimulatedRobot

/-! ## Runs -/

section Runs

variable {τ : Type} {transport : SimulatorTickTransport τ} {startEpochMs tickDurationMs : ℤ}
  {scenario : ScenarioDefinition} {tickLimit : ℕ} {initial : τ} {s s' : Simulation τ}

/-- What a run has counted between its ticks. -/
structure Counted (scenario : ScenarioDefinition) (tickLimit : ℕ) (s : Simulation τ) : Prop where
  robots : s.robots.map SimulatedRobot.robotId =
    (sortedBy ScenarioRobot.deviceId scenario.robots).map ScenarioRobot.deviceId
  limit : s.ticksRun ≤ tickLimit
  outcomes : s.outcomes.length = s.ticksRun
  alarms : s.alarms = s.outcomes.flatMap SimulatorTickOutcome.alarms
  accounted : ∀ robot ∈ s.robots, robot.Accounted s.ticksRun
  nodes : ∀ robot ∈ s.robots, ∃ definition ∈ scenario.robots,
    definition.deviceId = robot.robotId ∧
      robot.nodesAdvanced + robot.remainingPath.length = definition.path.length + 1
  last : s.finished = true → s.ticksRun ≤ 1 ∨
    ∃ robot ∈ s.robots, robot.goalTick = some (s.ticksRun : ℤ)

/-- A robot of this state goes on in the next state. -/
lemma Ticked.exists_next {moved : List SimulatedRobot} {payloads : List StatePayloadFields}
    {outcome : SimulatorTickOutcome}
    (h : Ticked transport startEpochMs tickDurationMs s s' moved payloads outcome)
    {robot : SimulatedRobot} (hrobot : robot ∈ s.robots) : ∃ movedRobot,
      robot.advanceForTick (s.ticksRun + 1 : ℕ) = .ok movedRobot ∧
      movedRobot.afterPublication.deliver outcome.actions ∈ s'.robots := by
  obtain ⟨movedRobot, hmoved, hadvance⟩ := exists_mem_of_mapM h.moved_eq robot hrobot
  obtain ⟨_, _, hdelivered⟩ := bind_eq_ok.mp h.delivered
  refine ⟨movedRobot, hadvance, ?_⟩
  rw [← Except.ok.inj hdelivered, List.map_map]
  exact List.mem_map_of_mem hmoved

/-- **When the run ends, a robot arrives**: the last robot before its goal reaches it. -/
lemma Ticked.exists_arrived {moved : List SimulatedRobot} {payloads : List StatePayloadFields}
    {outcome : SimulatorTickOutcome}
    (h : Ticked transport startEpochMs tickDurationMs s s' moved payloads outcome)
    (haccounted : ∀ robot ∈ s.robots, robot.Accounted s.ticksRun) (hunfinished : s.finished = false)
    (hfinished : s'.finished = true) :
    ∃ robot ∈ s'.robots, robot.goalTick = some ((s.ticksRun + 1 : ℕ) : ℤ) := by
  obtain ⟨robot, hrobot, hgoal⟩ := List.all_eq_false.mp hunfinished
  have hgoal : robot.atGoal = false := (Bool.not_eq_true _).mp hgoal
  obtain ⟨movedRobot, hadvance, hnext⟩ := h.exists_next hrobot
  refine ⟨_, hnext, ?_⟩
  have harrived : (movedRobot.afterPublication.deliver outcome.actions).atGoal = true :=
    List.all_eq_true.mp hfinished _ hnext
  obtain ⟨-, -, hpath, -, -⟩ := movedRobot.afterPublication_deliver_same outcome.actions
  rw [SimulatedRobot.atGoal, hpath] at harrived
  obtain ⟨-, -, hgoalTick⟩ := SimulatedRobot.advance_counters hadvance
  obtain ⟨hnone, -, -⟩ := (haccounted robot hrobot).underway hgoal
  rw [SimulatedRobot.deliver_goalTick, SimulatedRobot.afterPublication_same, hgoalTick,
    if_pos ⟨hgoal, harrived, hnone⟩]

/-- **One tick** with an answer for every robot keeps the counters of the run in order.

**Proof sketch.** Each counter of the run grows by what the tick adds, and each robot is accounted
for with the message that it received. -/
lemma Counted.step (hanswers : AnswersAll transport) (h : Counted scenario tickLimit s)
    (hstep : (simulationMachine transport startEpochMs scenario tickLimit initial).step s s') :
    Counted scenario tickLimit s' := by
  obtain ⟨⟨hless, hgoes⟩, moved, payloads, outcome, hticked⟩ := ticked_of_step hstep
  have hids := hticked.robotIds
  constructor
  · rw [hids.2, h.robots]
  · rw [hticked.ticksRun]
    exact hless
  · rw [hticked.outcomes, hticked.ticksRun, List.length_append, h.outcomes, List.length_singleton]
  · rw [hticked.alarms, hticked.outcomes, h.alarms, List.flatMap_append, List.flatMap_singleton]
  · intro robot' hrobot'
    obtain ⟨robot, hrobot, movedRobot, hmoved, hadvance, rfl⟩ := hticked.robot_cases hrobot'
    obtain ⟨message, hmessage⟩ := hanswers _ _ _ _ _ hticked.exchanged robot.robotId (by
      rw [mem_sorted, hids.1]
      exact List.mem_map_of_mem hrobot)
    rw [hticked.ticksRun]
    exact (h.accounted robot hrobot).step hadvance hmessage
  · intro robot' hrobot'
    obtain ⟨robot, hrobot, movedRobot, hmoved, hadvance, rfl⟩ := hticked.robot_cases hrobot'
    obtain ⟨definition, hdefinition, hid, hnodes⟩ := h.nodes robot hrobot
    obtain ⟨hid', -, hpath, hnodes', -⟩ :=
      movedRobot.afterPublication_deliver_same outcome.actions
    refine ⟨definition, hdefinition, ?_, ?_⟩
    · rw [hid', hid, (SimulatedRobot.advanceForTick_same hadvance).1]
    · rw [hnodes', hpath, SimulatedRobot.nodes_of_advance hadvance, hnodes]
  · intro hfinished
    rw [hticked.ticksRun]
    rcases hgoes with hzero | hunfinished
    · exact .inl (by omega)
    · exact .inr (hticked.exists_arrived h.accounted hunfinished hfinished)

/-- The counters are in order in every run whose transport answers. -/
lemma counted_of_reachable (hanswers : AnswersAll transport)
    (h : (simulationMachine transport startEpochMs scenario tickLimit initial).Reachable s) :
    Counted scenario tickLimit s := by
  refine h.invariant ?_ fun _ _ _ hcounted hstep => hcounted.step hanswers hstep
  rintro _ ⟨robots, hrobots, rfl⟩
  refine ⟨?_, Nat.zero_le _, rfl, rfl, fun robot hrobot => ?_, fun robot hrobot => ?_,
    fun _ => .inl (Nat.zero_le _)⟩
  · exact map_of_mapM hrobots fun _ _ hcreate => (SimulatedRobot.create_eq_ok hcreate).1
  · obtain ⟨definition, -, hcreate⟩ := exists_of_mem_mapM hrobots _ hrobot
    exact SimulatedRobot.accounted_of_create hcreate
  · obtain ⟨definition, hdefinition, hcreate⟩ := exists_of_mem_mapM hrobots _ hrobot
    obtain ⟨hid, -, hpath, -, hnodes, -⟩ := SimulatedRobot.create_eq_ok hcreate
    refine ⟨definition, (mem_sortedBy _ _).mp hdefinition, hid.symm, ?_⟩
    rw [hnodes, hpath, List.length_cons, Nat.zero_add]

/-- How the numbers of a report belong together. -/
structure SimulationResult.AddsUp (scenario : ScenarioDefinition) (tickLimit : ℕ)
    (result : SimulationResult) : Prop where
  /-- One row for each robot, in the order of the IDs. -/
  robots : result.robots.map RobotSimulationSummary.robotId =
    (sortedBy ScenarioRobot.deviceId scenario.robots).map ScenarioRobot.deviceId
  ticks : 1 ≤ result.ticks ∧ result.ticks ≤ tickLimit
  outcomes : result.tickOutcomes.length = result.ticks
  alarms : result.alarms = (result.tickOutcomes.flatMap SimulatorTickOutcome.alarms).eraseDups
  nodes : ∀ robot ∈ result.robots, ∃ definition ∈ scenario.robots,
    definition.deviceId = robot.robotId ∧ robot.nodesAdvanced ≤ definition.path.length ∧
      (robot.goalReached = true ↔ robot.nodesAdvanced = definition.path.length)
  /-- A robot before its goal heard an action in every tick. At most its last Resume is unused. -/
  underway : ∀ robot ∈ result.robots, robot.goalReached = false →
    robot.goalTick = none ∧ robot.pauses + robot.resumes = result.ticks ∧
      robot.nodesAdvanced ≤ robot.resumes ∧ robot.resumes ≤ robot.nodesAdvanced + 1
  /-- A robot at its goal heard an action in every tick before its arrival, and used every Resume. -/
  arrived : ∀ robot ∈ result.robots, robot.goalReached = true →
    robot.resumes = robot.nodesAdvanced ∧
      (robot.goalTick = none ∧ robot.pauses + robot.resumes = 0 ∨
        ∃ t : ℕ, robot.goalTick = some (t : ℤ) ∧ t ≤ result.ticks ∧
          robot.pauses + robot.resumes + 1 = t)
  /-- A run is cut off at its limit, or ends with the arrival of its last robot. -/
  stopped : if result.completed then result.ticks = 1 ∨
    ∃ robot ∈ result.robots, robot.goalTick = some (result.ticks : ℤ) else result.ticks = tickLimit
  heard : result.totalPauses + result.totalResumes ≤ result.robots.length * result.ticks
  resumes : result.completed = true → result.totalResumes = scenario.futureNodes

/-- **A report adds up** when the transport answers every robot in every tick.

**Proof sketch.** The state in which the run stops is reachable, so its counters are those of the
invariant (`counted_of_reachable`). Each field of the report is one of them; the resumes of a
completed run are the nodes passed, which the conservation of nodes counts (`nodes_conserved`). -/
theorem runScenario_addsUp (hanswers : AnswersAll transport) {maximumTicks : Option ℤ}
    {result : SimulationResult}
    (h : runScenario transport startEpochMs scenario maximumTicks initial = .ok result) :
    result.AddsUp scenario (maximumTicks.getD scenario.maxTicks).toNat := by
  obtain ⟨hlimit, s, hreach, hstops, rfl⟩ := runScenario_reachable h
  have hcounted := counted_of_reachable hanswers hreach
  have hnonempty : ∀ robot : SimulatedRobot, 1 ≤ robot.remainingPath.length := fun robot =>
    List.length_pos_of_mem (List.mem_of_mem_head? robot.remaining_head)
  have hpositive : 1 ≤ s.ticksRun := by
    by_contra hzero
    exact hstops ⟨by omega, .inl (by omega)⟩
  constructor
  · exact (List.map_map ..).trans hcounted.robots
  · exact ⟨hpositive, hcounted.limit⟩
  · exact hcounted.outcomes
  · exact congrArg List.eraseDups hcounted.alarms
  · intro row hrow
    obtain ⟨robot, hrobot, rfl⟩ := List.mem_map.mp hrow
    obtain ⟨definition, hdefinition, hid, hnodes⟩ := hcounted.nodes robot hrobot
    have hlength := hnonempty robot
    refine ⟨definition, hdefinition, hid, ?_, ?_⟩
    · change robot.nodesAdvanced ≤ definition.path.length
      omega
    · change decide (robot.remainingPath.length ≤ 1) = true ↔
        robot.nodesAdvanced = definition.path.length
      rw [decide_eq_true_iff]
      omega
  · intro row hrow hgoal
    obtain ⟨robot, hrobot, rfl⟩ := List.mem_map.mp hrow
    obtain ⟨hnone, htotal, hused⟩ := (hcounted.accounted robot hrobot).underway hgoal
    refine ⟨hnone, htotal, ?_⟩
    change robot.nodesAdvanced ≤ robot.resumes ∧ robot.resumes ≤ robot.nodesAdvanced + 1
    split_ifs at hused <;> omega
  · intro row hrow hgoal
    obtain ⟨robot, hrobot, rfl⟩ := List.mem_map.mp hrow
    exact (hcounted.accounted robot hrobot).arrived hgoal
  · change if s.finished then _ else _
    split_ifs with hfinished
    · refine (hcounted.last hfinished).imp (fun hle => le_antisymm hle hpositive) ?_
      rintro ⟨robot, hrobot, ht⟩
      exact ⟨robot.summary, List.mem_map_of_mem hrobot, ht⟩
    · refine le_antisymm hcounted.limit (not_lt.mp fun hless => ?_)
      exact hstops ⟨hless, .inr ((Bool.not_eq_true _).mp hfinished)⟩
  · have hheard : ∀ row ∈ (s.result scenario).robots, row.pauses + row.resumes ≤ s.ticksRun := by
      intro row hrow
      obtain ⟨robot, hrobot, rfl⟩ := List.mem_map.mp hrow
      exact (hcounted.accounted robot hrobot).heard_le
    rw [SimulationResult.totalPauses, SimulationResult.totalResumes, ← List.sum_map_add,
      ← List.length_map, ← smul_eq_mul]
    refine List.sum_le_card_nsmul _ _ fun total htotal => ?_
    obtain ⟨row, hrow, rfl⟩ := List.mem_map.mp htotal
    exact hheard row hrow
  · intro hfinished
    have hconserved := nodes_conserved hreach
    have hresumes : s.robots.map SimulatedRobot.resumes =
        s.robots.map SimulatedRobot.nodesAdvanced := by
      refine List.map_congr_left fun robot hrobot => ?_
      exact ((hcounted.accounted robot hrobot).arrived (List.all_eq_true.mp hfinished _ hrobot)).1
    have hone : s.robots.map (fun robot => robot.remainingPath.length) =
        s.robots.map fun _ => 1 := by
      refine List.map_congr_left fun robot hrobot => ?_
      have hgoal := List.all_eq_true.mp hfinished _ hrobot
      exact le_antisymm (of_decide_eq_true hgoal) (hnonempty robot)
    have hlength := robots_length hreach
    rw [List.sum_map_add, List.sum_map_add, hone, ← hresumes] at hconserved
    simp only [List.map_const', List.sum_replicate, smul_eq_mul, mul_one] at hconserved
    have hrows : (s.result scenario).totalResumes = (s.robots.map SimulatedRobot.resumes).sum :=
      congrArg List.sum (List.map_map ..)
    rw [hrows]
    unfold ScenarioDefinition.futureNodes
    omega

end Runs

/-! ## In memory -/

section InMemory

variable {E ω σ γ : Type} {wrappedAngle : ℚ → ℚ} {config : MonitorConfig} {geometry : Geometry E}
  {parts : Collaborators ω} {api : GrantManagerApi σ γ} {runId : String} {startEpochMs : ℤ}

/-- The in-memory transport raises when an action is missing. -/
lemma answersAll_inMemory : AnswersAll
    (inMemoryTransport wrappedAngle config geometry parts api runId startEpochMs) := by
  intro payloads robotIds state outcome state' h r hr
  obtain ⟨_, _, -, h⟩ := run_bind_eq_ok.mp h
  obtain ⟨_, _, -, h⟩ := run_bind_eq_ok.mp h
  obtain ⟨_, _, -, h⟩ := run_bind_eq_ok.mp h
  obtain ⟨_, _, -, h⟩ := run_bind_eq_ok.mp h
  obtain ⟨result, _, -, h⟩ := run_bind_eq_ok.mp h
  obtain ⟨_, _, hlift, h⟩ := run_bind_eq_ok.mp h
  obtain ⟨hmissing, -⟩ := run_lift_eq_ok.mp hlift
  obtain ⟨rfl, -⟩ := EStateM.Result.ok.inj h
  refine Dict.exists_lookup (by_contra fun hnot => ?_)
  have hnil := sorted_eq_nil.mp (not_not.mp (raiseIf_eq_ok.mp hmissing))
  have hmissed : r ∈ (robotIds.filter (· ∉ Dict.ofPairs (result.actionMessages.map
      fun message => (message.val.deviceId, message)))).dedup :=
    List.mem_dedup.mpr (List.mem_filter.mpr ⟨hr, decide_eq_true hnot⟩)
  rw [hnil] at hmissed
  cases hmissed

/-- **The report of an in-memory run adds up.** It has one row for each robot. A robot that arrived
heard one action in every tick before its arrival and used every Resume for one node; a robot that
did not arrive heard one in every tick, and at most its last Resume is unused. A completed run ends
with the arrival of its last robot, after as many Resumes as the scenario has future nodes; any
other run uses up its ticks.

**Proof sketch.** Every robot is accounted for in every tick: what it heard is what it did, up to a
Resume not yet used. In memory every robot before its goal is answered (`answersAll_inMemory`). -/
theorem runInMemoryScenario_addsUp {cpSat : ℕ → Backend} {scenario : ScenarioDefinition}
    {maximumTicks : Option ℤ} {result : SimulationResult}
    (h : runInMemoryScenario wrappedAngle config geometry cpSat runId scenario startEpochMs
      maximumTicks = .ok result) :
    result.AddsUp scenario (maximumTicks.getD scenario.maxTicks).toNat :=
  runScenario_addsUp answersAll_inMemory h

/-- Two robots that follow each other arrive after four Resumes. -/
theorem runInMemoryScenario_addsUp_following : ∃ result, runInMemoryScenario id defaultConfig
      lineGeometry (fun _ => none) "run" followingScenario 0 (some 5) = .ok result ∧
    result.AddsUp followingScenario 5 ∧ result.totalResumes = 4 := by
  obtain ⟨result, hrun, hresumes⟩ := Returns.exists_ok
    (x := runInMemoryScenario id defaultConfig lineGeometry (fun _ => none) "run"
      followingScenario 0 (some 5))
    (Q := fun result => result.totalResumes = 4) (by decide +kernel)
  exact ⟨result, hrun, runInMemoryScenario_addsUp hrun, hresumes⟩

end InMemory

end CollisionMonitor
