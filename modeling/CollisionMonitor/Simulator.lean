import CollisionMonitor.Service

set_option relaxedAutoImplicit false
set_option autoImplicit false

/-!
# The scenario simulator

Simulated robots that advance at most one path node per tick, and scenario runs that exchange
states and actions with a monitor (`simulator/robot.py`, `simulator/scenario.py`,
`transport/memory.py`).

A run is generic in its transport. The in-memory transport settles every state delivery before it
runs a tick, so its queue and its consumer task become a loop over the payloads.

## Main definitions

* `SimulatedRobot` — a robot and its remaining path.
* `ScenarioDefinition` — a validated scenario.
* `SimulatorTickTransport`, `exchangeTick` — one exchange of states and actions.
* `simulationTick`, `simulationLoop`, `runScenario` — one tick, the loop and a run.
* `runInMemoryScenario` — a run against the service of the shipped engine.
-/

namespace CollisionMonitor

open Outcome

/-! ## Robots -/

/-- End-of-run counters and goal status for one robot. -/
structure RobotSimulationSummary where
  robotId : RobotId
  pauses : ℕ
  resumes : ℕ
  nodesAdvanced : ℕ
  goalReached : Bool
  goalTick : Option ℤ

/-- A robot that advances at most one remaining path node per tick. Its remaining path starts with
its current pose. -/
structure SimulatedRobot where
  robotId : RobotId
  pose : Pose ℚ
  loaded : Bool
  batteryLevel : ℚ
  deadlineMs : ℤ
  latestAction : Action := .pause
  actionReceived : Bool := false
  pauses : ℕ := 0
  resumes : ℕ := 0
  nodesAdvanced : ℕ := 0
  goalTick : Option ℤ := none
  remainingPath : List (Pose ℚ)
  terminalStatePublished : Bool := false
  remaining_head : remainingPath.head? = some pose

namespace SimulatedRobot

/-- Construct a robot; IDs are not empty by type. -/
def create (robotId : RobotId) (pose : Pose ℚ) (futurePath : List (Pose ℚ)) (loaded : Bool)
    (batteryLevel : ℚ) (deadlineMs : ℤ) : Except PyException SimulatedRobot := do
  raiseIf (¬ (0 ≤ batteryLevel ∧ batteryLevel ≤ 100))
    (.valueError "simulated battery level must be in [0, 100]")
  raiseIf (deadlineMs < 0) (.valueError "simulated deadline must not be negative")
  return { robotId, pose, loaded, batteryLevel, deadlineMs, remainingPath := pose :: futurePath
           remaining_head := rfl }

variable (robot : SimulatedRobot)

/-- Whether no future path node remains. -/
def atGoal : Bool := decide (robot.remainingPath.length ≤ 1)

/-- Publish continuously while moving and once after reaching the goal. -/
def shouldPublishState : Bool := !robot.atGoal || !robot.terminalStatePublished

/-- Apply the latest action, advancing exactly one node on Resume. -/
def advanceForTick (tick : ℤ) : Except PyException SimulatedRobot := do
  raiseIf (tick < 1) (.valueError "simulation tick must be positive")
  return match robot.latestAction, robot.remainingPath with
    | .resume, _ :: next :: rest => { robot with
        remainingPath := next :: rest
        remaining_head := rfl
        pose := next
        nodesAdvanced := robot.nodesAdvanced + 1
        goalTick := if rest = [] ∧ robot.goalTick = none then some tick else robot.goalTick }
    -- at the goal, or paused
    | _, _ => robot

/-- Remember the latest action; Pause is the implicit initial default. -/
def receiveAction (action : Action) : SimulatedRobot :=
  { robot with
    latestAction := action
    actionReceived := true
    resumes := robot.resumes + if action = .resume then 1 else 0
    pauses := robot.pauses + if action = .resume then 0 else 1 }

/-- Build the payload with the current pose first in a non-empty path. -/
def statePayload (timestampMs : ℤ) : Except PyException StatePayloadFields := do
  raiseIf (timestampMs < 0) (.valueError "state timestamp must not be negative")
  return {
    deviceId := robot.robotId.val
    timestamp := timestampMs
    x := robot.pose.x
    y := robot.pose.y
    theta := robot.pose.theta
    batteryLevel := robot.batteryLevel
    loaded := robot.loaded
    deadline := robot.deadlineMs
    path := if robot.atGoal then [] else robot.remainingPath }

/-- Record the one terminal publication after goal completion. -/
def markStatePublished : SimulatedRobot :=
  { robot with terminalStatePublished := robot.terminalStatePublished || robot.atGoal }

/-- Counters for the end-of-run report. -/
def summary : RobotSimulationSummary where
  robotId := robot.robotId
  pauses := robot.pauses
  resumes := robot.resumes
  nodesAdvanced := robot.nodesAdvanced
  goalReached := robot.atGoal
  goalTick := robot.goalTick

end SimulatedRobot

/-! ## Scenarios -/

/-- One robot's attributes, initial pose and future path nodes. -/
structure ScenarioRobot where
  deviceId : RobotId
  initialPose : Pose ℚ
  path : List (Pose ℚ)
  loaded : Bool
  batteryLevel : ℚ
  deadlineOffsetMs : ℕ
  battery_range : 0 ≤ batteryLevel ∧ batteryLevel ≤ 100

/-- A validated scenario and its nominal timing metadata. -/
structure ScenarioDefinition where
  name : String
  nominalSpeedMps : ℚ
  tickIntervalSeconds : ℚ := 1
  maxTicks : ℤ := 30
  robots : List ScenarioRobot
  speed_pos : 0 < nominalSpeedMps
  interval_pos : 0 < tickIntervalSeconds
  maxTicks_pos : 1 ≤ maxTicks
  robots_ne : robots ≠ []
  ids_nodup : (robots.map ScenarioRobot.deviceId).Nodup

/-- Create deterministic robots in stable device-ID order. -/
def ScenarioDefinition.createRobots (scenario : ScenarioDefinition) (startEpochMs : ℤ) :
    Except PyException (List SimulatedRobot) :=
  (sortedBy ScenarioRobot.deviceId scenario.robots).mapM fun definition =>
    SimulatedRobot.create definition.deviceId definition.initialPose definition.path
      definition.loaded definition.batteryLevel (startEpochMs + definition.deadlineOffsetMs)

/-- Actions and diagnostics returned by one simulator transport tick. -/
structure SimulatorTickOutcome where
  actions : Dict RobotId ActionMessage
  alarms : List String
  safetyValid : Option Bool
  serviceResult : Option ServiceTickResult := none

/-- A transport with state in `τ` that exchanges one logical tick with a monitor. -/
structure SimulatorTickTransport (τ : Type) where
  exchangeTick : List StatePayloadFields → List RobotId →
    EStateM PyException τ SimulatorTickOutcome
  close : EStateM PyException τ PUnit

/-! ## Runs -/

/-- A deterministic scenario result and end-of-run summary data. -/
structure SimulationResult where
  scenarioName : String
  nominalSpeedMps : ℚ
  ticks : ℕ
  completed : Bool
  robots : List RobotSimulationSummary
  alarms : List String
  tickOutcomes : List SimulatorTickOutcome

/-- The state of a run. -/
structure Simulation (τ : Type) where
  robots : List SimulatedRobot
  transport : τ
  outcomes : List SimulatorTickOutcome := []
  alarms : List String := []
  ticksRun : ℕ := 0

/-- Whether every robot is at its goal. -/
def Simulation.finished {τ : Type} (simulation : Simulation τ) : Bool :=
  simulation.robots.all SimulatedRobot.atGoal

/-- Hand an action to the robot it is for, unless that robot is at its goal. -/
def SimulatedRobot.deliver (robot : SimulatedRobot) (actions : Dict RobotId ActionMessage) :
    SimulatedRobot :=
  match actions.lookup robot.robotId with
  | none => robot
  | some message => if robot.atGoal then robot else robot.receiveAction message.val.action

/-- Hand the actions to the robots; an action for an unknown robot raises. -/
def deliverActions (robots : List SimulatedRobot) (actions : Dict RobotId ActionMessage) :
    Except PyException (List SimulatedRobot) := do
  actions.keys.forM fun robotId =>
    raiseIf (robotId ∉ robots.map SimulatedRobot.robotId) (.keyError robotId.val)
  return robots.map fun robot => robot.deliver actions

section Run

variable {τ : Type} (transport : SimulatorTickTransport τ) (startEpochMs tickDurationMs : ℤ)

/-- One pass of the loop: move the robots, publish their states, and deliver the actions. -/
def simulationTick (tick : ℕ) : EStateM PyException (Simulation τ) PUnit := do
  let simulation ← get
  let robots ← lift (simulation.robots.mapM fun robot => robot.advanceForTick tick)
  let payloads ← lift ((robots.filter SimulatedRobot.shouldPublishState).mapM fun robot =>
    robot.statePayload (startEpochMs + (tick - 1) * tickDurationMs))
  let outcome ← zoom Simulation.transport (fun simulation transport =>
      { simulation with transport })
    (transport.exchangeTick payloads (sorted (robots.map SimulatedRobot.robotId)))
  let robots ← lift (deliverActions (robots.map fun robot =>
    if robot.shouldPublishState then robot.markStatePublished else robot) outcome.actions)
  modify fun simulation => { simulation with
    robots
    outcomes := simulation.outcomes ++ [outcome]
    alarms := simulation.alarms ++ outcome.alarms
    ticksRun := tick }

/-- The loop over the ticks from `tick` on, as many as remain, until all robots are at their
goals. -/
def simulationLoop : ℕ → ℕ → EStateM PyException (Simulation τ) PUnit
  | 0, _ => pure ⟨⟩
  | remaining + 1, tick => do
    simulationTick transport startEpochMs tickDurationMs tick
    let simulation ← get
    if simulation.finished then pure ⟨⟩
    else simulationLoop remaining (tick + 1)

/-- Run the loop and close the transport afterwards, whether it returned or raised. -/
def closingTransport (x : EStateM PyException (Simulation τ) PUnit) :
    EStateM PyException (Simulation τ) PUnit := fun simulation =>
  let closeTransport := zoom Simulation.transport (fun simulation transport =>
    { simulation with transport }) transport.close
  match x.run simulation with
  | .ok _ simulation => closeTransport.run simulation
  | .error e simulation => match closeTransport.run simulation with
    | .ok _ simulation => .error e simulation
    | .error e simulation => .error e simulation

/-- The result that a run reports. -/
def Simulation.result (simulation : Simulation τ) (scenario : ScenarioDefinition) :
    SimulationResult where
  scenarioName := scenario.name
  nominalSpeedMps := scenario.nominalSpeedMps
  ticks := simulation.ticksRun
  completed := simulation.robots.all fun robot => robot.summary.goalReached
  robots := simulation.robots.map SimulatedRobot.summary
  alarms := simulation.alarms.eraseDups
  tickOutcomes := simulation.outcomes

/-- Run a scenario with deterministic logical time, from a transport in state `initial`. -/
def runScenario (scenario : ScenarioDefinition) (maximumTicks : Option ℤ) (initial : τ) :
    Except PyException SimulationResult := do
  let robots ← scenario.createRobots startEpochMs
  let tickLimit := maximumTicks.getD scenario.maxTicks
  raiseIf (tickLimit < 1) (.valueError "maximum simulation ticks must be positive")
  let tickDurationMs := ⌊scenario.tickIntervalSeconds * 1000⌋
  match (closingTransport transport (simulationLoop transport startEpochMs tickDurationMs
      tickLimit.toNat 1)).run { robots, transport := initial } with
  | .ok _ simulation => return simulation.result scenario
  | .error e _ => throw e

end Run

/-! ## The in-memory transport -/

/-- Successful actions and injected failures, with the attempts made. -/
structure InMemoryActionPublisher where
  remainingFailures : Dict RobotId ℕ := ∅
  attemptCounts : Dict (String × RobotId × String) ℕ := ∅
  published : List ActionMessage := []

/-- Fail a configured number of attempts, then record the action. -/
def InMemoryActionPublisher.publishAction (message : ActionMessage) :
    EStateM PyException InMemoryActionPublisher PUnit := do
  let publisher ← get
  let key := message.val.idempotencyKey
  let attemptCounts := publisher.attemptCounts.insert key
    ((publisher.attemptCounts.lookup key).getD 0 + 1)
  match (publisher.remainingFailures.lookup message.val.deviceId).getD 0 with
  | remaining + 1 => do
    set { publisher with
      attemptCounts
      remainingFailures := publisher.remainingFailures.insert message.val.deviceId remaining }
    throw (.runtimeError
      ("injected publication failure for robot " ++ pyRepr message.val.deviceId))
  | 0 => set { publisher with attemptCounts, published := publisher.published ++ [message] }

/-- The clocks and the service of an in-memory transport. -/
structure InMemoryTransportState (ω σ γ : Type) where
  epochMs : ℤ
  monotonicSeconds : ℚ := 0
  service : ServiceState ω σ γ InMemoryActionPublisher

/-- Set the clocks to the latest timestamp of the payloads, if there are any. -/
def InMemoryTransportState.tickClocks {ω σ γ : Type} (startEpochMs : ℤ)
    (state : InMemoryTransportState ω σ γ) :
    List StatePayloadFields → InMemoryTransportState ω σ γ
  | [] => state
  | payload :: payloads =>
    let epochMs := (payloads.map StatePayloadFields.timestamp).foldl max payload.timestamp
    { state with
      epochMs
      monotonicSeconds := max (((epochMs - startEpochMs : ℤ) : ℚ) / 1000) 0 }

section InMemory

variable {E ω σ γ : Type} (wrappedAngle : ℚ → ℚ) (config : MonitorConfig)
  (geometry : Geometry E) (parts : Collaborators ω) (api : GrantManagerApi σ γ)
  (runId : String) (startEpochMs : ℤ)

/-- Settle all state deliveries, run one decision and return its actions. -/
def exchangeTick (payloads : List StatePayloadFields) (robotIds : List RobotId) :
    EStateM PyException (InMemoryTransportState ω σ γ) SimulatorTickOutcome := do
  modify fun state => state.tickClocks startEpochMs payloads
  let state ← get
  let settlements ← zoom InMemoryTransportState.service (fun state service =>
      { state with service })
    (payloads.mapM fun payload => ingestPayload state.monotonicSeconds (.wellTyped payload))
  lift (raiseIf (∃ settlement ∈ settlements, settlement.accepted = false)
    (.runtimeError "simulator state was rejected by the monitor"))
  let result ← zoom InMemoryTransportState.service (fun state service =>
      { state with service })
    (runTick wrappedAngle config geometry parts api ⟨InMemoryActionPublisher.publishAction⟩ runId
      state.monotonicSeconds state.epochMs)
  let messages := Dict.ofPairs (result.actionMessages.map fun message =>
    (message.val.deviceId, message))
  let missing := sorted (robotIds.filter (· ∉ messages)).dedup
  lift (raiseIf (missing ≠ []) (.runtimeError
    ("monitor omitted simulator actions for robots: " ++ pyReprList missing)))
  return {
    actions := messages
    alarms := result.trace.alarms
    safetyValid := some result.trace.safetyValid
    serviceResult := some result }

/-- The real application service against its in-memory adapters. -/
def inMemoryTransport : SimulatorTickTransport (InMemoryTransportState ω σ γ) where
  exchangeTick := exchangeTick wrappedAngle config geometry parts api runId startEpochMs
  close := pure ⟨⟩

end InMemory

/-- A new in-memory transport with a new shipped engine. -/
def InMemoryTransportState.initial (startEpochMs : ℤ) : InMemoryTransportState ℕ Store ℕ where
  epochMs := startEpochMs
  service := { engine := EngineState.initial 0, publisher := {} }

/-- The in-memory transport of a shipped engine. -/
abbrev shippedTransport {E : Type} (wrappedAngle : ℚ → ℚ) (config : MonitorConfig)
    (geometry : Geometry E) (cpSat : ℕ → Backend) (runId : String) (startEpochMs : ℤ) :
    SimulatorTickTransport (InMemoryTransportState ℕ Store ℕ) :=
  inMemoryTransport wrappedAngle config geometry (shippedCollaborators config geometry cpSat)
    (managerApi config) runId startEpochMs

/-- Run the scenario deterministically through the real service and engine. -/
def runInMemoryScenario {E : Type} (wrappedAngle : ℚ → ℚ) (config : MonitorConfig)
    (geometry : Geometry E) (cpSat : ℕ → Backend) (runId : String)
    (scenario : ScenarioDefinition) (startEpochMs : ℤ) (maximumTicks : Option ℤ) :
    Except PyException SimulationResult :=
  runScenario (shippedTransport wrappedAngle config geometry cpSat runId startEpochMs) startEpochMs
    scenario maximumTicks (InMemoryTransportState.initial startEpochMs)

end CollisionMonitor
