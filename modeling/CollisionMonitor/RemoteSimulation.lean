import CollisionMonitor.ClosedLoop
import CollisionMonitor.ServiceSafety

set_option relaxedAutoImplicit false
set_option autoImplicit false

/-!
# Scenario runs over RabbitMQ

The simulator publishes the states of a tick and then waits, one robot after the other, for an
action that was decided on a state not older than the published one. The monitor runs at its own
pace: it ingests states at any moment, and its ticks fall anywhere between the publications of the
simulator. So the actions of one simulator tick may come from different ticks of the monitor.

The broker may lose, repeat and reorder messages, and the monitor may be restarted.

## Main definitions

* `receiveBody` — what `_receive_fresh_action` does with a message.
* `RemoteRun`, `RemoteStep`, `remoteMachine` — the simulator, the broker and the monitor.
* `RemoteInvariant` — what holds in every state of a run.

## Main results

* `remoteInvariant_of_reachable` — the invariant holds in every run.
-/

namespace CollisionMonitor

open Outcome

/-! ## Receiving an action -/

/-- The body of a message in an action queue; a malformed one does not validate as an action. -/
inductive ActionBody
  | malformed
  | action (message : ActionMessage)

/-- What the loop of `_receive_fresh_action` does with a message: it rejects it, or acknowledges it
and either waits on or returns. -/
inductive Reception
  | rejected
  | skipped
  | fresh (message : ActionMessage)

/-- One pass of the loop of `_receive_fresh_action`. -/
def receiveBody (robotId : RobotId) (minimumTimestamp : ℤ) : ActionBody → Reception
  | .malformed => .rejected
  | .action message =>
    if message.val.deviceId ≠ robotId then .skipped
    else if message.val.sourceStateTimestamp < minimumTimestamp then .skipped
    else .fresh message

/-- The reason codes that `exchange_tick` reports as alarms. -/
def isAlarmCode (code : String) : Bool :=
  ["FAIL_SAFE", "UNRESOLVABLE", "SAFETY_VALIDATION_FAILED", "GEOMETRY_REMAINS_UNSAFE"].any
    fun part => decide (part.toList <:+: code.toList)

/-- What `exchange_tick` returns. -/
def remoteOutcome (actions : Dict RobotId ActionMessage) (alarms : List String) :
    SimulatorTickOutcome where
  actions
  alarms := alarms.eraseDups
  safetyValid := none

/-! ## The halves of a simulator tick -/

section Halves

variable (startEpochMs tickDurationMs : ℤ)

/-- A tick up to its exchange: move the robots and build their payloads. -/
def beginSimulationTick (tick : ℕ) (robots : List SimulatedRobot) :
    Except PyException (List SimulatedRobot × List StatePayloadFields) := do
  let moved ← robots.mapM fun robot => robot.advanceForTick tick
  let payloads ← (moved.filter SimulatedRobot.shouldPublishState).mapM fun robot =>
    robot.statePayload (startEpochMs + (tick - 1) * tickDurationMs)
  return (moved, payloads)

/-- A tick after its exchange: mark the publications and deliver the actions. -/
def finishSimulationTick (robots : List SimulatedRobot) (outcome : SimulatorTickOutcome) :
    Except PyException (List SimulatedRobot) :=
  deliverActions (robots.map SimulatedRobot.afterPublication) outcome.actions

/-- A tick is its two halves around the exchange. -/
lemma simulationTick_eq {τ : Type} (transport : SimulatorTickTransport τ) (tick : ℕ) :
    simulationTick transport startEpochMs tickDurationMs tick = (do
      let simulation ← get
      let begun ← lift (beginSimulationTick startEpochMs tickDurationMs tick simulation.robots)
      let outcome ← zoom Simulation.transport (fun simulation transport =>
          { simulation with transport })
        (transport.exchangeTick begun.2 (sorted (begun.1.map SimulatedRobot.robotId)))
      let robots ← lift (finishSimulationTick begun.1 outcome)
      modify fun simulation => { simulation with
        robots
        outcomes := simulation.outcomes ++ [outcome]
        alarms := simulation.alarms ++ outcome.alarms
        ticksRun := tick }) := by
  unfold simulationTick beginSimulationTick finishSimulationTick
  simp only [lift_bind, bind_assoc]
  rfl

end Halves

/-! ## The machine -/

/-- Where the simulator is: between two ticks, publishing, or waiting for actions. -/
inductive RemotePhase
  | idle
  | publishing (remaining : List StatePayloadFields)
  | receiving (remaining : List RobotId) (actions : Dict RobotId ActionMessage)
      (alarms : List String)

/-- The simulator with its transport, the states that were published, the actions that earlier runs
left in the queues, and the monitor with the processes that ran before it. -/
structure RemoteRun (π : Type) where
  robots : List SimulatedRobot
  ticksRun : ℕ := 0
  phase : RemotePhase := .idle
  lastStateTimestamp : Dict String ℤ := ∅
  outcomes : List SimulatorTickOutcome := []
  published : List StatePayloadFields
  leftovers : List ActionMessage
  service : ServiceRun ℕ Store ℕ π
  stopped : List (ServiceRun ℕ Store ℕ π) := []

namespace RemoteRun

variable {π : Type} (s : RemoteRun π)

/-- The processes of the monitor. -/
def processes : List (ServiceRun ℕ Store ℕ π) := s.service :: s.stopped

/-- The action was sent to a queue. -/
def Sent (message : ActionMessage) : Prop :=
  message ∈ s.leftovers ∨ ∃ run ∈ s.processes, message ∈ run.attempted

/-- Only a simulated robot publishes its own states. -/
def Incoming (robotIds : List RobotId) (payload : StatePayload) : Prop :=
  ∀ state, RobotState.modelValidate payload = .ok state → state.deviceId ∈ robotIds →
    ∃ p ∈ s.published, payload = .wellTyped p

/-- The least source timestamp that the simulator takes for a robot. -/
def minimumTimestamp (robotId : RobotId) : ℤ :=
  (s.lastStateTimestamp.lookup robotId.val).getD 0

end RemoteRun

section Machine

variable {E π : Type} (wrappedAngle : ℚ → ℚ) (config : MonitorConfig) (geometry : Geometry E)
  (cpSat : ℕ → Backend) (publisher : ActionPublisher π) (runId : ℕ → String) (startEpochMs : ℤ)
  (scenario : ScenarioDefinition) (tickLimit : ℕ)

/-- What may happen next. Of the messages that were sent, any one may come next, also again or to
the queue of another robot. -/
inductive RemoteStep : RemoteRun π → RemoteRun π → Prop
  | began {s moved payloads} (hphase : s.phase = .idle) (hlimit : s.ticksRun < tickLimit)
      (hgoes : s.ticksRun = 0 ∨ s.robots.all SimulatedRobot.atGoal = false)
      (h : beginSimulationTick startEpochMs scenario.tickDurationMs (s.ticksRun + 1) s.robots =
        .ok (moved, payloads)) :
      RemoteStep s { s with
        robots := moved, ticksRun := s.ticksRun + 1, phase := .publishing payloads }
  | published {s payload rest} (hphase : s.phase = .publishing (payload :: rest)) :
      RemoteStep s { s with
        lastStateTimestamp := s.lastStateTimestamp.insert payload.deviceId payload.timestamp
        published := s.published ++ [payload]
        phase := .publishing rest }
  | awaited {s} (hphase : s.phase = .publishing []) :
      RemoteStep s { s with
        phase := .receiving (sorted (s.robots.map SimulatedRobot.robotId)) ∅ [] }
  | received {s robotId rest actions alarms message} (body : ActionBody)
      (hphase : s.phase = .receiving (robotId :: rest) actions alarms)
      (hsent : ∀ message, body = .action message → s.Sent message)
      (h : receiveBody robotId (s.minimumTimestamp robotId) body = .fresh message) :
      RemoteStep s { s with
        phase := .receiving rest (actions.insert robotId message)
          (alarms ++ message.val.reasonCodes.filter isAlarmCode) }
  | timedOut {s robotId rest actions alarms}
      (hphase : s.phase = .receiving (robotId :: rest) actions alarms) :
      RemoteStep s { s with phase := .receiving rest actions alarms }
  | finished {s actions alarms robots} (hphase : s.phase = .receiving [] actions alarms)
      (h : finishSimulationTick s.robots (remoteOutcome actions alarms) = .ok robots) :
      RemoteStep s { s with
        robots, phase := .idle, outcomes := s.outcomes ++ [remoteOutcome actions alarms] }
  | ingested {s result service'} (received : ℚ) (payload : StatePayload)
      (hincoming : s.Incoming (s.robots.map SimulatedRobot.robotId) payload)
      (h : (ingestPayload received payload).run s.service.service = .ok result service') :
      RemoteStep s { s with service := { s.service with
        service := service'
        accepted := s.service.accepted ++ acceptedRobots payload result } }
  -- any other step of the monitor
  | worked {s service'} (h : ServiceStep wrappedAngle config geometry
        (shippedCollaborators config geometry cpSat) (managerApi config) publisher
        (runId s.stopped.length) s.service service')
      (hstore : service'.service.store = s.service.service.store) :
      RemoteStep s { s with service := service' }
  | restarted {s} (world : ℕ) (started : π) :
      RemoteStep s { s with
        service := { service := { engine := EngineState.initial world, publisher := started } }
        stopped := s.stopped ++ [s.service] }

/-- The runs of a scenario over RabbitMQ. What earlier runs left is older than the start. -/
def remoteMachine : Machine (RemoteRun π) where
  init s := ∃ robots published leftovers world started,
    scenario.createRobots startEpochMs = .ok robots ∧
    (∀ payload ∈ published, payload.timestamp < startEpochMs) ∧
    (∀ message ∈ leftovers, message.val.sourceStateTimestamp < startEpochMs) ∧
    s = { robots, published, leftovers
          service := { service := { engine := EngineState.initial world, publisher := started } } }
  step := RemoteStep wrappedAngle config geometry cpSat publisher runId startEpochMs scenario
    tickLimit

end Machine

/-! ## What the simulator does in a tick -/

section Halves

variable {startEpochMs tickDurationMs : ℤ} {robots moved : List SimulatedRobot}
  {payloads : List StatePayloadFields}

/-- The timestamp of the `ticksRun`-th tick. -/
def tickTimestamp (startEpochMs tickDurationMs : ℤ) (ticksRun : ℕ) : ℤ :=
  startEpochMs + (ticksRun - 1) * tickDurationMs

/-- A payload has the timestamp of its tick. -/
lemma SimulatedRobot.timestamp_of_statePayload {robot : SimulatedRobot} {timestampMs : ℤ}
    {payload : StatePayloadFields} (h : robot.statePayload timestampMs = .ok payload) :
    payload.timestamp = timestampMs := by
  obtain ⟨_, -, h⟩ := bind_eq_ok.mp h
  rw [← Except.ok.inj h]

/-- A tick builds the payloads of exactly the robots that publish. -/
lemma beginSimulationTick_eq_ok {ticksRun : ℕ}
    (h : beginSimulationTick startEpochMs tickDurationMs ticksRun robots = .ok (moved, payloads)) :
    moved.map SimulatedRobot.robotId = robots.map SimulatedRobot.robotId ∧
      (∀ payload ∈ payloads, ∃ robot ∈ moved,
        robot.statePayload (tickTimestamp startEpochMs tickDurationMs ticksRun) = .ok payload) ∧
      ∀ robot ∈ moved, robot.shouldPublishState = true → ∃ payload ∈ payloads,
        robot.statePayload (tickTimestamp startEpochMs tickDurationMs ticksRun) = .ok payload := by
  obtain ⟨_, hmoved, h⟩ := bind_eq_ok.mp h
  obtain ⟨_, hpayloads, h⟩ := bind_eq_ok.mp h
  obtain ⟨rfl, rfl⟩ := Prod.mk.inj (Except.ok.inj h)
  refine ⟨map_of_mapM hmoved fun _ _ hadvance => (SimulatedRobot.advanceForTick_same hadvance).1,
    fun payload hpayload => ?_, fun robot hrobot hpublishes => ?_⟩
  · obtain ⟨robot, hrobot, hok⟩ := exists_of_mem_mapM hpayloads payload hpayload
    exact ⟨robot, List.mem_of_mem_filter hrobot, hok⟩
  · exact exists_mem_of_mapM hpayloads robot (List.mem_filter.mpr ⟨hrobot, hpublishes⟩)

/-- A tick keeps the robots. -/
lemma finishSimulationTick_ids {outcome : SimulatorTickOutcome}
    (h : finishSimulationTick moved outcome = .ok robots) :
    robots.map SimulatedRobot.robotId = moved.map SimulatedRobot.robotId := by
  obtain ⟨_, _, h⟩ := bind_eq_ok.mp h
  rw [← Except.ok.inj h, List.map_map, List.map_map]
  exact List.map_congr_left fun robot _ => (robot.afterPublication_deliver_same outcome.actions).1

/-- The IDs of the robots of a scenario, in their order. -/
def ScenarioDefinition.robotIds (scenario : ScenarioDefinition) : List RobotId :=
  (sortedBy ScenarioRobot.deviceId scenario.robots).map ScenarioRobot.deviceId

/-- No robot stands twice in a scenario. -/
lemma ScenarioDefinition.robotIds_nodup (scenario : ScenarioDefinition) : scenario.robotIds.Nodup :=
  ((sortedBy_perm _ _).map ScenarioRobot.deviceId).nodup_iff.mpr scenario.ids_nodup

end Halves

/-! ## What the monitor knows -/

section Monitor

variable {E π : Type} {wrappedAngle : ℚ → ℚ} {config : MonitorConfig} {geometry : Geometry E}
  {cpSat : ℕ → Backend} {publisher : ActionPublisher π} {runId : String}
  {robotIds : List RobotId} {published : List StatePayloadFields}

/-- What the store holds about the simulated robots was published. -/
def LatestStateStore.PublishedIn (robotIds : List RobotId) (published : List StatePayloadFields)
    (store : LatestStateStore) : Prop :=
  ∀ r ∈ robotIds, ∀ stored, store.states.lookup r = some stored → ∃ payload ∈ published,
    payload.deviceId = r.val ∧
      RobotState.modelValidate (.wellTyped payload) = .ok stored.val.state

/-- What a process of the monitor knows, and captured for its ticks, was published. -/
structure Monitored (wrappedAngle : ℚ → ℚ) (config : MonitorConfig) (geometry : Geometry E)
    (cpSat : ℕ → Backend) (publisher : ActionPublisher π) (robotIds : List RobotId)
    (published : List StatePayloadFields) (runId : String) (run : ServiceRun ℕ Store ℕ π) :
    Prop where
  store : run.service.store.PublishedIn robotIds published
  records : ∀ record ∈ run.ticks, record.known.PublishedIn robotIds published
  reachable : (shippedServiceMachine wrappedAngle config geometry cpSat publisher
    runId).Reachable run

/-- What was published stays so. -/
lemma LatestStateStore.PublishedIn.mono {store : LatestStateStore}
    (h : store.PublishedIn robotIds published) (new : List StatePayloadFields) :
    store.PublishedIn robotIds (published ++ new) := fun r hr stored hstored => by
  obtain ⟨payload, hpayload, hfrom⟩ := h r hr stored hstored
  exact ⟨payload, List.mem_append_left _ hpayload, hfrom⟩

/-- A monitored process stays so while more is published. -/
lemma Monitored.mono {run : ServiceRun ℕ Store ℕ π}
    (h : Monitored wrappedAngle config geometry cpSat publisher robotIds published runId run)
    (new : List StatePayloadFields) :
    Monitored wrappedAngle config geometry cpSat publisher robotIds (published ++ new) runId
      run where
  store := h.store.mono new
  records record hrecord := (h.records record hrecord).mono new
  reachable := h.reachable

/-- A new process knows nothing. -/
lemma Monitored.fresh (world : ℕ) (started : π) :
    Monitored wrappedAngle config geometry cpSat publisher robotIds published runId
      { service := { engine := EngineState.initial world, publisher := started } } where
  store r _ stored hstored := by
    rw [AList.lookup_empty] at hstored
    cases hstored
  records _ hrecord := by cases hrecord
  reachable := .init ⟨world, started, rfl⟩

/-- The process ingests what was published, or what is about other robots. -/
lemma Monitored.ingest {run : ServiceRun ℕ Store ℕ π}
    (h : Monitored wrappedAngle config geometry cpSat publisher robotIds published runId run)
    {received : ℚ} {payload : StatePayload} {result : IngestionResult}
    {service' : ServiceState ℕ Store ℕ π}
    (hincoming : ∀ state, RobotState.modelValidate payload = .ok state → state.deviceId ∈ robotIds →
      ∃ p ∈ published, payload = .wellTyped p)
    (hrun : (ingestPayload received payload).run run.service = .ok result service') :
    Monitored wrappedAngle config geometry cpSat publisher robotIds published runId { run with
      service := service', accepted := run.accepted ++ acceptedRobots payload result } := by
  obtain ⟨store, count, rfl, haccepted, hrefused⟩ :=
    (ingestPayload_spec received payload _).get_ok hrun
  refine ⟨fun r hr stored hstored => ?_, h.records,
    h.reachable.step (.ingest received payload hrun)⟩
  change store.states.lookup r = some stored at hstored
  cases hresult : result.accepted with
  | false =>
    rw [hrefused hresult] at hstored
    exact h.store r hr stored hstored
  | true =>
    obtain ⟨state, stored', hstate, hval, hinsert⟩ := haccepted hresult
    rw [hinsert, Dict.lookup_insert_eq_ite] at hstored
    split_ifs at hstored with hown
    · obtain rfl := Option.some.inj hstored
      obtain ⟨p, hp, rfl⟩ := hincoming state hstate (hown ▸ hr)
      refine ⟨p, hp, ?_, by rw [hval]; exact hstate⟩
      rw [hown, ← (modelValidate_eq_ok hstate).1]
    · exact h.store r hr stored hstored

/-- A step of the service begins at most a tick that captures the store, and forgets no attempt. -/
lemma ServiceStep.history {ω σ γ : Type} {parts : Collaborators ω} {api : GrantManagerApi σ γ}
    {run run' : ServiceRun ω σ γ π}
    (h : ServiceStep wrappedAngle config geometry parts api publisher runId run run') :
    (∀ record ∈ run'.ticks, record ∈ run.ticks ∨ record.known = run.service.store) ∧
      ∀ message ∈ run.attempted, message ∈ run'.attempted := by
  cases h with
  | begin mono epoch hidle hrun =>
    refine ⟨fun record hrecord => ?_, fun _ h => h⟩
    refine (List.mem_append.mp hrecord).imp_right fun hlast => ?_
    rw [List.mem_singleton.mp hlast]
  | published hpending hremaining hrun =>
    exact ⟨fun _ h => .inl h, fun _ h => List.mem_append_left _ h⟩
  | retried hpending hremaining hattempt hrun =>
    exact ⟨fun _ h => .inl h, fun _ h => List.mem_append_left _ h⟩
  | failed hpending hremaining hattempt hrun =>
    exact ⟨fun _ h => .inl h, fun _ h => List.mem_append_left _ h⟩
  | _ => exact ⟨fun _ h => .inl h, fun _ h => h⟩

/-- The process makes a step that leaves the store as it is. -/
lemma Monitored.work {run run' : ServiceRun ℕ Store ℕ π}
    (h : Monitored wrappedAngle config geometry cpSat publisher robotIds published runId run)
    (hstep : ServiceStep wrappedAngle config geometry (shippedCollaborators config geometry cpSat)
      (managerApi config) publisher runId run run')
    (hstore : run'.service.store = run.service.store) :
    Monitored wrappedAngle config geometry cpSat publisher robotIds published runId run' where
  store := hstore ▸ h.store
  records record hrecord := by
    rcases hstep.history.1 record hrecord with hearlier | hknown
    · exact h.records record hearlier
    · exact hknown ▸ h.store
  reachable := h.reachable.step hstep

end Monitor

/-! ## The invariant -/

section Invariant

variable {E π : Type} {wrappedAngle : ℚ → ℚ} {config : MonitorConfig} {geometry : Geometry E}
  {cpSat : ℕ → Backend} {publisher : ActionPublisher π} {runId : ℕ → String} {startEpochMs : ℤ}
  {tickDurationMs : ℤ} {scenario : ScenarioDefinition} {tickLimit : ℕ} {robotIds : List RobotId}
  {s t : RemoteRun π}

/-- The payload is what a robot publishes in the current tick. -/
def RemoteRun.Presents (startEpochMs tickDurationMs : ℤ) (s : RemoteRun π)
    (payload : StatePayloadFields) : Prop :=
  ∃ robot ∈ s.robots,
    robot.statePayload (tickTimestamp startEpochMs tickDurationMs s.ticksRun) = .ok payload

/-- The simulator expects actions for what the robot publishes in the current tick. -/
def RemoteRun.Awaits (startEpochMs tickDurationMs : ℤ) (s : RemoteRun π) (robot : SimulatedRobot) :
    Prop :=
  s.lastStateTimestamp.lookup robot.robotId.val =
    some (tickTimestamp startEpochMs tickDurationMs s.ticksRun)

/-- What holds of the simulator: every state that was published is older than the next tick, and
those not older than the current one are of the current one. -/
structure Simulating (startEpochMs tickDurationMs : ℤ) (robotIds : List RobotId)
    (s : RemoteRun π) : Prop where
  ids : s.robots.map SimulatedRobot.robotId = robotIds
  bounded : ∀ payload ∈ s.published,
    payload.timestamp < tickTimestamp startEpochMs tickDurationMs (s.ticksRun + 1)
  begun : s.phase ≠ .idle → 1 ≤ s.ticksRun
  present : s.phase ≠ .idle → ∀ payload ∈ s.published,
    tickTimestamp startEpochMs tickDurationMs s.ticksRun ≤ payload.timestamp →
      s.Presents startEpochMs tickDurationMs payload
  publishing : ∀ remaining, s.phase = .publishing remaining →
    (∀ payload ∈ remaining, s.Presents startEpochMs tickDurationMs payload) ∧
      ∀ robot ∈ s.robots, robot.shouldPublishState = true →
        (∃ payload ∈ remaining, payload.deviceId = robot.robotId.val) ∨
          s.Awaits startEpochMs tickDurationMs robot
  receiving : ∀ remaining actions alarms, s.phase = .receiving remaining actions alarms →
    (∀ robot ∈ s.robots, robot.shouldPublishState = true →
      s.Awaits startEpochMs tickDurationMs robot) ∧
      ∀ r message, actions.lookup r = some message → message.val.deviceId = r ∧
        s.minimumTimestamp r ≤ message.val.sourceStateTimestamp ∧ s.Sent message
  leftovers : ∀ message ∈ s.leftovers, message.val.sourceStateTimestamp < startEpochMs

namespace Simulating

/-- A tick begins. -/
lemma began (h : Simulating startEpochMs tickDurationMs robotIds s) (hduration : 0 < tickDurationMs)
    {moved : List SimulatedRobot} {payloads : List StatePayloadFields}
    (hbegin : beginSimulationTick startEpochMs tickDurationMs (s.ticksRun + 1) s.robots =
      .ok (moved, payloads)) :
    Simulating startEpochMs tickDurationMs robotIds { s with
      robots := moved, ticksRun := s.ticksRun + 1, phase := .publishing payloads } := by
  obtain ⟨hids, hpayloads, hpublishes⟩ := beginSimulationTick_eq_ok hbegin
  refine { h with
    ids := hids.trans h.ids
    bounded := fun payload hpayload => (h.bounded payload hpayload).trans ?_
    begun := fun _ => Nat.le_add_left _ _
    present := fun _ payload hpayload hnow => absurd (h.bounded payload hpayload) hnow.not_gt
    publishing := fun remaining hphase => ?_
    receiving := fun _ _ _ hphase => (by cases hphase) }
  · unfold tickTimestamp
    push_cast
    linarith
  · obtain rfl := RemotePhase.publishing.inj hphase
    refine ⟨hpayloads, fun robot hrobot hpublish => .inl ?_⟩
    obtain ⟨payload, hpayload, hok⟩ := hpublishes robot hrobot hpublish
    exact ⟨payload, hpayload, SimulatedRobot.deviceId_of_statePayload hok⟩

/-- A state is published.

**Proof sketch.** The payload carries the timestamp of the present tick
(`SimulatedRobot.timestamp_of_statePayload`), so it is in bounds, and its robot is no longer waited
for. -/
lemma published (h : Simulating startEpochMs tickDurationMs robotIds s)
    (hduration : 0 < tickDurationMs) {payload : StatePayloadFields}
    {rest : List StatePayloadFields} (hphase : s.phase = .publishing (payload :: rest)) :
    Simulating startEpochMs tickDurationMs robotIds { s with
      lastStateTimestamp := s.lastStateTimestamp.insert payload.deviceId payload.timestamp
      published := s.published ++ [payload]
      phase := .publishing rest } := by
  obtain ⟨hremaining, hawaits⟩ := h.publishing _ hphase
  have hbusy : s.phase ≠ .idle := by
    rw [hphase]
    exact fun hidle => by cases hidle
  have hpresents := hremaining payload List.mem_cons_self
  obtain ⟨sender, -, hsent⟩ := hpresents
  have hnow := SimulatedRobot.timestamp_of_statePayload hsent
  refine { h with
    bounded := fun p hp => ?_
    begun := fun _ => h.begun hbusy
    present := fun _ p hp hnot => ?_
    publishing := fun remaining hrest => ?_
    receiving := fun _ _ _ hreceiving => (by cases hreceiving) }
  · rcases List.mem_append.mp hp with hp | hp
    · exact h.bounded p hp
    · rw [List.mem_singleton.mp hp, hnow]
      unfold tickTimestamp
      push_cast
      linarith
  · rcases List.mem_append.mp hp with hp | hp
    · exact h.present hbusy p hp hnot
    · exact List.mem_singleton.mp hp ▸ hremaining payload List.mem_cons_self
  · obtain rfl := RemotePhase.publishing.inj hrest
    refine ⟨fun p hp => hremaining p (List.mem_cons_of_mem _ hp), fun robot hrobot hpublish => ?_⟩
    unfold RemoteRun.Awaits
    rw [Dict.lookup_insert_eq_ite]
    by_cases hown : robot.robotId.val = payload.deviceId
    · exact .inr (by rw [if_pos hown, hnow])
    · rw [if_neg hown]
      refine (hawaits robot hrobot hpublish).imp_left ?_
      rintro ⟨p, hp, hid⟩
      rcases List.mem_cons.mp hp with rfl | hp
      · exact absurd hid.symm hown
      · exact ⟨p, hp, hid⟩

/-- All states are published. -/
lemma awaited (h : Simulating startEpochMs tickDurationMs robotIds s)
    (hphase : s.phase = .publishing []) :
    Simulating startEpochMs tickDurationMs robotIds { s with
      phase := .receiving (sorted (s.robots.map SimulatedRobot.robotId)) ∅ [] } := by
  have hbusy : s.phase ≠ .idle := by
    rw [hphase]
    exact fun hidle => by cases hidle
  refine { h with
    begun := fun _ => h.begun hbusy
    present := fun _ => h.present hbusy
    publishing := fun _ hpublishing => (by cases hpublishing)
    receiving := fun _ _ _ hreceiving => ?_ }
  obtain ⟨-, rfl, -⟩ := RemotePhase.receiving.inj hreceiving
  refine ⟨fun robot hrobot hpublish => ?_, fun r message hlookup => ?_⟩
  · rcases (h.publishing _ hphase).2 robot hrobot hpublish with ⟨p, hp, -⟩ | hawaits
    · cases hp
    · exact hawaits
  · rw [AList.lookup_empty] at hlookup
    cases hlookup

/-- The simulator goes on to the next robot, possibly with a fresh action. -/
lemma received (h : Simulating startEpochMs tickDurationMs robotIds s)
    {remaining rest : List RobotId} {actions actions' : Dict RobotId ActionMessage}
    {alarms alarms' : List String} (hphase : s.phase = .receiving remaining actions alarms)
    (hactions : ∀ r message, actions'.lookup r = some message →
      actions.lookup r = some message ∨ message.val.deviceId = r ∧
        s.minimumTimestamp r ≤ message.val.sourceStateTimestamp ∧ s.Sent message) :
    Simulating startEpochMs tickDurationMs robotIds
      { s with phase := .receiving rest actions' alarms' } := by
  have hbusy : s.phase ≠ .idle := by
    rw [hphase]
    exact fun hidle => by cases hidle
  obtain ⟨hawaits, hknown⟩ := h.receiving _ _ _ hphase
  refine { h with
    begun := fun _ => h.begun hbusy
    present := fun _ => h.present hbusy
    publishing := fun _ hpublishing => (by cases hpublishing)
    receiving := fun _ _ _ hreceiving => ?_ }
  obtain ⟨-, rfl, -⟩ := RemotePhase.receiving.inj hreceiving
  refine ⟨hawaits, fun r message hlookup => ?_⟩
  exact (hactions r message hlookup).elim (hknown r message) id

/-- A tick ends. -/
lemma finished (h : Simulating startEpochMs tickDurationMs robotIds s)
    {outcome : SimulatorTickOutcome} {robots : List SimulatedRobot}
    (hfinish : finishSimulationTick s.robots outcome = .ok robots) :
    Simulating startEpochMs tickDurationMs robotIds { s with
      robots, phase := .idle, outcomes := s.outcomes ++ [outcome] } :=
  { h with
    ids := (finishSimulationTick_ids hfinish).trans h.ids
    begun := fun hbusy => absurd rfl hbusy
    present := fun hbusy => absurd rfl hbusy
    publishing := fun _ hphase => (by cases hphase)
    receiving := fun _ _ _ hphase => (by cases hphase) }

/-- The monitor does something. -/
lemma monitor (h : Simulating startEpochMs tickDurationMs robotIds s)
    {service : ServiceRun ℕ Store ℕ π} {stopped : List (ServiceRun ℕ Store ℕ π)}
    (hsent : ∀ message, s.Sent message → RemoteRun.Sent { s with service, stopped } message) :
    Simulating startEpochMs tickDurationMs robotIds { s with service, stopped } :=
  { h with
    receiving := fun remaining actions alarms hphase =>
      ⟨(h.receiving remaining actions alarms hphase).1, fun r message hlookup => by
        obtain ⟨hid, hfresh, hmessage⟩ := (h.receiving _ _ _ hphase).2 r message hlookup
        exact ⟨hid, hfresh, hsent message hmessage⟩⟩ }

end Simulating

/-- A fresh action is for the robot, not older than its published state, and was sent. -/
lemma receiveBody_eq_fresh {robotId : RobotId} {minimumTimestamp : ℤ} {body : ActionBody}
    {message : ActionMessage} (h : receiveBody robotId minimumTimestamp body = .fresh message) :
    body = .action message ∧ message.val.deviceId = robotId ∧
      minimumTimestamp ≤ message.val.sourceStateTimestamp := by
  unfold receiveBody at h
  split at h
  · cases h
  · split_ifs at h with hother hold
    obtain rfl := Reception.fresh.inj h
    exact ⟨rfl, not_not.mp hother, not_lt.mp hold⟩

/-- What holds in every state of a run. -/
structure RemoteInvariant (wrappedAngle : ℚ → ℚ) (config : MonitorConfig) (geometry : Geometry E)
    (cpSat : ℕ → Backend) (publisher : ActionPublisher π) (runId : ℕ → String)
    (startEpochMs tickDurationMs : ℤ) (robotIds : List RobotId) (s : RemoteRun π) : Prop where
  simulating : Simulating startEpochMs tickDurationMs robotIds s
  current : Monitored wrappedAngle config geometry cpSat publisher robotIds s.published
    (runId s.stopped.length) s.service
  earlier : ∀ run ∈ s.stopped, ∃ n, Monitored wrappedAngle config geometry cpSat publisher robotIds
    s.published (runId n) run

/-- **What one step keeps.**

**Proof sketch.** By cases on the step. The steps of the simulator leave the monitor alone; those of
the monitor, a restart included, only add to what was sent, which is all that the simulator knows of
it. -/
lemma RemoteInvariant.step (hduration : 0 < scenario.tickDurationMs)
    (h : RemoteInvariant wrappedAngle config geometry cpSat publisher runId startEpochMs
      scenario.tickDurationMs robotIds s)
    (hstep : RemoteStep wrappedAngle config geometry cpSat publisher runId startEpochMs scenario
      tickLimit s t) :
    RemoteInvariant wrappedAngle config geometry cpSat publisher runId startEpochMs
      scenario.tickDurationMs robotIds t := by
  have hids := h.simulating.ids
  cases hstep with
  | began hphase hlimit hgoes hbegin =>
    exact ⟨h.simulating.began hduration hbegin, h.current, h.earlier⟩
  | published hphase =>
    refine ⟨h.simulating.published hduration hphase, h.current.mono _, fun run hrun => ?_⟩
    obtain ⟨n, hmonitored⟩ := h.earlier run hrun
    exact ⟨n, hmonitored.mono _⟩
  | awaited hphase => exact ⟨h.simulating.awaited hphase, h.current, h.earlier⟩
  | @received robotId rest actions alarms message body hphase hsent hfresh =>
    obtain ⟨rfl, hid, hnew⟩ := receiveBody_eq_fresh hfresh
    refine ⟨h.simulating.received hphase fun r other hlookup => ?_, h.current, h.earlier⟩
    rw [Dict.lookup_insert_eq_ite] at hlookup
    split_ifs at hlookup with hown
    · obtain rfl := Option.some.inj hlookup
      exact .inr ⟨hid.trans hown.symm, hown ▸ hnew, hsent _ rfl⟩
    · exact .inl hlookup
  | timedOut hphase =>
    exact ⟨h.simulating.received hphase fun _ _ => .inl, h.current, h.earlier⟩
  | finished hphase hfinish => exact ⟨h.simulating.finished hfinish, h.current, h.earlier⟩
  | ingested received payload hincoming hrun =>
    refine ⟨h.simulating.monitor fun message hsent => ?_,
      h.current.ingest (hids ▸ hincoming) hrun, h.earlier⟩
    refine hsent.imp_right ?_
    rintro ⟨run, hrun, hmessage⟩
    rcases List.mem_cons.mp hrun with rfl | hrun
    · exact ⟨_, List.mem_cons_self, hmessage⟩
    · exact ⟨run, List.mem_cons_of_mem _ hrun, hmessage⟩
  | worked hwork hstore =>
    refine ⟨h.simulating.monitor fun message hsent => ?_, h.current.work hwork hstore, h.earlier⟩
    refine hsent.imp_right ?_
    rintro ⟨run, hrun, hmessage⟩
    rcases List.mem_cons.mp hrun with rfl | hrun
    · exact ⟨_, List.mem_cons_self, hwork.history.2 message hmessage⟩
    · exact ⟨run, List.mem_cons_of_mem _ hrun, hmessage⟩
  | restarted world started =>
    refine ⟨h.simulating.monitor fun message hsent => ?_, .fresh world started,
      fun run hrun => ?_⟩
    · refine hsent.imp_right ?_
      rintro ⟨run, hrun, hmessage⟩
      refine ⟨run, List.mem_cons_of_mem _ ?_, hmessage⟩
      rcases List.mem_cons.mp hrun with rfl | hrun
      · exact List.mem_append_right _ (List.mem_singleton_self _)
      · exact List.mem_append_left _ hrun
    · rcases List.mem_append.mp hrun with hrun | hrun
      · exact h.earlier run hrun
      · exact ⟨_, List.mem_singleton.mp hrun ▸ h.current⟩

/-- **The invariant** holds in every run. -/
theorem remoteInvariant_of_reachable (hduration : 0 < scenario.tickDurationMs)
    (h : (remoteMachine wrappedAngle config geometry cpSat publisher runId startEpochMs scenario
      tickLimit).Reachable s) :
    RemoteInvariant wrappedAngle config geometry cpSat publisher runId startEpochMs
      scenario.tickDurationMs scenario.robotIds s := by
  induction h with
  | init hinit =>
    obtain ⟨robots, published, leftovers, world, started, hrobots, hpublished, hleftovers, rfl⟩ :=
      hinit
    refine ⟨⟨?_, fun payload hpayload => ?_, fun hbusy => absurd rfl hbusy,
      fun hbusy => absurd rfl hbusy, fun _ hphase => (by cases hphase),
      fun _ _ _ hphase => (by cases hphase), hleftovers⟩, .fresh world started,
      fun run hrun => (by cases hrun)⟩
    · exact map_of_mapM hrobots fun _ _ hcreate => (SimulatedRobot.create_eq_ok hcreate).1
    · simpa [tickTimestamp] using hpublished payload hpayload
  | step _ hstep ih => exact ih.step hduration hstep

end Invariant

end CollisionMonitor
