import CollisionMonitor.CollisionFreedom
import CollisionMonitor.RemoteSimulation

set_option relaxedAutoImplicit false
set_option autoImplicit false

/-!
# Actions over RabbitMQ

What a robot is told to do over RabbitMQ was decided on where it is. Actions from one tick of the
monitor are safe together; actions from different ticks need not be, although each of them is safe
for the states that its tick knew.

## Main definitions

* `RemoteRun.Delivers` — an action is about to be delivered to a robot.
* `TickRecord.DecidedOn` — a tick of the monitor decided an action on the present state.

## Main results

* `remoteActions_present` — actions were decided on where robots are, and those of one tick of the
  monitor are safe together.
-/

namespace CollisionMonitor

open Outcome

/-! ## Present states -/

section Present

variable {E π : Type} {wrappedAngle : ℚ → ℚ} {config : MonitorConfig}
  {cpSat : ℕ → Backend} {publisher : ActionPublisher π} {runId : ℕ → String} {startEpochMs : ℤ}
  {scenario : ScenarioDefinition} {tickLimit : ℕ} {s : RemoteRun π}

/-- The action is about to be delivered to a robot that is not at its goal. -/
structure RemoteRun.Delivers (s : RemoteRun π) (robot : SimulatedRobot) (message : ActionMessage) :
    Prop where
  mem : robot ∈ s.robots
  atGoal : robot.atGoal = false
  received : ∃ remaining actions alarms, s.phase = .receiving remaining actions alarms ∧
    actions.lookup robot.robotId = some message

/-- The tick of the monitor decided the action on the state that the robot published last. -/
structure TickRecord.DecidedOn (record : TickRecord) (timestampMs : ℤ) (robot : SimulatedRobot)
    (message : ActionMessage) : Prop where
  message : message ∈ record.messages
  known : ∃ stored, record.known.states.lookup robot.robotId = some stored ∧
    stored.val.state.timestamp = timestampMs ∧ robot.DescribedBy stored.val.state

/-- A validated state keeps the timestamp of its payload. -/
lemma timestamp_of_modelValidate {payload : StatePayloadFields} {state : RobotState}
    (h : RobotState.modelValidate (.wellTyped payload) = .ok state) :
    (state.timestamp : ℤ) = payload.timestamp := by
  unfold RobotState.modelValidate at h
  dsimp only at h
  split_ifs at h with hvalid
  obtain rfl := Except.ok.inj h
  exact Int.toNat_of_nonneg hvalid.2.1

section Records

variable {geometry : Geometry E} {robot : SimulatedRobot} {message : ActionMessage}
  {run : ServiceRun ℕ Store ℕ π}

/-- Every process of the run is monitored. -/
lemma RemoteInvariant.monitored (h : RemoteInvariant wrappedAngle config geometry cpSat publisher
      runId startEpochMs scenario.tickDurationMs scenario.robotIds s) (hrun : run ∈ s.processes) :
    ∃ n, Monitored wrappedAngle config geometry cpSat publisher scenario.robotIds s.published
      (runId n) run := by
  rcases List.mem_cons.mp hrun with rfl | hrun
  · exact ⟨_, h.current⟩
  · exact h.earlier run hrun

/-- A delivered action is for its robot, was sent, and is not older than the current tick. -/
lemma Simulating.delivers (h : Simulating startEpochMs scenario.tickDurationMs scenario.robotIds s)
    (hdelivers : s.Delivers robot message) : s.phase ≠ .idle ∧
      message.val.deviceId = robot.robotId ∧ s.Sent message ∧
      tickTimestamp startEpochMs scenario.tickDurationMs s.ticksRun ≤
        message.val.sourceStateTimestamp := by
  obtain ⟨hrobot, hgoal, remaining, actions, alarms, hphase, hlookup⟩ := hdelivers
  obtain ⟨hawaits, hactions⟩ := h.receiving _ _ _ hphase
  obtain ⟨hid, hfresh, hsent⟩ := hactions _ _ hlookup
  have hnow := hawaits robot hrobot (by simp [SimulatedRobot.shouldPublishState, hgoal])
  rw [RemoteRun.minimumTimestamp, hnow, Option.getD_some] at hfresh
  refine ⟨?_, hid, hsent, hfresh⟩
  rw [hphase]
  exact fun hidle => by cases hidle

/-- Whatever tick of the monitor a delivered action belongs to, it was decided on the present state
of its robot. -/
lemma RemoteInvariant.decidedOn (h : RemoteInvariant wrappedAngle config geometry cpSat publisher
      runId startEpochMs scenario.tickDurationMs scenario.robotIds s)
    (hdelivers : s.Delivers robot message) (hrun : run ∈ s.processes) {record : TickRecord}
    (hrecord : record ∈ run.ticks) (hmessage : message ∈ record.messages) :
    record.DecidedOn (tickTimestamp startEpochMs scenario.tickDurationMs s.ticksRun) robot
      message := by
  obtain ⟨hbusy, hid, -, hfresh⟩ := h.simulating.delivers hdelivers
  obtain ⟨n, hmonitored⟩ := h.monitored hrun
  have hservice := serviceInvariant_of_reachable (serviceMachine_of_shipped hmonitored.reachable)
  obtain ⟨stored, hstored, hsource⟩ :=
    (hservice.complete record hrecord).onePerRobot.timestamps message hmessage
  rw [hid] at hstored
  have hknown : robot.robotId ∈ scenario.robotIds :=
    h.simulating.ids ▸ List.mem_map_of_mem hdelivers.mem
  obtain ⟨payload, hpayload, hown, hvalid⟩ :=
    hmonitored.records record hrecord _ hknown stored hstored
  have htimestamp := timestamp_of_modelValidate hvalid
  -- the state is not older than the published one, so it is the published one
  rw [hsource, htimestamp] at hfresh
  obtain ⟨sender, hsender, hsent⟩ := h.simulating.present hbusy payload hpayload hfresh
  obtain rfl : sender = robot := by
    refine List.inj_on_of_nodup_map (h.simulating.ids ▸ scenario.robotIds_nodup) hsender
      hdelivers.mem ?_
    exact Subtype.ext ((SimulatedRobot.deviceId_of_statePayload hsent).symm.trans hown)
  exact ⟨hmessage, stored, hstored,
    htimestamp.trans (SimulatedRobot.timestamp_of_statePayload hsent),
    SimulatedRobot.describedBy_of_payload hsent hvalid⟩

/-- A delivered action belongs to a tick of the monitor: what earlier runs left is too old. -/
lemma RemoteInvariant.exists_record (h : RemoteInvariant wrappedAngle config geometry cpSat
      publisher runId startEpochMs scenario.tickDurationMs scenario.robotIds s)
    (hduration : 0 < scenario.tickDurationMs) (hdelivers : s.Delivers robot message) :
    ∃ run ∈ s.processes, ∃ record ∈ run.ticks, message ∈ record.messages := by
  obtain ⟨hbusy, -, hsent, hfresh⟩ := h.simulating.delivers hdelivers
  rcases hsent with hleft | ⟨run, hrun, hattempted⟩
  · have hold := h.simulating.leftovers message hleft
    have hone : (1 : ℤ) ≤ s.ticksRun := by exact_mod_cast h.simulating.begun hbusy
    have hstart : startEpochMs ≤ tickTimestamp startEpochMs scenario.tickDurationMs s.ticksRun :=
      le_add_of_nonneg_right (mul_nonneg (by linarith) hduration.le)
    exact absurd (hstart.trans hfresh) hold.not_ge
  · obtain ⟨n, hmonitored⟩ := h.monitored hrun
    exact ⟨run, hrun, (serviceInvariant_of_reachable
      (serviceMachine_of_shipped hmonitored.reachable)).attempted message hattempted⟩

end Records

/-! ## Movements -/

section Movements

variable {geometry : PoseGeometry E} {robot : SimulatedRobot} {message : ActionMessage}
  {run : ServiceRun ℕ Store ℕ π}

/-- The movement that an action makes a robot do is the one that was validated for the state that
the monitor knew.

**Proof sketch.** A Resume moves a robot before its goal to the first node of its path, which is the
next pose that the engine derived from the stored state. A Pause leaves it where it is. -/
lemma movementEnvelope_of_shows (hwrap : wrappedAngle 0 = 0) (hgoal : robot.atGoal = false)
    {stored : StoredRobotState} (hdescribed : robot.DescribedBy stored.val.state) {mono : ℚ}
    {epoch : ℤ} {shown : RobotSnapshot} (hshows : Shows wrappedAngle mono epoch
      config.staleTimeoutSeconds config.poseTolerance stored shown) {action : Action} {tick : ℤ}
    {moved : SimulatedRobot} (hadvance : (robot.receiveAction action).advanceForTick tick =
      .ok moved) :
    geometry.movementEnvelope (robot.receiveAction action) moved =
      geometry.toGeometry.actionEnvelope shown action := by
  have hstate := hshows.state_eq
  have hid : shown.deviceId = robot.robotId := by
    rw [RobotSnapshot.deviceId, hstate, hdescribed.deviceId]
  have hpose : shown.state.currentPose = robot.pose := by rw [hstate, hdescribed.currentPose]
  rcases SimulatedRobot.advanceForTick_eq_ok hadvance with ⟨hresume, -, hadvanced⟩ | ⟨hstays, rfl⟩
  · obtain rfl : action = .resume := hresume
    obtain ⟨rest, hpath⟩ := hadvanced.path
    rw [PoseGeometry.movementEnvelope, if_neg (by rw [hadvanced.nodesAdvanced]; omega)]
    obtain ⟨⟨nextPose, atGoal⟩, hnext, hshown⟩ := bind_eq_ok.mp hshows
    have hderived := hdescribed.nextPose hwrap config.poseTolerance_pos.le hpath
    obtain ⟨rfl, -⟩ := Prod.mk.inj (Except.ok.inj (hnext.symm.trans hderived))
    have hnextPose : shown.nextPose = moved.pose := by rw [← Except.ok.inj hshown]
    dsimp only [PoseGeometry.toGeometry]
    rw [hid, hpose, hnextPose]
    rfl
  · have hpause : action = .pause := by
      cases action with
      | pause => rfl
      | resume =>
        rcases hstays with hstays | hstays
        · exact absurd rfl hstays
        · exact absurd (hstays.symm.trans hgoal) (by simp)
    rw [PoseGeometry.movementEnvelope, if_pos rfl, hpause]
    dsimp only [PoseGeometry.toGeometry]
    rw [hid, hpose]
    rfl

/-- **Actions over RabbitMQ.** However publications, ingestions and ticks interleave, whatever the
broker loses, repeats or reorders, and however often the monitor is restarted:

* an action that is delivered to a robot before its goal was decided on the state that this robot
  published in the same tick, so on where it is;
* when two of them come from one tick of the monitor, the movements that they lead to are apart,
  unless both robots pause.

Nothing of the kind holds for actions that come from different ticks of the monitor.

**Proof sketch.** A delivered action is not older than the tick of the simulator, so it was decided
on the state that the robot has just published (`decidedOn`). Two actions of one tick of the monitor
are apart by the safety of that tick, and the movements are the envelopes that it compared. -/
theorem remoteActions_present (hcover : geometry.Covering) (hwrap : wrappedAngle 0 = 0)
    (hduration : 0 < scenario.tickDurationMs)
    (hreach : (remoteMachine wrappedAngle config geometry.toGeometry cpSat publisher runId
      startEpochMs scenario tickLimit).Reachable s) :
    (∀ robot message, s.Delivers robot message →
      ∃ run ∈ s.processes, ∃ record ∈ run.ticks, record.DecidedOn
        (tickTimestamp startEpochMs scenario.tickDurationMs s.ticksRun) robot message) ∧
      ∀ robot message other message', s.Delivers robot message → s.Delivers other message' →
        robot.robotId ≠ other.robotId →
        (∃ run ∈ s.processes, ∃ record ∈ run.ticks,
          message ∈ record.messages ∧ message' ∈ record.messages) →
        ∀ tick moved otherMoved,
          (robot.receiveAction message.val.action).advanceForTick tick = .ok moved →
          (other.receiveAction message'.val.action).advanceForTick tick = .ok otherMoved →
          (∃ e f,
            geometry.movementEnvelope (robot.receiveAction message.val.action) moved = .ok e ∧
            geometry.movementEnvelope (other.receiveAction message'.val.action) otherMoved =
              .ok f ∧ geometry.geometriesConflict e f = true) →
          message.val.action = .pause ∧ message'.val.action = .pause := by
  have h := remoteInvariant_of_reachable hduration hreach
  refine ⟨fun robot message hdelivers => ?_, ?_⟩
  · obtain ⟨run, hrun, record, hrecord, hmessage⟩ := h.exists_record hduration hdelivers
    exact ⟨run, hrun, record, hrecord, h.decidedOn hdelivers hrun hrecord hmessage⟩
  rintro robot message other message' hdelivers hdelivers' hne
    ⟨run, hrun, record, hrecord, hmessage, hmessage'⟩ tick moved otherMoved hadvance hadvance'
    ⟨e, f, he, hf, hconf⟩
  obtain ⟨-, hid, -⟩ := h.simulating.delivers hdelivers
  obtain ⟨-, hid', -⟩ := h.simulating.delivers hdelivers'
  obtain ⟨-, stored, hstored, -, hdescribed⟩ := h.decidedOn hdelivers hrun hrecord hmessage
  obtain ⟨-, stored', hstored', -, hdescribed'⟩ := h.decidedOn hdelivers' hrun hrecord hmessage'
  obtain ⟨n, hmonitored⟩ := h.monitored hrun
  obtain ⟨prepared, -, hmessages, hfleet, hsafe⟩ :=
    (safeRun_of_reachable hcover.conservative hmonitored.reachable).ticks record hrecord
  obtain ⟨-, -, -, -, hshown⟩ := snapshot_shows hfleet
  obtain ⟨shown, hmem, hshows⟩ := hshown _ stored hstored
  obtain ⟨shown', hmem', hshows'⟩ := hshown _ stored' hstored'
  rw [movementEnvelope_of_shows hwrap hdelivers.atGoal hdescribed hshows hadvance] at he
  rw [movementEnvelope_of_shows hwrap hdelivers'.atGoal hdescribed' hshows' hadvance'] at hf
  refine hsafe.apart message (hmessages ▸ hmessage) message' (hmessages ▸ hmessage') ?_ _
    (mem_observed.mpr ⟨shown, hmem, rfl⟩) _ (mem_observed.mpr ⟨shown', hmem', rfl⟩) ?_ ?_
    ⟨e, f, he, hf, hconf⟩
  · rwa [hid, hid']
  · rw [hid, ← hdescribed.deviceId, ← hshows.state_eq]
  · rw [hid', ← hdescribed'.deviceId, ← hshows'.state_eq]

end Movements

end Present

/-! ## Two robots that meet -/

section Meeting

/-- Two robots that head for each other; the second is in more of a hurry. -/
def meetingScenario : ScenarioDefinition where
  name := "meeting"
  nominalSpeedMps := 1
  robots := [{ lineRobot robotA 0 [3] with deadlineOffsetMs := 10000 }, lineRobot robotB 5 [2]]
  speed_pos := twoNodeScenario.speed_pos
  interval_pos := twoNodeScenario.interval_pos
  maxTicks_pos := twoNodeScenario.maxTicks_pos
  robots_ne := by simp
  ids_nodup := by simp [lineRobot, robotA, robotB]

/-- A robot of the scenario at its start. -/
def meetingRobot (robotId : RobotId) (x next : ℚ) (deadlineMs : ℤ) : SimulatedRobot where
  robotId
  pose := ⟨x, 0, 0⟩
  loaded := false
  batteryLevel := 50
  deadlineMs
  remainingPath := [⟨x, 0, 0⟩, ⟨next, 0, 0⟩]
  remaining_head := rfl

/-- What a robot of the scenario publishes first. -/
def meetingPayload (deviceId : String) (x next : ℚ) (deadline : ℤ) : StatePayloadFields where
  deviceId
  timestamp := 0
  x
  y := 0
  theta := 0
  batteryLevel := 50
  loaded := false
  deadline
  path := [⟨x, 0, 0⟩, ⟨next, 0, 0⟩]

/-- Both states are published, and the monitor has not started to work. -/
def meetingPublished : RemoteRun Unit where
  robots := [meetingRobot robotA 0 3 10000, meetingRobot robotB 5 2 1000]
  ticksRun := 1
  phase := .publishing []
  lastStateTimestamp := (AList.insert "a" 0 ∅).insert "b" 0
  published := [meetingPayload "a" 0 3 10000, meetingPayload "b" 5 2 1000]
  leftovers := []
  service := { service := { engine := EngineState.initial 0, publisher := () } }

/-- The runs of the scenario. -/
abbrev meetingMachine : Machine (RemoteRun Unit) :=
  remoteMachine id defaultConfig linePoses.toGeometry (fun _ => none) quietPublisher
    (fun _ => "run") 0 meetingScenario 5

/-- The monitor decides about the first robot before it knows of the second one. -/
def meetingTicks : Service ℕ Store ℕ Unit (PreparedTick × PreparedTick) := do
  let beginTick := beginTick id defaultConfig linePoses.toGeometry
    (shippedCollaborators defaultConfig linePoses.toGeometry fun _ => none)
    (managerApi defaultConfig) "run" 1 5
  let _ ← ingestPayload 1 (.wellTyped (meetingPayload "a" 0 3 10000))
  let first ← beginTick
  let _ ← lift (finishTick defaultConfig "run" first [])
  let _ ← ingestPayload 1 (.wellTyped (meetingPayload "b" 5 2 1000))
  let second ← beginTick
  return (first, second)

/-- The actions of a tick, with the timestamps of the states they are based on. -/
def PreparedTick.actions (prepared : PreparedTick) : List (RobotId × Action × ℕ) :=
  prepared.actionMessages.map fun message =>
    (message.val.deviceId, message.val.action, message.val.sourceStateTimestamp)

/-- A tick of the scenario lasts a second. -/
lemma meetingScenario_tickDurationMs : meetingScenario.tickDurationMs = 1000 := by decide +kernel

/-- Both robots publish their first states. -/
lemma meetingPublished_reachable : meetingMachine.Reachable meetingPublished := by
  have hbegin : beginSimulationTick 0 meetingScenario.tickDurationMs 1 meetingPublished.robots =
      .ok (meetingPublished.robots, meetingPublished.published) := by
    rw [meetingScenario_tickDurationMs]
    rfl
  have hbegun : meetingMachine.Reachable _ := .step (.init ⟨meetingPublished.robots, [], [], 0, (),
    rfl, fun _ h => (by cases h), fun _ h => (by cases h), rfl⟩)
    (.began rfl (by decide) (.inl rfl) hbegin)
  have hpublished := (hbegun.step (.published rfl)).step (.published rfl)
  exact hpublished

/-- The monitor resumes each robot, in different ticks. -/
lemma meetingTicks_actions : Ensures meetingTicks
    { engine := EngineState.initial 0, publisher := () }
    (fun ticks _ => ticks.1.actions = [(robotA, .resume, 0)] ∧
      ticks.2.actions = [(robotA, .pause, 0), (robotB, .resume, 0)]) fun _ => False := by
  decide +kernel

/-- Beginning a tick leaves the store as it is. -/
lemma beginTick_store {s : RemoteRun Unit} (hreach : meetingMachine.Reachable s)
    {prepared : PreparedTick} {service' : ServiceState ℕ Store ℕ Unit}
    (h : (beginTick id defaultConfig linePoses.toGeometry
      (shippedCollaborators defaultConfig linePoses.toGeometry fun _ => none)
      (managerApi defaultConfig) "run" 1 5).run s.service.service = .ok prepared service') :
    service'.store = s.service.service.store := by
  have hinv := remoteInvariant_of_reachable (by rw [meetingScenario_tickDurationMs]; decide) hreach
  have hkeyed := (serviceInvariant_of_reachable
    (serviceMachine_of_shipped hinv.current.reachable)).keyed
  exact ((beginTick_spec 1 5 _ hkeyed).get_ok h).1

/-- A fresh action for the robot is received. -/
lemma receiveBody_action {robotId : RobotId} {minimumTimestamp : ℤ} {message : ActionMessage}
    (hid : message.val.deviceId = robotId)
    (hfresh : minimumTimestamp ≤ message.val.sourceStateTimestamp) :
    receiveBody robotId minimumTimestamp (.action message) = .fresh message := by
  simp [receiveBody, hid, not_lt.mpr hfresh]

/-- The simulator takes one action from each tick.

**Proof sketch.** The two ticks are those computed in `meetingTicks_actions`. They are lifted to the
machine step by step, and then the simulator takes one message of each. -/
lemma exists_meetingReceived : ∃ s message message', meetingMachine.Reachable s ∧
    s.robots = meetingPublished.robots ∧ message.val.action = .resume ∧
    message'.val.action = .resume ∧ ∃ actions alarms, s.phase = .receiving [] actions alarms ∧
      actions.lookup robotA = some message ∧ actions.lookup robotB = some message' := by
  obtain ⟨⟨first, second⟩, _, hrun, hfirst, hsecond⟩ := meetingTicks_actions.exists_ok
  obtain ⟨_, _, hingest, hrun⟩ := run_bind_eq_ok.mp hrun
  obtain ⟨_, _, hbegin, hrun⟩ := run_bind_eq_ok.mp hrun
  obtain ⟨_, _, hlift, hrun⟩ := run_bind_eq_ok.mp hrun
  obtain ⟨hfinish, rfl⟩ := run_lift_eq_ok.mp hlift
  obtain ⟨_, _, hingest', hrun⟩ := run_bind_eq_ok.mp hrun
  obtain ⟨_, _, hbegin', hrun⟩ := run_bind_eq_ok.mp hrun
  obtain ⟨hticks, rfl⟩ := EStateM.Result.ok.inj hrun
  obtain ⟨rfl, rfl⟩ := Prod.mk.inj hticks
  obtain ⟨message, hmessages, hmessage⟩ := List.map_eq_singleton_iff.mp hfirst
  obtain ⟨paused, _, hmessages', -, hlast⟩ := List.map_eq_cons_iff.mp hsecond
  obtain ⟨message', rfl, hmessage'⟩ := List.map_eq_singleton_iff.mp hlast
  obtain ⟨hid, haction, hsource⟩ : message.val.deviceId = robotA ∧
    message.val.action = .resume ∧ message.val.sourceStateTimestamp = 0 := by simpa using hmessage
  obtain ⟨hid', haction', hsource'⟩ : message'.val.deviceId = robotB ∧
    message'.val.action = .resume ∧ message'.val.sourceStateTimestamp = 0 := by
    simpa using hmessage'
  -- the first tick
  have hknown := meetingPublished_reachable.step (.ingested 1 _
    (fun _ _ _ => ⟨_, List.mem_cons_self, rfl⟩) hingest)
  have hbegun := hknown.step (.worked (.begin 1 5 rfl hbegin) (beginTick_store hknown hbegin))
  have hsent := hbegun.step (.worked (.published rfl hmessages rfl) rfl)
  have hended := hsent.step (.worked (.finish rfl rfl hfinish) rfl)
  -- the second tick
  have hknown' := hended.step (.ingested 1 _
    (fun _ _ _ => ⟨_, List.mem_cons_of_mem _ List.mem_cons_self, rfl⟩) hingest')
  have hbegun' := hknown'.step
    (.worked (.begin 1 5 rfl hbegin') (beginTick_store hknown' hbegin'))
  have hpaused := hbegun'.step (.worked (.published rfl hmessages' rfl) rfl)
  have hsent' := hpaused.step (.worked (.published rfl rfl rfl) rfl)
  -- the simulator takes an action of each
  have hsorted : sorted (meetingPublished.robots.map SimulatedRobot.robotId) =
      [robotA, robotB] := by decide +kernel
  have hminimum : ∀ r ∈ [robotA, robotB], meetingPublished.minimumTimestamp r = 0 := by
    decide +kernel
  have hawaited := hsent'.step (.awaited rfl)
  have hreceived := hawaited.step (.received (.action message)
    (congrArg (fun ids => RemotePhase.receiving ids ∅ []) hsorted)
    (fun _ h => ActionBody.action.inj h ▸ .inr ⟨_, List.mem_cons_self, List.mem_append_left _
      (List.mem_append_left _ (List.mem_append_right _ List.mem_cons_self))⟩)
    (receiveBody_action hid ((hminimum robotA (by simp)).trans_le (Int.natCast_nonneg _))))
  have hreach := hreceived.step (.received (.action message') rfl
    (fun _ h => ActionBody.action.inj h ▸ .inr ⟨_, List.mem_cons_self,
      List.mem_append_right _ List.mem_cons_self⟩)
    (receiveBody_action hid' ((hminimum robotB (by simp)).trans_le (Int.natCast_nonneg _))))
  refine ⟨_, message, message', hreach, rfl, haction, haction', _, _, rfl, ?_,
    AList.lookup_insert _⟩
  rw [Dict.lookup_insert_eq_ite, if_neg (by decide)]
  exact AList.lookup_insert _

/-- **Two ticks, one collision course.** Each robot is resumed on its present state, by different
ticks of the monitor, and their movements conflict. -/
theorem remoteActions_present_meeting : ∃ s, meetingMachine.Reachable s ∧
    ∃ robot message other message', s.Delivers robot message ∧ s.Delivers other message' ∧
      message.val.action = .resume ∧ message'.val.action = .resume ∧
      (∃ run ∈ s.processes, ∃ record ∈ run.ticks, record.DecidedOn
        (tickTimestamp 0 meetingScenario.tickDurationMs s.ticksRun) robot message) ∧
      (∃ run ∈ s.processes, ∃ record ∈ run.ticks, record.DecidedOn
        (tickTimestamp 0 meetingScenario.tickDurationMs s.ticksRun) other message') ∧
      ¬ ∃ run ∈ s.processes, ∃ record ∈ run.ticks,
        message ∈ record.messages ∧ message' ∈ record.messages := by
  obtain ⟨s, message, message', hreach, hrobots, haction, haction', actions, alarms, hphase,
    hlookup, hlookup'⟩ := exists_meetingReceived
  obtain ⟨hdecided, hsafe⟩ := remoteActions_present linePoses_covering rfl
    (by rw [meetingScenario_tickDurationMs]; decide) hreach
  have hdelivers : s.Delivers (meetingRobot robotA 0 3 10000) message :=
    ⟨hrobots ▸ List.mem_cons_self, rfl, _, _, _, hphase, hlookup⟩
  have hdelivers' : s.Delivers (meetingRobot robotB 5 2 1000) message' :=
    ⟨hrobots ▸ List.mem_cons_of_mem _ List.mem_cons_self, rfl, _, _, _, hphase, hlookup'⟩
  refine ⟨s, hreach, _, message, _, message', hdelivers, hdelivers', haction, haction',
    hdecided _ _ hdelivers, hdecided _ _ hdelivers', fun hsame => ?_⟩
  -- their movements cover the same part of the line
  have hconf : ∃ moved otherMoved,
      ((meetingRobot robotA 0 3 10000).receiveAction .resume).advanceForTick 2 = .ok moved ∧
      ((meetingRobot robotB 5 2 1000).receiveAction .resume).advanceForTick 2 = .ok otherMoved ∧
      ∃ e f, linePoses.movementEnvelope ((meetingRobot robotA 0 3 10000).receiveAction .resume)
          moved = .ok e ∧
        linePoses.movementEnvelope ((meetingRobot robotB 5 2 1000).receiveAction .resume)
          otherMoved = .ok f ∧ linePoses.geometriesConflict e f = true :=
    ⟨_, _, rfl, rfl, _, _, rfl, rfl, by decide +kernel⟩
  obtain ⟨moved, otherMoved, hmoved, hotherMoved, hconf⟩ := hconf
  have hapart := hsafe _ _ _ _ hdelivers hdelivers' (by decide) hsame 2 moved otherMoved
  rw [haction, haction'] at hapart
  cases (hapart hmoved hotherMoved hconf).1

end Meeting

end CollisionMonitor
