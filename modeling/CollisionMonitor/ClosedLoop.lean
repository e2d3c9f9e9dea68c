import CollisionMonitor.ServiceSpec
import CollisionMonitor.SimulatorRun
import CollisionMonitor.Transaction

set_option relaxedAutoImplicit false
set_option autoImplicit false

/-!
# The closed loop

Scenario runs against the shipped service in memory. The states that the service stores describe
where the robots are, also those of robots that reached their goal and stopped publishing, and each
tick gives every robot the action that one decision of the engine returned for it.

## Main definitions

* `loopMachine` — the states between the ticks of a run.
* `SimulatedRobot.DescribedBy` — a stored state describes a simulated robot.
* `LoopTick` — what one tick of the loop does.
* `LoopInvariant` — what holds between the ticks.

## Main results

* `loopInvariant` — the invariant holds in every run.
* `loopTick_of_step` — every tick of a run does what `LoopTick` says.
-/

namespace CollisionMonitor

open Outcome

/-! ## Descriptions -/

/-- The state describes the robot: it is its own, at its pose, with its remaining path. -/
structure SimulatedRobot.DescribedBy (robot : SimulatedRobot) (state : RobotState) : Prop where
  deviceId : state.deviceId = robot.robotId
  currentPose : state.currentPose = robot.pose
  path : state.path = if robot.atGoal then [] else robot.remainingPath

/-- What describes a robot describes every robot with its ID, pose and path. -/
lemma SimulatedRobot.DescribedBy.congr {robot other : SimulatedRobot} {state : RobotState}
    (h : robot.DescribedBy state) (hid : other.robotId = robot.robotId)
    (hpose : other.pose = robot.pose) (hpath : other.remainingPath = robot.remainingPath) :
    other.DescribedBy state where
  deviceId := h.deviceId.trans hid.symm
  currentPose := h.currentPose.trans hpose.symm
  path := by rw [h.path, SimulatedRobot.atGoal, SimulatedRobot.atGoal, hpath]

/-- The next pose derived from what describes a robot is the node it would move to. -/
lemma SimulatedRobot.DescribedBy.nextPose {robot : SimulatedRobot} {state : RobotState}
    (h : robot.DescribedBy state) {wrappedAngle : ℚ → ℚ} (hwrap : wrappedAngle 0 = 0)
    {tolerance : ℚ} (htolerance : 0 ≤ tolerance) {next : Pose ℚ} {rest : List (Pose ℚ)}
    (hpath : robot.remainingPath = robot.pose :: next :: rest) :
    deriveNextPose wrappedAngle state tolerance = .ok (next, false) := by
  have hstate : state.path = robot.pose :: next :: rest := by
    rw [h.path, atGoal_eq_false_iff.mpr ⟨next, rest, hpath⟩, ← hpath]
    rfl
  have hsame := posesEqual_self hwrap robot.pose htolerance
  rw [deriveNextPose, hstate]
  dsimp only
  rw [h.currentPose, hsame]
  rfl

/-- A validated payload of a robot describes it. -/
lemma SimulatedRobot.describedBy_of_payload {robot : SimulatedRobot} {timestampMs : ℤ}
    {payload : StatePayloadFields} {state : RobotState}
    (hpayload : robot.statePayload timestampMs = .ok payload)
    (hstate : RobotState.modelValidate (.wellTyped payload) = .ok state) :
    robot.DescribedBy state := by
  obtain ⟨_, -, hpayload⟩ := bind_eq_ok.mp hpayload
  obtain rfl := Except.ok.inj hpayload
  obtain ⟨hid, hpose, hpath⟩ := modelValidate_eq_ok hstate
  exact ⟨Subtype.ext hid, hpose, hpath⟩

/-- A payload carries the ID of its robot. -/
lemma SimulatedRobot.deviceId_of_statePayload {robot : SimulatedRobot} {timestampMs : ℤ}
    {payload : StatePayloadFields} (h : robot.statePayload timestampMs = .ok payload) :
    payload.deviceId = robot.robotId.val := by
  obtain ⟨_, -, h⟩ := bind_eq_ok.mp h
  rw [← Except.ok.inj h]

/-! ## One exchange -/

section Exchange

variable {E ω σ γ : Type} {wrappedAngle : ℚ → ℚ} {config : MonitorConfig} {geometry : Geometry E}
  {parts : Collaborators ω} {api : GrantManagerApi σ γ} {runId : String} {startEpochMs : ℤ}

/-- Setting the clocks leaves the service as it is. -/
lemma tickClocks_service (state : InMemoryTransportState ω σ γ)
    (payloads : List StatePayloadFields) :
    (state.tickClocks startEpochMs payloads).service = state.service := by
  cases payloads <;> rfl

/-- **What an exchange does.** The payloads are accepted at the instant of the tick, the service
decides on its store, and every robot has one of the returned messages. -/
structure Exchanged (wrappedAngle : ℚ → ℚ) (config : MonitorConfig) (geometry : Geometry E)
    (parts : Collaborators ω) (api : GrantManagerApi σ γ) (mono : ℚ) (epoch : ℤ)
    (payloads : List StatePayloadFields) (robotIds : List RobotId)
    (state state' : InMemoryTransportState ω σ γ) (fleet : FleetStateSnapshot) (tickId : String)
    (decision : EngineDecision) (outcome : SimulatorTickOutcome) : Prop where
  stored : ∀ payload ∈ payloads, Stored state'.service.store mono payload
  kept : ∀ r : RobotId, r.val ∉ payloads.map StatePayloadFields.deviceId →
    state'.service.store.states.lookup r = state.service.store.states.lookup r
  snapshot : state'.service.store.snapshot wrappedAngle mono epoch config.staleTimeoutSeconds
    config.poseTolerance = .ok fleet
  decided : (CollisionDecisionEngine.decide config geometry parts api fleet.val.snapshots epoch
    tickId).run state.service.engine = .ok decision state'.service.engine
  answered : ∀ r ∈ robotIds, ∃ message, outcome.actions.lookup r = some message ∧
    message.val.action = decision.returned r
  alarms : outcome.alarms = decision.tickMetadata.alarms
  safetyValid : outcome.safetyValid = some decision.tickMetadata.globalSafetyValid
  serviceResult : ∃ result, outcome.serviceResult = some result ∧ result.fleetDecision = decision

/-- Every exchange of distinct robots that returns does this.

**Proof sketch.** The call is taken apart at its binds: the clocks, the ingestion of the payloads,
the check that all were accepted, the tick, and the check that every robot was answered. What each
of them gives is known (`ingestPayloads_spec`, `runTick_spec`). -/
lemma exchangeTick_exchanged {payloads : List StatePayloadFields} {robotIds : List RobotId}
    (hnd : (payloads.map StatePayloadFields.deviceId).Nodup)
    {state state' : InMemoryTransportState ω σ γ} {outcome : SimulatorTickOutcome}
    (h : (exchangeTick wrappedAngle config geometry parts api runId startEpochMs payloads
      robotIds).run state = .ok outcome state') :
    ∃ mono epoch fleet tickId decision, Exchanged wrappedAngle config geometry parts api mono epoch
      payloads robotIds state state' fleet tickId decision outcome := by
  obtain ⟨_, clocked, hclock, h⟩ := run_bind_eq_ok.mp h
  obtain ⟨-, rfl⟩ := EStateM.Result.ok.inj hclock
  obtain ⟨_, _, hget, h⟩ := run_bind_eq_ok.mp h
  obtain ⟨rfl, rfl⟩ := EStateM.Result.ok.inj hget
  obtain ⟨settlements, _, hzoom, h⟩ := run_bind_eq_ok.mp h
  obtain ⟨ingested, rfl, hingest⟩ := ((Ensures.of_runs fun o s hrun => hrun).zoom).get_ok hzoom
  obtain ⟨_, _, hlift, h⟩ := run_bind_eq_ok.mp h
  obtain ⟨haccepted, rfl⟩ := run_lift_eq_ok.mp hlift
  obtain ⟨result, _, hzoomTick, h⟩ := run_bind_eq_ok.mp h
  obtain ⟨ticked, rfl, htick⟩ := ((Ensures.of_runs fun o s hrun => hrun).zoom).get_ok hzoomTick
  obtain ⟨_, _, hlift', h⟩ := run_bind_eq_ok.mp h
  obtain ⟨hmissing, rfl⟩ := run_lift_eq_ok.mp hlift'
  obtain ⟨rfl, rfl⟩ := EStateM.Result.ok.inj h
  have hservice : (state.tickClocks startEpochMs payloads).service = state.service :=
    tickClocks_service state payloads
  obtain ⟨store, count, rfl, hstore⟩ := (ingestPayloads_spec _ hnd _).get_ok hingest
  obtain ⟨hstored, hkept⟩ := hstore fun settlement hsettlement => by
    by_contra hrejected
    exact raiseIf_eq_ok.mp haccepted ⟨settlement, hsettlement, by simpa using hrejected⟩
  obtain ⟨fleet, tickId, hdecided⟩ := (runTick_spec _ _ _).get_ok htick
  refine ⟨(state.tickClocks startEpochMs payloads).monotonicSeconds,
    (state.tickClocks startEpochMs payloads).epochMs, fleet, tickId, result.fleetDecision, ?_⟩
  exact
    { stored := by
        dsimp only
        rw [hdecided.store]
        exact hstored
      kept := fun r hr => by
        dsimp only
        rw [hdecided.store, hkept r hr, hservice]
      snapshot := by
        dsimp only
        rw [hdecided.store]
        exact hdecided.snapshot
      decided := by
        rw [← hservice]
        exact hdecided.decided
      answered := fun r hr => by
        have hmem : r ∈ Dict.ofPairs (result.actionMessages.map fun message =>
            (message.val.deviceId, message)) := by
          by_contra hnot
          have hnil := sorted_eq_nil.mp (not_not.mp (raiseIf_eq_ok.mp hmissing))
          have hmissed : r ∈ (robotIds.filter (· ∉ Dict.ofPairs (result.actionMessages.map
              fun message => (message.val.deviceId, message)))).dedup :=
            List.mem_dedup.mpr (List.mem_filter.mpr ⟨hr, decide_eq_true hnot⟩)
          rw [hnil] at hmissed
          cases hmissed
        obtain ⟨message, hlookup⟩ := Dict.exists_lookup hmem
        refine ⟨message, hlookup, ?_⟩
        obtain ⟨sent, hsent, heq⟩ := List.mem_map.mp (Dict.mem_of_lookup_ofPairs hlookup)
        obtain ⟨rfl, rfl⟩ := Prod.mk.inj heq
        -- the message carries the action of a decision
        have hpair : (sent.val.deviceId, sent.val.action) ∈ result.fleetDecision.decisions.map
            fun decision => (decision.robotId, decision.action) := by
          rw [← hdecided.messages]
          exact List.mem_map_of_mem hsent
        obtain ⟨decision, hdecision, heq⟩ := List.mem_map.mp hpair
        obtain ⟨hid, haction⟩ := Prod.mk.inj heq
        rw [← haction, ← hid]
        exact ((decide_decisions hdecided.decided decision hdecision).1).symm
      alarms := hdecided.alarms
      safetyValid := congrArg some hdecided.safetyValid
      serviceResult := ⟨result, rfl, rfl⟩ }

end Exchange

/-! ## One tick -/

section Loop

variable {E : Type} {wrappedAngle : ℚ → ℚ} {config : MonitorConfig} {geometry : Geometry E}
  {cpSat : ℕ → Backend} {runId : String} {startEpochMs tickDurationMs : ℤ}

/-- A state between the ticks of a run against the shipped service. -/
abbrev LoopState := Simulation (InMemoryTransportState ℕ Store ℕ)

/-- The states that the service stores. -/
abbrev LoopState.stored (s : LoopState) : Dict RobotId StoredRobotState :=
  s.transport.service.store.states

/-- The engine of the service. -/
abbrev LoopState.engine (s : LoopState) : EngineState ℕ Store ℕ := s.transport.service.engine

/-- What holds between the ticks: the stored states describe the robots, and a robot that stopped
publishing is at its goal. -/
structure LoopInvariant (config : MonitorConfig) (geometry : Geometry E) (cpSat : ℕ → Backend)
    (s : LoopState) : Prop where
  engine : (shippedMachine config geometry cpSat).Reachable s.engine
  robots_nodup : (s.robots.map SimulatedRobot.robotId).Nodup
  known : ∀ r ∈ s.stored, ∃ robot ∈ s.robots, robot.robotId = r
  described : 1 ≤ s.ticksRun → ∀ robot ∈ s.robots, ∃ stored,
    s.stored.lookup robot.robotId = some stored ∧ robot.DescribedBy stored.val.state
  silent : ∀ robot ∈ s.robots, robot.terminalStatePublished = true →
    robot.atGoal = true ∧ 1 ≤ s.ticksRun
  waiting : s.ticksRun = 0 → ∀ robot ∈ s.robots, robot.latestAction = .pause

/-- The snapshot shows the robot, with the node it would move to, and it is fresh unless the robot
is at its goal. -/
structure SimulatedRobot.SeenIn (wrappedAngle : ℚ → ℚ) (config : MonitorConfig)
    (robot : SimulatedRobot) (snapshot : RobotSnapshot) : Prop where
  describes : robot.DescribedBy snapshot.state
  atGoal : snapshot.atGoal = robot.atGoal
  nextPose : wrappedAngle 0 = 0 → ∀ next rest, robot.remainingPath = robot.pose :: next :: rest →
    snapshot.nextPose = next
  fresh : 1 ≤ config.staleLimitMs → robot.atGoal = false → snapshot.stale = false

/-- **What one tick of the loop does**: the robots move, the engine decides on a fleet that shows
them after that movement, and each robot is handed the action returned for it. -/
structure LoopTick (wrappedAngle : ℚ → ℚ) (config : MonitorConfig) (geometry : Geometry E)
    (cpSat : ℕ → Backend) (s s' : LoopState) (fleet : List RobotSnapshot)
    (decision : EngineDecision) (outcome : SimulatorTickOutcome) : Prop where
  decided : ∃ snapshots nowMs tickId, fleet = observed config nowMs snapshots ∧
    (shippedDecide config geometry cpSat snapshots nowMs tickId).run s.engine =
      .ok decision s'.engine
  robot_cases : ∀ robot' ∈ s'.robots, ∃ robot ∈ s.robots, ∃ moved : SimulatedRobot,
    robot.advanceForTick (s.ticksRun + 1 : ℕ) = .ok moved ∧
    robot' = moved.afterPublication.deliver outcome.actions
  answered : ∀ robot' ∈ s'.robots, ∃ message, outcome.actions.lookup robot'.robotId = some message ∧
    message.val.action = decision.returned robot'.robotId
  seen : ∀ robot' ∈ s'.robots, ∃ snapshot ∈ fleet, robot'.SeenIn wrappedAngle config snapshot
  known : ∀ snapshot ∈ fleet, ∃ robot' ∈ s'.robots, robot'.SeenIn wrappedAngle config snapshot
  outcomes : s'.outcomes = s.outcomes ++ [outcome]
  ticksRun : s'.ticksRun = s.ticksRun + 1
  alarms : outcome.alarms = decision.tickMetadata.alarms
  safetyValid : outcome.safetyValid = some decision.tickMetadata.globalSafetyValid
  serviceResult : ∃ result, outcome.serviceResult = some result ∧ result.fleetDecision = decision

/-- A snapshot of a state that describes a robot shows that robot. -/
lemma SimulatedRobot.seenIn_of_shows {robot : SimulatedRobot} {stored : StoredRobotState}
    (hdescribed : robot.DescribedBy stored.val.state) {mono : ℚ} {epoch : ℤ} (hepoch : 0 ≤ epoch)
    (htimeout : 0 < config.staleTimeoutSeconds)
    (hfresh : robot.atGoal = false → stored.val.receivedMonotonicSeconds = mono)
    {shown : RobotSnapshot} (hshows : Shows wrappedAngle mono epoch config.staleTimeoutSeconds
      config.poseTolerance stored shown) :
    robot.SeenIn wrappedAngle config { shown with
      stale := shown.stale || decide (epoch - shown.receivedAtMs ≥ config.staleLimitMs) } := by
  obtain ⟨⟨nextPose, atGoal⟩, hnext, hshown⟩ := bind_eq_ok.mp hshows
  obtain rfl := Except.ok.inj hshown
  refine ⟨hdescribed, ?_, fun hwrap next rest hpath => ?_, fun hlimit hgoal => ?_⟩
  · have hpath := hdescribed.path
    rcases deriveNextPose_cases hnext with ⟨hnil, -, rfl⟩ | ⟨rest, hcons, rfl⟩ |
      ⟨first, rest, hcons, rfl, -⟩
    · cases hgoal : robot.atGoal with
      | true => rfl
      | false =>
        obtain ⟨next, rest, hremaining⟩ := atGoal_eq_false_iff.mp hgoal
        rw [hnil, hgoal, hremaining] at hpath
        cases hpath
    all_goals
      cases hgoal : robot.atGoal with
      | false => rfl
      | true =>
        rw [hcons, hgoal] at hpath
        cases hpath
  · have hderived := hdescribed.nextPose hwrap config.poseTolerance_pos.le hpath
    exact (Prod.mk.inj (Except.ok.inj (hnext.symm.trans hderived))).1
  · -- the state was received at the instant of the capture
    simp only [hfresh hgoal, sub_self, max_self, zero_mul, Int.floor_zero, sub_zero,
      max_eq_left hepoch, Bool.or_eq_false_iff, decide_eq_false_iff_not, ge_iff_le, not_le]
    exact ⟨htimeout, by omega⟩

/-- The payloads of a tick come from different robots, all of the fleet. -/
lemma Ticked.payloadIds {τ : Type} {transport : SimulatorTickTransport τ}
    {simulation simulation' : Simulation τ} {moved : List SimulatedRobot}
    {payloads : List StatePayloadFields} {outcome : SimulatorTickOutcome}
    (h : Ticked transport startEpochMs tickDurationMs simulation simulation' moved payloads outcome)
    (hnd : (simulation.robots.map SimulatedRobot.robotId).Nodup) :
    (payloads.map StatePayloadFields.deviceId).Nodup ∧
      ∀ r : RobotId, r.val ∈ payloads.map StatePayloadFields.deviceId →
        r ∈ simulation.robots.map SimulatedRobot.robotId := by
  have hids := h.robotIds.1
  constructor
  · have hmap := map_of_mapM (g := StatePayloadFields.deviceId)
      (k := fun robot : SimulatedRobot => robot.robotId.val) h.published
      fun _ _ => SimulatedRobot.deviceId_of_statePayload
    rw [hmap]
    have hsub := (List.filter_sublist (p := SimulatedRobot.shouldPublishState)
      (l := moved)).map SimulatedRobot.robotId
    rw [← hids] at hnd
    have := (hnd.sublist hsub).map Subtype.val_injective
    rwa [List.map_map] at this
  · intro r hr
    obtain ⟨payload, hpayload, hid⟩ := List.mem_map.mp hr
    obtain ⟨publisher, hpublisher, hof⟩ := exists_of_mem_mapM h.published payload hpayload
    rw [SimulatedRobot.deviceId_of_statePayload hof] at hid
    rw [← hids, ← Subtype.ext hid]
    exact List.mem_map_of_mem (List.mem_filter.mp hpublisher).1

/-- A robot that has published its goal stays there. -/
lemma LoopInvariant.still {s : LoopState} (hinv : LoopInvariant config geometry cpSat s)
    {robot movedRobot : SimulatedRobot} (hrobot : robot ∈ s.robots) {tick : ℤ}
    (hadvance : robot.advanceForTick tick = .ok movedRobot)
    (hterminal : movedRobot.terminalStatePublished = true) :
    movedRobot = robot ∧ robot.atGoal = true ∧ 1 ≤ s.ticksRun := by
  have hbefore := hinv.silent robot hrobot
    ((SimulatedRobot.advanceForTick_same hadvance).2.2.2 ▸ hterminal)
  refine ⟨?_, hbefore⟩
  rcases SimulatedRobot.advanceForTick_eq_ok hadvance with ⟨-, hnot, -⟩ | ⟨-, rfl⟩
  · rw [hbefore.1] at hnot
    cases hnot
  · rfl

/-- What a robot is described by after its tick: its payload if it published, and otherwise what
described it before. -/
lemma LoopInvariant.described_after {s s' : LoopState}
    (hinv : LoopInvariant config geometry cpSat s)
    {payloads : List StatePayloadFields} {timestampMs : ℤ} {moved : List SimulatedRobot}
    (hmovedIds : (moved.map SimulatedRobot.robotId).Nodup)
    (hpayloads : (moved.filter SimulatedRobot.shouldPublishState).mapM (fun robot =>
      robot.statePayload timestampMs) = .ok payloads) {mono : ℚ}
    (hstored : ∀ payload ∈ payloads, Stored s'.transport.service.store mono payload)
    (hkept : ∀ r : RobotId, r.val ∉ payloads.map StatePayloadFields.deviceId →
      s'.stored.lookup r = s.stored.lookup r)
    {robot movedRobot : SimulatedRobot} (hrobot : robot ∈ s.robots) (hmem : movedRobot ∈ moved)
    {tick : ℤ} (hadvance : robot.advanceForTick tick = .ok movedRobot) :
    ∃ stored, s'.stored.lookup movedRobot.robotId = some stored ∧
      movedRobot.DescribedBy stored.val.state ∧
      (movedRobot.atGoal = false → stored.val.receivedMonotonicSeconds = mono) := by
  by_cases hpublishes : movedRobot.shouldPublishState = true
  · obtain ⟨payload, hpayload, hof⟩ :=
      exists_mem_of_mapM hpayloads movedRobot (List.mem_filter.mpr ⟨hmem, hpublishes⟩)
    obtain ⟨state, stored, hstate, hval, hlookup⟩ := hstored payload hpayload
    have hdescribed := SimulatedRobot.describedBy_of_payload hof hstate
    refine ⟨stored, hdescribed.deviceId ▸ hlookup, ?_, fun _ => ?_⟩
    · rw [hval]
      exact hdescribed
    · rw [hval]
  · -- a silent robot was at its goal before, so it has not moved
    obtain ⟨hgoal, hterminal⟩ : movedRobot.atGoal = true ∧
        movedRobot.terminalStatePublished = true := by
      simpa [SimulatedRobot.shouldPublishState] using hpublishes
    obtain ⟨rfl, -, hran⟩ := hinv.still hrobot hadvance hterminal
    obtain ⟨stored, hlookup, hdescribed⟩ := hinv.described hran movedRobot hrobot
    refine ⟨stored, (hkept _ fun hpublished => ?_).trans hlookup, hdescribed, fun hnot => ?_⟩
    · obtain ⟨payload, hpayload, hid⟩ := List.mem_map.mp hpublished
      obtain ⟨publisher, hpublisher, hof⟩ := exists_of_mem_mapM hpayloads payload hpayload
      obtain ⟨hpublisherMem, hpublishing⟩ := List.mem_filter.mp hpublisher
      rw [SimulatedRobot.deviceId_of_statePayload hof] at hid
      have hsame := List.inj_on_of_nodup_map hmovedIds hpublisherMem hmem (Subtype.ext hid)
      rw [hsame] at hpublishing
      exact hpublishes hpublishing
    · rw [hgoal] at hnot
      cases hnot

/-- **One tick of the loop** does what `LoopTick` says and keeps the invariant.

**Proof sketch.** The published states reach the store before the tick, and robots at their goals
keep the state that was stored when they arrived. So after the tick the store describes every robot
of the loop and knows no other, which gives both the invariant and what the tick saw. -/
lemma LoopInvariant.tick {s s' : LoopState} (hinv : LoopInvariant config geometry cpSat s)
    {moved : List SimulatedRobot} {payloads : List StatePayloadFields}
    {outcome : SimulatorTickOutcome}
    (h : Ticked (shippedTransport wrappedAngle config geometry cpSat runId startEpochMs)
      startEpochMs tickDurationMs s s' moved payloads outcome) :
    LoopInvariant config geometry cpSat s' ∧ ∃ fleet decision,
      LoopTick wrappedAngle config geometry cpSat s s' fleet decision outcome := by
  obtain ⟨hmovedIds, hids⟩ := h.robotIds
  have hmovedNodup : (moved.map SimulatedRobot.robotId).Nodup := hmovedIds ▸ hinv.robots_nodup
  obtain ⟨hpayloadIds, hpublishers⟩ := h.payloadIds hinv.robots_nodup
  obtain ⟨mono, epoch, fleet, tickId, decision, hexchanged⟩ :=
    exchangeTick_exchanged hpayloadIds h.exchanged
  obtain ⟨hepoch, htimeout, -, hshown, hshows⟩ := snapshot_shows hexchanged.snapshot
  -- the store describes the robots after the tick
  have hdescribed : ∀ robot' ∈ s'.robots, ∃ stored,
      s'.stored.lookup robot'.robotId = some stored ∧ robot'.DescribedBy stored.val.state ∧
        (robot'.atGoal = false → stored.val.receivedMonotonicSeconds = mono) := by
    intro robot' hrobot'
    obtain ⟨robot, hrobot, movedRobot, hmem, hadvance, rfl⟩ := h.robot_cases hrobot'
    obtain ⟨stored, hlookup, hdescribed, hfresh⟩ := hinv.described_after hmovedNodup h.published
      hexchanged.stored hexchanged.kept hrobot hmem hadvance
    obtain ⟨hid, hpose, hpath, -, -⟩ :=
      movedRobot.afterPublication_deliver_same outcome.actions
    refine ⟨stored, hid ▸ hlookup, hdescribed.congr hid hpose hpath, fun hgoal => hfresh ?_⟩
    rwa [SimulatedRobot.atGoal, hpath] at hgoal
  have hknown : ∀ r ∈ s'.stored, ∃ robot' ∈ s'.robots, robot'.robotId = r := by
    intro r hr
    rw [← List.mem_map, hids]
    by_cases hpublished : r.val ∈ payloads.map StatePayloadFields.deviceId
    · exact hpublishers r hpublished
    · rw [← AList.lookup_isSome, hexchanged.kept r hpublished, AList.lookup_isSome] at hr
      exact List.mem_map.mpr (hinv.known r hr)
  refine ⟨?_, observed config epoch fleet.val.snapshots, decision, ?_⟩
  · exact
      { engine := hinv.engine.step ⟨fleet.val.snapshots, epoch, tickId, by
          rw [hexchanged.decided]
          rfl⟩
        robots_nodup := hids ▸ hinv.robots_nodup
        known := hknown
        described := fun _ robot' hrobot' => by
          obtain ⟨stored, hlookup, hof, -⟩ := hdescribed robot' hrobot'
          exact ⟨stored, hlookup, hof⟩
        silent := fun robot' hrobot' hterminal => by
          obtain ⟨robot, hrobot, movedRobot, -, hadvance, rfl⟩ := h.robot_cases hrobot'
          obtain ⟨-, -, hpath, -, hflag⟩ :=
            movedRobot.afterPublication_deliver_same outcome.actions
          have hgoal : movedRobot.atGoal = true := by
            rcases SimulatedRobot.atGoal_of_terminal (hflag ▸ hterminal) with hbefore | hgoal
            · obtain ⟨rfl, hstill, -⟩ := hinv.still hrobot hadvance hbefore
              exact hstill
            · exact hgoal
          refine ⟨?_, by rw [h.ticksRun]; omega⟩
          rwa [SimulatedRobot.atGoal, hpath]
        waiting := fun hzero => by
          rw [h.ticksRun] at hzero
          omega }
  · exact
      { decided := ⟨fleet.val.snapshots, epoch, tickId, rfl, hexchanged.decided⟩
        robot_cases := fun robot' hrobot' => by
          obtain ⟨robot, hrobot, movedRobot, -, hadvance, hafter⟩ := h.robot_cases hrobot'
          exact ⟨robot, hrobot, movedRobot, hadvance, hafter⟩
        answered := fun robot' hrobot' => by
          refine hexchanged.answered _ (mem_sorted.mpr ?_)
          rw [hmovedIds, ← hids]
          exact List.mem_map_of_mem hrobot'
        seen := fun robot' hrobot' => by
          obtain ⟨stored, hlookup, hof, hfresh⟩ := hdescribed robot' hrobot'
          obtain ⟨shown, hmem, hshow⟩ := hshows _ stored hlookup
          exact ⟨_, mem_observed.mpr ⟨shown, hmem, rfl⟩,
            SimulatedRobot.seenIn_of_shows hof hepoch htimeout hfresh hshow⟩
        known := fun snapshot hsnapshot => by
          obtain ⟨shown, hmem, rfl⟩ := mem_observed.mp hsnapshot
          obtain ⟨r, stored, hlookup, hshow⟩ := hshown shown hmem
          obtain ⟨robot', hrobot', rfl⟩ := hknown r (Dict.mem_of_lookup hlookup)
          obtain ⟨stored', hlookup', hof, hfresh⟩ := hdescribed robot' hrobot'
          obtain rfl := Option.some.inj (hlookup.symm.trans hlookup')
          exact ⟨robot', hrobot',
            SimulatedRobot.seenIn_of_shows hof hepoch htimeout hfresh hshow⟩
        outcomes := h.outcomes
        ticksRun := h.ticksRun
        alarms := hexchanged.alarms
        safetyValid := hexchanged.safetyValid
        serviceResult := hexchanged.serviceResult }

/-- **After a tick** a robot before its goal is under the action that the decision returned for
it, and that action is in the outcome. -/
lemma LoopTick.latestAction {s s' : LoopState} {fleet : List RobotSnapshot}
    {decision : EngineDecision} {outcome : SimulatorTickOutcome}
    (h : LoopTick wrappedAngle config geometry cpSat s s' fleet decision outcome)
    {robot' : SimulatedRobot} (hrobot' : robot' ∈ s'.robots) :
    s'.lastAction robot'.robotId = some (decision.returned robot'.robotId) ∧
      (robot'.atGoal = false → robot'.latestAction = decision.returned robot'.robotId) := by
  obtain ⟨message, hmessage, haction⟩ := h.answered robot' hrobot'
  refine ⟨?_, fun hgoal => ?_⟩
  · simp [Simulation.lastAction, h.outcomes, hmessage, haction]
  · obtain ⟨robot, -, moved, -, rfl⟩ := h.robot_cases robot' hrobot'
    obtain ⟨hid, -, hpath, -, -⟩ := moved.afterPublication.deliver_same outcome.actions
    rw [SimulatedRobot.atGoal, hpath] at hgoal
    rw [hid] at hmessage
    rw [← haction, SimulatedRobot.deliver_received hmessage hgoal]
    rfl

/-! ## Runs -/

variable {scenario : ScenarioDefinition} {tickLimit : ℕ}

/-- The runs of a scenario against the shipped service in memory. -/
abbrev loopMachine (wrappedAngle : ℚ → ℚ) (config : MonitorConfig) (geometry : Geometry E)
    (cpSat : ℕ → Backend) (runId : String) (startEpochMs : ℤ) (scenario : ScenarioDefinition)
    (tickLimit : ℕ) : Machine LoopState :=
  simulationMachine (shippedTransport wrappedAngle config geometry cpSat runId startEpochMs)
    startEpochMs scenario tickLimit (InMemoryTransportState.initial startEpochMs)

/-- **The invariant** holds between the ticks of every run. -/
theorem loopInvariant {s : LoopState}
    (h : (loopMachine wrappedAngle config geometry cpSat runId startEpochMs scenario
      tickLimit).Reachable s) : LoopInvariant config geometry cpSat s := by
  refine h.invariant ?_ fun s s' _ hinv hstep => ?_
  · rintro _ ⟨robots, hrobots, rfl⟩
    have hfresh : ∀ robot ∈ robots, robot.latestAction = .pause ∧
        robot.terminalStatePublished = false := fun robot hrobot => by
      obtain ⟨definition, -, hcreate⟩ := exists_of_mem_mapM hrobots robot hrobot
      obtain ⟨-, -, -, haction, -, hterminal⟩ := SimulatedRobot.create_eq_ok hcreate
      exact ⟨haction, hterminal⟩
    exact
      { engine := .init ⟨0, rfl⟩
        robots_nodup := by
          rw [map_of_mapM hrobots fun _ _ hcreate => (SimulatedRobot.create_eq_ok hcreate).1]
          exact ((sortedBy_perm _ _).map ScenarioRobot.deviceId).nodup_iff.mpr scenario.ids_nodup
        known := fun r hr => absurd hr (AList.notMem_empty r)
        described := fun hone => absurd hone (Nat.not_succ_le_zero 0)
        silent := fun robot hrobot hterminal => by
          rw [(hfresh robot hrobot).2] at hterminal
          cases hterminal
        waiting := fun _ robot hrobot => (hfresh robot hrobot).1 }
  · obtain ⟨-, moved, payloads, outcome, hticked⟩ := ticked_of_step hstep
    exact (hinv.tick hticked).1

/-- **Every tick of a run** does what `LoopTick` says. -/
theorem loopTick_of_step {s s' : LoopState}
    (hreach : (loopMachine wrappedAngle config geometry cpSat runId startEpochMs scenario
      tickLimit).Reachable s)
    (hstep : (loopMachine wrappedAngle config geometry cpSat runId startEpochMs scenario
      tickLimit).step s s') :
    s.Continues tickLimit ∧ ∃ fleet decision outcome,
      LoopTick wrappedAngle config geometry cpSat s s' fleet decision outcome := by
  obtain ⟨hcontinues, moved, payloads, outcome, hticked⟩ := ticked_of_step hstep
  obtain ⟨-, fleet, decision, htick⟩ := (loopInvariant hreach).tick hticked
  exact ⟨hcontinues, fleet, decision, outcome, htick⟩

end Loop

/-! ## Two robots -/

/-- A robot of a scenario on a line. -/
def lineRobot (deviceId : RobotId) (x : ℚ) (path : List ℚ) : ScenarioRobot where
  deviceId
  initialPose := ⟨x, 0, 0⟩
  path := path.map fun x => ⟨x, 0, 0⟩
  loaded := false
  batteryLevel := 50
  deadlineOffsetMs := 1000
  battery_range := half_battery

/-- The second robot has to leave before the first can follow. -/
def followingScenario : ScenarioDefinition where
  name := "following"
  nominalSpeedMps := 1
  robots := [lineRobot robotA 0 [4, 8], lineRobot robotB 5 [9, 13]]
  speed_pos := twoNodeScenario.speed_pos
  interval_pos := twoNodeScenario.interval_pos
  maxTicks_pos := twoNodeScenario.maxTicks_pos
  robots_ne := by simp
  ids_nodup := by simp [lineRobot, robotA, robotB]

end CollisionMonitor
