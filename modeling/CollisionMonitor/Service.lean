import CollisionMonitor.Engine

set_option relaxedAutoImplicit false
set_option autoImplicit false

/-!
# The monitor service

Ingestion of state payloads into a store of latest states, and ticks that decide on the stored
states and publish one action for each robot (`state_store.py`, `service.py`, `transport/base.py`).

Clocks are read once by each method, so their readings are arguments. Logging and sleeping have no
effect on what is modelled, and are left out.

## Main definitions

* `StatePayload`, `RobotState.modelValidate` — decoded payloads and their validation.
* `LatestStateStore` — the latest state of each robot, with `update` and `snapshot`.
* `ActionMessage`, `ActionPublisher` — what is published, and how.
* `ServiceState`, `ingestPayload`, `consumeStates`, `runTick` — the service.
-/

namespace CollisionMonitor

open Outcome

/-- `str(exc)`. -/
def PyException.text : PyException → String
  | .valueError message => message
  | .typeError message => message
  | .runtimeError message => message
  | .keyError key => "'" ++ key ++ "'"
  | .validationError message => message
  | .geometryConstructionError robotId detail =>
    "geometry construction failed for robot '" ++ robotId ++ "': " ++ detail
  | .optimiserInternalError message => message
  | .cpSatModelInvalidError message => message
  | .unsafeOptimisationResultError message => message
  | .overflowError message => message

/-! ## Payloads -/

/-- The fields that the schema reads from a payload. -/
structure StatePayloadFields where
  deviceId : String
  timestamp : ℤ
  x : ℚ
  y : ℚ
  theta : ℚ
  batteryLevel : ℚ
  loaded : Bool
  deadline : ℤ
  path : List (Pose ℚ)

/-- A decoded payload, after the conversions of the schema. It is well typed if no field is missing
but perhaps the path, which is then empty, there is no further field, and every value is of the type
of its field or is converted to it, as a numeric string or a Boolean is to a number. Otherwise it is
malformed; of it only the device ID is used, if it is a string. -/
inductive StatePayload
  | malformed (deviceId : Option String)
  | wellTyped (fields : StatePayloadFields)

/-- `payload.get("device_id")`, if it is a string. -/
def StatePayload.deviceId? : StatePayload → Option String
  | .malformed deviceId => deviceId
  | .wellTyped fields => some fields.deviceId

/-- Validate a payload against the schema of robot states. -/
def RobotState.modelValidate : StatePayload → Except PyException RobotState
  | .malformed _ => .error (.validationError "the payload does not have the fields of the schema")
  | .wellTyped p =>
    if h : p.deviceId ≠ "" ∧ 0 ≤ p.timestamp ∧ (0 ≤ p.batteryLevel ∧ p.batteryLevel ≤ 100)
        ∧ 0 ≤ p.deadline then
      .ok {
        deviceId := ⟨p.deviceId, h.1⟩
        timestamp := p.timestamp.toNat
        x := p.x
        y := p.y
        theta := p.theta
        batteryLevel := p.batteryLevel
        loaded := p.loaded
        deadline := p.deadline.toNat
        path := p.path
        battery_range := h.2.2.1 }
    else .error (.validationError "a field of the payload is out of range")

/-! ## The state store -/

/-- The fields of `StoredRobotState`. -/
structure StoredStateFields where
  state : RobotState
  receivedMonotonicSeconds : ℚ

/-- The check of `StoredRobotState.__post_init__`. -/
def StoredStateFields.postInit (stored : StoredStateFields) : Except PyException Unit :=
  raiseIf (stored.receivedMonotonicSeconds < 0)
    (.valueError "received monotonic time must be finite and non-negative")

/-- One latest validated state and its local monotonic receive time. -/
abbrev StoredRobotState := Validated StoredStateFields.postInit

/-- Whether a received state became the stored latest state. -/
structure StateUpdateResult where
  accepted : Bool
  robotId : RobotId
  reason : String

/-- The fields of `FleetStateSnapshot`. -/
structure FleetSnapshotFields where
  snapshots : List RobotSnapshot
  sourceStateAgesMs : Dict RobotId ℤ
  capturedEpochMs : ℤ
  capturedMonotonicSeconds : ℚ

/-- The checks of `FleetStateSnapshot.__post_init__`. -/
def FleetSnapshotFields.postInit (fleet : FleetSnapshotFields) : Except PyException Unit := do
  raiseIf (fleet.capturedEpochMs < 0) (.valueError "captured epoch time must not be negative")
  raiseIf (fleet.capturedMonotonicSeconds < 0)
    (.valueError "captured monotonic time must be finite and non-negative")
  let snapshotIds := fleet.snapshots.map RobotSnapshot.deviceId
  raiseIf (snapshotIds ≠ sorted snapshotIds)
    (.valueError "fleet snapshots must use deterministic robot-ID order")
  raiseIf (¬ fleet.sourceStateAgesMs.SameKeys snapshotIds)
    (.valueError "every fleet snapshot must have one source-state age")

/-- An immutable tick-local view of every known robot state. -/
abbrev FleetStateSnapshot := Validated FleetSnapshotFields.postInit

/-- At most one latest valid state for each device ID. -/
structure LatestStateStore where
  states : Dict RobotId StoredRobotState := ∅

namespace LatestStateStore

variable (store : LatestStateStore)

/-- Apply the per-robot source-timestamp ordering policy: an older state is rejected, and one
with an equal or newer timestamp replaces the stored state. -/
def update (state : RobotState) (receivedMonotonicSeconds : ℚ) :
    Except PyException (StateUpdateResult × LatestStateStore) := do
  let candidate ← validate StoredStateFields.postInit { state, receivedMonotonicSeconds }
  let stored : LatestStateStore := { states := store.states.insert state.deviceId candidate }
  match store.states.lookup state.deviceId with
  | some existing =>
    if state.timestamp < existing.val.state.timestamp then
      return ({ accepted := false, robotId := state.deviceId, reason := "older_source_timestamp" },
        store)
    else
      return ({ accepted := true, robotId := state.deviceId, reason := "replaced_latest_state" },
        stored)
  | none =>
    return ({ accepted := true, robotId := state.deviceId, reason := "new_robot_state" }, stored)

variable (wrappedAngle : ℚ → ℚ)

/-- The engine snapshot of one stored state and the age of that state. -/
def snapshotRobot (capturedMonotonicSeconds : ℚ) (capturedEpochMs : ℤ)
    (staleTimeoutSeconds poseTolerance : ℚ) (robotId : RobotId) :
    Except PyException (RobotSnapshot × ℤ) := do
  let stored ← item store.states robotId
  let ageSeconds := max (capturedMonotonicSeconds - stored.val.receivedMonotonicSeconds) 0
  let ageMs := ⌊ageSeconds * 1000⌋
  let snapshot ← RobotSnapshot.fromState wrappedAngle stored.val.state
    (max (capturedEpochMs - ageMs) 0) (decide (ageSeconds ≥ staleTimeoutSeconds)) poseTolerance
  return (snapshot, ageMs)

/-- Build immutable engine snapshots from one coherent store view. -/
def snapshot (capturedMonotonicSeconds : ℚ) (capturedEpochMs : ℤ)
    (staleTimeoutSeconds poseTolerance : ℚ) : Except PyException FleetStateSnapshot := do
  raiseIf (capturedMonotonicSeconds < 0)
    (.valueError "captured monotonic time must be finite and non-negative")
  raiseIf (capturedEpochMs < 0) (.valueError "captured epoch time must not be negative")
  raiseIf (staleTimeoutSeconds ≤ 0)
    (.valueError "stale timeout must be finite and greater than zero")
  raiseIf (poseTolerance ≤ 0) (.valueError "pose tolerance must be finite and greater than zero")
  let robotIds := sorted store.states.keys
  let taken ← robotIds.mapM (store.snapshotRobot wrappedAngle capturedMonotonicSeconds
    capturedEpochMs staleTimeoutSeconds poseTolerance)
  validate FleetSnapshotFields.postInit {
    snapshots := taken.map Prod.fst
    sourceStateAgesMs := Dict.ofPairs (robotIds.zip (taken.map Prod.snd))
    capturedEpochMs
    capturedMonotonicSeconds }

end LatestStateStore

/-! ## Messages -/

/-- The fields of an action payload. -/
structure ActionMessageFields where
  runId : String
  deviceId : RobotId
  action : Action
  tickId : String
  decisionTimestamp : ℤ
  sourceStateTimestamp : ℕ
  reasonCodes : List String
  reasonContext : List String
  decisionSource : DecisionSource
  grantActive : Bool

/-- The constraints of the schema of action payloads. -/
def ActionMessageFields.postInit (message : ActionMessageFields) : Except PyException Unit := do
  raiseIf (message.runId = "") (.validationError "run_id should have at least 1 character")
  raiseIf (message.tickId = "") (.validationError "tick_id should have at least 1 character")
  raiseIf (message.decisionTimestamp < 0)
    (.validationError "decision_timestamp should be greater than or equal to 0")
  raiseIf (message.reasonCodes = [])
    (.validationError "reason_codes should have at least 1 item")
  raiseIf (message.reasonContext = [])
    (.validationError "reason_context should have at least 1 item")

/-- A validated action payload published to one robot-specific destination. -/
abbrev ActionMessage := Validated ActionMessageFields.postInit

/-- The restart-safe logical action identity. -/
def ActionMessageFields.idempotencyKey (message : ActionMessageFields) :
    String × RobotId × String :=
  (message.runId, message.deviceId, message.tickId)

/-- A publisher with state in `π`. It may raise at every attempt. -/
structure ActionPublisher (π : Type) where
  publishAction : ActionMessage → EStateM PyException π PUnit

/-! ## The service -/

/-- Outcome of validating and storing one consumed state payload. -/
structure IngestionResult where
  accepted : Bool
  robotId : Option String
  reason : String

/-- One delivery of the state queue, with the reading of the clock when it is ingested. -/
structure StateDelivery where
  payload : StatePayload
  receivedMonotonicSeconds : ℚ

/-- How a delivery was settled. -/
inductive Disposition
  | acknowledged
  | rejected (requeue : Bool)
  deriving DecidableEq

/-- One robot action that exhausted its bounded publication attempts. -/
structure PublicationFailure where
  robotId : RobotId
  tickId : String
  attempts : ℤ
  error : String

/-- What a tick reports about its publication. -/
structure PublicationTrace where
  complete : Bool
  successfulRobotIds : List RobotId
  failures : List PublicationFailure

/-- The per-tick diagnostic object. -/
structure ServiceTrace where
  runId : String
  tickId : String
  tickEpochMs : ℤ
  tickMonotonicSeconds : ℚ
  robots : List (RobotId × ℕ × ℤ × Bool)
  componentMembership : List (RobotId × List RobotId)
  forbiddenActionCombinations : List ConstraintTrace
  priorityBreakdown : List PriorityTerms
  activeGrants : List (RobotId × GrantRecord)
  solver : List (ComponentDiagnostic × ℚ)
  solverTiming : ℚ × ℚ
  finalActions : List (RobotId × String × String × List String)
  safetyValid : Bool
  safetyViolations : List ViolationLog
  stateCommitted : Bool
  alarms : List String
  publication : PublicationTrace
  detailedGeometry : List (RobotId × String × String)

/-- One decision tick, its output messages and publication outcome. -/
structure ServiceTickResult where
  fleetDecision : EngineDecision
  actionMessages : List ActionMessage
  publicationFailures : List PublicationFailure
  trace : ServiceTrace

/-- The state of a service: its engine, its store and counters, and that of its publisher. -/
structure ServiceState (ω σ γ π : Type) where
  engine : EngineState ω σ γ
  store : LatestStateStore := {}
  tickSequence : ℕ := 0
  rejectedStateCount : ℕ := 0
  publisher : π

/-- A method of the service. -/
abbrev Service (ω σ γ π : Type) := EStateM PyException (ServiceState ω σ γ π)

/-- `f"tick-{tick_sequence:08d}"`. -/
def tickIdOf (tickSequence : ℕ) : String :=
  let digits := toString tickSequence
  "tick-" ++ String.ofList (List.replicate (8 - digits.length) '0') ++ digits

section Service

variable {E ω σ γ π : Type} (wrappedAngle : ℚ → ℚ) (config : MonitorConfig)
  (geometry : Geometry E) (parts : Collaborators ω) (api : GrantManagerApi σ γ)
  (publisher : ActionPublisher π) (runId : String)

/-- Validate and store one decoded input payload. -/
def ingestPayload (receivedMonotonicSeconds : ℚ) (payload : StatePayload) :
    Service ω σ γ π IngestionResult := do
  let service ← get
  match RobotState.modelValidate payload with
  | .error _ => do
    set { service with rejectedStateCount := service.rejectedStateCount + 1 }
    return { accepted := false, robotId := payload.deviceId?, reason := "input_validation_failed" }
  | .ok state => do
    let (update, store) ← lift (service.store.update state receivedMonotonicSeconds)
    set { service with
      store
      rejectedStateCount := service.rejectedStateCount + if update.accepted then 0 else 1 }
    return { accepted := update.accepted, robotId := some update.robotId.val
             reason := update.reason }

/-- Consume one delivery: acknowledge an accepted state, reject any other without requeue. -/
def consumeDelivery (delivery : StateDelivery) : Service ω σ γ π Disposition := do
  let result ← ingestPayload delivery.receivedMonotonicSeconds delivery.payload
  return if result.accepted then .acknowledged else .rejected false

/-- Consume and validate states until the adapter closes. -/
def consumeStates (deliveries : List StateDelivery) : Service ω σ γ π (List Disposition) :=
  deliveries.mapM consumeDelivery

/-- The attempts of publishing one action from the attempt numbered `attempt` on. The loop of
the source counts up to the maximum; here the number of attempts left decreases with it. -/
def publishAttempts (message : ActionMessage) :
    ℕ → ℤ → EStateM PyException π (Option PublicationFailure)
  | 0, _ => throw (.runtimeError "publication retry loop exhausted without an outcome")
  | remaining + 1, attempt => fun state =>
    match (publisher.publishAction message).run state with
    | .ok _ state => .ok none state
    | .error e state =>
      if attempt < config.publicationMaximumAttempts then
        (publishAttempts message remaining (attempt + 1)).run state
      else .ok (some {
        robotId := message.val.deviceId
        tickId := message.val.tickId
        attempts := attempt
        error := e.text }) state

/-- Publish one action with bounded retries and explicit final failure. -/
def publishWithRetry (message : ActionMessage) :
    EStateM PyException π (Option PublicationFailure) :=
  publishAttempts config publisher message config.publicationMaximumAttempts.toNat 1

/-- Build one validated output payload from a final engine decision. -/
def actionMessage (snapshotByRobot : Dict RobotId RobotSnapshot) (decisionTimestamp : ℤ)
    (activeGrants : Dict RobotId GrantRecord) (tickAlarmCodes : List String)
    (decision : RobotDecision ReasonMetadata) : Except PyException ActionMessage := do
  let snapshot ← item snapshotByRobot decision.robotId
  validate ActionMessageFields.postInit {
    runId
    deviceId := decision.robotId
    action := decision.action
    tickId := decision.tickId
    decisionTimestamp
    sourceStateTimestamp := snapshot.state.timestamp
    reasonCodes := (decision.reasonCodes ++ tickAlarmCodes).eraseDups
    reasonContext := decision.diagnosticMetadata.reasonContext
    decisionSource := decision.decisionSource
    grantActive := decide (decision.robotId ∈ activeGrants) }

/-- Build the stable per-tick diagnostic object. -/
def buildTrace (tickId : String) (stateSnapshot : FleetStateSnapshot)
    (metadata : TickMetadata) (activeGrants : Dict RobotId GrantRecord)
    (messages : List ActionMessage) (failures : List PublicationFailure) :
    Except PyException ServiceTrace := do
  let robots ← stateSnapshot.val.snapshots.mapM fun snapshot => do
    let age ← item stateSnapshot.val.sourceStateAgesMs snapshot.deviceId
    return (snapshot.deviceId, snapshot.state.timestamp, age, snapshot.stale)
  return {
    runId
    tickId
    tickEpochMs := stateSnapshot.val.capturedEpochMs
    tickMonotonicSeconds := stateSnapshot.val.capturedMonotonicSeconds
    robots
    componentMembership := metadata.connectedComponents.flatMap fun component =>
      component.map fun robotId => (robotId, component)
    forbiddenActionCombinations := metadata.constraints
    priorityBreakdown := metadata.priorityScores
    activeGrants := sortedItems activeGrants
    solver := metadata.componentDiagnostics.map fun diagnostic =>
      (diagnostic, config.cpSatTimeLimitSeconds)
    solverTiming := (config.cpSatTimeLimitSeconds, config.tickIntervalSeconds)
    finalActions := messages.map fun message => (message.val.deviceId, message.val.action.value,
      message.val.decisionSource.value, message.val.reasonCodes)
    safetyValid := metadata.globalSafetyValid
    safetyViolations := metadata.finalGlobalSafetyViolations
    stateCommitted := metadata.stateCommitted
    alarms := metadata.alarms
    publication := {
      complete := failures.isEmpty
      successfulRobotIds := (messages.filter fun message =>
        failures.all fun failure => decide (failure.robotId ≠ message.val.deviceId)).map
          fun message => message.val.deviceId
      failures }
    detailedGeometry := metadata.detailedGeometry }

/-- Decide and publish exactly one action for every currently known robot. -/
def runTick (capturedMonotonicSeconds : ℚ) (capturedEpochMs : ℤ) :
    Service ω σ γ π ServiceTickResult := do
  modify fun service => { service with tickSequence := service.tickSequence + 1 }
  let service ← get
  let tickId := tickIdOf service.tickSequence
  let stateSnapshot ← lift (service.store.snapshot wrappedAngle capturedMonotonicSeconds
    capturedEpochMs config.staleTimeoutSeconds config.poseTolerance)
  let fleetDecision ← zoom ServiceState.engine (fun service engine => { service with engine })
    (CollisionDecisionEngine.decide config geometry parts api stateSnapshot.val.snapshots
      stateSnapshot.val.capturedEpochMs tickId)
  let service ← get
  let activeGrants := api.activeGrants service.engine.grantManager service.engine.store
  let snapshotByRobot := Dict.ofPairs (stateSnapshot.val.snapshots.map fun snapshot =>
    (snapshot.deviceId, snapshot))
  let actionMessages ← lift (fleetDecision.decisions.mapM (actionMessage runId snapshotByRobot
    stateSnapshot.val.capturedEpochMs activeGrants fleetDecision.tickMetadata.alarms))
  let outcomes ← zoom ServiceState.publisher (fun service publisher => { service with publisher })
    (actionMessages.mapM (publishWithRetry config publisher))
  let publicationFailures := outcomes.filterMap id
  let trace ← lift (buildTrace config runId tickId stateSnapshot fleetDecision.tickMetadata
    activeGrants actionMessages publicationFailures)
  return { fleetDecision, actionMessages, publicationFailures, trace }

end Service

end CollisionMonitor
