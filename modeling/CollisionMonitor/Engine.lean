import CollisionMonitor.GrantObject

set_option relaxedAutoImplicit false
set_option autoImplicit false

/-!
# The decision engine

The orchestration of one decision tick (`engine.py`): build the conflict model, prepare a clone of
the grant manager, score and solve the components, preview, validate the whole fleet, override
affected components, and commit the clone only when the final actions are safe.

The engine is generic in its collaborators, which may keep state of their own and may raise at
every call, and in the interface of its grant manager. The shipped engine uses the conflict model
builder, optimiser and heuristic of this development, and manager objects in a store; the answers
of CP-SAT are a parameter, one for each call.

## Main definitions

* `validateGlobalSafety` — the independent check of the final action envelopes.
* `Collaborators`, `GrantManagerApi`, `EngineState` — what an engine is made of.
* `solveComponents`, `affectedRobots` — the stages of a tick.
* `decideTick`, `reportTick`, `CollisionDecisionEngine.decide` — a tick up to its commit, its
  report, and both.
* `shippedCollaborators`, `managerApi` — the parts of the shipped engine.
-/

namespace CollisionMonitor

open Outcome

/-! ## Snapshots and global safety -/

/-- Engine-level safety and liveness alarm codes. -/
inductive EngineAlarmCode
  | prolongedStateLossStaticObstacle
  | currentFootprintOverlap
  | globalSafetyValidationFailed
  | failSafeGeometryRemainsUnsafe
  deriving DecidableEq, Repr

/-- The text of an engine alarm. -/
def EngineAlarmCode.value : EngineAlarmCode → String
  | .prolongedStateLossStaticObstacle => "PROLONGED_STATE_LOSS_STATIC_OBSTACLE"
  | .currentFootprintOverlap => "CURRENT_FOOTPRINT_OVERLAP"
  | .globalSafetyValidationFailed => "GLOBAL_SAFETY_VALIDATION_FAILED"
  | .failSafeGeometryRemainsUnsafe => "FAIL_SAFE_GEOMETRY_REMAINS_UNSAFE"

/-- One final action-envelope pair rejected by independent geometry checks. -/
structure GlobalSafetyViolation where
  robotI : RobotId
  actionI : Action
  robotJ : RobotId
  actionJ : Action
  boundsI : Bounds
  boundsJ : Bounds

/-- The robots of a violation. -/
def GlobalSafetyViolation.robotPair (violation : GlobalSafetyViolation) : RobotId × RobotId :=
  (violation.robotI, violation.robotJ)

/-- Validate receive times and IDs, then return stable robot-ID order. -/
def normaliseSnapshots (snapshots : List RobotSnapshot) :
    Except PyException (List RobotSnapshot) := do
  let ordered := sortedBy RobotSnapshot.deviceId snapshots
  ordered.forM fun snapshot => raiseIf (snapshot.receivedAtMs < 0)
    (.valueError "snapshot received_at_ms must be a non-negative integer")
  (ordered.zip ordered.tail).forM fun (previous, current) =>
    raiseIf (previous.deviceId = current.deviceId)
      (.valueError ("duplicate device IDs in snapshots: " ++ current.deviceId.val))
  return ordered

/-- Apply the configured receive-age threshold without reading a clock. -/
def deriveStaleness (config : MonitorConfig) (nowMs : ℤ) (snapshots : List RobotSnapshot) :
    List RobotSnapshot :=
  snapshots.map fun snapshot => { snapshot with
    stale := snapshot.stale || decide (nowMs - snapshot.receivedAtMs ≥ config.staleLimitMs) }

section Validate

variable {E : Type} (geometry : Geometry E)

/-- Compare the envelopes of one pair of robots. -/
def checkPair (decisions : Dict RobotId Action) (envelopes : Dict RobotId E)
    (pair : RobotSnapshot × RobotSnapshot) : Except PyException (Option GlobalSafetyViolation) := do
  let robotI := pair.1.deviceId
  let robotJ := pair.2.deviceId
  let envelopeI ← item envelopes robotI
  let envelopeJ ← item envelopes robotJ
  if geometry.geometriesConflict envelopeI envelopeJ then
    return some {
      robotI, actionI := ← item decisions robotI
      robotJ, actionJ := ← item decisions robotJ
      boundsI := geometry.bounds envelopeI
      boundsJ := geometry.bounds envelopeJ }
  else
    return none

/-- Rebuild and compare every final envelope independently of the graph. -/
def validateGlobalSafety (snapshots : List RobotSnapshot) (decisions : Dict RobotId Action) :
    Except PyException (List GlobalSafetyViolation) := do
  let ordered ← normaliseSnapshots snapshots
  raiseIf (¬ decisions.SameKeys (ordered.map RobotSnapshot.deviceId))
    (.valueError "global validation requires one action for every snapshot")
  let envelopes ← Dict.collect RobotSnapshot.deviceId (fun snapshot => do
    geometry.actionEnvelope snapshot (← item decisions snapshot.deviceId)) ordered
  let found ← (combinations ordered).mapM (checkPair geometry decisions envelopes)
  return found.filterMap id

end Validate

/-- Map every robot ID to its deterministic connected component. -/
def componentForRobot (conflictModel : ConflictModel) : Dict RobotId (List RobotId) :=
  Dict.ofPairs (conflictModel.connectedComponents.flatMap fun component =>
    component.map fun robotId => (robotId, component))

/-- Expand violating pairs to their full nominal graph components. -/
def affectedRobots (violations : List GlobalSafetyViolation) (conflictModel : ConflictModel) :
    Except PyException (List RobotId) := do
  let components ← violations.mapM fun violation => do
    let componentI ← item (componentForRobot conflictModel) violation.robotI
    let componentJ ← item (componentForRobot conflictModel) violation.robotJ
    return componentI ++ componentJ
  return sorted components.flatten.dedup

/-! ## Priorities and hard assignments -/

section Components

variable (config : MonitorConfig)

/-- Score all components using explicit time and provisional grant state. -/
def scorePriorities (conflictModel : ConflictModel) (waitingAges : Dict RobotId ℤ)
    (activeGrants : Dict RobotId GrantRecord) (nowMs : ℤ) :
    Except PyException (Dict RobotId PriorityBreakdown) := do
  let waitingAges := Dict.ofKeys conflictModel.snapshots.keys fun robotId =>
    (waitingAges.lookup robotId).getD 0
  conflictModel.connectedComponents.foldlM (fun scores component => do
    return scores.update (← scoreComponentPriorities config component conflictModel nowMs
      waitingAges activeGrants.keys)) ∅

/-- Combine safety Pause rules with compatible retained Resume grants. -/
def componentHardAssignments (component : List RobotId) (conflictModel : ConflictModel)
    (grantHardAssignments : Dict RobotId Action) : Except PyException (Dict RobotId Action) :=
  component.foldlM (fun hardAssignments robotId => do
    let snapshot ← item conflictModel.snapshots robotId
    return if snapshot.stale || snapshot.atGoal then hardAssignments.insert robotId .pause
      else hardAssignments)
    (Dict.ofPairs (component.filterMap fun robotId =>
      (grantHardAssignments.lookup robotId).map fun action => (robotId, action)))

end Components

/-! ## Collaborators and state -/

/-- The replaceable parts of an engine. Each may keep state in `ω` and may raise. -/
structure Collaborators (ω : Type) where
  conflictModelBuilder : List RobotSnapshot → MonitorConfig →
    EStateM PyException ω ConflictModel
  optimise : List RobotId → ConflictModel → Dict RobotId PriorityBreakdown →
    Dict RobotId Action → EStateM PyException ω OptimisationResult
  solve : List RobotId → ConflictModel → Dict RobotId PriorityBreakdown →
    Dict RobotId Action → EStateM PyException ω HeuristicResult

/-- The grant-manager interface the engine uses: managers are values of `γ`, their mutable state
is in `σ`, and the properties are read-only snapshots. -/
structure GrantManagerApi (σ γ : Type) where
  clone : γ → EStateM PyException σ γ
  tickId : γ → σ → ℤ
  waitingAges : γ → σ → Dict RobotId ℤ
  activeGrants : γ → σ → Dict RobotId GrantRecord
  prepareTick : γ → ConflictModel → ℤ → EStateM PyException σ GrantPreparation
  previewTick : γ → ConflictModel → Dict RobotId Action → Dict RobotId PriorityBreakdown →
    Dict RobotId DecisionSource → EStateM PyException σ GrantDecisionPreview
  revokeForSafety : γ → List RobotId → EStateM PyException σ PUnit
  commitTick : γ → ConflictModel → GrantDecisionPreview →
    EStateM PyException σ GrantDecisionResult

/-- The state of an engine: that of its collaborators, the managers, and which one it holds. -/
structure EngineState (ω σ γ : Type) where
  world : ω
  store : σ
  grantManager : γ

/-- A method of the engine. -/
abbrev Engine (ω σ γ : Type) := EStateM PyException (EngineState ω σ γ)

section Lift

variable {ω σ γ α : Type}

/-- A call of a collaborator. -/
def inWorld (x : EStateM PyException ω α) : Engine ω σ γ α :=
  zoom EngineState.world (fun state world => { state with world }) x

/-- A call of a grant manager. -/
def inStore (x : EStateM PyException σ α) : Engine ω σ γ α :=
  zoom EngineState.store (fun state store => { state with store }) x

end Lift

/-! ## Solving the components -/

/-- What a trace says about the solution of one component. -/
inductive ComponentDiagnostic
  | exact (component : List RobotId) (solverStatus : String) (objectiveValue bestBound : Option ℤ)
      (wallTimeSeconds : Option ℚ) (optimalityProven : Bool)
  | heuristic (component : List RobotId) (method : String) (solverStatus : Option String)
      (wallTimeSeconds : Option ℚ) (fallbackReason heuristicReason : Option String)
      (feasible progressMade : Bool)

/-- Decisions, sources and diagnostics while the components are solved. -/
structure Solving where
  decisions : Dict RobotId Action := ∅
  sources : Dict RobotId DecisionSource := ∅
  diagnostics : List ComponentDiagnostic := []

/-- Take the decisions of one component, all with one source. -/
def Solving.take (state : Solving) (decisions : Dict RobotId Action) (source : DecisionSource)
    (diagnostic : ComponentDiagnostic) : Solving where
  decisions := state.decisions.update decisions
  sources := state.sources.update (Dict.ofKeys decisions.keys fun _ => source)
  diagnostics := state.diagnostics ++ [diagnostic]

section Solve

variable {ω : Type} (config : MonitorConfig) (parts : Collaborators ω)

/-- The action of an isolated robot. -/
def decideIsolated (conflictModel : ConflictModel) (state : Solving) (robotId : RobotId) :
    Except PyException Solving := do
  let snapshot ← item conflictModel.snapshots robotId
  return { state with
    decisions := state.decisions.insert robotId
      (if snapshot.stale || snapshot.atGoal then .pause else .resume)
    sources := state.sources.insert robotId .policy }

/-- Whether a component is a single isolated robot. -/
def isolatedComponent (conflictModel : ConflictModel) : List RobotId → Bool
  | [robotId] => decide (robotId ∈ conflictModel.isolatedRobots)
  | _ => false

/-- Solve one component exactly, or by the heuristic, or pause it. -/
def solveComponent (conflictModel : ConflictModel) (priorities : Dict RobotId PriorityBreakdown)
    (grantHardAssignments : Dict RobotId Action) (state : Solving) (component : List RobotId) :
    EStateM PyException ω Solving := do
  if isolatedComponent conflictModel component then
    return state
  let hardAssignments ←
    lift (componentHardAssignments component conflictModel grantHardAssignments)
  let exactResult ← (if (component.length : ℤ) ≤ config.maximumExactComponentSize then
      some <$> parts.optimise component conflictModel priorities hardAssignments
    else pure none : EStateM PyException ω (Option OptimisationResult))
  match exactResult.filter fun result => result.val.feasible with
  | some result =>
    return state.take result.val.decisions .cpSat
      (.exact component result.val.solverStatus.value result.val.objectiveValue
        result.val.bestBound result.val.wallTimeSeconds result.val.optimalityProven)
  | none => do
    let fallbackReason := match exactResult with
      | some result => result.val.fallbackReason
      | none => some "component_too_large_for_cp_sat"
    let result ← parts.solve component conflictModel priorities hardAssignments
    let diagnostic := ComponentDiagnostic.heuristic component result.val.decisionSource.value
      (exactResult.map fun exact => exact.val.solverStatus.value)
      (exactResult.bind fun exact => exact.val.wallTimeSeconds) fallbackReason
      result.val.fallbackReason result.val.feasible result.val.progressMade
    if result.val.feasible then
      return state.take result.val.decisions result.val.decisionSource diagnostic
    else
      return state.take (Dict.ofKeys component fun _ => .pause) .failSafe diagnostic

/-- Select deterministic actions for isolated robots and graph components. -/
def solveComponents (conflictModel : ConflictModel) (priorities : Dict RobotId PriorityBreakdown)
    (grantHardAssignments : Dict RobotId Action) : EStateM PyException ω Solving := do
  let isolated ← lift (conflictModel.isolatedRobots.foldlM (decideIsolated conflictModel) {})
  conflictModel.connectedComponents.foldlM
    (solveComponent config parts conflictModel priorities grantHardAssignments) isolated

end Solve

/-! ## One tick up to its commit -/

/-- Everything a tick has established when it reaches its report. -/
structure TickDecision (γ : Type) where
  ordered : List RobotSnapshot
  conflictModel : ConflictModel
  provisionalGrants : γ
  preparation : GrantPreparation
  priorities : Dict RobotId PriorityBreakdown
  diagnostics : List ComponentDiagnostic
  preview : GrantDecisionPreview
  currentFootprintViolations : List GlobalSafetyViolation
  initialViolations : List GlobalSafetyViolation
  finalViolations : List GlobalSafetyViolation
  affected : List RobotId
  decisions : Dict RobotId Action
  sources : Dict RobotId DecisionSource
  grantResult : Option GrantDecisionResult

/-- The white space that `str.strip` removes. -/
def pythonSpace (c : Char) : Bool :=
  (9 ≤ c.val && c.val ≤ 13) || (28 ≤ c.val && c.val ≤ 32) || c.val == 0x85 || c.val == 0xA0
    || c.val == 0x1680 || (0x2000 ≤ c.val && c.val ≤ 0x200A) || c.val == 0x2028
    || c.val == 0x2029 || c.val == 0x202F || c.val == 0x205F || c.val == 0x3000

/-- `not tick_id.strip()`. -/
def blank (tickId : String) : Bool := tickId.toList.all pythonSpace

section Decide

variable {E ω σ γ : Type} (config : MonitorConfig) (geometry : Geometry E)
  (parts : Collaborators ω) (api : GrantManagerApi σ γ)

/-- Force the affected components to Pause when the first validation found violations, and
validate again. -/
def overrideAffected (ordered : List RobotSnapshot) (conflictModel : ConflictModel)
    (decisions : Dict RobotId Action) (sources : Dict RobotId DecisionSource)
    (initialViolations : List GlobalSafetyViolation) :
    Except PyException (Dict RobotId Action × Dict RobotId DecisionSource × List RobotId
      × List GlobalSafetyViolation) := do
  if initialViolations = [] then
    return (decisions, sources, [], initialViolations)
  else do
    let affected ← affectedRobots initialViolations conflictModel
    let decisions := decisions.update (Dict.ofKeys affected fun _ => .pause)
    let sources := sources.update (Dict.ofKeys affected fun _ => .failSafe)
    let finalViolations ← validateGlobalSafety geometry ordered decisions
    return (decisions, sources, affected, finalViolations)

/-- Commit the provisional grants, and hold them from now on. -/
def commitGrants (conflictModel : ConflictModel) (provisionalGrants : γ) (affected : List RobotId)
    (decisions : Dict RobotId Action) (sources : Dict RobotId DecisionSource)
    (alarms : List AlarmCode) : Engine ω σ γ GrantDecisionResult := do
  (if affected ≠ [] then inStore (api.revokeForSafety provisionalGrants affected)
    else pure ⟨⟩ : Engine ω σ γ PUnit)
  let committedPreview ← lift (validate GrantPreviewFields.postInit {
    decisions, decisionSources := sources, alarms })
  let grantResult ← inStore (api.commitTick provisionalGrants conflictModel committedPreview)
  modify fun state => { state with grantManager := provisionalGrants }
  return grantResult

/-- A tick up to its commit point: grant changes remain provisional until the global validator
accepts the fleet. -/
def decideTick (snapshots : List RobotSnapshot) (nowMs : ℤ) (tickId : String) :
    Engine ω σ γ (TickDecision γ) := do
  lift (raiseIf (nowMs < 0) (.valueError "now_ms must be a non-negative integer"))
  lift (raiseIf (blank tickId = true) (.valueError "tick_id must be a non-empty string"))
  let normalised ← lift (normaliseSnapshots snapshots)
  let ordered := deriveStaleness config nowMs normalised
  let conflictModel ← inWorld (parts.conflictModelBuilder ordered config)
  let currentFootprintViolations ← lift (validateGlobalSafety geometry ordered
    (Dict.ofKeys (ordered.map RobotSnapshot.deviceId) fun _ => .pause))
  let state ← get
  let provisionalGrants ← inStore (api.clone state.grantManager)
  let preparation ← inStore (api.prepareTick provisionalGrants conflictModel nowMs)
  let state ← get
  let priorities ← lift (scorePriorities config conflictModel
    (api.waitingAges provisionalGrants state.store)
    (api.activeGrants provisionalGrants state.store) nowMs)
  let solved ← inWorld (solveComponents config parts conflictModel priorities
    preparation.hardAssignments)
  let preview ← inStore (api.previewTick provisionalGrants conflictModel solved.decisions
    priorities solved.sources)
  let initialViolations ← lift (validateGlobalSafety geometry ordered preview.val.decisions)
  let (decisions, sources, affected, finalViolations) ← lift (overrideAffected geometry ordered
    conflictModel preview.val.decisions preview.val.decisionSources initialViolations)
  let grantResult ← (if finalViolations = [] then
      some <$> commitGrants api conflictModel provisionalGrants affected decisions sources
        preview.val.alarms
    else pure none : Engine ω σ γ (Option GrantDecisionResult))
  return {
    ordered, conflictModel, provisionalGrants, preparation, priorities
    diagnostics := solved.diagnostics
    preview, currentFootprintViolations, initialViolations, finalViolations, affected, decisions
    sources, grantResult }

end Decide

/-! ## The report of a tick -/

/-- The log form of a violation. -/
structure ViolationLog where
  robotI : RobotId
  actionI : String
  robotJ : RobotId
  actionJ : String
  boundsI : Bounds
  boundsJ : Bounds

/-- Deterministic diagnostic data for a per-tick trace. -/
def GlobalSafetyViolation.asLogData (violation : GlobalSafetyViolation) : ViolationLog where
  robotI := violation.robotI
  actionI := violation.actionI.value
  robotJ := violation.robotJ
  actionJ := violation.actionJ.value
  boundsI := violation.boundsI
  boundsJ := violation.boundsJ

/-- The robots of a logged violation. -/
def ViolationLog.robotPair (log : ViolationLog) : RobotId × RobotId := (log.robotI, log.robotJ)

/-- A critical diagnostic of a tick. -/
structure CriticalDiagnostic where
  severity : String := "critical"
  code : EngineAlarmCode
  context : String

/-- One observed state in a trace. -/
structure ObservedState where
  robotId : RobotId
  stateTimestampMs : ℕ
  receivedAtMs : ℤ
  stale : Bool
  atGoal : Bool
  currentPose : Pose ℚ
  nextPose : Pose ℚ

/-- The unsafe assignments of one pair in a trace. -/
structure ConstraintTrace where
  robotPair : RobotId × RobotId
  forbiddenAssignments : List (String × String)
  forbiddenBounds : List ((String × String) × Bounds × Bounds)

/-- The diagnostic metadata of one robot's decision. -/
structure ReasonMetadata where
  reasonContext : List String
  component : List RobotId
  priority : PriorityTerms

/-- The metadata of a decided tick. -/
structure TickMetadata where
  nowMs : ℤ
  grantTickId : ℤ
  observedStates : List ObservedState
  constraints : List ConstraintTrace
  conflictEdges : List (RobotId × RobotId)
  connectedComponents : List (List RobotId)
  isolatedRobots : List RobotId
  componentDiagnostics : List ComponentDiagnostic
  finalDecisionSources : List (RobotId × String)
  priorityScores : List PriorityTerms
  grantHardAssignments : List (RobotId × String)
  grantAlarms : List String
  alarms : List String
  criticalDiagnostics : List CriticalDiagnostic
  prolongedStaleRobotIds : List RobotId
  currentFootprintOverlaps : List ViolationLog
  initialGlobalSafetyViolations : List ViolationLog
  finalGlobalSafetyViolations : List ViolationLog
  globalSafetyValid : Bool
  stateCommitted : Bool
  acquiredGrants : List RobotId
  releasedGrants : List (RobotId × String)
  waitingAges : List (RobotId × ℤ)
  detailedGeometry : List (RobotId × String × String)

/-- A decision of the engine with its diagnostic metadata. -/
abbrev EngineDecision := FleetDecision ReasonMetadata TickMetadata

/-- The items of a dictionary in key order. -/
def sortedItems {ν : Type} (d : Dict RobotId ν) : List (RobotId × ν) :=
  (sorted d.keys).filterMap fun robotId => (d.lookup robotId).map fun value => (robotId, value)

/-- The reason code of a decision source. -/
def sourceCode : DecisionSource → String
  | .cpSat => "CP_SAT_COMPONENT_DECISION"
  | .heuristic => "HEURISTIC_COMPONENT_DECISION"
  | .repair => "NO_ALL_PAUSED_REPAIR"
  | .failSafe => "FAIL_SAFE_PAUSE"
  | .policy => "DIRECT_POLICY_DECISION"

/-- The human context of a decision source. -/
def sourceContext : DecisionSource → String
  | .cpSat => "The bounded exact optimiser selected this component action."
  | .heuristic => "The deterministic constraint-propagating fallback selected this action."
  | .repair => "The no-all-paused safeguard selected a safe progress assignment."
  | .failSafe => "No validated progress assignment was retained for this component."
  | .policy => "A direct safety policy selected this action."

section Report

variable {γ : Type}

/-- The pairs of reason code and context that apply to a robot, in order. -/
def reasons (tick : TickDecision γ) (robotId : RobotId) (snapshot : RobotSnapshot)
    (source : DecisionSource) : List (String × String) :=
  (if snapshot.stale then
      [("STALE_STATIC_OBSTACLE",
        "The state is stale, so the robot is forced to Pause as an obstacle.")]
    else if snapshot.atGoal then
      [("AT_GOAL_PAUSE", "The remaining path is empty, so no movement is required.")]
    else if robotId ∈ tick.conflictModel.isolatedRobots then
      [("ISOLATED_ACTIVE_RESUME", "No unsafe pairwise action combination involves this robot.")]
    else []) ++
  [(sourceCode source, sourceContext source)] ++
  (if ∃ result ∈ tick.grantResult, robotId ∈ result.val.acquiredGrants then
      [("RIGHT_OF_WAY_GRANT_ACQUIRED", "This progressing conflict participant received a grant.")]
    else []) ++
  (if tick.preparation.hardAssignments.lookup robotId = some .resume then
      [("ACTIVE_GRANT_RESUME", "A safety-checked right-of-way grant retained Resume.")]
    else []) ++
  (if robotId ∈ tick.affected then
      [("GLOBAL_SAFETY_OVERRIDE", "Fleet-wide validation replaced the component with Pause.")]
    else [])

/-- Build concise reason codes and deterministic human context. -/
def reasonData (tick : TickDecision γ) (robotId : RobotId) (snapshot : RobotSnapshot)
    (source : DecisionSource) : Except PyException (List String × ReasonMetadata) := do
  let found := reasons tick robotId snapshot source
  let component ← item (componentForRobot tick.conflictModel) robotId
  let priority ← item tick.priorities robotId
  return ((found.map Prod.fst).eraseDups, {
    reasonContext := found.map Prod.snd, component, priority := priority.val })

/-- The reported decision of one robot. -/
def reportRobot (tick : TickDecision γ) (tickId : String) (snapshot : RobotSnapshot) :
    Except PyException (RobotDecision ReasonMetadata) := do
  let robotId := snapshot.deviceId
  let decisionSource ← item tick.sources robotId
  let (reasonCodes, diagnosticMetadata) ← reasonData tick robotId snapshot decisionSource
  let action ← item tick.decisions robotId
  return { robotId, action, reasonCodes, tickId, decisionSource, diagnosticMetadata }

/-- The critical diagnostics of a tick. -/
def criticalDiagnostics (tick : TickDecision γ) : List CriticalDiagnostic :=
  (if tick.currentFootprintViolations ≠ [] then [{
      code := .currentFootprintOverlap
      context := "Current stationary robot footprints intersect; safety is already violated before " ++
        "any movement decision." }]
    else []) ++
  (if tick.initialViolations ≠ [] then [{
      code := .globalSafetyValidationFailed
      context := "Independent fleet-wide validation rejected the chosen action envelopes; affected " ++
        "components were forced to Pause." }]
    else []) ++
  (if tick.finalViolations ≠ [] then [{
      code := .failSafeGeometryRemainsUnsafe
      context := "Even stationary fail-safe envelopes intersect; no grant or waiting-age state was " ++
        "committed for this tick." }]
    else [])

/-- The robots whose state is stale. -/
def staleRobotIds (tick : TickDecision γ) : List RobotId :=
  (tick.ordered.filter fun snapshot => snapshot.stale).map RobotSnapshot.deviceId

/-- The alarms of a tick: those of the preview, state loss, and the critical diagnostics. -/
def tickAlarms (tick : TickDecision γ) : List String :=
  (tick.preview.val.alarms.map AlarmCode.value ++
    (if staleRobotIds tick ≠ [] then
      [EngineAlarmCode.prolongedStateLossStaticObstacle.value] else []) ++
    (criticalDiagnostics tick).map fun diagnostic => diagnostic.code.value).eraseDups

/-- Serialise pairwise unsafe assignments in stable order. -/
def constraintTrace (conflictModel : ConflictModel) : List ConstraintTrace :=
  (conflictModel.pairwiseConstraints.filter fun pair => !pair.forbiddenAssignments.isEmpty).map
    fun pair => {
      robotPair := pair.robotPair
      forbiddenAssignments := pair.forbiddenAssignments.map fun (a, b) => (a.value, b.value)
      forbiddenBounds := pair.forbiddenAssignments.map fun (a, b) =>
        ((a.value, b.value), pair.envelopeBounds a b) }

/-- Opt-in envelopes for explicit geometry debugging. -/
def detailedGeometryTrace {E : Type} (config : MonitorConfig) (geometry : Geometry E)
    (conflictModel : ConflictModel) : Except PyException (List (RobotId × String × String)) :=
  if config.traceDetailedGeometry then
    (sorted conflictModel.snapshots.keys).mapM fun robotId => do
      let snapshot ← item conflictModel.snapshots robotId
      let pause ← geometry.actionEnvelope snapshot .pause
      let resume ← geometry.actionEnvelope snapshot .resume
      return (robotId, geometry.wkt pause, geometry.wkt resume)
  else .ok []

/-- The diagnostic metadata of a tick. `grantTickId` is the tick of the provisional manager and
`heldAges` are the waiting ages of the manager the engine holds. -/
def TickDecision.metadata (tick : TickDecision γ) (nowMs grantTickId : ℤ)
    (heldAges : Dict RobotId ℤ) (detailedGeometry : List (RobotId × String × String)) :
    TickMetadata where
  nowMs
  grantTickId
  observedStates := tick.ordered.map fun snapshot => {
    robotId := snapshot.deviceId
    stateTimestampMs := snapshot.state.timestamp
    receivedAtMs := snapshot.receivedAtMs
    stale := snapshot.stale
    atGoal := snapshot.atGoal
    currentPose := snapshot.state.currentPose
    nextPose := snapshot.nextPose }
  constraints := constraintTrace tick.conflictModel
  conflictEdges := tick.conflictModel.edges
  connectedComponents := tick.conflictModel.connectedComponents
  isolatedRobots := tick.conflictModel.isolatedRobots
  componentDiagnostics := tick.diagnostics
  finalDecisionSources := (sortedItems tick.sources).map fun (r, source) => (r, source.value)
  priorityScores := (sortedItems tick.priorities).map fun (_, priority) => priority.val
  grantHardAssignments := (sortedItems tick.preparation.hardAssignments).map
    fun (r, action) => (r, action.value)
  grantAlarms := tick.preview.val.alarms.map AlarmCode.value
  alarms := tickAlarms tick
  criticalDiagnostics := criticalDiagnostics tick
  prolongedStaleRobotIds := staleRobotIds tick
  currentFootprintOverlaps := tick.currentFootprintViolations.map GlobalSafetyViolation.asLogData
  initialGlobalSafetyViolations := tick.initialViolations.map GlobalSafetyViolation.asLogData
  finalGlobalSafetyViolations := tick.finalViolations.map GlobalSafetyViolation.asLogData
  globalSafetyValid := decide (tick.finalViolations = [])
  stateCommitted := decide (tick.finalViolations = [])
  acquiredGrants := (tick.grantResult.map fun result => result.val.acquiredGrants).getD []
  releasedGrants := (tick.grantResult.map fun result => result.val.releasedGrants.map
    fun release => (release.robotId, release.reason.value)).getD []
  waitingAges := sortedItems ((tick.grantResult.map fun result =>
    result.val.waitingAges).getD heldAges)
  detailedGeometry

/-- Build the fully traced decision of a tick. -/
def reportTick {E : Type} (config : MonitorConfig) (geometry : Geometry E)
    (tick : TickDecision γ) (nowMs : ℤ) (tickId : String) (grantTickId : ℤ)
    (heldAges : Dict RobotId ℤ) : Except PyException EngineDecision := do
  let decisions ← tick.ordered.mapM (reportRobot tick tickId)
  let detailedGeometry ← detailedGeometryTrace config geometry tick.conflictModel
  return {
    decisions
    tickId
    tickMetadata := tick.metadata nowMs grantTickId heldAges detailedGeometry }

end Report

section Decide

variable {E ω σ γ : Type} (config : MonitorConfig) (geometry : Geometry E)
  (parts : Collaborators ω) (api : GrantManagerApi σ γ)

/-- Return one fully traced, globally checked action per observed robot. -/
def CollisionDecisionEngine.decide (snapshots : List RobotSnapshot) (nowMs : ℤ) (tickId : String) :
    Engine ω σ γ EngineDecision := do
  let tick ← decideTick config geometry parts api snapshots nowMs tickId
  let state ← get
  lift (reportTick config geometry tick nowMs tickId
    (api.tickId tick.provisionalGrants state.store)
    (api.waitingAges state.grantManager state.store))

end Decide

/-! ## The shipped engine -/

/-- The methods of the manager objects in the store. -/
def managerApi (config : MonitorConfig) : GrantManagerApi Store ℕ where
  clone := cloneObject
  tickId := fun ref store => (store.load ref).tickId
  waitingAges := fun ref store => (store.load ref).waitingAges
  activeGrants := fun ref store => (store.load ref).activeGrants
  prepareTick := fun ref conflictModel nowMs =>
    onObject ref (GrantManager.prepareTick config conflictModel nowMs)
  previewTick := fun ref conflictModel proposed priorities sources =>
    onObject ref (GrantManager.previewTick config conflictModel proposed priorities (some sources))
  revokeForSafety := fun ref robotIds => onObject ref (GrantManager.revokeForSafety robotIds)
  commitTick := fun ref conflictModel preview =>
    onObject ref (GrantManager.commitTick config conflictModel preview)

/-- The shipped builder, optimiser and heuristic. The state counts the optimiser's calls, and
`cpSat n` is what CP-SAT answers to the call numbered `n`. -/
def shippedCollaborators {E : Type} (config : MonitorConfig) (geometry : Geometry E)
    (cpSat : ℕ → Backend) : Collaborators ℕ where
  conflictModelBuilder := fun snapshots _ => lift (buildConflictModel geometry snapshots)
  optimise := fun component conflictModel priorities hardAssignments => do
    let call ← get
    set (call + 1)
    lift (CollisionMonitor.optimise config (cpSat call) component conflictModel priorities
      hardAssignments)
  solve := fun component conflictModel priorities hardAssignments =>
    lift (CollisionMonitor.solve config component conflictModel priorities hardAssignments)

/-- A call of the shipped engine. -/
abbrev shippedDecide {E : Type} (config : MonitorConfig) (geometry : Geometry E)
    (cpSat : ℕ → Backend) (snapshots : List RobotSnapshot) (nowMs : ℤ) (tickId : String) :
    Engine ℕ Store ℕ EngineDecision :=
  CollisionDecisionEngine.decide config geometry (shippedCollaborators config geometry cpSat)
    (managerApi config) snapshots nowMs tickId

/-- An engine as it is constructed, with one new grant manager. -/
def EngineState.initial {ω : Type} (world : ω) : EngineState ω Store ℕ where
  world
  store := Store.allocate {
    next := 0
    managers := fun _ => {
      tickId := 0, tickOpen := false, waitingAges := 0, activeGrants := 0, previousActions := 0
      currentHardAssignments := 0, pendingReleases := 0 }
    ages := fun _ => ∅
    grants := fun _ => ∅
    actions := fun _ => ∅
    releases := fun _ => [] } {}
  grantManager := 0

end CollisionMonitor
