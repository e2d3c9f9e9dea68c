import CollisionMonitor.Heuristic

set_option relaxedAutoImplicit false
set_option autoImplicit false

/-!
# Right-of-way grants

The tick-to-tick state of the grant manager and its methods (`grants.py`). A method is a
computation on that state which keeps what it has already changed when it raises.

## Main definitions

* `GrantRecord`, `GrantManager` — one grant and the persistent state.
* `GrantManager.prepareTick` — advance the lifecycle and retain a satisfiable set of grants.
* `GrantManager.previewTick` — validate the proposed decisions, or repair all-Pause components.
* `GrantManager.commitTick` — acquire grants and update waiting ages.
* `GrantManager.revokeForSafety` — revoke grants that an external validator overrides.
-/

namespace CollisionMonitor

open Outcome

/-- Stable reason codes for releasing or revoking a grant. -/
inductive GrantReleaseReason
  | atGoal
  | staleOrDisappeared
  | conflictCleared
  | maximumLeaseFaultGuard
  | unsafeGeometry
  | componentMergeConflict
  deriving DecidableEq, Repr

/-- The text of a release reason. -/
def GrantReleaseReason.value : GrantReleaseReason → String
  | .atGoal => "AT_GOAL"
  | .staleOrDisappeared => "STALE_OR_DISAPPEARED"
  | .conflictCleared => "CONFLICT_CLEARED"
  | .maximumLeaseFaultGuard => "MAXIMUM_LEASE_FAULT_GUARD"
  | .unsafeGeometry => "UNSAFE_GEOMETRY"
  | .componentMergeConflict => "COMPONENT_MERGE_CONFLICT"

/-- Safety and liveness alarms emitted by the grant manager. -/
inductive AlarmCode
  | unresolvableWithPauseResume
  deriving DecidableEq, Repr

/-- The text of an alarm. -/
def AlarmCode.value : AlarmCode → String
  | .unresolvableWithPauseResume => "UNRESOLVABLE_WITH_PAUSE_RESUME"

/-- The fields of `GrantRecord`. -/
structure GrantRecordFields where
  robotId : RobotId
  acquisitionTick : ℤ
  lastSeenTick : ℤ
  clearanceCounter : ℤ := 0
  deriving DecidableEq

/-- The checks of `GrantRecord.__post_init__`. -/
def GrantRecordFields.postInit (r : GrantRecordFields) : Except PyException Unit := do
  raiseIf (r.acquisitionTick < 1) (.valueError "grant acquisition tick must be positive")
  raiseIf (r.lastSeenTick < r.acquisitionTick)
    (.valueError "grant last-seen tick precedes acquisition")
  raiseIf (r.clearanceCounter < 0) (.valueError "grant clearance counter must not be negative")

/-- Persistent state for one right-of-way holder. -/
abbrev GrantRecord := Validated GrantRecordFields.postInit

/-- A traceable grant release event. -/
structure GrantRelease where
  robotId : RobotId
  tickId : ℤ
  reason : GrantReleaseReason
  deriving DecidableEq

/-- Safe hard assignments and releases produced before optimisation. -/
structure GrantPreparation where
  tickId : ℤ
  hardAssignments : Dict RobotId Action
  releasedGrants : List GrantRelease

/-- The fields of `GrantDecisionResult`. -/
structure GrantDecisionFields where
  tickId : ℤ
  decisions : Dict RobotId Action
  decisionSources : Dict RobotId DecisionSource
  alarms : List AlarmCode
  acquiredGrants : List RobotId
  releasedGrants : List GrantRelease
  waitingAges : Dict RobotId ℤ

/-- The check of `GrantDecisionResult.__post_init__`. -/
def GrantDecisionFields.postInit (r : GrantDecisionFields) : Except PyException Unit :=
  raiseIf (¬ r.decisions.SameKeys r.decisionSources.keys)
    (.valueError "every decision must have exactly one decision source")

/-- Validated post-optimisation actions and updated liveness diagnostics. -/
abbrev GrantDecisionResult := Validated GrantDecisionFields.postInit

/-- The fields of `GrantDecisionPreview`. -/
structure GrantPreviewFields where
  decisions : Dict RobotId Action
  decisionSources : Dict RobotId DecisionSource
  alarms : List AlarmCode

/-- The check of `GrantDecisionPreview.__post_init__`. -/
def GrantPreviewFields.postInit (r : GrantPreviewFields) : Except PyException Unit :=
  raiseIf (¬ r.decisions.SameKeys r.decisionSources.keys)
    (.valueError "every preview decision must have one decision source")

/-- A repaired grant decision that has not changed persistent fairness state. -/
abbrev GrantDecisionPreview := Validated GrantPreviewFields.postInit

/-- Tick-to-tick grant, waiting-age and previous-action state. -/
structure GrantManager where
  tickId : ℤ := 0
  waitingAges : Dict RobotId ℤ := ∅
  activeGrants : Dict RobotId GrantRecord := ∅
  previousActions : Dict RobotId Action := ∅
  tickOpen : Bool := false
  currentHardAssignments : Dict RobotId Action := ∅
  pendingReleases : List GrantRelease := []

/-- A method of the grant manager. -/
abbrev Grants := EStateM PyException GrantManager

/-! ## Completion of a group of grants -/

/-- The robots of a component that must not move. -/
def unavailableIds (component : List RobotId) (conflictModel : ConflictModel) :
    Except PyException (List RobotId) :=
  component.filterM fun robotId => do
    let snapshot ← item conflictModel.snapshots robotId
    return snapshot.atGoal || snapshot.stale

/-- The priority of a robot when all robots count alike. -/
def neutralPriority (robotId : RobotId) : Except PyException PriorityBreakdown :=
  validate PriorityTerms.postInit {
    robotId
    baseProgressValue := 0
    loadedBonus := 0
    deadlineUrgency := 0
    lowBatteryUrgency := 0
    waitingAgeBonus := 0
    activeGrantContinuationBonus := 0
    clearanceBonus := 0
    clearanceConflictCount := 0
    remainingSlackMs := 0
    secondaryScore := 0
    throughputReward := 1
    finalScore := 1 }

/-- The hard actions of a completion check: unavailable robots pause, the group resumes. -/
def completionHard (unavailable resumeGroup : List RobotId) : Dict RobotId Action :=
  (Dict.ofKeys unavailable fun _ => Action.pause).update
    (Dict.ofKeys resumeGroup fun _ => Action.resume)

/-- Check that hard Resume grants admit a complete validated assignment. -/
def grantGroupHasSafeCompletion (config : MonitorConfig) (component resumeGroup : List RobotId)
    (conflictModel : ConflictModel) : Except PyException Bool := do
  let unavailable ← unavailableIds component conflictModel
  if resumeGroup.any fun robotId => decide (robotId ∈ unavailable) then
    return false
  let neutralPriorities ← Dict.collect id neutralPriority component
  let result ← solve config component conflictModel neutralPriorities
    (completionHard unavailable resumeGroup)
  return result.val.feasible && result.val.progressMade

namespace GrantManager

/-- An independent closed-tick copy for transactional decisions. -/
def clone (manager : GrantManager) : Except PyException GrantManager := do
  raiseIf (manager.tickOpen = true)
    (.runtimeError "cannot clone a grant manager with an open tick")
  return {
    tickId := manager.tickId
    waitingAges := manager.waitingAges
    activeGrants := manager.activeGrants
    previousActions := manager.previousActions }

/-- The manager after one grant was released, with a deterministic event. -/
def released (manager : GrantManager) (robotId : RobotId) (reason : GrantReleaseReason) :
    GrantManager :=
  if robotId ∈ manager.activeGrants then
    { manager with
      activeGrants := manager.activeGrants.erase robotId
      pendingReleases :=
        manager.pendingReleases ++ [{ robotId, tickId := manager.tickId, reason }] }
  else manager

/-- Release one grant and append a deterministic event. -/
def release (robotId : RobotId) (reason : GrantReleaseReason) : Grants PUnit :=
  modify fun manager => manager.released robotId reason

/-- Revoke selected grants when an external safety validator overrides them. -/
def revokeForSafety (robotIds : List RobotId) : Grants PUnit := do
  let manager ← get
  lift (raiseIf (manager.tickOpen = false)
    (.runtimeError "safety revocation requires an open prepared tick"))
  (sorted robotIds.dedup).forM fun robotId => release robotId .unsafeGeometry

section Methods

variable (config : MonitorConfig)

/-- Convert the stale duration into a conservative whole-tick limit. The ceiling is that of the
exact quotient: the source takes that of the quotient of two doubles, which may be rounded to an
integer below it, and raises when the quotient is infinite (`prepareTickOnDoubles`). -/
def staleTickLimit : ℤ := max 1 ⌈config.staleTimeoutSeconds / config.tickIntervalSeconds⌉

/-- Drop the waiting age and the previous action of a robot. -/
def forget (robotId : RobotId) : Grants PUnit :=
  modify fun manager => { manager with
    waitingAges := manager.waitingAges.erase robotId
    previousActions := manager.previousActions.erase robotId }

/-- Drop the ages and actions of all robots that are not observed. -/
def forgetDisappeared (conflictModel : ConflictModel) : Grants PUnit := do
  let manager ← get
  (manager.waitingAges.keys.filter (· ∉ conflictModel.snapshots)).forM forget

/-- Update the counters of one grant, or release it. -/
def reconcileGrant (conflictModel : ConflictModel) (nowMs : ℤ) (robotId : RobotId) :
    Grants PUnit := do
  let manager ← get
  match manager.activeGrants.lookup robotId with
  | none => return
  | some record => match conflictModel.snapshots.lookup robotId with
    | none =>
      if manager.tickId - record.val.lastSeenTick ≥ staleTickLimit config then
        release robotId .staleOrDisappeared
    | some snapshot =>
      if snapshot.stale = true ∨ nowMs - snapshot.receivedAtMs ≥ config.staleLimitMs then
        release robotId .staleOrDisappeared
      else if snapshot.atGoal then
        release robotId .atGoal
      else if manager.tickId - record.val.acquisitionTick ≥ config.grantMaximumHoldTicks then
        release robotId .maximumLeaseFaultGuard
      else
        let relevant := !(neighbours conflictModel.adjacency robotId).isEmpty
        let clearanceCounter := if relevant then 0 else record.val.clearanceCounter + 1
        let updated ← lift (validate GrantRecordFields.postInit { record.val with
          lastSeenTick := manager.tickId
          clearanceCounter })
        modify fun manager => { manager with
          activeGrants := manager.activeGrants.insert robotId updated }
        if !relevant ∧ clearanceCounter ≥ config.grantClearanceReleaseTicks
            ∧ manager.tickId - record.val.acquisitionTick ≥ config.grantMinimumHoldTicks then
          release robotId .conflictCleared

/-- Update last-seen and clearance counters, releasing expired grants. -/
def reconcileLifecycle (conflictModel : ConflictModel) (nowMs : ℤ) : Grants PUnit := do
  forgetDisappeared conflictModel
  let manager ← get
  (sorted manager.activeGrants.keys).forM (reconcileGrant config conflictModel nowMs)

/-- The grants of a component on robots with an edge, oldest first. -/
def grantCandidates (manager : GrantManager) (conflictModel : ConflictModel)
    (component : List RobotId) : List GrantRecord :=
  sortedBy (fun record => toLex (record.val.acquisitionTick, record.val.robotId))
    ((component.filter fun robotId =>
      !(neighbours conflictModel.adjacency robotId).isEmpty).filterMap fun robotId =>
        manager.activeGrants.lookup robotId)

/-- Retain one more grant of a component, or release it. -/
def retainGrant (conflictModel : ConflictModel) (component : List RobotId)
    (state : Dict RobotId Action × List RobotId) (record : GrantRecord) :
    Grants (Dict RobotId Action × List RobotId) := do
  let (hardAssignments, retained) := state
  let robotId := record.val.robotId
  let safe ← lift (grantGroupHasSafeCompletion config component (retained ++ [robotId])
    conflictModel)
  if safe then
    return (hardAssignments.insert robotId .resume, retained ++ [robotId])
  else
    release robotId (if retained ≠ [] then .componentMergeConflict else .unsafeGeometry)
    return state

/-- Retain the grants of one component oldest first. -/
def retainGrants (conflictModel : ConflictModel) (hardAssignments : Dict RobotId Action)
    (component : List RobotId) : Grants (Dict RobotId Action) := do
  let manager ← get
  let (hardAssignments, _) ← (manager.grantCandidates conflictModel component).foldlM
    (retainGrant config conflictModel component) (hardAssignments, [])
  return hardAssignments

/-- Retain only safe grants, resolving merged-component conflicts oldest first. -/
def safeRelevantGrants (conflictModel : ConflictModel) : Grants (Dict RobotId Action) :=
  conflictModel.connectedComponents.foldlM (retainGrants config conflictModel) ∅

/-- Advance state and return safety-checked grant hard assignments. -/
def prepareTick (conflictModel : ConflictModel) (nowMs : ℤ) : Grants GrantPreparation := do
  let manager ← get
  lift (raiseIf (manager.tickOpen = true)
    (.runtimeError "the previous grant-manager tick has not been finalised"))
  lift (raiseIf (nowMs < 0) (.valueError "now_ms must not be negative"))
  set { manager with tickId := manager.tickId + 1, tickOpen := true, pendingReleases := [] }
  reconcileLifecycle config conflictModel nowMs
  let hardAssignments ← safeRelevantGrants config conflictModel
  modify fun manager => { manager with currentHardAssignments := hardAssignments }
  let manager ← get
  return {
    tickId := manager.tickId
    hardAssignments
    releasedGrants := manager.pendingReleases }

/-- Decisions, their sources and the alarms while the components are validated. -/
structure Repairing where
  decisions : Dict RobotId Action
  decisionSources : Dict RobotId DecisionSource
  alarms : List AlarmCode

/-- Overwrite decisions, all with one source. -/
def Repairing.overwrite (state : Repairing) (decisions : Dict RobotId Action)
    (source : DecisionSource) : Repairing :=
  { state with
    decisions := state.decisions.update decisions
    decisionSources := state.decisionSources.update
      (Dict.ofKeys decisions.keys fun _ => source) }

/-- Validate a progress component, or repair an all-Pause one. -/
def validateOrRepairComponent (conflictModel : ConflictModel)
    (hardAssignments : Dict RobotId Action)
    (priorities : Dict RobotId PriorityBreakdown) (state : Repairing) (component : List RobotId) :
    Except PyException Repairing :=
  if component.length < 2 ∨
      ¬ component.any fun robotId => !(neighbours conflictModel.adjacency robotId).isEmpty then
    return state
  else do
    let constraints := componentConstraints component conflictModel
    let componentHard : Dict RobotId Action := Dict.ofPairs
      ((hardAssignments.entries.filter fun entry => entry.1 ∈ component).map fun entry =>
        (entry.1, entry.2))
    let componentDecisions ← Dict.collect id (item state.decisions) component
    if allPause componentDecisions then
      let unavailable ← unavailableIds component conflictModel
      let repair ← solve config component conflictModel priorities
        ((Dict.ofKeys unavailable fun _ => Action.pause).update componentHard)
      if repair.val.feasible && repair.val.progressMade then
        return state.overwrite repair.val.decisions .repair
      else
        let state := state.overwrite (Dict.ofKeys component fun _ => Action.pause) .failSafe
        return { state with
          alarms := if .unresolvableWithPauseResume ∈ state.alarms then state.alarms
            else state.alarms ++ [.unresolvableWithPauseResume] }
    else
      validateComponentDecisions component componentDecisions constraints componentHard
      return state

/-- Validate progress components and repair any all-Pause component. -/
def validateOrRepairComponents (conflictModel : ConflictModel)
    (hardAssignments : Dict RobotId Action) (priorities : Dict RobotId PriorityBreakdown)
    (decisions : Dict RobotId Action) (decisionSources : Dict RobotId DecisionSource) :
    Except PyException Repairing :=
  conflictModel.connectedComponents.foldlM
    (validateOrRepairComponent config conflictModel hardAssignments priorities)
    { decisions, decisionSources, alarms := [] }

/-- Acquire a grant for one safe Resume action participating in a conflict. -/
def acquireGrant (conflictModel : ConflictModel) (componentByRobot : Dict RobotId (List RobotId))
    (decisions : Dict RobotId Action) (acquired : List RobotId) (robotId : RobotId) :
    Grants (List RobotId) := do
  let manager ← get
  if decisions.lookup robotId ≠ some .resume ∨ robotId ∈ manager.activeGrants then
    return acquired
  let snapshot ← lift (item conflictModel.snapshots robotId)
  if snapshot.atGoal = true ∨ snapshot.stale = true
      ∨ neighbours conflictModel.adjacency robotId = [] then
    return acquired
  let component ← lift (item componentByRobot robotId)
  let currentGroup := (sorted manager.activeGrants.keys).filter (· ∈ component)
  let safe ← lift (grantGroupHasSafeCompletion config (sorted component)
    (currentGroup ++ [robotId]) conflictModel)
  if !safe then
    return acquired
  let record ← lift (validate GrantRecordFields.postInit {
    robotId, acquisitionTick := manager.tickId, lastSeenTick := manager.tickId })
  set { manager with activeGrants := manager.activeGrants.insert robotId record }
  return acquired ++ [robotId]

/-- Map every robot ID to its connected component. -/
def componentByRobot (conflictModel : ConflictModel) : Dict RobotId (List RobotId) :=
  Dict.ofPairs (conflictModel.connectedComponents.flatMap fun component =>
    component.map fun robotId => (robotId, component))

/-- Acquire grants for safe Resume actions participating in conflicts. -/
def acquireGrants (conflictModel : ConflictModel) (decisions : Dict RobotId Action) :
    Grants (List RobotId) :=
  (sorted decisions.keys).foldlM
    (acquireGrant config conflictModel (componentByRobot conflictModel) decisions) []

/-- The waiting age after an action: reset by Resume and at the goal, else one more tick. -/
def nextWaitingAge (snapshot : RobotSnapshot) (action : Action) (age : ℤ) : ℤ :=
  if action = .resume ∨ snapshot.atGoal = true then 0
  else min (age + 1) config.priorityWaitingAgeCapTicks

/-- Update the waiting age and the previous action of one robot. -/
def updateRobotFairness (conflictModel : ConflictModel) (decisions : Dict RobotId Action)
    (robotId : RobotId) : Grants PUnit := do
  let snapshot ← lift (item conflictModel.snapshots robotId)
  let action ← lift (item decisions robotId)
  modify fun manager => { manager with
    waitingAges := manager.waitingAges.insert robotId
      (nextWaitingAge config snapshot action ((manager.waitingAges.lookup robotId).getD 0))
    previousActions := manager.previousActions.insert robotId action }

/-- Update capped waiting ages and previous published actions. -/
def updateFairness (conflictModel : ConflictModel) (decisions : Dict RobotId Action) :
    Grants PUnit := do
  forgetDisappeared conflictModel
  (sorted conflictModel.snapshots.keys).forM (updateRobotFairness config conflictModel decisions)

/-- Validate and repair actions without committing grants or waiting ages. -/
def previewTick (conflictModel : ConflictModel) (proposedDecisions : Dict RobotId Action)
    (priorities : Dict RobotId PriorityBreakdown)
    (proposedSources : Option (Dict RobotId DecisionSource)) : Grants GrantDecisionPreview := do
  let manager ← get
  lift (raiseIf (manager.tickOpen = false)
    (.runtimeError "prepare_tick must be called before finalise_tick"))
  let expectedIds := conflictModel.snapshots.keys
  lift (raiseIf (¬ proposedDecisions.SameKeys expectedIds)
    (.valueError "proposed decisions must contain every observed robot exactly once"))
  lift (raiseIf (¬ priorities.SameKeys expectedIds)
    (.valueError "priorities must contain every observed robot exactly once"))
  let decisionSources := proposedSources.getD (Dict.ofKeys expectedIds fun _ => .cpSat)
  lift (raiseIf (¬ decisionSources.SameKeys expectedIds)
    (.valueError "proposed sources must contain every observed robot exactly once"))
  let repaired ← lift (validateOrRepairComponents config conflictModel
    manager.currentHardAssignments priorities proposedDecisions decisionSources)
  lift (validate GrantPreviewFields.postInit {
    decisions := repaired.decisions
    decisionSources := repaired.decisionSources
    alarms := repaired.alarms })

/-- Run a method and close the tick afterwards, whether it returned or raised. -/
def closing {α : Type} (x : Grants α) : Grants α := fun manager =>
  match x.run manager with
  | .ok a manager => .ok a { manager with tickOpen := false }
  | .error e manager => .error e { manager with tickOpen := false }

/-- Commit a previously reviewed and externally safety-validated decision. -/
def commitTick (conflictModel : ConflictModel) (preview : GrantDecisionPreview) :
    Grants GrantDecisionResult := do
  let manager ← get
  lift (raiseIf (manager.tickOpen = false)
    (.runtimeError "prepare_tick must be called before commit_tick"))
  lift (raiseIf (¬ preview.val.decisions.SameKeys conflictModel.snapshots.keys)
    (.valueError "preview decisions must contain every observed robot exactly once"))
  closing do
    let decisions := preview.val.decisions
    let acquired ← acquireGrants config conflictModel decisions
    updateFairness config conflictModel decisions
    let manager ← get
    lift (validate GrantDecisionFields.postInit {
      tickId := manager.tickId
      decisions
      decisionSources := preview.val.decisionSources
      alarms := preview.val.alarms
      acquiredGrants := acquired
      releasedGrants := manager.pendingReleases
      waitingAges := manager.waitingAges })

end Methods

end GrantManager

end CollisionMonitor
