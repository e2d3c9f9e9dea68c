import CollisionMonitor.Lib.Outcome
import CollisionMonitor.Lib.Collections
import Mathlib.Data.Rat.Floor
import Mathlib.Data.String.Basic

set_option relaxedAutoImplicit false
set_option autoImplicit false

/-!
# Boundary and domain types

Poses, robot states, actions, snapshots and decisions, with the derivation of the next pose
from a remaining path (`models.py`).

Floating-point values are exact rationals, so every value is finite and no operation rounds.
What the input boundary rejects cannot be built: a robot ID is a non-empty string, times and
deadlines are natural numbers, and a battery level carries its range.

## Main definitions

* `PyException` — the exceptions the modelled code raises, with their texts.
* `RobotState`, `RobotSnapshot` — a validated state and its tick-local enrichment.
* `posesEqual`, `deriveNextPose`, `RobotSnapshot.fromState` — the derivation of the next pose.
-/

namespace CollisionMonitor

open Outcome

/-- An exception raised by the monitor, by the class that is raised. -/
inductive PyException
  | valueError (message : String)
  | typeError (message : String)
  | runtimeError (message : String)
  | keyError (key : String)
  | validationError (message : String)
  | geometryConstructionError (robotId detail : String)
  | optimiserInternalError (message : String)
  | cpSatModelInvalidError (message : String)
  | unsafeOptimisationResultError (message : String)
  | overflowError (message : String)
  deriving DecidableEq, Repr

/-- A device ID: `Field(min_length=1)` admits non-empty strings only. -/
abbrev RobotId := {id : String // id ≠ ""}

/-- Comparing device IDs is comparing their strings. -/
instance lawfulBEqRobotId : LawfulBEq RobotId := inferInstance

/-- The mapping access `d[robot_id]`. -/
def item {ν : Type} (d : Dict RobotId ν) (robotId : RobotId) : Except PyException ν :=
  d.getItem (.keyError robotId.val) robotId

/-- Indexing returns what stands at the key. -/
@[simp] lemma item_eq_ok {ν : Type} {d : Dict RobotId ν} {robotId : RobotId} {v : ν} :
    item d robotId = .ok v ↔ d.lookup robotId = some v := Dict.getItem_eq_ok

/-- A position in metres and an orientation in radians. -/
structure Pose (R : Type) where
  x : R
  y : R
  theta : R
  deriving DecidableEq, Repr

/-- A robot state matching the input JSON. -/
structure RobotState where
  deviceId : RobotId
  timestamp : ℕ
  x : ℚ
  y : ℚ
  theta : ℚ
  batteryLevel : ℚ
  loaded : Bool
  deadline : ℕ
  path : List (Pose ℚ)
  battery_range : 0 ≤ batteryLevel ∧ batteryLevel ≤ 100

/-- The current pose as an internal value object. -/
def RobotState.currentPose (state : RobotState) : Pose ℚ := ⟨state.x, state.y, state.theta⟩

/-- An action emitted for a robot. -/
inductive Action
  | pause
  | resume
  deriving DecidableEq, Repr

/-- The text of an action in messages and traces. -/
def Action.value : Action → String
  | .pause => "Pause"
  | .resume => "Resume"

/-- What is not a Pause is a Resume. -/
lemma Action.ne_pause_iff {a : Action} : a ≠ .pause ↔ a = .resume := by
  cases a <;> simp

/-- What is not a Resume is a Pause. -/
lemma Action.ne_resume_iff {a : Action} : a ≠ .resume ↔ a = .pause := by
  cases a <;> simp

/-- The mechanism that produced a robot action. -/
inductive DecisionSource
  | cpSat
  | heuristic
  | repair
  | failSafe
  | policy
  deriving DecidableEq, Repr

/-- The text of a decision source in traces. -/
def DecisionSource.value : DecisionSource → String
  | .cpSat => "cp_sat"
  | .heuristic => "heuristic"
  | .repair => "repair"
  | .failSafe => "fail_safe"
  | .policy => "policy"

/-- A parsed state enriched with monitor-local observations. -/
structure RobotSnapshot where
  state : RobotState
  receivedAtMs : ℤ
  stale : Bool
  nextPose : Pose ℚ
  atGoal : Bool

/-- The ID of the robot a snapshot observes. -/
abbrev RobotSnapshot.deviceId (snapshot : RobotSnapshot) : RobotId := snapshot.state.deviceId

/-- A stale or at-goal robot must not move. -/
abbrev RobotSnapshot.unavailable (snapshot : RobotSnapshot) : Bool :=
  snapshot.stale || snapshot.atGoal

/-- A traceable action selected for one robot, with diagnostic metadata of type `μ`. -/
structure RobotDecision (μ : Type) where
  robotId : RobotId
  action : Action
  reasonCodes : List String
  tickId : String
  decisionSource : DecisionSource
  diagnosticMetadata : μ

/-- All robot actions and the metadata of one decision tick. -/
structure FleetDecision (μ τ : Type) where
  decisions : List (RobotDecision μ)
  tickId : String
  tickMetadata : τ

section NextPose

-- `wrappedAngle d` is `math.atan2(math.sin(d), math.cos(d))` for a difference `d` of headings
variable (wrappedAngle : ℚ → ℚ)

/-- Whether two poses match, accounting for wrapped angles. -/
def posesEqual (left right : Pose ℚ) (tolerance : ℚ) : Except PyException Bool := do
  raiseIf (tolerance < 0) (.valueError "tolerance must not be negative")
  let angleDelta := wrappedAngle (left.theta - right.theta)
  return decide (|left.x - right.x| ≤ tolerance) && decide (|left.y - right.y| ≤ tolerance)
    && decide (|angleDelta| ≤ tolerance)

/-- Select the next path pose and report whether the path is exhausted. -/
def deriveNextPose (state : RobotState) (tolerance : ℚ) : Except PyException (Pose ℚ × Bool) :=
  match state.path with
  | [] => .ok (state.currentPose, true)
  | [firstPose] => .ok (firstPose, false)
  | firstPose :: secondPose :: _ => do
    -- the comparison is evaluated only when a second node exists
    if ← posesEqual wrappedAngle state.currentPose firstPose tolerance then
      return (secondPose, false)
    return (firstPose, false)

/-- Build a snapshot and derive its next pose deterministically. -/
def RobotSnapshot.fromState (state : RobotState) (receivedAtMs : ℤ) (stale : Bool)
    (tolerance : ℚ) : Except PyException RobotSnapshot := do
  let (nextPose, atGoal) ← deriveNextPose wrappedAngle state tolerance
  return { state, receivedAtMs, stale, nextPose, atGoal }

variable {wrappedAngle}

/-- With a non-negative tolerance the comparison returns, and a pose equals itself as soon as
the zero angle is not wrapped away. -/
lemma posesEqual_self (hwrap : wrappedAngle 0 = 0) (pose : Pose ℚ) {tolerance : ℚ}
    (htol : 0 ≤ tolerance) : posesEqual wrappedAngle pose pose tolerance = .ok true := by
  unfold posesEqual
  rw [raiseIf_of_not _ (not_lt.mpr htol)]
  simp [hwrap, htol]

/-- Poses whose first coordinates are far apart differ. -/
lemma posesEqual_of_lt_abs {left right : Pose ℚ} {tolerance : ℚ} (htol : 0 ≤ tolerance)
    (hfar : tolerance < |left.x - right.x|) :
    posesEqual wrappedAngle left right tolerance = .ok false := by
  unfold posesEqual
  rw [raiseIf_of_not _ (not_lt.mpr htol)]
  simp [not_le.mpr hfar]

/-- A path is exhausted iff it is empty; otherwise the next pose is its first or second node. -/
lemma deriveNextPose_cases {state : RobotState} {tolerance : ℚ} {nextPose : Pose ℚ}
    {atGoal : Bool} (h : deriveNextPose wrappedAngle state tolerance = .ok (nextPose, atGoal)) :
    (state.path = [] ∧ nextPose = state.currentPose ∧ atGoal = true) ∨
      (∃ rest, state.path = nextPose :: rest ∧ atGoal = false) ∨
      ∃ firstPose rest, state.path = firstPose :: nextPose :: rest ∧ atGoal = false ∧
        posesEqual wrappedAngle state.currentPose firstPose tolerance = .ok true := by
  unfold deriveNextPose at h
  split at h
  · next hpath =>
    obtain ⟨rfl, rfl⟩ := Prod.mk.inj (Except.ok.inj h)
    exact .inl ⟨hpath, rfl, rfl⟩
  · next firstPose hpath =>
    obtain ⟨rfl, rfl⟩ := Prod.mk.inj (Except.ok.inj h)
    exact .inr (.inl ⟨[], hpath, rfl⟩)
  · next firstPose secondPose rest hpath =>
    obtain ⟨equal, hequal, h⟩ := bind_eq_ok.mp h
    cases equal with
    | true =>
      obtain ⟨rfl, rfl⟩ := Prod.mk.inj (Except.ok.inj h)
      exact .inr (.inr ⟨firstPose, rest, hpath, rfl, hequal⟩)
    | false =>
      obtain ⟨rfl, rfl⟩ := Prod.mk.inj (Except.ok.inj h)
      exact .inr (.inl ⟨secondPose :: rest, hpath, rfl⟩)

end NextPose

end CollisionMonitor
