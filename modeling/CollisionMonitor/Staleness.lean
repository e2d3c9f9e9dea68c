import CollisionMonitor.ServiceSpec
import Mathlib.Tactic.Linarith

set_option relaxedAutoImplicit false
set_option autoImplicit false

/-!
# Two stale flags

The store marks a state stale from its exact receive age. The engine derives the flag again, from
an age and a limit that are both truncated to milliseconds, on the epoch clock.

## Main definitions

* `receiveAge` — the receive age of a stored state at a capture.
* `TruncatedEarly` — the truncated limit is reached and the timeout is not.

## Main results

* `staleness_agrees_iff` — the two flags agree iff the truncated limit is not reached early.
-/

namespace CollisionMonitor

open Outcome

/-- The receive age of a stored state at a capture. -/
def receiveAge (capturedMonotonicSeconds : ℚ) (stored : StoredRobotState) : ℚ :=
  max (capturedMonotonicSeconds - stored.val.receivedMonotonicSeconds) 0

/-- The age is below the timeout, and it reaches the timeout in whole milliseconds, as does the
epoch time. -/
def TruncatedEarly (config : MonitorConfig) (epochMs : ℤ) (ageSeconds : ℚ) : Prop :=
  ageSeconds < config.staleTimeoutSeconds ∧ (config.staleLimitMs : ℚ) ≤ ageSeconds * 1000 ∧
    config.staleLimitMs ≤ epochMs

section Flags

variable {wrappedAngle : ℚ → ℚ} {config : MonitorConfig} {store : LatestStateStore}
  {mono tolerance ageSeconds : ℚ} {epoch : ℤ} {stored : StoredRobotState} {shown : RobotSnapshot}

/-- The engine's age test, in terms of the exact age. -/
lemma staleLimit_le_iff :
    epoch - max (epoch - ⌊ageSeconds * 1000⌋) 0 ≥ config.staleLimitMs ↔
      (config.staleLimitMs : ℚ) ≤ ageSeconds * 1000 ∧ config.staleLimitMs ≤ epoch := by
  have hmin : epoch - max (epoch - ⌊ageSeconds * 1000⌋) 0 = min ⌊ageSeconds * 1000⌋ epoch := by
    omega
  rw [hmin, ge_iff_le, le_min_iff, Int.le_floor]

/-- The derived flag equals the exact one iff the truncated limit is not reached early. -/
lemma derivedFlag_eq_iff :
    ((decide (ageSeconds ≥ config.staleTimeoutSeconds) ||
        decide (epoch - max (epoch - ⌊ageSeconds * 1000⌋) 0 ≥ config.staleLimitMs)) =
      decide (ageSeconds ≥ config.staleTimeoutSeconds)) ↔
      ¬ TruncatedEarly config epoch ageSeconds := by
  rw [Bool.or_eq_left_iff_imp, decide_eq_true_iff, decide_eq_true_iff, staleLimit_le_iff,
    TruncatedEarly, not_and', ge_iff_le, not_lt]

/-- The fields of a shown state that staleness depends on. -/
lemma Shows.fields (h : Shows wrappedAngle mono epoch config.staleTimeoutSeconds tolerance stored
    shown) :
    shown.deviceId = stored.val.state.deviceId ∧
      shown.receivedAtMs = max (epoch - ⌊receiveAge mono stored * 1000⌋) 0 ∧
      shown.stale = decide (receiveAge mono stored ≥ config.staleTimeoutSeconds) := by
  obtain ⟨_, -, hshown⟩ := bind_eq_ok.mp h
  obtain rfl := Except.ok.inj hshown
  exact ⟨rfl, rfl, rfl⟩

end Flags

section Tick

variable {E ω σ γ : Type} {wrappedAngle : ℚ → ℚ} {config : MonitorConfig}
  {geometry : Geometry E} {parts : Collaborators ω} {api : GrantManagerApi σ γ}
  {store : LatestStateStore} {mono tolerance : ℚ} {epoch : ℤ} {fleet : FleetStateSnapshot}
  {engine engine' : EngineState ω σ γ} {runId tickId : String} {d : EngineDecision}
  {activeGrants : Dict RobotId GrantRecord} {messages : List ActionMessage}
  {failures : List PublicationFailure} {trace : ServiceTrace}

/-- The stale flags a decision was made with. -/
def EngineDecision.staleFlags (d : EngineDecision) : Dict RobotId Bool :=
  Dict.ofPairs (d.tickMetadata.observedStates.map fun state => (state.robotId, state.stale))

/-- The stale flags a trace shows. -/
def ServiceTrace.staleFlags (trace : ServiceTrace) : Dict RobotId Bool :=
  Dict.ofPairs (trace.robots.map fun row => (row.1, row.2.2.2))

/-- A decision reports each snapshot once, with the staleness the tick derived. -/
lemma decide_staleFlags
    (h : (CollisionDecisionEngine.decide config geometry parts api fleet.val.snapshots epoch
      tickId).run engine = .ok d engine') :
    d.staleFlags = Dict.ofPairs ((observed config epoch fleet.val.snapshots).map fun s =>
      (s.deviceId, s.stale)) := by
  obtain ⟨tick, htick, hreport⟩ := decide_eq_ok h
  obtain ⟨hchecked, -⟩ :=
    (decideTick_checked engine fleet.val.snapshots epoch tickId).get_ok htick
  obtain ⟨_, hmetadata⟩ := hreport.metadata
  rw [EngineDecision.staleFlags, hmetadata, ← hchecked.ordered_eq]
  exact congrArg _ List.map_map

/-- A trace shows the flags of the fleet snapshot. -/
lemma buildTrace_staleFlags (h : buildTrace config runId tickId fleet d.tickMetadata activeGrants
    messages failures = .ok trace) :
    trace.staleFlags = Dict.ofPairs (fleet.val.snapshots.map fun s => (s.deviceId, s.stale)) := by
  obtain ⟨robots, hrobots, h⟩ := bind_eq_ok.mp h
  obtain rfl := Except.ok.inj h
  refine congrArg Dict.ofPairs (map_of_mapM hrobots fun s row hrow => ?_)
  obtain ⟨age, -, hrow⟩ := bind_eq_ok.mp hrow
  obtain rfl := Except.ok.inj hrow
  rfl

/-- **The two flags.** The trace shows the flag of the store, and the decision is made with the
same one iff the truncated limit is not reached before the timeout.

**Proof sketch.** The trace copies the flags of the snapshot (`buildTrace_staleFlags`). The decision
combines that flag with the age in milliseconds, and the two differ exactly if the truncated age
reaches the limit before the timeout (`derivedFlag_eq_iff`). -/
theorem staleness_agrees_iff
    (hfleet : store.snapshot wrappedAngle mono epoch config.staleTimeoutSeconds tolerance =
      .ok fleet)
    (hdecide : (CollisionDecisionEngine.decide config geometry parts api fleet.val.snapshots epoch
      tickId).run engine = .ok d engine')
    (htrace : buildTrace config runId tickId fleet d.tickMetadata activeGrants messages failures =
      .ok trace)
    {r : RobotId} {stored : StoredRobotState} (hstored : store.states.lookup r = some stored) :
    trace.staleFlags.lookup stored.val.state.deviceId =
        some (decide (receiveAge mono stored ≥ config.staleTimeoutSeconds)) ∧
      (d.staleFlags.lookup stored.val.state.deviceId =
          some (decide (receiveAge mono stored ≥ config.staleTimeoutSeconds)) ↔
        ¬ TruncatedEarly config epoch (receiveAge mono stored)) := by
  obtain ⟨-, -, -, -, hshown⟩ := snapshot_shows hfleet
  obtain ⟨shown, hmem, hshows⟩ := hshown r stored hstored
  obtain ⟨hid, hreceived, hstale⟩ := hshows.fields
  have hnd := nodup_of_decide hdecide
  constructor
  · rw [buildTrace_staleFlags htrace, Dict.lookup_ofPairs (by rwa [List.map_map])]
    exact List.mem_map.mpr ⟨shown, hmem, by rw [hid, hstale]⟩
  · -- the flag of the decision is the derived one of the shown snapshot
    have hderived : d.staleFlags.lookup stored.val.state.deviceId = some
        (decide (receiveAge mono stored ≥ config.staleTimeoutSeconds) ||
          decide (epoch - max (epoch - ⌊receiveAge mono stored * 1000⌋) 0 ≥
            config.staleLimitMs)) := by
      rw [decide_staleFlags hdecide, Dict.lookup_ofPairs, ← hid, ← hstale, ← hreceived]
      · exact List.mem_map.mpr ⟨_, mem_observed.mpr ⟨shown, hmem, rfl⟩, rfl⟩
      · rw [List.map_map]
        change ((observed config epoch fleet.val.snapshots).map RobotSnapshot.deviceId).Nodup
        rw [map_deviceId_observed]
        exact ((sortedBy_perm _ _).map _).nodup_iff.mpr hnd
    rw [hderived, Option.some_inj, derivedFlag_eq_iff]

end Tick

/-! ## One robot on a line -/

/-- A state received at the start of the monotonic clock. -/
def firstState : StoredRobotState := ⟨⟨lineState robotA 0 [0, 3], 0⟩, by decide +kernel⟩

/-- The store of that state. -/
def firstStore : LatestStateStore := { states := AList.insert robotA firstState ∅ }

/-- A capture of the store, the decision on it and its trace. -/
def capturedTick (config : MonitorConfig) (mono : ℚ) (epoch : ℤ) :
    Engine ℕ Store ℕ (FleetStateSnapshot × EngineDecision × ServiceTrace) := do
  let fleet ← lift (firstStore.snapshot id mono epoch config.staleTimeoutSeconds
    config.poseTolerance)
  let d ← shippedDecide config lineGeometry (fun _ => none) fleet.val.snapshots epoch "tick"
  let trace ← lift (buildTrace config "run" "tick" fleet d.tickMetadata ∅ [] [])
  return (fleet, d, trace)

/-- The parts of such a tick. -/
lemma capturedTick_eq_ok {config : MonitorConfig} {mono : ℚ} {epoch : ℤ}
    {engine engine' : EngineState ℕ Store ℕ} {fleet : FleetStateSnapshot} {d : EngineDecision}
    {trace : ServiceTrace}
    (h : (capturedTick config mono epoch).run engine = .ok (fleet, d, trace) engine') :
    firstStore.snapshot id mono epoch config.staleTimeoutSeconds config.poseTolerance = .ok fleet ∧
      (shippedDecide config lineGeometry (fun _ => none) fleet.val.snapshots epoch "tick").run
        engine = .ok d engine' ∧
      buildTrace config "run" "tick" fleet d.tickMetadata ∅ [] [] = .ok trace := by
  obtain ⟨_, _, h₁, h⟩ := run_bind_eq_ok.mp h
  obtain ⟨hfleet, rfl⟩ := run_lift_eq_ok.mp h₁
  obtain ⟨_, _, hd, h⟩ := run_bind_eq_ok.mp h
  obtain ⟨_, _, h₂, h⟩ := run_bind_eq_ok.mp h
  obtain ⟨htrace, rfl⟩ := run_lift_eq_ok.mp h₂
  cases h
  exact ⟨hfleet, hd, htrace⟩

/-- With the default timeout of three whole seconds the flags agree just before it. -/
theorem staleness_agrees_iff_default : ∃ fleet d engine' trace,
    (capturedTick defaultConfig (2999 / 1000) 10000).run (EngineState.initial 0) =
      .ok (fleet, d, trace) engine' ∧
    d.staleFlags.lookup robotA = some false := by
  obtain ⟨⟨fleet, d, trace⟩, engine', hrun, -⟩ := Ensures.exists_ok
    (x := capturedTick defaultConfig (2999 / 1000) 10000) (s := EngineState.initial 0)
    (Q := fun _ _ => True) (by decide +kernel)
  obtain ⟨hfleet, hd, htrace⟩ := capturedTick_eq_ok hrun
  refine ⟨fleet, d, engine', trace, hrun, ?_⟩
  have hfresh : decide (receiveAge (2999 / 1000) firstState ≥ defaultConfig.staleTimeoutSeconds) =
      false := by decide +kernel
  rw [← hfresh]
  refine (staleness_agrees_iff hfleet hd htrace (r := robotA) (AList.lookup_insert _)).2.mpr ?_
  rintro ⟨-, hlimit, -⟩
  exact absurd hlimit (by decide +kernel)

/-- Settings whose timeout is not a whole number of milliseconds. -/
def halfMillisecondConfig : MonitorConfig :=
  ⟨{ staleTimeoutSeconds := 3 + 1 / 2000 }, by decide +kernel⟩

/-- A state within its timeout that the store and the trace show as fresh and the decision takes as
stale. -/
theorem staleness_disagrees : ∃ fleet d engine' trace,
    firstStore.snapshot id (3 + 1 / 5000) 10000 halfMillisecondConfig.staleTimeoutSeconds
      halfMillisecondConfig.poseTolerance = .ok fleet ∧
    (shippedDecide halfMillisecondConfig lineGeometry (fun _ => none) fleet.val.snapshots 10000
      "tick").run (EngineState.initial 0) = .ok d engine' ∧
    buildTrace halfMillisecondConfig "run" "tick" fleet d.tickMetadata ∅ [] [] = .ok trace ∧
    receiveAge (3 + 1 / 5000) firstState < halfMillisecondConfig.staleTimeoutSeconds ∧
    trace.staleFlags.lookup robotA = some false ∧ d.staleFlags.lookup robotA = some true := by
  obtain ⟨⟨fleet, d, trace⟩, engine', hrun, hflags⟩ := Ensures.exists_ok
    (x := capturedTick halfMillisecondConfig (3 + 1 / 5000) 10000) (s := EngineState.initial 0)
    (Q := fun result _ => result.2.2.staleFlags.lookup robotA = some false ∧
      result.2.1.staleFlags.lookup robotA = some true) (by decide +kernel)
  obtain ⟨hfleet, hd, htrace⟩ := capturedTick_eq_ok hrun
  exact ⟨fleet, d, engine', trace, hfleet, hd, htrace, by decide +kernel, hflags⟩

end CollisionMonitor
