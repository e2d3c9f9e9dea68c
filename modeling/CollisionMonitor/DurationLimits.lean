import CollisionMonitor.FleetSafety

set_option relaxedAutoImplicit false
set_option autoImplicit false

/-!
# Totality, and limits that overflow

The engine converts two quotients of durations to integers. They are computed on doubles, and a
setting that passes every check can make one of them infinite; then the conversion raises. With
settings for which both are finite, a call on accepted input always returns.

## Main definitions

* `doubleOverflow`, `raiseIfInfinite` — when a positive double result is infinite.
* `MonitorConfig.FiniteLimits` — both limits are finite.
* `decideOnDoubles` — a call of the shipped engine, with both conversions.

## Main results

* `decideOnDoubles_eq` — with finite limits this is the call in exact arithmetic.
* `finiteLimits_of_decideOnDoubles` — with an infinite limit no call returns.
* `decide_total` — every internal guard is unreachable on accepted input.
-/

namespace CollisionMonitor

open Outcome

/-! ## Conversions of doubles -/

/-- The least rational that rounds to infinity: half a unit above the greatest double. -/
def doubleOverflow : ℚ := 2 ^ 1024 - 2 ^ 970

/-- Converting a double to an integer raises if it is infinite. The argument is the exact result of
the operation. -/
def raiseIfInfinite (result : ℚ) : Except PyException Unit :=
  raiseIf (doubleOverflow ≤ result) (.overflowError "cannot convert float infinity to integer")

/-- Both limits that the engine derives from the stale timeout are finite as doubles. -/
structure MonitorConfig.FiniteLimits (config : MonitorConfig) : Prop where
  /-- `stale_timeout_seconds * 1_000` -/
  product : config.staleTimeoutSeconds * 1000 < doubleOverflow
  /-- `stale_timeout_seconds / tick_interval_seconds` -/
  quotient : config.staleTimeoutSeconds / config.tickIntervalSeconds < doubleOverflow

/-- A result below the bound is finite. -/
lemma raiseIfInfinite_of_lt {result : ℚ} (h : result < doubleOverflow) :
    raiseIfInfinite result = .ok () :=
  raiseIf_of_not _ (not_le.mpr h)

/-- A result that is not refused is below the bound. -/
lemma raiseIfInfinite_returns (result : ℚ) :
    Returns (raiseIfInfinite result) (fun _ => result < doubleOverflow) True :=
  (Returns.guarded fun _ => trivial).mono fun _ => not_le.mp

/-! ## The engine with both conversions -/

section Engine

variable {G : Type} (config : MonitorConfig) (geometry : Geometry G) (cpSat : ℕ → Backend)

/-- `prepare_tick`: `_reconcile_lifecycle` converts both limits before it changes a grant. -/
def GrantManager.prepareTickOnDoubles (conflictModel : ConflictModel) (nowMs : ℤ) :
    Grants GrantPreparation := do
  let manager ← get
  lift (raiseIf (manager.tickOpen = true)
    (.runtimeError "the previous grant-manager tick has not been finalised"))
  lift (raiseIf (nowMs < 0) (.valueError "now_ms must not be negative"))
  set { manager with tickId := manager.tickId + 1, tickOpen := true, pendingReleases := [] }
  lift (raiseIfInfinite (config.staleTimeoutSeconds * 1000))
  lift (raiseIfInfinite (config.staleTimeoutSeconds / config.tickIntervalSeconds))
  reconcileLifecycle config conflictModel nowMs
  let hardAssignments ← safeRelevantGrants config conflictModel
  modify fun manager => { manager with currentHardAssignments := hardAssignments }
  let manager ← get
  return {
    tickId := manager.tickId
    hardAssignments
    releasedGrants := manager.pendingReleases }

/-- The shipped collaborators; just before the builder is called, `_derive_staleness` converts the
stale timeout. -/
def collaboratorsOnDoubles : Collaborators ℕ :=
  { shippedCollaborators config geometry cpSat with
    conflictModelBuilder := fun snapshots config' => do
      lift (raiseIfInfinite (config.staleTimeoutSeconds * 1000))
      (shippedCollaborators config geometry cpSat).conflictModelBuilder snapshots config' }

/-- The methods of the manager objects, with both conversions. -/
def managerApiOnDoubles : GrantManagerApi Store ℕ :=
  { managerApi config with
    prepareTick := fun ref conflictModel nowMs =>
      onObject ref (GrantManager.prepareTickOnDoubles config conflictModel nowMs) }

/-- A call of the shipped engine, whose limits are computed on doubles. -/
def decideOnDoubles (snapshots : List RobotSnapshot) (nowMs : ℤ) (tickId : String) :
    Engine ℕ Store ℕ EngineDecision :=
  CollisionDecisionEngine.decide config geometry (collaboratorsOnDoubles config geometry cpSat)
    (managerApiOnDoubles config) snapshots nowMs tickId

/-- The shipped engine, asked for decisions again and again on any arguments. -/
def doublesMachine : Machine (EngineState ℕ Store ℕ) where
  init := fun state => ∃ world, state = EngineState.initial world
  step := fun state state' => ∃ snapshots nowMs tickId, state' = finalState
    ((decideOnDoubles config geometry cpSat snapshots nowMs tickId).run state)

end Engine

section Total

variable {G : Type} {config : MonitorConfig} {geometry : Geometry G} {cpSat : ℕ → Backend}
  {snapshots : List RobotSnapshot} {nowMs : ℤ} {tickId : String}

/-- With finite limits nothing is raised before the lifecycle. -/
lemma prepareTickOnDoubles_eq (h : config.FiniteLimits) :
    GrantManager.prepareTickOnDoubles config = GrantManager.prepareTick config := by
  funext conflictModel nowMs
  unfold GrantManager.prepareTickOnDoubles
  rw [raiseIfInfinite_of_lt h.product, raiseIfInfinite_of_lt h.quotient]
  rfl

/-- **With finite limits the doubles make no difference.** -/
theorem decideOnDoubles_eq (h : config.FiniteLimits) :
    decideOnDoubles config geometry cpSat = shippedDecide config geometry cpSat := by
  have hparts : collaboratorsOnDoubles config geometry cpSat =
      shippedCollaborators config geometry cpSat := by
    unfold collaboratorsOnDoubles
    rw [raiseIfInfinite_of_lt h.product]
    rfl
  have hapi : managerApiOnDoubles config = managerApi config := by
    unfold managerApiOnDoubles
    rw [prepareTickOnDoubles_eq h]
    rfl
  funext snapshots nowMs tickId
  unfold decideOnDoubles
  rw [hparts, hapi]

/-- With finite limits the engine runs as with exact ones. -/
lemma doublesMachine_eq (h : config.FiniteLimits) :
    doublesMachine config geometry cpSat = shippedMachine config geometry cpSat := by
  unfold doublesMachine
  rw [decideOnDoubles_eq h]
  rfl

/-- **With an infinite limit no call returns**, whatever the state. -/
theorem finiteLimits_of_decideOnDoubles {state state' : EngineState ℕ Store ℕ} {d : EngineDecision}
    (hrun : (decideOnDoubles config geometry cpSat snapshots nowMs tickId).run state =
      .ok d state') : config.FiniteLimits := by
  have hprepare : ∀ m store, Ensures (GrantManager.prepareTickOnDoubles config m nowMs) store
      (fun _ _ => config.FiniteLimits) fun _ => True := by
    intro m store
    refine Ensures.bind_get (Ensures.bind_any fun _ _ => Ensures.bind_any fun _ _ =>
      Ensures.bind_any fun _ s => ?_)
    refine Ensures.bind_lift (raiseIfInfinite_returns _) fun _ hproduct => ?_
    refine Ensures.bind_lift (raiseIfInfinite_returns _) fun _ hquotient => ?_
    exact Ensures.of_runs fun _ _ _ => ⟨hproduct, hquotient⟩
  have hobject : ∀ ref m store, Ensures (onObject ref
      (GrantManager.prepareTickOnDoubles config m nowMs)) store
      (fun _ _ => config.FiniteLimits) fun _ => True := fun ref m store => by
    refine (Ensures.weaken (ensures_onObject (hprepare m _)) fun _ _ => trivial).mono ?_
    rintro _ _ ⟨_, -, hlimits⟩
    exact hlimits
  suffices h : Ensures (decideOnDoubles config geometry cpSat snapshots nowMs tickId) state
      (fun _ _ => config.FiniteLimits) fun _ => True from h.get_ok hrun
  unfold decideOnDoubles CollisionDecisionEngine.decide decideTick
  refine Ensures.bind (Q := fun _ _ => config.FiniteLimits) ?_ fun _ _ hlimits =>
    Ensures.of_runs fun _ _ _ => hlimits
  iterate 5 refine Ensures.bind_any fun _ _ => ?_
  refine Ensures.bind_get (Ensures.bind_any fun ref s => ?_)
  refine Ensures.bind (Q := fun _ _ => config.FiniteLimits) ?_ fun _ _ hlimits =>
    Ensures.of_runs fun _ _ _ => hlimits
  refine (Ensures.weaken (Ensures.zoom (hobject ref _ _)) fun _ _ => trivial).mono ?_
  rintro _ _ ⟨_, -, hlimits⟩
  exact hlimits

/-- **A call on accepted input returns** if both limits are finite: no internal guard fires, in any
reachable state.

**Proof sketch.** With finite limits the engine computes what it computes with exact ones
(`decideOnDoubles_eq`). There each stage returns on accepted input, in any reachable state
(`decide_shipped`). -/
theorem decide_total {state : EngineState ℕ Store ℕ} (hlimits : config.FiniteLimits)
    (hreach : (doublesMachine config geometry cpSat).Reachable state)
    (haccepted : AcceptedCall config geometry cpSat snapshots nowMs tickId state.held) :
    ∃ d state', (decideOnDoubles config geometry cpSat snapshots nowMs tickId).run state =
      .ok d state' := by
  rw [doublesMachine_eq hlimits] at hreach
  rw [decideOnDoubles_eq hlimits]
  obtain ⟨d, state', hrun, -⟩ :=
    (decide_shipped (P := False) (reachable_held hreach) (.inr haccepted)).exists_ok
  exact ⟨d, state', hrun⟩

/-- The limits of the default configuration are finite. -/
lemma defaultConfig_finiteLimits : defaultConfig.FiniteLimits where
  product := by decide +kernel
  quotient := by decide +kernel

/-- The first call of a new engine for two approaching robots returns. -/
theorem decide_total_approaching : ∃ d state', (decideOnDoubles defaultConfig lineGeometry
      (fun _ => none) approaching 0 "first").run (EngineState.initial 0) = .ok d state' :=
  decide_total defaultConfig_finiteLimits (.init ⟨0, rfl⟩) approaching_accepted

/-- **A blank tick ID is rejected**, although it is not empty and everything else is accepted. -/
theorem decide_blank_raises : AcceptedCall defaultConfig lineGeometry (fun _ => none) approaching
      0 "first" (EngineState.initial 0).held ∧ " " ≠ "" ∧
    ∃ message state', (decideOnDoubles defaultConfig lineGeometry (fun _ => none) approaching 0
      " ").run (EngineState.initial 0) = .error (.valueError message) state' :=
  ⟨approaching_accepted, by decide, _, _, rfl⟩

end Total

end CollisionMonitor
