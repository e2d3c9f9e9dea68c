import CollisionMonitor.FleetSafety
import CollisionMonitor.ServiceRun

set_option relaxedAutoImplicit false
set_option autoImplicit false

/-!
# Safety of what the service publishes

A service with the shipped engine, in every interleaving of ingestion with publication. What a tick
publishes is safe for the states that it captured, whatever arrives while it publishes.

## Main definitions

* `shippedServiceMachine` — the runs of a new service with a new shipped engine.
* `SafeTick` — the messages of a tick are safe for a captured fleet.
* `TickRecord.snapshot` — what the store showed at the clock readings of a tick.

## Main results

* `serviceRun_safe` — every tick of every run is safe, and its trace says whether the current
  footprints were clear.
-/

namespace CollisionMonitor

open Outcome

/-- The messages of a tick about a captured fleet: only robots that are both paused may conflict,
no robot that must not move is resumed, and the tick is reported safe iff the current footprints
are clear. -/
structure SafeTick {G : Type} (config : MonitorConfig) (geometry : Geometry G)
    (fleet : FleetStateSnapshot) (messages : List ActionMessage) (safetyValid : Bool) : Prop where
  apart : ∀ m ∈ messages, ∀ m' ∈ messages, m.val.deviceId ≠ m'.val.deviceId →
    ∀ s ∈ observed config fleet.val.capturedEpochMs fleet.val.snapshots,
    ∀ t ∈ observed config fleet.val.capturedEpochMs fleet.val.snapshots,
      s.deviceId = m.val.deviceId → t.deviceId = m'.val.deviceId →
        geometry.Conflict s m.val.action t m'.val.action →
          m.val.action = .pause ∧ m'.val.action = .pause
  available : ∀ m ∈ messages, m.val.action = .resume → ∀ s ∈ fleet.val.snapshots,
    s.deviceId = m.val.deviceId →
      s.stale = false ∧ fleet.val.capturedEpochMs - s.receivedAtMs < config.staleLimitMs ∧
        s.atGoal = false
  reported : safetyValid = true ↔
    Clear geometry (observed config fleet.val.capturedEpochMs fleet.val.snapshots) fun _ => .pause

section Decision

variable {G : Type} {config : MonitorConfig} {geometry : Geometry G} {cpSat : ℕ → Backend}
  {fleet : FleetStateSnapshot} {tickId : String}

/-- **The messages of a decision are safe.**

**Proof sketch.** A message carries the final action of its robot. Robots whose final actions
conflict are both paused by the override (`conflicts_paused`), and a robot that must be paused is
unavailable under the model of the tick. -/
lemma safeTick_of_decide (hgeo : geometry.Conservative) {state state' : EngineState ℕ Store ℕ}
    (hreach : (shippedMachine config geometry cpSat).Reachable state) {d : EngineDecision}
    (h : (shippedDecide config geometry cpSat fleet.val.snapshots fleet.val.capturedEpochMs
      tickId).run state = .ok d state') {messages : List ActionMessage}
    (hmessages : messages.map (fun message => (message.val.deviceId, message.val.action)) =
      d.decisions.map fun decision => (decision.robotId, decision.action)) :
    SafeTick config geometry fleet messages d.tickMetadata.globalSafetyValid := by
  obtain ⟨tick, after, prepared, _, _, hstages, hreport, -⟩ := shipped_of_reachable hreach h
  have hreturned := hstages.returned_eq hreport
  -- a message carries the final action of its robot
  have haction : ∀ m ∈ messages, m.val.action = actionOf tick.decisions m.val.deviceId := by
    intro m hm
    have hpair : (m.val.deviceId, m.val.action) ∈ d.decisions.map
        fun decision => (decision.robotId, decision.action) :=
      hmessages ▸ List.mem_map_of_mem hm
    obtain ⟨decision, hdecision, heq⟩ := List.mem_map.mp hpair
    obtain ⟨hid, hact⟩ := Prod.mk.inj heq
    rw [← hact, ← hid, ← hreturned]
    exact ((decide_decisions h decision hdecision).1).symm
  have hpaused : ∀ s ∈ observed config fleet.val.capturedEpochMs fleet.val.snapshots,
      ∀ t ∈ observed config fleet.val.capturedEpochMs fleet.val.snapshots,
        s.deviceId < t.deviceId → geometry.Conflict s (actionOf tick.decisions s.deviceId) t
          (actionOf tick.decisions t.deviceId) →
        actionOf tick.decisions s.deviceId = .pause ∧
          actionOf tick.decisions t.deviceId = .pause := by
    intro s hs t ht hlt hconf
    obtain ⟨hi, hj, -⟩ := hstages.checked.overridden.conflicts_paused hgeo
      hstages.represents.partitions hstages.checked.initial ⟨s, hs, t, ht, rfl, rfl, hlt, hconf⟩
    exact ⟨hi, hj⟩
  refine ⟨fun m hm m' hm' hne s hs t ht hsm htm hconf => ?_, fun m hm hresume s hs hsm => ?_,
    hreport.globalSafetyValid_iff.trans (hstages.finalViolations_eq_nil_iff hgeo)⟩
  · rw [haction m hm, haction m' hm', ← hsm, ← htm] at hconf ⊢
    rw [← hsm, ← htm] at hne
    rcases lt_or_gt_of_ne hne with hlt | hgt
    · exact hpaused s hs t ht hlt hconf
    · exact (hpaused t ht s hs hgt (hgeo.symm _ _ _ _ hconf)).symm
  · -- a robot that is unavailable is paused
    by_contra hmust
    have hunavailable : Unavailable tick.conflictModel s.deviceId := by
      refine ⟨_, (hstages.represents.lookup_iff _ _).mpr
        ⟨mem_observed.mpr ⟨s, hs, rfl⟩, rfl⟩, ?_⟩
      by_contra hfree
      simp only [RobotSnapshot.unavailable, Bool.or_eq_true, decide_eq_true_eq, not_or,
        Bool.not_eq_true, not_le, ge_iff_le] at hfree
      exact hmust ⟨hfree.1.1, hfree.1.2, hfree.2⟩
    have hpause := hstages.unavailable hunavailable
    rw [hsm, ← haction m hm, hresume] at hpause
    cases hpause

end Decision

/-! ## Runs -/

section Runs

variable {G π : Type} {wrappedAngle : ℚ → ℚ} {config : MonitorConfig} {geometry : Geometry G}
  {cpSat : ℕ → Backend} {publisher : ActionPublisher π} {runId : String}

/-- The runs of a new service with a new shipped engine. -/
def shippedServiceMachine (wrappedAngle : ℚ → ℚ) (config : MonitorConfig) (geometry : Geometry G)
    (cpSat : ℕ → Backend) (publisher : ActionPublisher π) (runId : String) :
    Machine (ServiceRun ℕ Store ℕ π) where
  init := fun run => ∃ world publisher,
    run = { service := { engine := EngineState.initial world, publisher } }
  step := ServiceStep wrappedAngle config geometry (shippedCollaborators config geometry cpSat)
    (managerApi config) publisher runId

/-- What the store showed at the two clock readings of the tick. -/
def TickRecord.snapshot (wrappedAngle : ℚ → ℚ) (config : MonitorConfig) (record : TickRecord) :
    Except PyException FleetStateSnapshot :=
  record.known.snapshot wrappedAngle record.capturedMonotonicSeconds record.capturedEpochMs
    config.staleTimeoutSeconds config.poseTolerance

/-- The prepared tick has the number of the record and its messages, and is safe for what the store
showed at the clock readings of the record. -/
structure PreparedTick.Safe (wrappedAngle : ℚ → ℚ) (config : MonitorConfig) (geometry : Geometry G)
    (record : TickRecord) (prepared : PreparedTick) : Prop where
  tickId : prepared.tickId = tickIdOf record.number
  messages : prepared.actionMessages = record.messages
  captured : record.snapshot wrappedAngle config = .ok prepared.stateSnapshot
  safe : SafeTick config geometry prepared.stateSnapshot prepared.actionMessages
    prepared.fleetDecision.tickMetadata.globalSafetyValid

/-- A decision is a step of the engine, whether it returns or raises. -/
lemma decide_steps {engine : EngineState ℕ Store ℕ}
    (hreach : (shippedMachine config geometry cpSat).Reachable engine)
    (snapshots : List RobotSnapshot) (nowMs : ℤ) (tickId : String) :
    Ensures (shippedDecide config geometry cpSat snapshots nowMs tickId) engine
      (fun d engine' => (shippedDecide config geometry cpSat snapshots nowMs tickId).run engine =
        .ok d engine' ∧ (shippedMachine config geometry cpSat).Reachable engine')
      (shippedMachine config geometry cpSat).Reachable := by
  have hstep := hreach.step ⟨snapshots, nowMs, tickId, rfl⟩
  unfold Ensures
  cases hrun : (shippedDecide config geometry cpSat snapshots nowMs tickId).run engine with
  | ok d engine' =>
    rw [hrun] at hstep
    exact ⟨rfl, hstep⟩
  | error e engine' =>
    rw [hrun] at hstep
    exact hstep

/-- **A tick of a reachable service prepares safe messages**, and leaves a reachable engine. -/
lemma beginTick_safe (hgeo : geometry.Conservative) (mono : ℚ) (epoch : ℤ)
    (service : ServiceState ℕ Store ℕ π)
    (hreach : (shippedMachine config geometry cpSat).Reachable service.engine) :
    Ensures (beginTick wrappedAngle config geometry (shippedCollaborators config geometry cpSat)
        (managerApi config) runId mono epoch) service
      (fun prepared service' => (shippedMachine config geometry cpSat).Reachable service'.engine ∧
        ∀ accepted, prepared.Safe wrappedAngle config geometry {
          number := service'.tickSequence
          capturedMonotonicSeconds := mono
          capturedEpochMs := epoch
          known := service.store
          accepted
          messages := prepared.actionMessages })
      fun service' => (shippedMachine config geometry cpSat).Reachable service'.engine := by
  unfold beginTick
  refine Ensures.bind_modify (Ensures.bind_get ?_)
  refine Ensures.bind_lift (Returns.of_runs (fun fleet hfleet => hfleet) (.inl hreach))
    fun fleet hfleet => ?_
  have hdecide : Ensures (zoom ServiceState.engine (fun service engine => { service with engine })
      (shippedDecide config geometry cpSat fleet.val.snapshots fleet.val.capturedEpochMs
        (tickIdOf (service.tickSequence + 1))))
      { service with tickSequence := service.tickSequence + 1 } _ _ :=
    Ensures.zoom (decide_steps hreach _ _ _)
  refine (hdecide.weaken ?_).bind ?_
  · rintro _ ⟨engine, rfl, hengine⟩
    exact hengine
  rintro d _ ⟨engine, rfl, hdecided, hengine⟩
  refine Ensures.bind_get ?_
  refine Ensures.bind_lift (Returns.of_runs (fun messages hmessages => hmessages) (.inl hengine))
    fun messages hmessages => Ensures.pure ⟨hengine, fun accepted => ?_⟩
  have hsafe := safeTick_of_decide hgeo hreach hdecided
    (map_of_mapM hmessages fun _ _ => actionMessage_eq_ok)
  exact ⟨rfl, rfl, hfleet, hsafe⟩

/-- What holds in every state of a run: ticks, pending or ended, are safe for what they captured. -/
structure SafeRun (wrappedAngle : ℚ → ℚ) (config : MonitorConfig) (geometry : Geometry G)
    (cpSat : ℕ → Backend) (run : ServiceRun ℕ Store ℕ π) : Prop where
  engine : (shippedMachine config geometry cpSat).Reachable run.service.engine
  ticks : ∀ record ∈ run.ticks, ∃ prepared : PreparedTick,
    prepared.Safe wrappedAngle config geometry record
  pending : ∀ pending, run.pending = some pending → ∃ record ∈ run.ticks,
    pending.prepared.Safe wrappedAngle config geometry record
  results : ∀ result ∈ run.results, ∃ record ∈ run.ticks, ∃ prepared : PreparedTick,
    result.trace.tickId = prepared.tickId ∧ result.actionMessages = prepared.actionMessages ∧
      result.trace.safetyValid = prepared.fleetDecision.tickMetadata.globalSafetyValid ∧
      prepared.Safe wrappedAngle config geometry record

namespace SafeRun

variable {run run' : ServiceRun ℕ Store ℕ π}

/-- An attempt at a message leaves the prepared tick as it is. -/
lemma attempt (h : SafeRun wrappedAngle config geometry cpSat run) {pending pending' : PendingTick}
    (hpending : run.pending = some pending) (hprepared : pending'.prepared = pending.prepared)
    (published : π) (attempted : List ActionMessage) :
    SafeRun wrappedAngle config geometry cpSat { run with
      service := { run.service with publisher := published }
      pending := some pending'
      attempted } := by
  refine { h with pending := ?_ }
  rintro _ ⟨⟩
  rw [hprepared]
  exact h.pending pending hpending

/-- **Safety is kept by every step** of the service.

**Proof sketch.** By cases on the step. A tick that begins is safe when it is recorded
(`beginTick_safe`); an attempt and the end of a tick only pass on what is recorded, and ingestion
changes the store, of which safety does not speak. -/
lemma step (hgeo : geometry.Conservative) (h : SafeRun wrappedAngle config geometry cpSat run)
    (hstep : ServiceStep wrappedAngle config geometry (shippedCollaborators config geometry cpSat)
      (managerApi config) publisher runId run run') :
    SafeRun wrappedAngle config geometry cpSat run' := by
  cases hstep with
  | ingest received payload hrun =>
    obtain ⟨store, count, rfl, -⟩ := (ingestPayload_spec received payload _).get_ok hrun
    exact { h with }
  | ingestRaises received payload hrun =>
    rw [(ingestPayload_spec received payload _).get_error hrun]
    exact h
  | @begin service' prepared mono epoch hidle hrun =>
    obtain ⟨hengine, hsafe⟩ := (beginTick_safe hgeo mono epoch _ h.engine).get_ok hrun
    refine ⟨hengine, fun record hrecord => ?_, ?_, fun result hresult => ?_⟩
    · rcases List.mem_append.mp hrecord with hrecord | hrecord
      · exact h.ticks record hrecord
      · rw [List.mem_singleton.mp hrecord]
        exact ⟨prepared, hsafe _⟩
    · rintro _ ⟨⟩
      exact ⟨_, List.mem_append_right _ List.mem_cons_self, hsafe _⟩
    · obtain ⟨record, hrecord, hresult⟩ := h.results result hresult
      exact ⟨record, List.mem_append_left _ hrecord, hresult⟩
  | beginRaises mono epoch hidle hrun =>
    exact { h with engine := (beginTick_safe hgeo mono epoch _ h.engine).get_error hrun }
  | published hpending hremaining hrun =>
    refine h.attempt hpending ?_ _ _
    rfl
  | retried hpending hremaining hattempt hrun =>
    refine h.attempt hpending ?_ _ _
    rfl
  | failed hpending hremaining hattempt hrun =>
    refine h.attempt hpending ?_ _ _
    rfl
  | @finish pending result hpending hremaining hfinish =>
    refine { h with pending := fun _ heq => (by cases heq), results := fun ended hended => ?_ }
    rcases List.mem_append.mp hended with hended | hended
    · exact h.results ended hended
    · obtain ⟨record, hrecord, hsafe⟩ := h.pending pending hpending
      obtain ⟨trace, htrace, hfinish⟩ := bind_eq_ok.mp hfinish
      obtain rfl := Except.ok.inj hfinish
      obtain ⟨robots, -, htrace⟩ := bind_eq_ok.mp htrace
      obtain rfl := Except.ok.inj htrace
      rw [List.mem_singleton.mp hended]
      exact ⟨record, hrecord, pending.prepared, rfl, rfl, rfl, hsafe⟩
  | finishRaises hpending hremaining hfinish =>
    exact { h with pending := fun _ heq => (by cases heq) }

end SafeRun

/-- Safety holds in every run. -/
lemma safeRun_of_reachable (hgeo : geometry.Conservative) {run : ServiceRun ℕ Store ℕ π}
    (h : (shippedServiceMachine wrappedAngle config geometry cpSat publisher runId).Reachable run) :
    SafeRun wrappedAngle config geometry cpSat run := by
  refine h.invariant ?_ fun _ _ _ hsafe hstep => hsafe.step hgeo hstep
  rintro _ ⟨world, publisher, rfl⟩
  exact ⟨.init ⟨world, rfl⟩, fun _ h => (by cases h), fun _ h => (by cases h),
    fun _ h => (by cases h)⟩

/-- A run with a new shipped engine is a run of the service. -/
lemma serviceMachine_of_shipped {run : ServiceRun ℕ Store ℕ π}
    (h : (shippedServiceMachine wrappedAngle config geometry cpSat publisher runId).Reachable run) :
    (serviceMachine wrappedAngle config geometry (shippedCollaborators config geometry cpSat)
      (managerApi config) publisher runId).Reachable run := by
  obtain ⟨_, hreach, rfl⟩ := h.simulated (A := serviceMachine wrappedAngle config geometry
    (shippedCollaborators config geometry cpSat) (managerApi config) publisher runId) (· = ·)
    (by
      rintro _ ⟨world, publisher, rfl⟩
      exact ⟨_, ⟨_, _, rfl⟩, rfl⟩)
    (by
      rintro run _ run' rfl hstep
      exact ⟨run', .single hstep, rfl⟩)
  exact hreach

/-- **Safety on the wire.** In every run of the shipped service, whatever arrives while a tick
publishes and however often its attempts fail, all messages that are attempted belong to recorded
ticks, and the messages of a tick are safe for what the store showed at the clock readings of that
tick: robots that conflict under them are both paused, and no robot is resumed that was then stale,
too old or at its goal. The result of a tick has its number and its messages, and reports it as
safe exactly when the current footprints were clear.

**Proof sketch.** The engine of a reachable service is reachable, so a tick that begins prepares
safe messages (`beginTick_safe`), and the record that it leaves keeps its clock readings and the
store. No later step changes a record or the prepared tick (`SafeRun.step`). -/
theorem serviceRun_safe (hgeo : geometry.Conservative) {run : ServiceRun ℕ Store ℕ π}
    (h : (shippedServiceMachine wrappedAngle config geometry cpSat publisher runId).Reachable run) :
    (∀ message ∈ run.attempted, ∃ record ∈ run.ticks, message ∈ record.messages) ∧
      (∀ record ∈ run.ticks, ∃ fleet valid, record.snapshot wrappedAngle config = .ok fleet ∧
        SafeTick config geometry fleet record.messages valid) ∧
      ∀ result ∈ run.results, ∃ record ∈ run.ticks, ∃ fleet,
        result.trace.tickId = tickIdOf record.number ∧ result.actionMessages = record.messages ∧
          record.snapshot wrappedAngle config = .ok fleet ∧
          SafeTick config geometry fleet result.actionMessages result.trace.safetyValid := by
  have hsafe := safeRun_of_reachable hgeo h
  refine ⟨(serviceInvariant_of_reachable (serviceMachine_of_shipped h)).attempted,
    fun record hrecord => ?_, fun result hresult => ?_⟩
  · obtain ⟨prepared, htick⟩ := hsafe.ticks record hrecord
    have hsafe := htick.safe
    rw [htick.messages] at hsafe
    exact ⟨_, _, htick.captured, hsafe⟩
  · obtain ⟨record, hrecord, prepared, hid, hmessages, hvalid, htick⟩ :=
      hsafe.results result hresult
    refine ⟨record, hrecord, _, hid.trans htick.tickId, hmessages.trans htick.messages,
      htick.captured, ?_⟩
    rw [hvalid, hmessages]
    exact htick.safe

end Runs

/-! ## Two robots on a line -/

/-- A robot at a position on the line that heads for another one. -/
def movingPayload (deviceId : String) (x next : ℚ) : StatePayload := .wellTyped {
  deviceId, timestamp := 1, x, y := 0, theta := 0, batteryLevel := 50, loaded := false
  deadline := 1000, path := [⟨x, 0, 0⟩, ⟨next, 0, 0⟩] }

/-- Two approaching robots report, and a tick begins. -/
def approachingTick : Service ℕ Store ℕ Unit PreparedTick := do
  let _ ← ingestPayload 1 (movingPayload "a" 0 3)
  let _ ← ingestPayload 1 (movingPayload "b" 5 2)
  beginTick id defaultConfig lineGeometry
    (shippedCollaborators defaultConfig lineGeometry fun _ => none) (managerApi defaultConfig)
    "run" 1 5

/-- One of the two robots is resumed and the other one paused, which is safe at the clock readings
`1` and `5` of the tick. -/
theorem serviceRun_safe_approaching : ∃ run, (shippedServiceMachine id defaultConfig lineGeometry
      (fun _ => none) quietPublisher "run").Reachable run ∧
    run.ticks.map (fun record => (record.capturedMonotonicSeconds, record.capturedEpochMs,
      record.messages.map fun message => message.val.action)) = [(1, 5, [.resume, .pause])] ∧
    ∀ record ∈ run.ticks, ∃ fleet valid, record.snapshot id defaultConfig = .ok fleet ∧
      SafeTick defaultConfig lineGeometry fleet record.messages valid := by
  obtain ⟨prepared, service, hrun, hactions⟩ := Ensures.exists_ok (x := approachingTick)
    (s := { engine := EngineState.initial 0, publisher := () })
    (Q := fun prepared _ => prepared.actionMessages.map (fun message => message.val.action) =
      [.resume, .pause]) (by decide +kernel)
  obtain ⟨first, _, hfirst, hrun⟩ := run_bind_eq_ok.mp hrun
  obtain ⟨second, _, hsecond, hbegin⟩ := run_bind_eq_ok.mp hrun
  have hfresh : (shippedServiceMachine id defaultConfig lineGeometry (fun _ => none) quietPublisher
    "run").Reachable _ := .init ⟨0, (), rfl⟩
  have hbegun := ((hfresh.step (.ingest 1 _ hfirst)).step (.ingest 1 _ hsecond)).step
    (.begin 1 5 rfl hbegin)
  exact ⟨_, hbegun, congrArg (fun actions => [(1, 5, actions)]) hactions,
    (serviceRun_safe lineGeometry_conservative hbegun).2.1⟩

end CollisionMonitor
