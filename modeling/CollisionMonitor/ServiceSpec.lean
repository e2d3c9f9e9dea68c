import CollisionMonitor.LastDefence
import CollisionMonitor.Service

set_option relaxedAutoImplicit false
set_option autoImplicit false

/-!
# What the service does

Accepted payloads are stored with their receive time, a snapshot shows every stored state, and the
messages of a tick carry the actions that its decision returned.

## Main definitions

* `Stored` — a store holds the state of a payload.
* `Shows` — an engine snapshot shows a stored state at the instant of a capture.
* `Decided` — what a tick of the service decided and returned.

## Main results

* `ingestPayloads_spec` — a run of accepted deliveries stores exactly their states.
* `snapshot_shows` — a snapshot shows exactly the stored states.
* `runTick_spec` — a tick decides on that snapshot and returns one message for each decision.
-/

namespace CollisionMonitor

open Outcome

/-! ## Ingestion -/

section Ingest

variable {ω σ γ π : Type}

/-- The store holds the state of the payload, with its receive time. -/
def Stored (store : LatestStateStore) (receivedMonotonicSeconds : ℚ)
    (payload : StatePayloadFields) : Prop :=
  ∃ state stored, RobotState.modelValidate (.wellTyped payload) = .ok state ∧
    stored.val = ⟨state, receivedMonotonicSeconds⟩ ∧
    store.states.lookup state.deviceId = some stored

/-- A validated state has the fields of its payload. -/
lemma modelValidate_eq_ok {payload : StatePayloadFields} {state : RobotState}
    (h : RobotState.modelValidate (.wellTyped payload) = .ok state) :
    state.deviceId.val = payload.deviceId ∧
      state.currentPose = ⟨payload.x, payload.y, payload.theta⟩ ∧ state.path = payload.path := by
  unfold RobotState.modelValidate at h
  dsimp only at h
  split_ifs at h
  obtain rfl := Except.ok.inj h
  exact ⟨rfl, rfl, rfl⟩

/-- An accepted update inserts the state. -/
lemma update_accepted {store store' : LatestStateStore} {state : RobotState} {received : ℚ}
    {result : StateUpdateResult} (h : store.update state received = .ok (result, store'))
    (haccepted : result.accepted = true) : ∃ stored : StoredRobotState,
      stored.val = ⟨state, received⟩ ∧
      store'.states = store.states.insert state.deviceId stored := by
  obtain ⟨candidate, hcandidate, h⟩ := bind_eq_ok.mp h
  refine ⟨candidate, val_of_validate hcandidate, ?_⟩
  dsimp only at h
  split at h
  · split_ifs at h
    · obtain ⟨rfl, rfl⟩ := Prod.mk.inj (Except.ok.inj h)
      cases haccepted
    · obtain ⟨rfl, rfl⟩ := Prod.mk.inj (Except.ok.inj h)
      rfl
  · obtain ⟨rfl, rfl⟩ := Prod.mk.inj (Except.ok.inj h)
    rfl

/-- A refused update leaves the store as it is. -/
lemma update_refused {store store' : LatestStateStore} {state : RobotState} {received : ℚ}
    {result : StateUpdateResult} (h : store.update state received = .ok (result, store'))
    (hrefused : result.accepted = false) : store' = store := by
  obtain ⟨candidate, -, h⟩ := bind_eq_ok.mp h
  dsimp only at h
  split at h
  · split_ifs at h
    · exact (Prod.mk.inj (Except.ok.inj h)).2.symm
    · obtain ⟨rfl, -⟩ := Prod.mk.inj (Except.ok.inj h)
      cases hrefused
  · obtain ⟨rfl, -⟩ := Prod.mk.inj (Except.ok.inj h)
    cases hrefused

/-- **One delivery** changes the store and the counter only; if it is accepted, the store gains
its state, and otherwise the store stays as it is. -/
lemma ingestPayload_spec (received : ℚ) (payload : StatePayload)
    (service : ServiceState ω σ γ π) :
    Ensures (ingestPayload received payload) service
      (fun result service' => ∃ store count,
        service' = { service with store, rejectedStateCount := count } ∧
        (result.accepted = true → ∃ (state : RobotState) (stored : StoredRobotState),
          RobotState.modelValidate payload = .ok state ∧
          stored.val = ⟨state, received⟩ ∧
          store.states = service.store.states.insert state.deviceId stored) ∧
        (result.accepted = false → store = service.store))
      fun service' => service' = service := by
  unfold ingestPayload
  refine Ensures.bind_get ?_
  split
  · exact Ensures.bind_set (Ensures.pure ⟨_, _, rfl, fun h => (by cases h), fun _ => rfl⟩)
  · next state hstate =>
    refine Ensures.bind_lift (Returns.of_runs
      (Q := fun result => service.store.update state received = .ok result)
      (fun _ h => h) (.inl rfl)) fun result hupdate => ?_
    obtain ⟨update, store⟩ := result
    refine Ensures.bind_set (Ensures.pure ⟨_, _, rfl, fun haccepted => ?_, fun hrefused => ?_⟩)
    · obtain ⟨stored, hval, hstore⟩ := update_accepted hupdate haccepted
      exact ⟨state, stored, hstate, hval, hstore⟩
    · exact update_refused hupdate hrefused

/-- **A run of deliveries** of distinct robots: if all are accepted, their states are stored and
nothing else changes in the store.

**Proof sketch.** By an invariant over the payloads ingested so far. Each accepted payload is stored
under the ID of its robot, and the earlier ones are about other robots. -/
theorem ingestPayloads_spec (received : ℚ) {payloads : List StatePayloadFields}
    (hnd : (payloads.map StatePayloadFields.deviceId).Nodup) (service : ServiceState ω σ γ π) :
    Ensures (payloads.mapM fun payload => ingestPayload received (.wellTyped payload)) service
      (fun (results : List IngestionResult) service' => ∃ store count,
        service' = { service with store, rejectedStateCount := count } ∧
        ((∀ result ∈ results, result.accepted = true) →
          (∀ payload ∈ payloads, Stored store received payload) ∧
          ∀ r : RobotId, r.val ∉ payloads.map StatePayloadFields.deviceId →
            store.states.lookup r = service.store.states.lookup r))
      fun _ => True := by
  refine Ensures.mapM (fun pre (results : List IngestionResult) service' => ∃ store count,
    service' = { service with store, rejectedStateCount := count } ∧
    ((∀ result ∈ results, result.accepted = true) →
      (∀ payload ∈ pre, Stored store received payload) ∧
      ∀ r : RobotId, r.val ∉ pre.map StatePayloadFields.deviceId →
        store.states.lookup r = service.store.states.lookup r)) ?_ ?_
  · exact ⟨service.store, service.rejectedStateCount, rfl, fun _ =>
      ⟨fun _ h => (by cases h), fun _ _ => rfl⟩⟩
  rintro pre payload post results _ hl ⟨store, count, rfl, hpre⟩
  refine ((ingestPayload_spec received (.wellTyped payload) _).mono ?_).weaken fun _ _ => trivial
  rintro result _ ⟨store', count', rfl, hstep, -⟩
  refine ⟨store', count', rfl, fun hall => ?_⟩
  obtain ⟨hstored, hkept⟩ := hpre fun r hr => hall r (List.mem_append_left _ hr)
  obtain ⟨state, stored, hstate, hval, hstore⟩ := hstep (hall result (by simp))
  obtain ⟨hid, -, -⟩ := modelValidate_eq_ok hstate
  have hlookup : ∀ r, store'.states.lookup r =
      if r = state.deviceId then some stored else store.states.lookup r := fun r => by
    rw [hstore, Dict.lookup_insert_eq_ite]
  -- earlier deliveries are about other robots
  have hfresh : payload.deviceId ∉ pre.map StatePayloadFields.deviceId := by
    rw [hl, List.map_append, List.map_cons] at hnd
    exact fun hmem => (List.nodup_append.mp hnd).2.2 _ hmem _ List.mem_cons_self rfl
  refine ⟨fun q hq => ?_, fun r hr => ?_⟩
  · rcases List.mem_append.mp hq with hq | hq
    · obtain ⟨state', stored', hstate', hval', hlook'⟩ := hstored q hq
      refine ⟨state', stored', hstate', hval', ?_⟩
      rw [hlookup, if_neg, hlook']
      rintro heq
      refine hfresh (List.mem_map.mpr ⟨q, hq, ?_⟩)
      rw [← hid, ← heq, (modelValidate_eq_ok hstate').1]
    · rw [List.mem_singleton.mp hq]
      exact ⟨state, stored, hstate, hval, by rw [hlookup, if_pos rfl]⟩
  · rw [List.map_append, List.mem_append, not_or] at hr
    rw [hlookup, if_neg, hkept r hr.1]
    rintro rfl
    exact hr.2 (by simp [hid])

end Ingest

/-! ## Snapshots -/

section Snapshot

variable {wrappedAngle : ℚ → ℚ} {store : LatestStateStore}
  {capturedMonotonicSeconds staleTimeoutSeconds poseTolerance : ℚ} {capturedEpochMs : ℤ}

/-- The snapshot shows the stored state as of the capture. -/
def Shows (wrappedAngle : ℚ → ℚ) (capturedMonotonicSeconds : ℚ) (capturedEpochMs : ℤ)
    (staleTimeoutSeconds poseTolerance : ℚ) (stored : StoredRobotState) (s : RobotSnapshot) :
    Prop :=
  RobotSnapshot.fromState wrappedAngle stored.val.state
    (max (capturedEpochMs - ⌊max (capturedMonotonicSeconds - stored.val.receivedMonotonicSeconds) 0
      * 1000⌋) 0)
    (decide (max (capturedMonotonicSeconds - stored.val.receivedMonotonicSeconds) 0 ≥
      staleTimeoutSeconds)) poseTolerance = .ok s

/-- A snapshot shows the state it was built from. -/
lemma Shows.state_eq {stored : StoredRobotState} {s : RobotSnapshot}
    (h : Shows wrappedAngle capturedMonotonicSeconds capturedEpochMs staleTimeoutSeconds
      poseTolerance stored s) : s.state = stored.val.state := by
  obtain ⟨_, -, hs⟩ := bind_eq_ok.mp h
  exact (congrArg RobotSnapshot.state (Except.ok.inj hs)).symm

/-- **A snapshot of the fleet** shows exactly the stored states.

**Proof sketch.** The snapshot is made robot by robot over the keys of the store, so its entries are
those of the stored states. -/
theorem snapshot_shows {fleet : FleetStateSnapshot}
    (h : store.snapshot wrappedAngle capturedMonotonicSeconds capturedEpochMs staleTimeoutSeconds
      poseTolerance = .ok fleet) :
    0 ≤ capturedEpochMs ∧ 0 < staleTimeoutSeconds ∧ fleet.val.capturedEpochMs = capturedEpochMs ∧
      (∀ s ∈ fleet.val.snapshots, ∃ r stored, store.states.lookup r = some stored ∧
        Shows wrappedAngle capturedMonotonicSeconds capturedEpochMs staleTimeoutSeconds
          poseTolerance stored s) ∧
      ∀ r stored, store.states.lookup r = some stored → ∃ s ∈ fleet.val.snapshots,
        Shows wrappedAngle capturedMonotonicSeconds capturedEpochMs staleTimeoutSeconds
          poseTolerance stored s := by
  obtain ⟨_, -, h⟩ := bind_eq_ok.mp h
  obtain ⟨_, hepoch, h⟩ := bind_eq_ok.mp h
  obtain ⟨_, htimeout, h⟩ := bind_eq_ok.mp h
  obtain ⟨_, -, h⟩ := bind_eq_ok.mp h
  obtain ⟨taken, htaken, h⟩ := bind_eq_ok.mp h
  rw [val_of_validate h]
  have hone : ∀ r pair, store.snapshotRobot wrappedAngle capturedMonotonicSeconds capturedEpochMs
      staleTimeoutSeconds poseTolerance r = .ok pair → ∃ stored, store.states.lookup r = some stored ∧
        Shows wrappedAngle capturedMonotonicSeconds capturedEpochMs staleTimeoutSeconds
          poseTolerance stored pair.1 := by
    intro r pair hpair
    obtain ⟨stored, hstored, hpair⟩ := bind_eq_ok.mp hpair
    obtain ⟨s, hs, hpair⟩ := bind_eq_ok.mp hpair
    obtain rfl := Except.ok.inj hpair
    exact ⟨stored, item_eq_ok.mp hstored, hs⟩
  refine ⟨not_lt.mp (raiseIf_eq_ok.mp hepoch), not_le.mp (raiseIf_eq_ok.mp htimeout), rfl,
    fun s hs => ?_, fun r stored hstored => ?_⟩
  · obtain ⟨pair, hpair, rfl⟩ := List.mem_map.mp hs
    obtain ⟨r, -, hok⟩ := exists_of_mem_mapM htaken pair hpair
    obtain ⟨stored, hstored, hshows⟩ := hone r pair hok
    exact ⟨r, stored, hstored, hshows⟩
  · have hr : r ∈ sorted store.states.keys :=
      mem_sorted.mpr (AList.mem_keys.mp (Dict.mem_of_lookup hstored))
    obtain ⟨pair, hpair, hok⟩ := exists_mem_of_mapM htaken r hr
    obtain ⟨stored', hstored', hshows⟩ := hone r pair hok
    obtain rfl : stored = stored' := Option.some.inj (hstored.symm.trans hstored')
    exact ⟨pair.1, List.mem_map.mpr ⟨pair, hpair, rfl⟩, hshows⟩

end Snapshot

/-! ## Ticks -/

section Tick

variable {E ω σ γ π : Type} {wrappedAngle : ℚ → ℚ} {config : MonitorConfig}
  {geometry : Geometry E} {parts : Collaborators ω} {api : GrantManagerApi σ γ}
  {publisher : ActionPublisher π} {runId : String}

/-- **What a tick of the service decided**: the engine decided on the snapshot of the store, and
the messages and the trace report that decision. -/
structure Decided (wrappedAngle : ℚ → ℚ) (config : MonitorConfig) (geometry : Geometry E)
    (parts : Collaborators ω) (api : GrantManagerApi σ γ) (mono : ℚ) (epoch : ℤ)
    (service service' : ServiceState ω σ γ π) (fleet : FleetStateSnapshot) (tickId : String)
    (result : ServiceTickResult) : Prop where
  snapshot : service.store.snapshot wrappedAngle mono epoch config.staleTimeoutSeconds
    config.poseTolerance = .ok fleet
  decided : (CollisionDecisionEngine.decide config geometry parts api fleet.val.snapshots epoch
    tickId).run service.engine = .ok result.fleetDecision service'.engine
  store : service'.store = service.store
  messages : result.actionMessages.map (fun message => (message.val.deviceId, message.val.action)) =
    result.fleetDecision.decisions.map fun decision => (decision.robotId, decision.action)
  alarms : result.trace.alarms = result.fleetDecision.tickMetadata.alarms
  safetyValid : result.trace.safetyValid = result.fleetDecision.tickMetadata.globalSafetyValid

/-- A message carries the robot and the action of its decision. -/
lemma actionMessage_eq_ok {snapshotByRobot : Dict RobotId RobotSnapshot} {timestamp : ℤ}
    {activeGrants : Dict RobotId GrantRecord} {alarms : List String}
    {decision : RobotDecision ReasonMetadata} {message : ActionMessage}
    (h : actionMessage runId snapshotByRobot timestamp activeGrants alarms decision = .ok message) :
    (message.val.deviceId, message.val.action) = (decision.robotId, decision.action) := by
  obtain ⟨snapshot, -, h⟩ := bind_eq_ok.mp h
  rw [val_of_validate h]

/-- **A tick of the service** decides on the snapshot of its store. -/
theorem runTick_spec (mono : ℚ) (epoch : ℤ) (service : ServiceState ω σ γ π) :
    Ensures (runTick wrappedAngle config geometry parts api publisher runId mono epoch) service
      (fun result service' => ∃ fleet tickId,
        Decided wrappedAngle config geometry parts api mono epoch service service' fleet tickId
          result) fun _ => True := by
  unfold runTick
  refine Ensures.bind_modify (Ensures.bind_get ?_)
  refine Ensures.bind_lift (Returns.of_runs (fun fleet hfleet => hfleet) (.inl trivial))
    fun fleet hfleet => ?_
  refine ((Ensures.of_runs fun d engine hrun => hrun).zoom.weaken fun _ _ => trivial).bind ?_
  rintro d _ ⟨engine, rfl, hdecided⟩
  refine Ensures.bind_get ?_
  refine Ensures.bind_lift (Returns.of_runs (fun messages hmessages => hmessages) (.inl trivial))
    fun messages hmessages => ?_
  refine ((Ensures.of_runs (Q := fun _ _ => True) fun _ _ _ => trivial).zoom.weaken
    fun _ _ => trivial).bind ?_
  rintro outcomes _ ⟨published, rfl, -⟩
  refine Ensures.bind_lift (Returns.of_runs (fun trace htrace => htrace) (.inl trivial))
    fun trace htrace => Ensures.pure ⟨fleet, tickIdOf (service.tickSequence + 1), ?_⟩
  obtain ⟨robots, -, htrace⟩ := bind_eq_ok.mp htrace
  obtain rfl := Except.ok.inj htrace
  obtain ⟨-, -, hepoch, -⟩ := snapshot_shows hfleet
  rw [hepoch] at hdecided
  exact
    { snapshot := hfleet
      decided := hdecided
      store := rfl
      messages := map_of_mapM hmessages fun _ _ => actionMessage_eq_ok
      alarms := rfl
      safetyValid := rfl }

/-- Every decision of a tick is about an observed robot and carries its returned action. -/
lemma decide_decisions {engine engine' : EngineState ω σ γ} {snapshots : List RobotSnapshot}
    {nowMs : ℤ} {tickId : String} {d : EngineDecision}
    (h : (CollisionDecisionEngine.decide config geometry parts api snapshots nowMs tickId).run
      engine = .ok d engine') : ∀ decision ∈ d.decisions,
      d.returned decision.robotId = decision.action ∧
        ∃ s ∈ observed config nowMs snapshots, s.deviceId = decision.robotId := by
  obtain ⟨tick, htick, hreport⟩ := decide_eq_ok h
  obtain ⟨hchecked, -⟩ := (decideTick_checked engine snapshots nowMs tickId).get_ok htick
  intro decision hdecision
  obtain ⟨s, hs, hok⟩ := hreport.decided decision hdecision
  obtain ⟨hid, haction, -, -⟩ := reportRobot_eq_ok hok
  rw [hid]
  refine ⟨?_, s, hchecked.ordered_eq ▸ hs, rfl⟩
  rw [hreport.returned_eq, actionOf_eq haction]
  rw [hchecked.ordered_eq]
  exact hchecked.overridden.validates.mem_decisions

end Tick

end CollisionMonitor
