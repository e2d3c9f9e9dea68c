import CollisionMonitor.Ingestion
import CollisionMonitor.Lib.Machine

set_option relaxedAutoImplicit false
set_option autoImplicit false

/-!
# Runs of the service

A tick gives up control at every await of its publication loop, and states may be ingested there.
The service is therefore a machine whose steps are one delivery, the beginning of a tick up to its
first await, one publication attempt, and the end of the tick.

## Main definitions

* `beginTick`, `finishTick` — what a tick does before and after its publication loop.
* `ServiceRun`, `ServiceStep`, `serviceMachine` — the interleavings.
* `TickRecord.Complete` — the messages of a tick against the store it captured.

## Main results

* `runTick_eq`, `runTick_steps` — an uninterrupted tick is a run of the machine.
* `serviceRun_messages` — one message per known robot and tick, with distinct identities.
-/

namespace CollisionMonitor

open Outcome

/-! ## Tick identifiers -/

/-- A padded number reads back as itself. -/
lemma ofDigitChars_tickDigits (n : ℕ) :
    Nat.ofDigitChars 10 (List.replicate (8 - (toString n).length) '0' ++ (toString n).toList) 0 =
      n := by
  rw [Nat.ofDigitChars_append, Nat.ofDigitChars_replicate_zero, mul_zero, Nat.toString_eq_repr,
    Nat.toList_repr, Nat.ofDigitChars_ten_toDigits]

/-- **Tick identifiers are distinct**, also beyond eight digits. -/
theorem tickIdOf_injective : Function.Injective tickIdOf := by
  intro a b h
  have hlist := congrArg String.toList h
  simp only [tickIdOf, String.toList_append, String.toList_ofList, List.append_assoc] at hlist
  have hdigits := congrArg (fun digits => Nat.ofDigitChars 10 digits 0)
    (List.append_cancel_left hlist)
  simpa only [ofDigitChars_tickDigits] using hdigits

/-! ## The two halves of a tick -/

/-- What a tick holds while it publishes. -/
structure PreparedTick where
  tickId : String
  stateSnapshot : FleetStateSnapshot
  fleetDecision : EngineDecision
  activeGrants : Dict RobotId GrantRecord
  actionMessages : List ActionMessage

section Halves

variable {E ω σ γ π : Type} (wrappedAngle : ℚ → ℚ) (config : MonitorConfig)
  (geometry : Geometry E) (parts : Collaborators ω) (api : GrantManagerApi σ γ)
  (publisher : ActionPublisher π) (runId : String)

/-- A tick up to its first await: it numbers itself, captures the store, decides and builds its
messages. -/
def beginTick (capturedMonotonicSeconds : ℚ) (capturedEpochMs : ℤ) :
    Service ω σ γ π PreparedTick := do
  modify fun service => { service with tickSequence := service.tickSequence + 1 }
  let service ← get
  let tickId := tickIdOf service.tickSequence
  let stateSnapshot ← lift (service.store.snapshot wrappedAngle capturedMonotonicSeconds
    capturedEpochMs config.staleTimeoutSeconds config.poseTolerance)
  let fleetDecision ← zoom ServiceState.engine (fun service engine => { service with engine })
    (CollisionDecisionEngine.decide config geometry parts api stateSnapshot.val.snapshots
      stateSnapshot.val.capturedEpochMs tickId)
  let service ← get
  let activeGrants := api.activeGrants service.engine.grantManager service.engine.store
  let snapshotByRobot := Dict.ofPairs (stateSnapshot.val.snapshots.map fun snapshot =>
    (snapshot.deviceId, snapshot))
  let actionMessages ← lift (fleetDecision.decisions.mapM (actionMessage runId snapshotByRobot
    stateSnapshot.val.capturedEpochMs activeGrants fleetDecision.tickMetadata.alarms))
  return { tickId, stateSnapshot, fleetDecision, activeGrants, actionMessages }

/-- A tick after its last await. -/
def finishTick (prepared : PreparedTick) (publicationFailures : List PublicationFailure) :
    Except PyException ServiceTickResult := do
  let trace ← buildTrace config runId prepared.tickId prepared.stateSnapshot
    prepared.fleetDecision.tickMetadata prepared.activeGrants prepared.actionMessages
    publicationFailures
  return {
    fleetDecision := prepared.fleetDecision
    actionMessages := prepared.actionMessages
    publicationFailures
    trace }

/-- An uninterrupted tick is its two halves around the publication loop. -/
lemma runTick_eq (capturedMonotonicSeconds : ℚ) (capturedEpochMs : ℤ) :
    runTick wrappedAngle config geometry parts api publisher runId capturedMonotonicSeconds
      capturedEpochMs = (do
    let prepared ← beginTick wrappedAngle config geometry parts api runId
      capturedMonotonicSeconds capturedEpochMs
    let outcomes ← zoom ServiceState.publisher (fun service publisher => { service with publisher })
      (prepared.actionMessages.mapM (publishWithRetry config publisher))
    lift (finishTick config runId prepared (outcomes.filterMap id))) := by
  unfold runTick beginTick finishTick
  simp only [bind_assoc, pure_bind, lift_bind]
  rfl

end Halves

/-! ## The machine -/

/-- A tick between its first await and its end: the messages still to publish, the number of the
next attempt at the first of them, and the failures so far. -/
structure PendingTick where
  prepared : PreparedTick
  remaining : List ActionMessage
  attempt : ℤ
  failures : List PublicationFailure

/-- What is recorded when a tick captures the store: its number, the two clock readings and the
store at its capture, the robots accepted so far, and its messages. -/
structure TickRecord where
  number : ℕ
  capturedMonotonicSeconds : ℚ
  capturedEpochMs : ℤ
  known : LatestStateStore
  accepted : List RobotId
  messages : List ActionMessage

/-- A service, its pending tick, and the history of its run: the robots whose states were accepted,
the ticks that were begun, the attempts at publication, and the results of the ticks that ended. -/
structure ServiceRun (ω σ γ π : Type) where
  service : ServiceState ω σ γ π
  pending : Option PendingTick := none
  accepted : List RobotId := []
  ticks : List TickRecord := []
  attempted : List ActionMessage := []
  results : List ServiceTickResult := []

/-- The robot whose state an accepted delivery stored. -/
def acceptedRobots (payload : StatePayload) (result : IngestionResult) : List RobotId :=
  match RobotState.modelValidate payload with
  | .ok state => if result.accepted then [state.deviceId] else []
  | .error _ => []

section Machine

variable {E ω σ γ π : Type} (wrappedAngle : ℚ → ℚ) (config : MonitorConfig)
  (geometry : Geometry E) (parts : Collaborators ω) (api : GrantManagerApi σ γ)
  (publisher : ActionPublisher π) (runId : String)

/-- The steps of the service. A delivery may be ingested at any moment; a tick begins when no other
is pending. -/
inductive ServiceStep : ServiceRun ω σ γ π → ServiceRun ω σ γ π → Prop
  | ingest {run service' result} (received : ℚ) (payload : StatePayload)
      (h : (ingestPayload received payload).run run.service = .ok result service') :
      ServiceStep run { run with
        service := service'
        accepted := run.accepted ++ acceptedRobots payload result }
  | ingestRaises {run service' e} (received : ℚ) (payload : StatePayload)
      (h : (ingestPayload received payload).run run.service = .error e service') :
      ServiceStep run { run with service := service' }
  | begin {run service' prepared} (mono : ℚ) (epoch : ℤ) (hidle : run.pending = none)
      (h : (beginTick wrappedAngle config geometry parts api runId mono epoch).run run.service =
        .ok prepared service') :
      ServiceStep run { run with
        service := service'
        pending := some {
          prepared, remaining := prepared.actionMessages, attempt := 1, failures := [] }
        ticks := run.ticks ++ [{
          number := service'.tickSequence
          capturedMonotonicSeconds := mono
          capturedEpochMs := epoch
          known := run.service.store
          accepted := run.accepted
          messages := prepared.actionMessages }] }
  | beginRaises {run service' e} (mono : ℚ) (epoch : ℤ) (hidle : run.pending = none)
      (h : (beginTick wrappedAngle config geometry parts api runId mono epoch).run run.service =
        .error e service') :
      ServiceStep run { run with service := service' }
  | published {run published pending message rest} (hpending : run.pending = some pending)
      (hremaining : pending.remaining = message :: rest)
      (h : (publisher.publishAction message).run run.service.publisher = .ok ⟨⟩ published) :
      ServiceStep run { run with
        service := { run.service with publisher := published }
        pending := some { pending with remaining := rest, attempt := 1 }
        attempted := run.attempted ++ [message] }
  | retried {run published pending message rest e} (hpending : run.pending = some pending)
      (hremaining : pending.remaining = message :: rest)
      (hattempt : pending.attempt < config.publicationMaximumAttempts)
      (h : (publisher.publishAction message).run run.service.publisher = .error e published) :
      ServiceStep run { run with
        service := { run.service with publisher := published }
        pending := some { pending with attempt := pending.attempt + 1 }
        attempted := run.attempted ++ [message] }
  | failed {run published pending message rest e} (hpending : run.pending = some pending)
      (hremaining : pending.remaining = message :: rest)
      (hattempt : ¬ pending.attempt < config.publicationMaximumAttempts)
      (h : (publisher.publishAction message).run run.service.publisher = .error e published) :
      ServiceStep run { run with
        service := { run.service with publisher := published }
        pending := some { pending with
          remaining := rest
          attempt := 1
          failures := pending.failures ++ [{
            robotId := message.val.deviceId
            tickId := message.val.tickId
            attempts := pending.attempt
            error := e.text }] }
        attempted := run.attempted ++ [message] }
  | finish {run pending result} (hpending : run.pending = some pending)
      (hremaining : pending.remaining = [])
      (h : finishTick config runId pending.prepared pending.failures = .ok result) :
      ServiceStep run { run with pending := none, results := run.results ++ [result] }
  | finishRaises {run pending e} (hpending : run.pending = some pending)
      (hremaining : pending.remaining = [])
      (h : finishTick config runId pending.prepared pending.failures = .error e) :
      ServiceStep run { run with pending := none }

/-- The runs of a service that starts with an empty store, whatever its engine and publisher. -/
def serviceMachine : Machine (ServiceRun ω σ γ π) where
  init := fun run => ∃ engine publisher, run = { service := { engine, publisher } }
  step := ServiceStep wrappedAngle config geometry parts api publisher runId

end Machine

/-! ## What a tick prepares -/

section Prepare

variable {E ω σ γ π : Type} {wrappedAngle : ℚ → ℚ} {config : MonitorConfig}
  {geometry : Geometry E} {parts : Collaborators ω} {api : GrantManagerApi σ γ}
  {publisher : ActionPublisher π} {runId : String}

/-- Every state is stored under its own robot. -/
def Keyed (store : LatestStateStore) : Prop :=
  ∀ r stored, store.states.lookup r = some stored → stored.val.state.deviceId = r

/-- The messages of a tick are one for each robot of the store, in the order of the IDs, each with
the identity of the tick and the source timestamp of the stored state. -/
structure OnePerRobot (runId : String) (store : LatestStateStore) (number : ℕ)
    (messages : List ActionMessage) : Prop where
  robots : messages.map (fun message => message.val.deviceId) = sorted store.states.keys
  timestamps : ∀ message ∈ messages, ∃ stored,
    store.states.lookup message.val.deviceId = some stored ∧
      message.val.sourceStateTimestamp = stored.val.state.timestamp
  identities : ∀ message ∈ messages,
    message.val.runId = runId ∧ message.val.tickId = tickIdOf number

/-- A snapshot of a keyed store lists the robots in the order of their IDs. -/
lemma snapshot_ids {store : LatestStateStore} (hkeyed : Keyed store)
    {mono timeout tolerance : ℚ} {epoch : ℤ} {fleet : FleetStateSnapshot}
    (h : store.snapshot wrappedAngle mono epoch timeout tolerance = .ok fleet) :
    fleet.val.snapshots.map RobotSnapshot.deviceId = sorted store.states.keys := by
  obtain ⟨_, -, h⟩ := bind_eq_ok.mp h
  obtain ⟨_, -, h⟩ := bind_eq_ok.mp h
  obtain ⟨_, -, h⟩ := bind_eq_ok.mp h
  obtain ⟨_, -, h⟩ := bind_eq_ok.mp h
  obtain ⟨taken, htaken, h⟩ := bind_eq_ok.mp h
  rw [val_of_validate h, List.map_map]
  have hid : ∀ r (pair : RobotSnapshot × ℤ), store.snapshotRobot wrappedAngle mono epoch timeout
      tolerance r = .ok pair → (RobotSnapshot.deviceId ∘ Prod.fst) pair = r := by
    intro r pair hpair
    obtain ⟨stored, hstored, hpair⟩ := bind_eq_ok.mp hpair
    obtain ⟨s, hs, hpair⟩ := bind_eq_ok.mp hpair
    obtain rfl := Except.ok.inj hpair
    obtain ⟨_, -, hs⟩ := bind_eq_ok.mp hs
    rw [← hkeyed r stored (item_eq_ok.mp hstored), ← Except.ok.inj hs]
    rfl
  simpa using map_of_mapM (k := id) htaken hid

/-- Every decision carries the identifier of its tick. -/
lemma tickId_of_reportRobot {γ : Type} {tick : TickDecision γ} {tickId : String}
    {s : RobotSnapshot} {decision : RobotDecision ReasonMetadata}
    (h : reportRobot tick tickId s = .ok decision) : decision.tickId = tickId := by
  obtain ⟨source, -, h⟩ := bind_eq_ok.mp h
  obtain ⟨⟨codes, metadata⟩, -, h⟩ := bind_eq_ok.mp h
  obtain ⟨action, -, h⟩ := bind_eq_ok.mp h
  rw [← Except.ok.inj h]

/-- A decision of the engine names each robot of a sorted fleet once, in order. -/
lemma robotIds_of_decide {engine engine' : EngineState ω σ γ} {snapshots : List RobotSnapshot}
    (hsorted : snapshots.map RobotSnapshot.deviceId = sorted (snapshots.map RobotSnapshot.deviceId))
    {nowMs : ℤ} {tickId : String} {d : EngineDecision}
    (h : (CollisionDecisionEngine.decide config geometry parts api snapshots nowMs tickId).run
      engine = .ok d engine') :
    d.decisions.map RobotDecision.robotId = snapshots.map RobotSnapshot.deviceId ∧
      ∀ decision ∈ d.decisions, decision.tickId = tickId := by
  obtain ⟨tick, htick, hreport⟩ := decide_eq_ok h
  obtain ⟨hchecked, -⟩ := (decideTick_checked engine snapshots nowMs tickId).get_ok htick
  refine ⟨?_, fun decision hdecision => ?_⟩
  · have hid : sortedBy RobotSnapshot.deviceId snapshots = snapshots := by
      have hpairwise : (snapshots.map RobotSnapshot.deviceId).Pairwise (· ≤ ·) := by
        rw [hsorted]
        exact pairwise_sortedBy id _
      exact sortedBy_eq_self _ (List.pairwise_map.mp hpairwise)
    rw [hreport.robots, hchecked.ordered_eq, map_deviceId_observed, hid]
  · obtain ⟨s, -, hok⟩ := hreport.decided decision hdecision
    exact tickId_of_reportRobot hok

/-- A message carries the identity of its decision and the timestamp of the snapshot it looks up. -/
lemma actionMessage_origin {snapshotByRobot : Dict RobotId RobotSnapshot} {timestamp : ℤ}
    {activeGrants : Dict RobotId GrantRecord} {alarms : List String}
    {decision : RobotDecision ReasonMetadata} {message : ActionMessage}
    (h : actionMessage runId snapshotByRobot timestamp activeGrants alarms decision = .ok message) :
    message.val.runId = runId ∧ message.val.deviceId = decision.robotId ∧
      message.val.tickId = decision.tickId ∧
      ∃ s, snapshotByRobot.lookup decision.robotId = some s ∧
        message.val.sourceStateTimestamp = s.state.timestamp := by
  obtain ⟨snapshot, hsnapshot, h⟩ := bind_eq_ok.mp h
  rw [val_of_validate h]
  exact ⟨rfl, rfl, rfl, snapshot, item_eq_ok.mp hsnapshot, rfl⟩

/-- **What a tick prepares.** It takes the next number, leaves the store and the publisher as they
are, and prepares one message for each stored robot.

**Proof sketch.** The body is followed statement by statement. The decision is about the snapshots
that were captured, in their order, and a message is made of each of its decisions
(`actionMessage_origin`). -/
lemma beginTick_spec (mono : ℚ) (epoch : ℤ) (service : ServiceState ω σ γ π)
    (hkeyed : Keyed service.store) :
    Ensures (beginTick wrappedAngle config geometry parts api runId mono epoch) service
      (fun prepared service' => service'.store = service.store ∧
        service'.publisher = service.publisher ∧
        service'.tickSequence = service.tickSequence + 1 ∧
        OnePerRobot runId service.store service'.tickSequence prepared.actionMessages)
      fun service' => service'.store = service.store ∧
        service'.tickSequence = service.tickSequence + 1 := by
  unfold beginTick
  refine Ensures.bind_modify (Ensures.bind_get ?_)
  refine Ensures.bind_lift (Returns.of_runs (fun fleet hfleet => hfleet) (.inl ⟨rfl, rfl⟩))
    fun fleet hfleet => ?_
  have hids := snapshot_ids hkeyed hfleet
  refine ((Ensures.of_runs fun d engine hrun => hrun).zoom.weaken ?_).bind ?_
  · rintro _ ⟨engine, rfl, -⟩
    exact ⟨rfl, rfl⟩
  rintro d _ ⟨engine, rfl, hdecided⟩
  refine Ensures.bind_get ?_
  refine Ensures.bind_lift (Returns.of_runs (fun messages hmessages => hmessages)
    (.inl ⟨rfl, rfl⟩)) fun messages hmessages => Ensures.pure ⟨rfl, rfl, rfl, ?_⟩
  obtain ⟨hrobots, htick⟩ := robotIds_of_decide (by rw [hids, sorted_sorted]) hdecided
  refine ⟨?_, fun message hmessage => ?_, fun message hmessage => ?_⟩
  · rw [← hids, ← hrobots]
    exact map_of_mapM hmessages fun _ _ h => (actionMessage_origin h).2.1
  · obtain ⟨decision, -, hok⟩ := exists_of_mem_mapM hmessages message hmessage
    obtain ⟨-, hid, -, s, hs, htimestamp⟩ := actionMessage_origin hok
    obtain ⟨s', hs', heq⟩ := List.mem_map.mp (Dict.mem_of_lookup_ofPairs hs)
    obtain ⟨hid', rfl⟩ := Prod.mk.inj heq
    -- the snapshot of a robot shows the state that is stored under its ID
    obtain ⟨-, -, -, hshown, -⟩ := snapshot_shows hfleet
    obtain ⟨r, stored, hstored, hshows⟩ := hshown s' hs'
    have hr : s'.deviceId = r := by
      rw [RobotSnapshot.deviceId, hshows.state_eq]
      exact hkeyed r stored hstored
    refine ⟨stored, ?_, by rw [htimestamp, hshows.state_eq]⟩
    rw [hid, ← hid', hr]
    exact hstored
  · obtain ⟨decision, hdecision, hok⟩ := exists_of_mem_mapM hmessages message hmessage
    obtain ⟨hrun, -, htickId, -⟩ := actionMessage_origin hok
    exact ⟨hrun, htickId.trans (htick decision hdecision)⟩

end Prepare

/-! ## Uninterrupted ticks -/

section Uninterrupted

variable {E ω σ γ π : Type} {wrappedAngle : ℚ → ℚ} {config : MonitorConfig}
  {geometry : Geometry E} {parts : Collaborators ω} {api : GrantManagerApi σ γ}
  {publisher : ActionPublisher π} {runId : String}

/-- An attempt that returns is the last one. -/
lemma publishAttempts_of_ok {message : ActionMessage} {left : ℕ} {attempt : ℤ} {state state' : π}
    {u : PUnit} (h : (publisher.publishAction message).run state = .ok u state') :
    (publishAttempts config publisher message (left + 1) attempt).run state = .ok none state' := by
  rw [EStateM.run, publishAttempts]
  dsimp only
  rw [h]

/-- An attempt that raises is repeated, or reported if it was the last. -/
lemma publishAttempts_of_error {message : ActionMessage} {left : ℕ} {attempt : ℤ}
    {state state' : π} {e : PyException}
    (h : (publisher.publishAction message).run state = .error e state') :
    (publishAttempts config publisher message (left + 1) attempt).run state =
      if attempt < config.publicationMaximumAttempts then
        (publishAttempts config publisher message left (attempt + 1)).run state'
      else .ok (some {
        robotId := message.val.deviceId
        tickId := message.val.tickId
        attempts := attempt
        error := e.text }) state' := by
  rw [EStateM.run, publishAttempts]
  dsimp only
  rw [h]

variable (wrappedAngle geometry parts api runId)

/-- The attempts at one message are steps of the machine. -/
lemma publishAttempts_steps {message : ActionMessage} {rest : List ActionMessage}
    {outcome : Option PublicationFailure} {state' : π} (left : ℕ) :
    ∀ (run : ServiceRun ω σ γ π) (pending : PendingTick), run.pending = some pending →
      pending.remaining = message :: rest →
      (publishAttempts config publisher message left pending.attempt).run run.service.publisher =
        .ok outcome state' →
      ∃ attempts, Relation.ReflTransGen
        (ServiceStep wrappedAngle config geometry parts api publisher runId) run
        { run with
          service := { run.service with publisher := state' }
          pending := some { pending with
            remaining := rest, attempt := 1, failures := pending.failures ++ outcome.toList }
          attempted := run.attempted ++ attempts } := by
  induction left with
  | zero =>
    intro run pending _ _ h
    cases h
  | succ left ih =>
    intro run pending hpending hremaining h
    cases htry : (publisher.publishAction message).run run.service.publisher with
    | ok u published =>
      rw [publishAttempts_of_ok htry] at h
      obtain ⟨rfl, rfl⟩ := EStateM.Result.ok.inj h
      refine ⟨[message], .single ?_⟩
      rw [Option.toList_none, List.append_nil]
      exact .published hpending hremaining htry
    | error e published =>
      rw [publishAttempts_of_error htry] at h
      split_ifs at h with hattempt
      · obtain ⟨attempts, hsteps⟩ := ih { run with
          service := { run.service with publisher := published }
          pending := some { pending with attempt := pending.attempt + 1 }
          attempted := run.attempted ++ [message] } _ rfl hremaining h
        rw [List.append_assoc] at hsteps
        exact ⟨_, .head (.retried hpending hremaining hattempt htry) hsteps⟩
      · obtain ⟨rfl, rfl⟩ := EStateM.Result.ok.inj h
        exact ⟨[message], .single (.failed hpending hremaining hattempt htry)⟩

/-- The publication loop is a run of the machine.

**Proof sketch.** By induction on the remaining messages, with the steps for the attempts at one of
them (`publishAttempts_steps`). -/
lemma publishAll_steps {outcomes : List (Option PublicationFailure)} {state' : π}
    (remaining : List ActionMessage) :
    ∀ (run : ServiceRun ω σ γ π) (pending : PendingTick), run.pending = some pending →
      pending.remaining = remaining → pending.attempt = 1 →
      (remaining.mapM (publishWithRetry config publisher)).run run.service.publisher =
        .ok outcomes state' →
      ∃ attempts, Relation.ReflTransGen
        (ServiceStep wrappedAngle config geometry parts api publisher runId) run
        { run with
          service := { run.service with publisher := state' }
          pending := some { pending with
            remaining := [], attempt := 1, failures := pending.failures ++ outcomes.filterMap id }
          attempted := run.attempted ++ attempts } := by
  induction remaining generalizing outcomes with
  | nil =>
    intro run pending hpending hremaining hattempt h
    rw [List.mapM_nil] at h
    obtain ⟨rfl, rfl⟩ := EStateM.Result.ok.inj h
    refine ⟨[], ?_⟩
    rw [List.filterMap_nil, List.append_nil, List.append_nil, ← hremaining, ← hattempt, ← hpending]
  | cons message rest ih =>
    intro run pending hpending hremaining hattempt h
    rw [List.mapM_cons] at h
    obtain ⟨outcome, published, hone, h⟩ := run_bind_eq_ok.mp h
    obtain ⟨others, published', hothers, h⟩ := run_bind_eq_ok.mp h
    obtain ⟨rfl, rfl⟩ := EStateM.Result.ok.inj h
    rw [publishWithRetry, ← hattempt] at hone
    obtain ⟨attempts, hfirst⟩ := publishAttempts_steps wrappedAngle geometry parts api runId _ run
      pending hpending hremaining hone
    obtain ⟨attempts', hrest⟩ := ih { run with
      service := { run.service with publisher := published }
      pending := some { pending with
        remaining := rest, attempt := 1, failures := pending.failures ++ outcome.toList }
      attempted := run.attempted ++ attempts } _ rfl rfl rfl hothers
    rw [List.append_assoc, List.append_assoc] at hrest
    have hfailures : (outcome :: others).filterMap id = outcome.toList ++ others.filterMap id := by
      cases outcome <;> rfl
    rw [hfailures]
    exact ⟨_, hfirst.trans hrest⟩

/-- **An uninterrupted tick** that returns is a run of the machine, which records it. -/
theorem runTick_steps {run : ServiceRun ω σ γ π} (hidle : run.pending = none) {mono : ℚ} {epoch : ℤ}
    {result : ServiceTickResult} {service' : ServiceState ω σ γ π}
    (h : (runTick wrappedAngle config geometry parts api publisher runId mono epoch).run
      run.service = .ok result service') :
    ∃ record attempts, Relation.ReflTransGen
      (ServiceStep wrappedAngle config geometry parts api publisher runId) run
      { run with
        service := service'
        ticks := run.ticks ++ [record]
        attempted := run.attempted ++ attempts
        results := run.results ++ [result] } := by
  rw [runTick_eq] at h
  obtain ⟨prepared, begun, hbegin, h⟩ := run_bind_eq_ok.mp h
  obtain ⟨outcomes, published, hzoom, hlift⟩ := run_bind_eq_ok.mp h
  obtain ⟨hfinish, rfl⟩ := run_lift_eq_ok.mp hlift
  obtain ⟨state', rfl, hpublish⟩ := ((Ensures.of_runs fun o s hrun => hrun).zoom).get_ok hzoom
  -- the state after the first half, from which the loop runs
  obtain ⟨attempts, hloop⟩ := publishAll_steps wrappedAngle geometry parts api runId _ { run with
    service := begun
    pending := some { prepared, remaining := prepared.actionMessages, attempt := 1, failures := [] }
    ticks := run.ticks ++ [{
      number := begun.tickSequence
      capturedMonotonicSeconds := mono
      capturedEpochMs := epoch
      known := run.service.store
      accepted := run.accepted
      messages := prepared.actionMessages }] } _ rfl rfl rfl hpublish
  rw [List.nil_append] at hloop
  have hend := (hloop.head (.begin mono epoch hidle hbegin)).tail (.finish rfl rfl hfinish)
  rw [← hidle] at hend
  exact ⟨_, attempts, hend⟩

end Uninterrupted

/-! ## Runs -/

section Runs

variable {E ω σ γ π : Type} {wrappedAngle : ℚ → ℚ} {config : MonitorConfig}
  {geometry : Geometry E} {parts : Collaborators ω} {api : GrantManagerApi σ γ}
  {publisher : ActionPublisher π} {runId : String}

/-- A record is complete: its messages are one for each robot of the store it captured, and every
robot accepted before is among them. -/
structure TickRecord.Complete (runId : String) (record : TickRecord) : Prop where
  onePerRobot : OnePerRobot runId record.known record.number record.messages
  accepted : ∀ r ∈ record.accepted, r ∈ record.messages.map fun message => message.val.deviceId

/-- What holds in every state of a run of the service. -/
structure ServiceInvariant (runId : String) (run : ServiceRun ω σ γ π) : Prop where
  keyed : Keyed run.service.store
  stored : ∀ r ∈ run.accepted, r ∈ run.service.store.states
  complete : ∀ record ∈ run.ticks, record.Complete runId
  increasing : (run.ticks.map TickRecord.number).Pairwise (· < ·)
  bounded : ∀ record ∈ run.ticks, record.number ≤ run.service.tickSequence
  /-- A pending tick has attempted the messages of its record in order, up to the remaining. -/
  pending : ∀ pending, run.pending = some pending → ∃ record ∈ run.ticks, ∃ done,
    pending.prepared.actionMessages = record.messages ∧
      record.messages = done ++ pending.remaining ∧ ∀ message ∈ done, message ∈ run.attempted
  attempted : ∀ message ∈ run.attempted, ∃ record ∈ run.ticks, message ∈ record.messages
  results : ∀ result ∈ run.results, ∃ record ∈ run.ticks,
    result.actionMessages = record.messages ∧ ∀ message ∈ record.messages, message ∈ run.attempted

namespace ServiceInvariant

variable {run : ServiceRun ω σ γ π} {service' : ServiceState ω σ γ π}

/-- A fresh service satisfies the invariant. -/
lemma fresh (engine : EngineState ω σ γ) (publisher : π) :
    ServiceInvariant runId ({ service := { engine, publisher } } : ServiceRun ω σ γ π) where
  keyed r stored h := by
    rw [AList.lookup_empty] at h
    cases h
  stored _ h := by cases h
  complete _ h := by cases h
  increasing := .nil
  bounded _ h := by cases h
  pending _ h := by cases h
  attempted _ h := by cases h
  results _ h := by cases h

/-- A delivery inserts at most the state of its own robot.

**Proof sketch.** A refused delivery leaves the store alone. An accepted one inserts its state under
its own ID, and its robot joins those that were accepted. -/
lemma ingest (hinv : ServiceInvariant runId run) {received : ℚ} {payload : StatePayload}
    {result : IngestionResult}
    (h : (ingestPayload received payload).run run.service = .ok result service') :
    ServiceInvariant runId { run with
      service := service'
      accepted := run.accepted ++ acceptedRobots payload result } := by
  obtain ⟨store, count, rfl, haccepted, hrefused⟩ :=
    (ingestPayload_spec received payload _).get_ok h
  cases hresult : result.accepted with
  | false =>
    have hnone : acceptedRobots payload result = [] := by
      unfold acceptedRobots
      rw [hresult]
      split <;> rfl
    rw [hrefused hresult, hnone, List.append_nil]
    exact { hinv with }
  | true =>
    obtain ⟨state, stored, hstate, hval, hinsert⟩ := haccepted hresult
    have hone : acceptedRobots payload result = [state.deviceId] := by
      unfold acceptedRobots
      rw [hstate, hresult]
      rfl
    rw [hone]
    refine { hinv with keyed := fun r kept h => ?_, stored := fun r hr => ?_ }
    · rw [hinsert, Dict.lookup_insert_eq_ite] at h
      split_ifs at h with hr
      · rw [← Option.some.inj h, hval, hr]
      · exact hinv.keyed r kept h
    · change r ∈ store.states
      rw [hinsert, AList.mem_insert]
      rcases List.mem_append.mp hr with hr | hr
      · exact .inr (hinv.stored r hr)
      · exact .inl (List.mem_singleton.mp hr)

/-- A tick that begins captures the store and adds its record.

**Proof sketch.** The new record has the next number and is complete by `beginTick_spec`. Everything
that was said about earlier records still holds of them, and the messages that remain are all those
of the new one. -/
lemma begin (hinv : ServiceInvariant runId run) {mono : ℚ} {epoch : ℤ} {prepared : PreparedTick}
    (h : (beginTick wrappedAngle config geometry parts api runId mono epoch).run run.service =
      .ok prepared service') :
    ServiceInvariant runId { run with
      service := service'
      pending := some {
        prepared, remaining := prepared.actionMessages, attempt := 1, failures := [] }
      ticks := run.ticks ++ [{
        number := service'.tickSequence
        capturedMonotonicSeconds := mono
        capturedEpochMs := epoch
        known := run.service.store
        accepted := run.accepted
        messages := prepared.actionMessages }] } := by
  obtain ⟨hstore, -, hnumber, hone⟩ := (beginTick_spec mono epoch _ hinv.keyed).get_ok h
  set record : TickRecord :=
    { number := service'.tickSequence
      capturedMonotonicSeconds := mono
      capturedEpochMs := epoch
      known := run.service.store
      accepted := run.accepted
      messages := prepared.actionMessages } with hrecord
  have hlater : ∀ {P : TickRecord → Prop}, (∃ old ∈ run.ticks, P old) →
      ∃ old ∈ run.ticks ++ [record], P old := fun ⟨old, hold, hP⟩ =>
    ⟨old, List.mem_append_left _ hold, hP⟩
  constructor
  · rw [hstore]
    exact hinv.keyed
  · rw [hstore]
    exact hinv.stored
  · intro old hold
    rcases List.mem_append.mp hold with hold | hold
    · exact hinv.complete old hold
    · rw [List.mem_singleton.mp hold]
      refine ⟨hone, fun r hr => ?_⟩
      rw [hone.robots, mem_sorted]
      exact AList.mem_keys.mp (hinv.stored r hr)
  · rw [List.map_append, List.pairwise_append]
    refine ⟨hinv.increasing, List.pairwise_singleton _ _, fun a ha b hb => ?_⟩
    obtain ⟨old, hold, rfl⟩ := List.mem_map.mp ha
    rw [List.mem_singleton.mp hb, hrecord, hnumber]
    exact Nat.lt_succ_of_le (hinv.bounded old hold)
  · intro old hold
    rcases List.mem_append.mp hold with hold | hold
    · rw [hnumber]
      exact (hinv.bounded old hold).trans (Nat.le_succ _)
    · rw [List.mem_singleton.mp hold]
  · intro pending hpending
    rw [← Option.some.inj hpending]
    exact ⟨record, List.mem_append_right _ List.mem_cons_self, [], rfl, rfl,
      fun _ hmem => by cases hmem⟩
  · exact fun message hmessage => hlater (hinv.attempted message hmessage)
  · exact fun result hresult => hlater (hinv.results result hresult)

/-- A tick that raises before its first await only uses up its number. -/
lemma beginRaises (hinv : ServiceInvariant runId run) {mono : ℚ} {epoch : ℤ} {e : PyException}
    (h : (beginTick wrappedAngle config geometry parts api runId mono epoch).run run.service =
      .error e service') :
    ServiceInvariant runId { run with service := service' } := by
  obtain ⟨hstore, hnumber⟩ := (beginTick_spec mono epoch _ hinv.keyed).get_error h
  refine { hinv with keyed := ?_, stored := ?_, bounded := fun old hold => ?_ }
  · rw [hstore]
    exact hinv.keyed
  · rw [hstore]
    exact hinv.stored
  · change old.number ≤ service'.tickSequence
    rw [hnumber]
    exact (hinv.bounded old hold).trans (Nat.le_succ _)

/-- **An attempt** at the first remaining message of the pending tick, after which the message
either remains or is done with. -/
lemma attempt (hinv : ServiceInvariant runId run) {pending pending' : PendingTick}
    {message : ActionMessage} {rest : List ActionMessage} (hpending : run.pending = some pending)
    (hremaining : pending.remaining = message :: rest)
    (hprepared : pending'.prepared = pending.prepared)
    (hremaining' : pending'.remaining = pending.remaining ∨ pending'.remaining = rest)
    (published : π) :
    ServiceInvariant runId { run with
      service := { run.service with publisher := published }
      pending := some pending'
      attempted := run.attempted ++ [message] } := by
  obtain ⟨record, hrecord, done, hmessages, hsplit, hdone⟩ := hinv.pending pending hpending
  have hkept : ∀ {m}, m ∈ run.attempted → m ∈ run.attempted ++ [message] := fun hm =>
    List.mem_append_left _ hm
  refine { hinv with
    pending := ?_
    attempted := fun m hm => ?_
    results := fun result hresult => ?_ }
  · intro _ heq
    rw [← Option.some.inj heq, hprepared]
    rcases hremaining' with hrest | hrest
    · exact ⟨record, hrecord, done, hmessages, by rw [hrest, hsplit],
        fun m hm => hkept (hdone m hm)⟩
    · refine ⟨record, hrecord, done ++ [message], hmessages, ?_, fun m hm => ?_⟩
      · rw [hrest, hsplit, hremaining, List.append_assoc, List.singleton_append]
      · exact (List.mem_append.mp hm).elim (fun hm => hkept (hdone m hm))
          fun hm => List.mem_append_right _ hm
  · rcases List.mem_append.mp hm with hm | hm
    · exact hinv.attempted m hm
    · rw [List.mem_singleton.mp hm]
      exact ⟨record, hrecord, by rw [hsplit, hremaining]; simp⟩
  · obtain ⟨old, hold, heq, hall⟩ := hinv.results result hresult
    exact ⟨old, hold, heq, fun m hm => hkept (hall m hm)⟩

/-- A tick ends when nothing remains; all its messages were attempted. -/
lemma finish (hinv : ServiceInvariant runId run) {pending : PendingTick}
    {result : ServiceTickResult}
    (hpending : run.pending = some pending) (hremaining : pending.remaining = [])
    (h : finishTick config runId pending.prepared pending.failures = .ok result) :
    ServiceInvariant runId { run with pending := none, results := run.results ++ [result] } := by
  obtain ⟨record, hrecord, done, hmessages, hsplit, hdone⟩ := hinv.pending pending hpending
  refine { hinv with pending := fun _ heq => (by cases heq), results := fun ended hended => ?_ }
  rcases List.mem_append.mp hended with hended | hended
  · exact hinv.results ended hended
  · obtain ⟨trace, -, h⟩ := bind_eq_ok.mp h
    obtain rfl := Except.ok.inj h
    rw [List.mem_singleton.mp hended]
    refine ⟨record, hrecord, hmessages, ?_⟩
    rw [hsplit, hremaining, List.append_nil]
    exact hdone

/-- **The invariant is kept by every step.** -/
lemma step {run run' : ServiceRun ω σ γ π} (hinv : ServiceInvariant runId run)
    (h : ServiceStep wrappedAngle config geometry parts api publisher runId run run') :
    ServiceInvariant runId run' := by
  cases h with
  | ingest received payload h => exact hinv.ingest h
  | ingestRaises received payload h =>
    rw [(ingestPayload_spec received payload _).get_error h]
    exact hinv
  | begin mono epoch hidle h => exact hinv.begin h
  | beginRaises mono epoch hidle h => exact hinv.beginRaises h
  | published hpending hremaining h =>
    refine hinv.attempt hpending hremaining ?_ (.inr ?_) _ <;> rfl
  | retried hpending hremaining hattempt h =>
    refine hinv.attempt hpending hremaining ?_ (.inl ?_) _ <;> rfl
  | failed hpending hremaining hattempt h =>
    refine hinv.attempt hpending hremaining ?_ (.inr ?_) _ <;> rfl
  | finish hpending hremaining h => exact hinv.finish hpending hremaining h
  | finishRaises hpending hremaining h =>
    exact { hinv with pending := fun _ heq => (by cases heq) }

end ServiceInvariant

/-- **The invariant holds in every run.** -/
lemma serviceInvariant_of_reachable {run : ServiceRun ω σ γ π}
    (h : (serviceMachine wrappedAngle config geometry parts api publisher runId).Reachable run) :
    ServiceInvariant runId run := by
  refine h.invariant ?_ fun _ _ _ hinv hstep => hinv.step hstep
  rintro _ ⟨engine, publisher, rfl⟩
  exact .fresh engine publisher

/-- The messages of one complete record have distinct keys. -/
lemma TickRecord.Complete.keys_nodup {record : TickRecord} (h : record.Complete runId)
    (hkeys : record.known.states.keys.Nodup) :
    (record.messages.map fun message => message.val.idempotencyKey).Nodup := by
  refine List.Nodup.of_map (fun key => key.2.1) ?_
  rw [List.map_map]
  have hrobots := h.onePerRobot.robots
  exact (congrArg List.Nodup hrobots).mpr (sorted_nodup.mpr hkeys)

/-- Different numbers give different keys. -/
lemma TickRecord.Complete.keys_disjoint {record other : TickRecord} (h : record.Complete runId)
    (h' : other.Complete runId) (hlt : record.number < other.number) :
    List.Disjoint (record.messages.map fun message => message.val.idempotencyKey)
      (other.messages.map fun message => message.val.idempotencyKey) := by
  intro key hkey hkey'
  obtain ⟨message, hmessage, rfl⟩ := List.mem_map.mp hkey
  obtain ⟨message', hmessage', heq⟩ := List.mem_map.mp hkey'
  have htick : message'.val.tickId = message.val.tickId :=
    congrArg (fun key : String × RobotId × String => key.2.2) heq
  rw [(h.onePerRobot.identities message hmessage).2,
    (h'.onePerRobot.identities message' hmessage').2] at htick
  exact hlt.ne' (tickIdOf_injective htick)

/-- **One logical action per known robot and tick, with distinct identities.** In every run of the
service, whatever is ingested while a tick publishes: the messages of a tick are one for each robot
of the store it captured, in the order of the IDs, with the source timestamps stored at that
moment; every robot accepted before the tick is among them; they are what the tick attempts to
publish and returns; and the keys of all messages of the run are distinct.

**Proof sketch.** The first two parts are the invariant. Keys of one tick differ in the robot, keys
of two ticks in the tick ID, because tick numbers increase (`keys_disjoint`) and their texts are
distinct (`tickIdOf_injective`). -/
theorem serviceRun_messages {run : ServiceRun ω σ γ π}
    (h : (serviceMachine wrappedAngle config geometry parts api publisher runId).Reachable run) :
    (∀ record ∈ run.ticks, record.Complete runId) ∧
      (∀ message ∈ run.attempted, ∃ record ∈ run.ticks, message ∈ record.messages) ∧
      (∀ result ∈ run.results, ∃ record ∈ run.ticks, result.actionMessages = record.messages ∧
        ∀ message ∈ record.messages, message ∈ run.attempted) ∧
      ((run.ticks.flatMap TickRecord.messages).map fun message =>
        message.val.idempotencyKey).Nodup := by
  have hinv := serviceInvariant_of_reachable h
  refine ⟨hinv.complete, hinv.attempted, hinv.results, ?_⟩
  rw [List.map_flatMap, List.nodup_flatMap]
  refine ⟨fun record hrecord =>
    (hinv.complete record hrecord).keys_nodup record.known.states.nodupKeys, ?_⟩
  refine (List.pairwise_map.mp hinv.increasing).imp_of_mem fun {a b} ha hb hlt => ?_
  exact (hinv.complete a ha).keys_disjoint (hinv.complete b hb) hlt

end Runs

/-! ## A delivery during publication -/

/-- A publisher that accepts every message. -/
def quietPublisher : ActionPublisher Unit where
  publishAction _ := pure ⟨⟩

/-- A robot that stands at the origin. -/
def standing (deviceId : String) : StatePayload := .wellTyped {
  deviceId, timestamp := 1, x := 0, y := 0, theta := 0, batteryLevel := 50, loaded := false
  deadline := 0, path := [] }

/-- The machine of the shipped service on a line. -/
def lineServiceMachine : Machine (ServiceRun ℕ Store ℕ Unit) :=
  serviceMachine id defaultConfig lineGeometry
    (shippedCollaborators defaultConfig lineGeometry fun _ => none) (managerApi defaultConfig)
    quietPublisher "run"

/-- The second robot reports while the tick about the first publishes. -/
def overlappingTick : Service ℕ Store ℕ Unit (IngestionResult × IngestionResult) := do
  let first ← ingestPayload 1 (standing "a")
  let prepared ← beginTick id defaultConfig lineGeometry
    (shippedCollaborators defaultConfig lineGeometry fun _ => none) (managerApi defaultConfig)
    "run" 2 5
  let second ← ingestPayload 3 (standing "b")
  let outcomes ← zoom ServiceState.publisher (fun service publisher => { service with publisher })
    (prepared.actionMessages.mapM (publishWithRetry defaultConfig quietPublisher))
  let _ ← lift (finishTick defaultConfig "run" prepared (outcomes.filterMap id))
  return (first, second)

/-- The delivery is stored, and the tick in progress still has the messages of its own store. -/
theorem serviceRun_messages_overlapping : ∃ run, lineServiceMachine.Reachable run ∧
    run.results.length = 1 ∧ run.accepted.map Subtype.val = ["a", "b"] ∧
    (∀ record ∈ run.ticks, record.Complete "run") ∧
      ((run.ticks.flatMap TickRecord.messages).map fun message =>
        message.val.idempotencyKey).Nodup := by
  obtain ⟨⟨first, second⟩, service', hrun, hfirst, hsecond⟩ := Ensures.exists_ok
    (x := overlappingTick) (s := { engine := EngineState.initial 0, publisher := () })
    (Q := fun results _ => results.1.accepted = true ∧ results.2.accepted = true)
    (by decide +kernel)
  obtain ⟨early, s₁, h₁, hrun⟩ := run_bind_eq_ok.mp hrun
  obtain ⟨prepared, s₂, h₂, hrun⟩ := run_bind_eq_ok.mp hrun
  obtain ⟨late, s₃, h₃, hrun⟩ := run_bind_eq_ok.mp hrun
  obtain ⟨outcomes, _, hzoom, hrun⟩ := run_bind_eq_ok.mp hrun
  obtain ⟨result, _, hlift, hrun⟩ := run_bind_eq_ok.mp hrun
  obtain ⟨heq, -⟩ := EStateM.Result.ok.inj hrun
  obtain ⟨rfl, rfl⟩ := Prod.mk.inj heq
  obtain ⟨hfinish, -⟩ := run_lift_eq_ok.mp hlift
  obtain ⟨state', -, hpublish⟩ := ((Ensures.of_runs fun o s hrun => hrun).zoom).get_ok hzoom
  -- the tick begins between the two deliveries
  obtain ⟨run, hbegun, hpending, hservice, haccepted, hresults⟩ : ∃ run,
      lineServiceMachine.Reachable run ∧
      run.pending = some {
        prepared, remaining := prepared.actionMessages, attempt := 1, failures := [] } ∧
      run.service = s₃ ∧
      run.accepted = acceptedRobots (standing "a") early ++ acceptedRobots (standing "b") late ∧
      run.results = [] := by
    have hfresh : lineServiceMachine.Reachable _ := .init ⟨EngineState.initial 0, (), rfl⟩
    have hstored := hfresh.step (ServiceStep.ingest 1 (standing "a") h₁)
    have hbegan := hstored.step (ServiceStep.begin 2 5 rfl h₂)
    exact ⟨_, hbegan.step (ServiceStep.ingest 3 (standing "b") h₃), rfl, rfl, rfl, rfl⟩
  rw [← hservice] at hpublish
  obtain ⟨attempts, hloop⟩ := publishAll_steps id lineGeometry
    (shippedCollaborators defaultConfig lineGeometry fun _ => none) (managerApi defaultConfig)
    "run" _ run _ hpending rfl rfl hpublish
  have hreach := (hbegun.trans hloop).step (.finish rfl rfl hfinish)
  refine ⟨_, hreach, by rw [hresults]; rfl, ?_, ?_⟩
  · have hboth : early.accepted = true ∧ late.accepted = true := ⟨hfirst, hsecond⟩
    rw [haccepted, acceptedRobots, acceptedRobots, hboth.1, hboth.2]
    decide +kernel
  · obtain ⟨hcomplete, -, -, hkeys⟩ := serviceRun_messages hreach
    exact ⟨hcomplete, hkeys⟩

end CollisionMonitor
