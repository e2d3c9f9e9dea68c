import CollisionMonitor.ServiceRun

set_option relaxedAutoImplicit false
set_option autoImplicit false

/-!
# The outcome of a publication

A tick publishes its messages one after the other, each with bounded retries, to a publisher that
may raise at any attempt. The attempts are recorded, and what the tick reports is compared with
the record.

## Main definitions

* `ActionPublisher.recorded` — a publisher with a record of the attempts made.
* `MessageRecord.Bounded` — the attempts at one message are bounded and stop at the first success.
* `Published` — what a tick reports agrees with the record of its attempts.

## Main results

* `runTick_publication` — a tick that has decided publishes and returns, whatever its publisher.
-/

namespace CollisionMonitor

open Outcome

/-- One attempt at publishing a message, with what it raised. -/
structure PublishAttempt where
  message : ActionMessage
  raised : Option PyException

/-- A publisher with a record of the attempts made. -/
def ActionPublisher.recorded {π : Type} (publisher : ActionPublisher π) :
    ActionPublisher (π × List PublishAttempt) where
  publishAction message := fun (state, attempts) =>
    match (publisher.publishAction message).run state with
    | .ok u state => .ok u (state, attempts ++ [⟨message, none⟩])
    | .error e state => .error e (state, attempts ++ [⟨message, some e⟩])

/-- The attempts at one message of a tick. -/
structure MessageRecord where
  message : ActionMessage
  attempts : List PublishAttempt

namespace MessageRecord

/-- Some attempt succeeded. -/
def succeeded (record : MessageRecord) : Bool :=
  record.attempts.any fun attempt => attempt.raised.isNone

/-- What the last attempt raised. -/
def lastError (record : MessageRecord) : Option PyException :=
  record.attempts.getLast?.bind PublishAttempt.raised

/-- The failure of a message all whose attempts raised. -/
def failure (maximum : ℤ) (record : MessageRecord) : PublicationFailure where
  robotId := record.message.val.deviceId
  tickId := record.message.val.tickId
  attempts := maximum
  error := (record.lastError.map PyException.text).getD ""

/-- The attempts are at this message, at least one and at most `maximum`; they stop at the first
success, and without one they are as many as allowed. -/
structure Bounded (maximum : ℤ) (record : MessageRecord) : Prop where
  sameMessage : ∀ attempt ∈ record.attempts, attempt.message = record.message
  attempted : record.attempts ≠ []
  bounded : record.attempts.length ≤ maximum
  stops : ∀ attempt ∈ record.attempts.dropLast, attempt.raised ≠ none
  exhausted : record.succeeded = false → (record.attempts.length : ℤ) = maximum

/-- The outcome of publishing with retries. -/
def outcome (maximum : ℤ) (record : MessageRecord) : Option PublicationFailure :=
  if record.succeeded then none else some (record.failure maximum)

/-- A record with one attempt that succeeded. -/
lemma bounded_success (message : ActionMessage) {maximum : ℤ} (hmaximum : 1 ≤ maximum) :
    Bounded maximum ⟨message, [⟨message, none⟩]⟩ := by
  constructor <;> simp [succeeded, hmaximum]

/-- A record with one attempt that raised, when only one is allowed. -/
lemma bounded_failure (message : ActionMessage) (e : PyException) :
    Bounded 1 ⟨message, [⟨message, some e⟩]⟩ := by
  constructor <;> simp

/-- The record with a raised attempt before the others. -/
def retried (e : PyException) (record : MessageRecord) : MessageRecord :=
  { record with attempts := ⟨record.message, some e⟩ :: record.attempts }

/-- A raised attempt allows for one less, and the rest decides the outcome.

**Proof sketch.** An attempt more in front changes neither the last attempt nor whether one
succeeded. -/
lemma Bounded.retried {maximum : ℤ} {record : MessageRecord} (h : record.Bounded maximum)
    (e : PyException) :
    (record.retried e).Bounded (maximum + 1) ∧
      ∀ limit, (record.retried e).outcome limit = record.outcome limit := by
  have hsucceeded : (record.retried e).succeeded = record.succeeded := by
    simp [succeeded, MessageRecord.retried]
  have hlast : (record.retried e).lastError = record.lastError := by
    unfold lastError MessageRecord.retried
    rw [List.getLast?_cons_of_ne_nil h.attempted]
  refine ⟨⟨?_, by simp [MessageRecord.retried], ?_, ?_, ?_⟩, fun limit => ?_⟩
  · intro attempt hattempt
    rcases List.mem_cons.mp hattempt with rfl | hattempt
    · rfl
    · exact h.sameMessage attempt hattempt
  · have := h.bounded
    simp only [MessageRecord.retried, List.length_cons]
    omega
  · intro attempt hattempt
    simp only [MessageRecord.retried, List.dropLast_cons_of_ne_nil h.attempted] at hattempt
    rcases List.mem_cons.mp hattempt with rfl | hattempt
    · simp
    · exact h.stops attempt hattempt
  · intro hfailed
    rw [hsucceeded] at hfailed
    have := h.exhausted hfailed
    simp only [MessageRecord.retried, List.length_cons]
    omega
  · unfold outcome failure
    rw [hsucceeded, hlast]
    rfl

end MessageRecord

section Attempts

variable {π : Type} {config : MonitorConfig} {publisher : ActionPublisher π}
  {message : ActionMessage}

/-- A publication that returns is recorded without an exception. -/
lemma recorded_of_ok {state state' : π} {u : PUnit} (attempts : List PublishAttempt)
    (h : (publisher.publishAction message).run state = .ok u state') :
    (publisher.recorded.publishAction message).run (state, attempts) =
      .ok u (state', attempts ++ [⟨message, none⟩]) := by
  rw [EStateM.run, ActionPublisher.recorded]
  dsimp only
  rw [h]

/-- One that raises is recorded with its exception. -/
lemma recorded_of_error {state state' : π} {e : PyException} (attempts : List PublishAttempt)
    (h : (publisher.publishAction message).run state = .error e state') :
    (publisher.recorded.publishAction message).run (state, attempts) =
      .error e (state', attempts ++ [⟨message, some e⟩]) := by
  rw [EStateM.run, ActionPublisher.recorded]
  dsimp only
  rw [h]

/-- An attempt that succeeds is the last one. -/
lemma publishAttempts_of_success (left : ℕ) (attempt : ℤ) {state state' : π} {u : PUnit}
    (before : List PublishAttempt)
    (htry : (publisher.publishAction message).run state = .ok u state') :
    Ensures (publishAttempts config publisher.recorded message (left + 1) attempt) (state, before)
      (fun result after => ∃ record : MessageRecord, record.message = message ∧
        after.2 = before ++ record.attempts ∧ record.Bounded (left + 1) ∧
        result = record.outcome config.publicationMaximumAttempts)
      fun _ => False :=
  Ensures.of_run_ok (publishAttempts_of_ok (recorded_of_ok before htry))
    ⟨_, rfl, rfl, MessageRecord.bounded_success message (by omega), rfl⟩

/-- **The attempts left at a message** make a record with the outcome returned.

**Proof sketch.** By induction on the number of attempts left. A success ends the record, and so
does the last failure; after another failure the record of the remaining attempts is continued
(`Bounded.retried`). -/
lemma publishAttempts_spec (left : ℕ) : ∀ (attempt : ℤ) (state : π) (before : List PublishAttempt),
    attempt + left = config.publicationMaximumAttempts →
    Ensures (publishAttempts config publisher.recorded message (left + 1) attempt) (state, before)
      (fun result after => ∃ record : MessageRecord, record.message = message ∧
        after.2 = before ++ record.attempts ∧ record.Bounded (left + 1) ∧
        result = record.outcome config.publicationMaximumAttempts)
      fun _ => False := by
  induction left with
  | zero =>
    intro attempt state before hcount
    cases htry : (publisher.publishAction message).run state with
    | ok u state' => exact publishAttempts_of_success 0 attempt before htry
    | error e state' =>
      have hrun : (publishAttempts config publisher.recorded message (0 + 1) attempt).run
          (state, before) = _ := publishAttempts_of_error (recorded_of_error before htry)
      rw [if_neg (by omega)] at hrun
      refine Ensures.of_run_ok hrun
        ⟨_, rfl, rfl, MessageRecord.bounded_failure message e, ?_⟩
      rw [← hcount, Nat.cast_zero, add_zero]
      rfl
  | succ left ih =>
    intro attempt state before hcount
    cases htry : (publisher.publishAction message).run state with
    | ok u state' => exact publishAttempts_of_success (left + 1) attempt before htry
    | error e state' =>
      have hrun : (publishAttempts config publisher.recorded message (left + 1 + 1) attempt).run
          (state, before) = _ := publishAttempts_of_error (recorded_of_error before htry)
      rw [if_pos (by omega)] at hrun
      unfold Ensures
      rw [hrun]
      refine (ih (attempt + 1) state' _ (by omega)).mono fun result after hafter => ?_
      obtain ⟨record, rfl, hattempts, hbounded, hresult⟩ := hafter
      obtain ⟨hbounded', houtcome⟩ := hbounded.retried e
      refine ⟨record.retried e, rfl, ?_, by exact_mod_cast hbounded', ?_⟩
      · rw [hattempts, List.append_assoc]
        rfl
      · rw [hresult, houtcome]

/-- The attempts at the messages, made after those `before`, are bounded and have the outcomes. -/
def Recorded (maximum : ℤ) (before : List PublishAttempt) (messages : List ActionMessage)
    (outcomes : List (Option PublicationFailure)) (after : π × List PublishAttempt) : Prop :=
  ∃ records : List MessageRecord, records.map MessageRecord.message = messages ∧
    after.2 = before ++ records.flatMap MessageRecord.attempts ∧
    (∀ record ∈ records, record.Bounded maximum) ∧
    outcomes = records.map (MessageRecord.outcome maximum)

variable (config publisher) in
/-- **The publication loop** records every message in order, and returns. -/
lemma publishAll_spec (messages : List ActionMessage) (state : π) (before : List PublishAttempt) :
    Ensures (messages.mapM (publishWithRetry config publisher.recorded)) (state, before)
      (Recorded config.publicationMaximumAttempts before messages) fun _ => False := by
  refine Ensures.mapM (Recorded config.publicationMaximumAttempts before)
    ⟨[], rfl, (List.append_nil _).symm, by simp, rfl⟩ ?_
  rintro done message rest outcomes ⟨state, attempts⟩ - ⟨records, rfl, rfl, hbounded, rfl⟩
  have hmaximum := config.one_le_publicationMaximumAttempts
  obtain ⟨left, hleft⟩ : ∃ left : ℕ, config.publicationMaximumAttempts = left + 1 :=
    ⟨(config.publicationMaximumAttempts - 1).toNat, by omega⟩
  have hattempts : config.publicationMaximumAttempts.toNat = left + 1 := by omega
  unfold publishWithRetry
  rw [hattempts]
  refine (publishAttempts_spec left 1 state _ (by omega)).mono fun outcome after hafter => ?_
  obtain ⟨record, rfl, hafter, hone, rfl⟩ := hafter
  refine ⟨records ++ [record], by simp, ?_, ?_, by simp⟩
  · rw [hafter, List.append_assoc, List.flatMap_append, List.flatMap_singleton]
  · intro other hother
    rcases List.mem_append.mp hother with hother | hother
    · exact hbounded other hother
    · rw [List.mem_singleton.mp hother, hleft]
      exact hone

end Attempts

/-! ## The report -/

/-- **What a tick reports of its publication** agrees with the record of its attempts: one message
for each robot in the order of the IDs, bounded attempts at each, exactly the robots without a
success reported as failed, with the maximum of attempts, and all others as successful. -/
structure Published (maximum : ℤ) (records : List MessageRecord) (result : ServiceTickResult) :
    Prop where
  messages : records.map MessageRecord.message = result.actionMessages
  robots : result.actionMessages.map (fun message => message.val.deviceId) =
    result.trace.robots.map Prod.fst
  increasing : (result.trace.robots.map Prod.fst).Pairwise (· < ·)
  bounded : ∀ record ∈ records, record.Bounded maximum
  failures : result.publicationFailures =
    (records.filter fun record => !record.succeeded).map (MessageRecord.failure maximum)
  traced : result.trace.publication.failures = result.publicationFailures
  successful : result.trace.publication.successfulRobotIds =
    (records.filter MessageRecord.succeeded).map fun record => record.message.val.deviceId
  complete : result.trace.publication.complete = true ↔ ∀ record ∈ records, record.succeeded
  partition : (result.trace.publication.successfulRobotIds ++
      result.trace.publication.failures.map PublicationFailure.robotId).Perm
    (result.trace.robots.map Prod.fst)

section Report

variable {E ω σ γ π : Type} {wrappedAngle : ℚ → ℚ} {config : MonitorConfig}
  {geometry : Geometry E} {parts : Collaborators ω} {api : GrantManagerApi σ γ}
  {publisher : ActionPublisher π} {runId : String}

/-- A fleet snapshot is in the order of the IDs, with an age for each robot. -/
lemma fleet_checks (fleet : FleetStateSnapshot) :
    fleet.val.snapshots.map RobotSnapshot.deviceId =
        sorted (fleet.val.snapshots.map RobotSnapshot.deviceId) ∧
      ∀ s ∈ fleet.val.snapshots,
        ∃ age, fleet.val.sourceStateAgesMs.lookup s.deviceId = some age := by
  obtain ⟨_, -, h⟩ := bind_eq_ok.mp fleet.property
  obtain ⟨_, -, h⟩ := bind_eq_ok.mp h
  obtain ⟨_, hsorted, hages⟩ := bind_eq_ok.mp h
  refine ⟨not_not.mp (raiseIf_eq_ok.mp hsorted), fun s hs => ?_⟩
  have hkey := (not_not.mp (raiseIf_eq_ok.mp hages)).2 _ (List.mem_map.mpr ⟨s, hs, rfl⟩)
  exact Dict.exists_lookup (AList.mem_keys.mpr hkey)

/-- The messages of a tick are one for each robot of its snapshot, in the order of the IDs. -/
lemma beginTick_messages (mono : ℚ) (epoch : ℤ) (service : ServiceState ω σ γ π) :
    Ensures (beginTick wrappedAngle config geometry parts api runId mono epoch) service
      (fun prepared service' => service'.publisher = service.publisher ∧
        prepared.actionMessages.map (fun message => message.val.deviceId) =
          prepared.stateSnapshot.val.snapshots.map RobotSnapshot.deviceId ∧
        (prepared.stateSnapshot.val.snapshots.map RobotSnapshot.deviceId).Pairwise (· < ·))
      fun _ => True := by
  unfold beginTick
  refine Ensures.bind_modify (Ensures.bind_get ?_)
  refine Ensures.bind_lift (Returns.of_runs (fun fleet _ => trivial) (.inl trivial))
    fun fleet _ => ?_
  refine ((Ensures.of_runs fun d engine hrun => hrun).zoom.weaken fun _ _ => trivial).bind ?_
  rintro d _ ⟨engine, rfl, hdecided⟩
  refine Ensures.bind_get ?_
  refine Ensures.bind_lift (Returns.of_runs (fun messages hmessages => hmessages)
    (.inl trivial)) fun messages hmessages => Ensures.pure ?_
  obtain ⟨hrobots, -⟩ := robotIds_of_decide ((fleet_checks fleet).1) hdecided
  refine ⟨rfl, ?_, ?_⟩
  · rw [← hrobots]
    exact map_of_mapM hmessages fun _ _ h => (actionMessage_origin h).2.1
  · rw [(fleet_checks fleet).1]
    exact pairwise_sorted_lt (nodup_of_decide hdecided)

variable (config runId) in
/-- The trace of a tick can always be built, and reports the given failures. -/
lemma buildTrace_publication (tickId : String) (fleet : FleetStateSnapshot)
    (metadata : TickMetadata) (activeGrants : Dict RobotId GrantRecord)
    (messages : List ActionMessage) (failures : List PublicationFailure) :
    ∃ trace, buildTrace config runId tickId fleet metadata activeGrants messages failures =
        .ok trace ∧
      trace.robots.map Prod.fst = fleet.val.snapshots.map RobotSnapshot.deviceId ∧
      trace.publication.failures = failures ∧
      trace.publication.complete = failures.isEmpty ∧
      trace.publication.successfulRobotIds = (messages.map fun message =>
        message.val.deviceId).filter fun r => failures.all fun failure => failure.robotId ≠ r := by
  obtain ⟨robots, hrobots⟩ := mapM_total (l := fleet.val.snapshots) (f := fun snapshot => do
      let age ← item fleet.val.sourceStateAgesMs snapshot.deviceId
      return (snapshot.deviceId, snapshot.state.timestamp, age, snapshot.stale))
    fun s hs => by
      obtain ⟨age, hage⟩ := (fleet_checks fleet).2 s hs
      exact ⟨_, bind_eq_ok.mpr ⟨age, item_eq_ok.mpr hage, rfl⟩⟩
  unfold buildTrace
  rw [hrobots]
  refine ⟨_, rfl, ?_, rfl, rfl, ?_⟩
  · refine map_of_mapM hrobots fun s row hrow => ?_
    obtain ⟨age, -, hrow⟩ := bind_eq_ok.mp hrow
    rw [← Except.ok.inj hrow]
  · rw [List.filter_map]
    rfl

/-- A robot of a tick is among the failures iff none of its attempts succeeded. -/
lemma succeeded_of_records {maximum : ℤ} {records : List MessageRecord}
    (hnd : (records.map fun record => record.message.val.deviceId).Nodup) {record : MessageRecord}
    (hrecord : record ∈ records) :
    ((records.filter fun other => !other.succeeded).map (MessageRecord.failure maximum)).all
      (fun failure => failure.robotId ≠ record.message.val.deviceId) = record.succeeded := by
  rw [Bool.eq_iff_iff, List.all_eq_true]
  constructor
  · intro hall
    by_contra hfailed
    have hmem : record ∈ records.filter fun other => !other.succeeded :=
      List.mem_filter.mpr ⟨hrecord, by simpa using hfailed⟩
    exact absurd rfl (of_decide_eq_true (hall _ (List.mem_map.mpr ⟨record, hmem, rfl⟩)))
  · intro hsucceeded failure hfailure
    obtain ⟨other, hother, rfl⟩ := List.mem_map.mp hfailure
    obtain ⟨hother, hfailed⟩ := List.mem_filter.mp hother
    refine decide_eq_true fun heq => ?_
    obtain rfl := List.inj_on_of_nodup_map hnd hother hrecord heq
    simp [hsucceeded] at hfailed

/-- The outcomes of records are the failures of those that did not succeed. -/
lemma filterMap_outcome (maximum : ℤ) (records : List MessageRecord) :
    (records.map (MessageRecord.outcome maximum)).filterMap id =
      (records.filter fun record => !record.succeeded).map (MessageRecord.failure maximum) := by
  induction records with
  | nil => rfl
  | cons record records ih =>
    rw [List.map_cons, List.filterMap_cons, List.filter_cons, ih]
    unfold MessageRecord.outcome
    cases record.succeeded <;> rfl

variable (publisher) in
/-- **The outcome of a publication.** A tick that has decided publishes and returns, whatever its
publisher does, and reports the outcome of its attempts.

**Proof sketch.** A tick is its preparation, the loop over its messages, and its end (`runTick_eq`).
The loop records every attempt, whatever the publisher does (`publishAll_spec`), and the trace
counts those records (`buildTrace_publication`). -/
theorem runTick_publication {mono : ℚ} {epoch : ℤ}
    {service begun : ServiceState ω σ γ (π × List PublishAttempt)} {prepared : PreparedTick}
    (h : (beginTick wrappedAngle config geometry parts api runId mono epoch).run service =
      .ok prepared begun) :
    ∃ result service' records,
      (runTick wrappedAngle config geometry parts api publisher.recorded runId mono epoch).run
        service = .ok result service' ∧
      result.actionMessages = prepared.actionMessages ∧
      service'.publisher.2 = service.publisher.2 ++ records.flatMap MessageRecord.attempts ∧
      Published config.publicationMaximumAttempts records result := by
  obtain ⟨hpublisher, hids, hincreasing⟩ := (beginTick_messages mono epoch service).get_ok h
  obtain ⟨outcomes, after, hpublish, records, hmessages, hafter, hbounded, rfl⟩ :=
    (publishAll_spec config publisher prepared.actionMessages begun.publisher.1
      begun.publisher.2).exists_ok
  have hnd : (records.map fun record => record.message.val.deviceId).Nodup := by
    have hrobots : records.map (fun record => record.message.val.deviceId) =
        prepared.stateSnapshot.val.snapshots.map RobotSnapshot.deviceId := by
      rw [← hids, ← hmessages, List.map_map]
      rfl
    rw [hrobots]
    exact hincreasing.imp ne_of_lt
  set failures := (records.filter fun record => !record.succeeded).map
    (MessageRecord.failure config.publicationMaximumAttempts) with hfailures
  obtain ⟨trace, htrace, hrobots, htraced, hcomplete, hsuccessful⟩ :=
    buildTrace_publication config runId prepared.tickId prepared.stateSnapshot
      prepared.fleetDecision.tickMetadata prepared.activeGrants prepared.actionMessages failures
  have hrun : (runTick wrappedAngle config geometry parts api publisher.recorded runId mono
      epoch).run service = .ok ⟨prepared.fleetDecision, prepared.actionMessages, failures, trace⟩
        { begun with publisher := after } := by
    rw [runTick_eq]
    refine run_bind_eq_ok.mpr ⟨prepared, begun, h, run_bind_eq_ok.mpr
      ⟨_, _, run_zoom_of_ok hpublish, run_lift_eq_ok.mpr ⟨bind_eq_ok.mpr ⟨trace, ?_, ?_⟩, rfl⟩⟩⟩
    · rw [filterMap_outcome, htrace]
    · rw [filterMap_outcome]
      rfl
  -- what the trace lists as successful, in terms of the records
  have hsucceeded : trace.publication.successfulRobotIds =
      (records.filter MessageRecord.succeeded).map fun record => record.message.val.deviceId := by
    rw [hsuccessful, ← hmessages, List.map_map, List.filter_map]
    exact congrArg _ (List.filter_congr fun record hrecord => succeeded_of_records hnd hrecord)
  refine ⟨_, _, records, hrun, rfl, by rw [← hpublisher, ← hafter], ?_⟩
  refine ⟨hmessages, by rw [hids, hrobots], by rwa [hrobots], hbounded, rfl, htraced, hsucceeded,
    ?_, ?_⟩
  · rw [hcomplete, hfailures, List.isEmpty_iff, List.map_eq_nil_iff, List.filter_eq_nil_iff]
    simp
  · have hperm := (List.filter_append_perm MessageRecord.succeeded records).map
      fun record => record.message.val.deviceId
    have hall : records.map (fun record => record.message.val.deviceId) =
        trace.robots.map Prod.fst := by
      rw [hrobots, ← hids, ← hmessages, List.map_map]
      rfl
    rw [← hall, hsucceeded, htraced, hfailures, List.map_map]
    rwa [List.map_append] at hperm

end Report

/-! ## Two robots, one of them unreachable -/

/-- A publisher that never reaches the first robot, and the second one from the fifth attempt on.
Its state is the number of attempts. -/
def unreliablePublisher : ActionPublisher ℕ where
  publishAction message := fun count =>
    if message.val.deviceId = robotA ∨ count < 4 then
      .error (.runtimeError "connection lost") (count + 1)
    else .ok ⟨⟩ (count + 1)

/-- The states of two robots on a line. -/
def twoStates : Dict RobotId StoredRobotState :=
  AList.insert robotB ⟨⟨lineState robotB 5 [5, 2], 1⟩, by decide +kernel⟩
    (AList.insert robotA ⟨⟨lineState robotA 0 [0, 3], 1⟩, by decide +kernel⟩ ∅)

/-- A service that has stored them. -/
def unreliableService : ServiceState ℕ Store ℕ (ℕ × List PublishAttempt) where
  engine := EngineState.initial 0
  store := { states := twoStates }
  publisher := (0, [])

/-- The parts of the shipped engine. -/
abbrev lineParts : Collaborators ℕ :=
  shippedCollaborators defaultConfig lineGeometry fun _ => none

/-- A tick reports the first robot as failed after three attempts; the second took two. -/
theorem runTick_publication_unreliable : ∃ result service' records,
    (runTick id defaultConfig lineGeometry lineParts (managerApi defaultConfig)
      unreliablePublisher.recorded "run" 2 5).run unreliableService = .ok result service' ∧
    Published 3 records result ∧ service'.publisher.1 = 5 ∧
    service'.publisher.2 = records.flatMap MessageRecord.attempts ∧
    (result.publicationFailures.map fun failure => (failure.robotId, failure.attempts)) =
      [(robotA, 3)] ∧
    result.trace.publication.successfulRobotIds = [robotB] := by
  obtain ⟨prepared, begun, hbegin, -⟩ := Ensures.exists_ok (Q := fun _ _ => True)
    (x := beginTick id defaultConfig lineGeometry lineParts (managerApi defaultConfig) "run" 2 5)
    (s := unreliableService) (by decide +kernel)
  obtain ⟨result, service', hrun, hcount, hfailures, hsuccessful⟩ := Ensures.exists_ok
    (x := runTick id defaultConfig lineGeometry lineParts (managerApi defaultConfig)
      unreliablePublisher.recorded "run" 2 5) (s := unreliableService)
    (Q := fun result service' => service'.publisher.1 = 5 ∧
      (result.publicationFailures.map fun failure => (failure.robotId, failure.attempts)) =
        [(robotA, 3)] ∧ result.trace.publication.successfulRobotIds = [robotB])
    (by decide +kernel)
  obtain ⟨_, _, records, hrun', -, hattempts, hpublished⟩ :=
    runTick_publication unreliablePublisher hbegin
  obtain ⟨rfl, rfl⟩ := EStateM.Result.ok.inj (hrun.symm.trans hrun')
  exact ⟨result, service', records, hrun, hpublished, hcount, hattempts, hfailures, hsuccessful⟩

end CollisionMonitor
