import CollisionMonitor.ServiceRun

set_option relaxedAutoImplicit false
set_option autoImplicit false

/-!
# Rounds over message queues

The rounds of the RabbitMQ simulator transport as message passing: a round puts the states of the
publishing robots on one shared queue and then takes one action for each robot from its own queue,
while the monitor takes the states one at a time and runs ticks between two takes
(`simulator/scenario.py`, `service.py`). Queues are first-in first-out and lose nothing, and an
action that does not arrive in time is a `timeout` of the round.

## Main definitions

* `MessageRound` — the service with its action queues, the state queue, and the round in progress.
* `RoundEvent`, `RoundStep`, `roundMachine` — the interleavings.
* `MessageRound.OneDecision` — the actions of a round come from one decision on its states.
* `WholeRounds`, `wholeRoundMachine` — no tick runs on a part of a round.

## Main results

* `wholeRounds_oneDecision` — without a tick on a part of a round, its actions come from one
  decision.
* `oneDecision_splitRound` — with one they may come from two.
-/

namespace CollisionMonitor

open Outcome

/-! ## Queues -/

/-- The action queue of each robot, oldest message first. -/
abbrev ActionQueues := RobotId → List ActionMessage

/-- Append a message to the queue of its robot. -/
def ActionQueues.enqueue (queues : ActionQueues) (message : ActionMessage) : ActionQueues :=
  Function.update queues message.val.deviceId (queues message.val.deviceId ++ [message])

/-- A publisher whose queues accept every message. -/
def queuePublisher : ActionPublisher ActionQueues where
  publishAction message := modify fun queues => queues.enqueue message

/-- The payload of a state. -/
def RobotState.payload (state : RobotState) : StatePayloadFields where
  deviceId := state.deviceId.val
  timestamp := state.timestamp
  x := state.x
  y := state.y
  theta := state.theta
  batteryLevel := state.batteryLevel
  loaded := state.loaded
  deadline := state.deadline
  path := state.path

/-- The payload of a state validates to that state. -/
lemma RobotState.modelValidate_payload (state : RobotState) :
    RobotState.modelValidate (.wellTyped state.payload) = .ok state := by
  simp [RobotState.modelValidate, RobotState.payload, state.deviceId.property, state.battery_range]

/-- Every payload that validates is the payload of a state. -/
lemma RobotState.payload_of_modelValidate {payload : StatePayloadFields} {state : RobotState}
    (h : RobotState.modelValidate (.wellTyped payload) = .ok state) : state.payload = payload := by
  unfold RobotState.modelValidate at h
  dsimp only at h
  split_ifs at h with hvalid
  obtain rfl := Except.ok.inj h
  obtain ⟨-, htimestamp, -, hdeadline⟩ := hvalid
  simp [RobotState.payload, Int.toNat_of_nonneg htimestamp, Int.toNat_of_nonneg hdeadline]

/-! ## The machine -/

/-- What is recorded when a tick decides. -/
structure FleetTick where
  tickId : String
  known : LatestStateStore
  messages : List ActionMessage

/-- The service with its action queues, the state queue, what the simulator remembers of its
publications, and its round: the states still to publish, those published, the robots whose actions
are still to be received, and the actions received. -/
structure MessageRound (ω σ γ : Type) where
  service : ServiceState ω σ γ ActionQueues
  stateQueue : List RobotState := []
  lastStateTimestamp : Dict RobotId ℕ := ∅
  toPublish : List RobotState := []
  published : List RobotState := []
  toReceive : List RobotId := []
  actions : Dict RobotId ActionMessage := ∅
  ticks : List FleetTick := []

/-- What may happen next. -/
inductive RoundEvent
  | start (states : List RobotState) (robotIds : List RobotId)
  | publish
  | take (receivedMonotonicSeconds : ℚ)
  | tick (capturedMonotonicSeconds : ℚ) (capturedEpochMs : ℤ)
  | discard
  | accept
  | timeout

section Machine

variable {E ω σ γ : Type}

/-- The condition of `_receive_fresh_action`: the action is for this robot, and not about a state
older than the last one it published. -/
def MessageRound.Fresh (round : MessageRound ω σ γ) (robotId : RobotId) (message : ActionMessage) :
    Prop :=
  message.val.deviceId = robotId ∧
    (round.lastStateTimestamp.lookup robotId).getD 0 ≤ message.val.sourceStateTimestamp

variable (wrappedAngle : ℚ → ℚ) (config : MonitorConfig) (geometry : Geometry E)
  (parts : Collaborators ω) (api : GrantManagerApi σ γ) (runId : String)

/-- The steps of a round and of the monitor beside it. -/
inductive RoundStep : MessageRound ω σ γ → RoundEvent → MessageRound ω σ γ → Prop
  | start {round} (states : List RobotState) (robotIds : List RobotId)
      (hended : round.toPublish = [] ∧ round.toReceive = [])
      (hstates : (states.map RobotState.deviceId).Nodup) (hrobots : robotIds.Nodup) :
      RoundStep round (.start states robotIds) { round with
        toPublish := states
        published := []
        toReceive := sorted robotIds
        actions := ∅ }
  | publish {round state rest} (hstate : round.toPublish = state :: rest) :
      RoundStep round .publish { round with
        stateQueue := round.stateQueue ++ [state]
        lastStateTimestamp := round.lastStateTimestamp.insert state.deviceId state.timestamp
        toPublish := rest
        published := round.published ++ [state] }
  | take {round state rest result service'} (received : ℚ) (hstate : round.stateQueue = state :: rest)
      (h : (ingestPayload received (.wellTyped state.payload)).run round.service =
        .ok result service') :
      RoundStep round (.take received) { round with service := service', stateQueue := rest }
  | tick {round result service'} (mono : ℚ) (epoch : ℤ)
      (h : (runTick wrappedAngle config geometry parts api queuePublisher runId mono epoch).run
        round.service = .ok result service') :
      RoundStep round (.tick mono epoch) { round with
        service := service'
        ticks := round.ticks ++ [{
          tickId := tickIdOf service'.tickSequence
          known := round.service.store
          messages := result.actionMessages }] }
  | discard {round r robots message queue} (hpublished : round.toPublish = [])
      (hrobot : round.toReceive = r :: robots)
      (hmessage : round.service.publisher r = message :: queue) (hstale : ¬ round.Fresh r message) :
      RoundStep round .discard { round with
        service := { round.service with
          publisher := Function.update round.service.publisher r queue } }
  | accept {round r robots message queue} (hpublished : round.toPublish = [])
      (hrobot : round.toReceive = r :: robots)
      (hmessage : round.service.publisher r = message :: queue) (hfresh : round.Fresh r message) :
      RoundStep round .accept { round with
        service := { round.service with
          publisher := Function.update round.service.publisher r queue }
        toReceive := robots
        actions := round.actions.insert r message }
  | timeout {round r robots} (hpublished : round.toPublish = [])
      (hrobot : round.toReceive = r :: robots) :
      RoundStep round .timeout { round with toReceive := robots }

/-- A monitor that knows no robot, whose queues are empty. -/
def MessageRound.Initial (round : MessageRound ω σ γ) : Prop :=
  ∃ engine, round = { service := { engine, publisher := fun _ => [] } }

/-- The runs of a simulator and a monitor. -/
def roundMachine : Machine (MessageRound ω σ γ) where
  init := MessageRound.Initial
  step := fun round round' =>
    ∃ event, RoundStep wrappedAngle config geometry parts api runId round event round'

/-! ## The law of a round -/

/-- The store holds this state. -/
def LatestStateStore.Holds (store : LatestStateStore) (state : RobotState) : Prop :=
  ∃ stored, store.states.lookup state.deviceId = some stored ∧ stored.val.state = state

/-- **The actions applied together were validated together.** The actions that the round received
for the robots that published in it carry one tick identifier, and each of them was decided by a
tick that captured every state published in the round. -/
structure MessageRound.OneDecision (round : MessageRound ω σ γ) : Prop where
  sameTick : ∀ state ∈ round.published, ∀ state' ∈ round.published, ∀ message message',
    round.actions.lookup state.deviceId = some message →
    round.actions.lookup state'.deviceId = some message' → message.val.tickId = message'.val.tickId
  decided : ∀ state ∈ round.published, ∀ message,
    round.actions.lookup state.deviceId = some message →
    ∃ tick ∈ round.ticks, message ∈ tick.messages ∧
      ∀ other ∈ round.published ++ round.toPublish, tick.known.Holds other

/-- The monitor has taken no state of the round. -/
def MessageRound.NoneTaken (round : MessageRound ω σ γ) : Prop :=
  ∀ state ∈ round.published, state ∈ round.stateQueue

/-- The monitor has taken every state of the round. -/
def MessageRound.AllTaken (round : MessageRound ω σ γ) : Prop :=
  round.toPublish = [] ∧ ∀ state ∈ round.published, state ∉ round.stateQueue

/-- The condition on a step: a tick runs on none of the states of the round or on all of them, and
a round publishes newer states than the rounds before it. -/
def WholeRounds (round : MessageRound ω σ γ) : RoundEvent → Prop
  | .tick _ _ => round.NoneTaken ∨ round.AllTaken
  | .start states _ => ∀ state ∈ states, ∀ timestamp,
      round.lastStateTimestamp.lookup state.deviceId = some timestamp →
        timestamp < state.timestamp
  | _ => True

/-- The runs in which every step meets the condition. -/
def wholeRoundMachine : Machine (MessageRound ω σ γ) where
  init := MessageRound.Initial
  step := fun round round' => ∃ event, WholeRounds round event ∧
    RoundStep wrappedAngle config geometry parts api runId round event round'

end Machine

/-- A run of whole rounds is a run. -/
lemma reachable_of_wholeRounds {E ω σ γ : Type} {wrappedAngle : ℚ → ℚ} {config : MonitorConfig}
    {geometry : Geometry E} {parts : Collaborators ω} {api : GrantManagerApi σ γ} {runId : String}
    {round : MessageRound ω σ γ}
    (h : (wholeRoundMachine wrappedAngle config geometry parts api runId).Reachable round) :
    (roundMachine wrappedAngle config geometry parts api runId).Reachable round := by
  refine h.invariant (fun _ hinit => .init hinit) ?_
  rintro s t - hreach ⟨event, -, hstep⟩
  exact hreach.step ⟨event, hstep⟩

/-! ## What a tick enqueues -/

section Enqueue

variable {E ω σ γ : Type} {wrappedAngle : ℚ → ℚ} {config : MonitorConfig}
  {geometry : Geometry E} {parts : Collaborators ω} {api : GrantManagerApi σ γ} {runId : String}

/-- Enqueueing messages appends to each queue the messages of its robot. -/
lemma foldl_enqueue (messages : List ActionMessage) (queues : ActionQueues) (r : RobotId) :
    messages.foldl ActionQueues.enqueue queues r =
      queues r ++ messages.filter fun message => message.val.deviceId = r := by
  induction messages generalizing queues with
  | nil => simp
  | cons message messages ih =>
    rw [List.foldl_cons, ih]
    by_cases hr : message.val.deviceId = r
    · subst hr
      simp [ActionQueues.enqueue]
    · simp [ActionQueues.enqueue, Function.update_of_ne (Ne.symm hr), hr]

/-- A publication that ends has enqueued its message. -/
lemma publishWithRetry_enqueue {message : ActionMessage} {queues queues' : ActionQueues}
    {outcome : Option PublicationFailure}
    (h : (publishWithRetry config queuePublisher message).run queues = .ok outcome queues') :
    queues' = queues.enqueue message := by
  unfold publishWithRetry at h
  cases hleft : config.publicationMaximumAttempts.toNat with
  | zero =>
    rw [hleft] at h
    cases h
  | succ left =>
    have hpublish : (queuePublisher.publishAction message).run queues =
        .ok ⟨⟩ (queues.enqueue message) := rfl
    rw [hleft, publishAttempts_of_ok hpublish] at h
    exact (EStateM.Result.ok.inj h).2.symm

/-- The publication loop enqueues the messages in order. -/
lemma publishAll_enqueue {messages : List ActionMessage} {queues queues' : ActionQueues}
    {outcomes : List (Option PublicationFailure)}
    (h : (messages.mapM (publishWithRetry config queuePublisher)).run queues =
      .ok outcomes queues') :
    queues' = messages.foldl ActionQueues.enqueue queues := by
  induction messages generalizing queues outcomes with
  | nil =>
    rw [List.mapM_nil] at h
    exact (EStateM.Result.ok.inj h).2.symm
  | cons message messages ih =>
    rw [List.mapM_cons] at h
    obtain ⟨outcome, between, hone, h⟩ := run_bind_eq_ok.mp h
    obtain ⟨others, last, hothers, h⟩ := run_bind_eq_ok.mp h
    obtain ⟨-, rfl⟩ := EStateM.Result.ok.inj h
    rw [List.foldl_cons, ← publishWithRetry_enqueue hone]
    exact ih hothers

/-- **A tick** keeps the store, and enqueues one message for each robot of it. -/
lemma runTick_enqueue {service service' : ServiceState ω σ γ ActionQueues}
    (hkeyed : Keyed service.store) {mono : ℚ} {epoch : ℤ} {result : ServiceTickResult}
    (h : (runTick wrappedAngle config geometry parts api queuePublisher runId mono epoch).run
      service = .ok result service') :
    service'.store = service.store ∧
      OnePerRobot runId service.store service'.tickSequence result.actionMessages ∧
      ∀ r, service'.publisher r = service.publisher r ++
        result.actionMessages.filter fun message => message.val.deviceId = r := by
  rw [runTick_eq] at h
  obtain ⟨prepared, begun, hbegin, h⟩ := run_bind_eq_ok.mp h
  obtain ⟨outcomes, published, hzoom, hlift⟩ := run_bind_eq_ok.mp h
  obtain ⟨hfinish, rfl⟩ := run_lift_eq_ok.mp hlift
  obtain ⟨queues, rfl, hpublish⟩ := ((Ensures.of_runs fun o s hrun => hrun).zoom).get_ok hzoom
  obtain ⟨hstore, hqueues, -, hmessages⟩ := (beginTick_spec mono epoch service hkeyed).get_ok hbegin
  obtain ⟨_, -, hfinish⟩ := bind_eq_ok.mp hfinish
  obtain rfl := Except.ok.inj hfinish
  refine ⟨hstore, hmessages, fun r => ?_⟩
  rw [publishAll_enqueue hpublish, hqueues]
  exact foldl_enqueue _ _ r

/-- **A valid delivery** replaces the stored state of its robot unless that state is newer.

**Proof sketch.** A valid state passes the model validation, and then the store compares its
timestamp with the stored one. -/
lemma ingestPayload_valid {service service' : ServiceState ω σ γ ActionQueues} {state : RobotState}
    {received : ℚ} {result : IngestionResult}
    (h : (ingestPayload received (.wellTyped state.payload)).run service = .ok result service') :
    service'.publisher = service.publisher ∧
      ((∃ stored : StoredRobotState, stored.val.state = state ∧
          service'.store.states = service.store.states.insert state.deviceId stored ∧
          ∀ existing, service.store.states.lookup state.deviceId = some existing →
            existing.val.state.timestamp ≤ state.timestamp) ∨
        service'.store = service.store ∧
          ∃ existing, service.store.states.lookup state.deviceId = some existing ∧
            state.timestamp < existing.val.state.timestamp) := by
  unfold ingestPayload at h
  obtain ⟨_, _, hget, h⟩ := run_bind_eq_ok.mp h
  cases hget
  rw [RobotState.modelValidate_payload] at h
  dsimp only at h
  obtain ⟨⟨update, store⟩, _, hlift, h⟩ := run_bind_eq_ok.mp h
  obtain ⟨hupdate, rfl⟩ := run_lift_eq_ok.mp hlift
  obtain ⟨-, rfl⟩ := EStateM.Result.ok.inj h
  refine ⟨rfl, ?_⟩
  obtain ⟨candidate, hcandidate, hupdate⟩ := bind_eq_ok.mp hupdate
  have hstate : candidate.val.state = state := by rw [val_of_validate hcandidate]
  dsimp only at hupdate
  split at hupdate
  · next existing hexisting =>
    by_cases holder : state.timestamp < existing.val.state.timestamp
    · rw [if_pos holder] at hupdate
      obtain ⟨-, rfl⟩ := Prod.mk.inj (Except.ok.inj hupdate)
      exact .inr ⟨rfl, existing, hexisting, holder⟩
    · rw [if_neg holder] at hupdate
      obtain ⟨-, rfl⟩ := Prod.mk.inj (Except.ok.inj hupdate)
      refine .inl ⟨candidate, hstate, rfl, fun existing' hexisting' => ?_⟩
      obtain rfl := Option.some.inj (hexisting.symm.trans hexisting')
      exact not_lt.mp holder
  · next hnone =>
    obtain ⟨-, rfl⟩ := Prod.mk.inj (Except.ok.inj hupdate)
    refine .inl ⟨candidate, hstate, rfl, fun existing' hexisting' => ?_⟩
    rw [hnone] at hexisting'
    cases hexisting'

end Enqueue

/-! ## The invariant of whole rounds -/

section Invariant

variable {E ω σ γ : Type} {wrappedAngle : ℚ → ℚ} {config : MonitorConfig}
  {geometry : Geometry E} {parts : Collaborators ω} {api : GrantManagerApi σ γ} {runId : String}

/-- The robot has published a state with this timestamp or a later one. -/
def Announced (lastStateTimestamp : Dict RobotId ℕ) (r : RobotId) (timestamp : ℕ) : Prop :=
  ∃ last, lastStateTimestamp.lookup r = some last ∧ timestamp ≤ last

/-- What a robot announced stays announced when a newer state is published. -/
lemma announced_insert {lastStateTimestamp : Dict RobotId ℕ} {state : RobotState}
    (hnewer : ∀ timestamp, Announced lastStateTimestamp state.deviceId timestamp →
      timestamp < state.timestamp) {r : RobotId} {timestamp : ℕ}
    (h : Announced lastStateTimestamp r timestamp) :
    Announced (lastStateTimestamp.insert state.deviceId state.timestamp) r timestamp := by
  by_cases hr : r = state.deviceId
  · subst hr
    exact ⟨state.timestamp, AList.lookup_insert _, (hnewer timestamp h).le⟩
  · obtain ⟨last, hlast, hle⟩ := h
    exact ⟨last, by rw [AList.lookup_insert_ne hr]; exact hlast, hle⟩

/-- The states of a round, against what is queued and stored: nothing is newer than what its robot
published last, and what the monitor has taken is stored. -/
structure RoundStates (round : MessageRound ω σ γ) : Prop where
  keyed : Keyed round.service.store
  stored_le : ∀ r stored, round.service.store.states.lookup r = some stored →
    Announced round.lastStateTimestamp r stored.val.state.timestamp
  queued_le : ∀ queued ∈ round.stateQueue,
    Announced round.lastStateTimestamp queued.deviceId queued.timestamp
  messages_le : ∀ r, ∀ message ∈ round.service.publisher r,
    message.val.deviceId = r ∧ Announced round.lastStateTimestamp r message.val.sourceStateTimestamp
  robots_nodup : ((round.published ++ round.toPublish).map RobotState.deviceId).Nodup
  announced : ∀ state ∈ round.published,
    round.lastStateTimestamp.lookup state.deviceId = some state.timestamp
  newer : ∀ state ∈ round.toPublish, ∀ timestamp,
    Announced round.lastStateTimestamp state.deviceId timestamp →
    timestamp < state.timestamp
  queue_nodup : round.stateQueue.Nodup
  queued_older : ∀ queued ∈ round.stateQueue, ∀ state ∈ round.published,
    queued.deviceId = state.deviceId → queued = state ∨ queued.timestamp < state.timestamp
  untaken : ∀ state ∈ round.published, state ∈ round.stateQueue → ∀ stored,
    round.service.store.states.lookup state.deviceId = some stored →
      stored.val.state.timestamp < state.timestamp
  taken : ∀ state ∈ round.published, state ∉ round.stateQueue → round.service.store.Holds state

/-- What holds in every state of a run of whole rounds. `first` is the first tick that ran on all
states of the round, if there was one: in the queue of a robot whose action is still to be received,
its message is the first that is not stale. -/
structure RoundInvariant (round : MessageRound ω σ γ) (first : Option FleetTick) : Prop
    extends RoundStates round where
  receive_nodup : round.toReceive.Nodup
  publishing : round.toPublish ≠ [] → first = none ∧ round.actions = ∅
  first_tick : ∀ tick, first = some tick → tick ∈ round.ticks ∧
    (∀ message ∈ tick.messages, message.val.tickId = tick.tickId) ∧
    ∀ state ∈ round.published, state ∉ round.stateQueue ∧ tick.known.Holds state
  undecided : first = none → ∀ state ∈ round.published,
    ∀ message ∈ round.service.publisher state.deviceId,
      message.val.sourceStateTimestamp < state.timestamp
  decided : ∀ tick, first = some tick → ∀ state ∈ round.published,
    state.deviceId ∈ round.toReceive → ∃ stale message rest,
      round.service.publisher state.deviceId = stale ++ message :: rest ∧
      (∀ old ∈ stale, old.val.sourceStateTimestamp < state.timestamp) ∧
      message ∈ tick.messages ∧ state.timestamp ≤ message.val.sourceStateTimestamp
  answered : ∀ state ∈ round.published, ∀ message,
    round.actions.lookup state.deviceId = some message →
    ∃ tick, first = some tick ∧ message ∈ tick.messages

/-- A message of a tick carries the timestamp of the stored state of its robot. -/
lemma OnePerRobot.carries {store : LatestStateStore} {number : ℕ} {messages : List ActionMessage}
    (hone : OnePerRobot runId store number messages) {r : RobotId} {message : ActionMessage}
    (h : message ∈ messages.filter fun message => message.val.deviceId = r) :
    ∃ stored, store.states.lookup r = some stored ∧
      message.val.sourceStateTimestamp = stored.val.state.timestamp := by
  obtain ⟨hmem, hid⟩ := List.mem_filter.mp h
  obtain ⟨stored, hstored, htimestamp⟩ := hone.timestamps message hmem
  exact ⟨stored, by rw [← of_decide_eq_true hid]; exact hstored, htimestamp⟩

/-- A tick has a message for each stored state. -/
lemma OnePerRobot.exists_first {store : LatestStateStore} {number : ℕ}
    {messages : List ActionMessage}
    (hone : OnePerRobot runId store number messages) {state : RobotState}
    (hheld : store.Holds state) : ∃ message rest,
      (messages.filter fun message => message.val.deviceId = state.deviceId) = message :: rest ∧
      message ∈ messages ∧ message.val.sourceStateTimestamp = state.timestamp := by
  obtain ⟨stored, hstored, hval⟩ := hheld
  obtain ⟨message, hmem, hid⟩ : ∃ message ∈ messages, message.val.deviceId = state.deviceId := by
    rw [← List.mem_map, hone.robots, mem_sorted]
    exact AList.mem_keys.mp (Dict.mem_of_lookup hstored)
  have hsent : message ∈ messages.filter fun message => message.val.deviceId = state.deviceId :=
    List.mem_filter.mpr ⟨hmem, decide_eq_true hid⟩
  obtain ⟨head, rest, hfilter⟩ := List.exists_cons_of_ne_nil (List.ne_nil_of_mem hsent)
  have hhead : head ∈ messages.filter fun message => message.val.deviceId = state.deviceId := by
    rw [hfilter]
    exact List.mem_cons_self
  obtain ⟨stored', hstored', htimestamp⟩ := hone.carries hhead
  obtain rfl := Option.some.inj (hstored.symm.trans hstored')
  exact ⟨head, rest, hfilter, (List.mem_filter.mp hhead).1, htimestamp.trans (by rw [hval])⟩

namespace RoundInvariant

variable {round round' : MessageRound ω σ γ} {first : Option FleetTick}

/-- **The law** follows from the invariant. -/
lemma oneDecision (hinv : RoundInvariant round first) : round.OneDecision where
  sameTick state hstate state' hstate' message message' hmessage hmessage' := by
    obtain ⟨tick, hfirst, hmem⟩ := hinv.answered state hstate message hmessage
    obtain ⟨tick', hfirst', hmem'⟩ := hinv.answered state' hstate' message' hmessage'
    obtain rfl := Option.some.inj (hfirst.symm.trans hfirst')
    obtain ⟨-, hticks, -⟩ := hinv.first_tick tick hfirst
    rw [hticks message hmem, hticks message' hmem']
  decided state hstate message hmessage := by
    obtain ⟨tick, hfirst, hmem⟩ := hinv.answered state hstate message hmessage
    obtain ⟨hticks, -, hheld⟩ := hinv.first_tick tick hfirst
    refine ⟨tick, hticks, hmem, fun other hother => ?_⟩
    rcases List.mem_append.mp hother with hother | hother
    · exact (hheld other hother).2
    · -- nothing is decided while the round still publishes
      obtain ⟨hnone, -⟩ := hinv.publishing (List.ne_nil_of_mem hother)
      rw [hfirst] at hnone
      cases hnone

/-- Nothing has happened in the first state. -/
lemma fresh (h : round.Initial) : RoundInvariant round none := by
  obtain ⟨engine, rfl⟩ := h
  exact
    { keyed := fun r stored h => by
        rw [AList.lookup_empty] at h
        cases h
      stored_le := fun r stored h => by
        rw [AList.lookup_empty] at h
        cases h
      queued_le := fun _ h => by cases h
      messages_le := fun _ _ h => by cases h
      robots_nodup := .nil
      announced := fun _ h => by cases h
      newer := fun _ h => by cases h
      queue_nodup := .nil
      queued_older := fun _ h => by cases h
      untaken := fun _ h => by cases h
      taken := fun _ h => by cases h
      receive_nodup := .nil
      publishing := fun h => absurd rfl h
      first_tick := fun _ h => by cases h
      undecided := fun _ _ h => by cases h
      decided := fun _ h => by cases h
      answered := fun _ h => by cases h }

/-- A new round publishes newer states. -/
lemma start (hinv : RoundInvariant round first) {states : List RobotState}
    {robotIds : List RobotId} (hstates : (states.map RobotState.deviceId).Nodup)
    (hrobots : robotIds.Nodup) (hwhole : WholeRounds round (.start states robotIds)) :
    RoundInvariant { round with
      toPublish := states
      published := []
      toReceive := sorted robotIds
      actions := ∅ } none where
  keyed := hinv.keyed
  stored_le := hinv.stored_le
  queued_le := hinv.queued_le
  messages_le := hinv.messages_le
  robots_nodup := hstates
  announced _ h := by cases h
  newer state hstate timestamp h := by
    obtain ⟨last, hlast, hle⟩ := h
    exact hle.trans_lt (hwhole state hstate last hlast)
  queue_nodup := hinv.queue_nodup
  queued_older _ _ _ h := by cases h
  untaken _ h := by cases h
  taken _ h := by cases h
  receive_nodup := sorted_nodup.mpr hrobots
  publishing _ := ⟨rfl, rfl⟩
  first_tick _ h := by cases h
  undecided _ _ h := by cases h
  decided _ h := by cases h
  answered _ h := by cases h

/-- A published state is newer than everything that is queued or stored about its robot.

**Proof sketch.** The new state is later than every timestamp announced for its robot, so it is not
in the queue, and the queued states of its robot are older. All other robots keep what was announced
for them. -/
lemma publish_states (hinv : RoundStates round) {state : RobotState} {rest : List RobotState}
    (hstate : round.toPublish = state :: rest) :
    RoundStates { round with
      stateQueue := round.stateQueue ++ [state]
      lastStateTimestamp := round.lastStateTimestamp.insert state.deviceId state.timestamp
      toPublish := rest
      published := round.published ++ [state] } := by
  have hnewer := hinv.newer state (by rw [hstate]; exact List.mem_cons_self)
  have hrobots := hinv.robots_nodup
  rw [hstate, List.map_append, List.map_cons] at hrobots
  have hother : ∀ other ∈ round.published ++ rest, other.deviceId ≠ state.deviceId := by
    intro other hmem heq
    have hnodup := (List.nodup_middle.mp hrobots)
    refine (List.nodup_cons.mp hnodup).1 ?_
    rw [← heq, ← List.map_append]
    exact List.mem_map_of_mem hmem
  have hqueue : state ∉ round.stateQueue := fun hmem =>
    (hnewer _ (hinv.queued_le state hmem)).ne rfl
  have hkeep : ∀ {r timestamp}, Announced round.lastStateTimestamp r timestamp →
      Announced (round.lastStateTimestamp.insert state.deviceId state.timestamp) r timestamp :=
    announced_insert hnewer
  exact
    { keyed := hinv.keyed
      stored_le := fun r stored h => hkeep (hinv.stored_le r stored h)
      queued_le := fun queued hqueued => by
        rcases List.mem_append.mp hqueued with hqueued | hqueued
        · exact hkeep (hinv.queued_le queued hqueued)
        · rw [List.mem_singleton.mp hqueued]
          exact ⟨state.timestamp, AList.lookup_insert _, Nat.le_refl _⟩
      messages_le := fun r message hmessage =>
        ⟨(hinv.messages_le r message hmessage).1, hkeep (hinv.messages_le r message hmessage).2⟩
      robots_nodup := by
        have h := hinv.robots_nodup
        rw [hstate] at h
        simpa using h
      announced := fun other hmem => by
        rcases List.mem_append.mp hmem with hmem | hmem
        · rw [AList.lookup_insert_ne (hother other (List.mem_append_left _ hmem))]
          exact hinv.announced other hmem
        · rw [List.mem_singleton.mp hmem]
          exact AList.lookup_insert _
      newer := fun other hmem timestamp h => by
        obtain ⟨last, hlast, hle⟩ := h
        rw [AList.lookup_insert_ne (hother other (List.mem_append_right _ hmem))] at hlast
        exact hinv.newer other (by rw [hstate]; exact List.mem_cons_of_mem _ hmem) timestamp
          ⟨last, hlast, hle⟩
      queue_nodup := List.nodup_append.mpr ⟨hinv.queue_nodup, List.nodup_singleton _,
        fun a ha b hb heq => hqueue (List.mem_singleton.mp hb ▸ heq ▸ ha)⟩
      queued_older := fun queued hqueued other hmem heq => by
        rcases List.mem_append.mp hqueued with hold | hnew
        · rcases List.mem_append.mp hmem with hmem | hmem
          · exact hinv.queued_older queued hold other hmem heq
          · rw [List.mem_singleton.mp hmem] at heq ⊢
            exact .inr (hnewer _ (heq ▸ hinv.queued_le queued hold))
        · rw [List.mem_singleton.mp hnew] at heq ⊢
          rcases List.mem_append.mp hmem with hmem | hmem
          · exact absurd heq.symm (hother other (List.mem_append_left _ hmem))
          · exact .inl (List.mem_singleton.mp hmem).symm
      untaken := fun other hmem hqueued stored hstored => by
        rcases List.mem_append.mp hmem with hmem | hmem
        · rcases List.mem_append.mp hqueued with hqueued | hqueued
          · exact hinv.untaken other hmem hqueued stored hstored
          · exact absurd (congrArg _ (List.mem_singleton.mp hqueued))
              (hother other (List.mem_append_left _ hmem))
        · rw [List.mem_singleton.mp hmem] at hstored ⊢
          exact hnewer _ (hinv.stored_le _ stored hstored)
      taken := fun other hmem hqueued => by
        rw [List.mem_append, not_or] at hqueued
        rcases List.mem_append.mp hmem with hmem | hmem
        · exact hinv.taken other hmem hqueued.1
        · exact absurd hmem hqueued.2 }

/-- Publishing decides nothing. -/
lemma publish (hinv : RoundInvariant round first) {state : RobotState} {rest : List RobotState}
    (hstate : round.toPublish = state :: rest) :
    RoundInvariant { round with
      stateQueue := round.stateQueue ++ [state]
      lastStateTimestamp := round.lastStateTimestamp.insert state.deviceId state.timestamp
      toPublish := rest
      published := round.published ++ [state] } first := by
  have hnewer := hinv.newer state (by rw [hstate]; exact List.mem_cons_self)
  obtain ⟨rfl, hactions⟩ := hinv.publishing (by rw [hstate]; exact List.cons_ne_nil _ _)
  exact
    { publish_states hinv.toRoundStates hstate with
      receive_nodup := hinv.receive_nodup
      publishing := fun _ => ⟨rfl, hactions⟩
      first_tick := fun _ h => by cases h
      undecided := fun _ other hmem message hmessage => by
        rcases List.mem_append.mp hmem with hmem | hmem
        · exact hinv.undecided rfl other hmem message hmessage
        · rw [List.mem_singleton.mp hmem] at hmessage ⊢
          exact hnewer _ (hinv.messages_le _ message hmessage).2
      decided := fun _ h => by cases h
      answered := fun other _ message h => by
        rw [hactions, AList.lookup_empty] at h
        cases h }

/-- A taken state replaces every older state of its robot, and no newer one.

**Proof sketch.** Ingestion stores the state or refuses it for a newer one. A state in the queue is
newer than what is stored about its robot unless a later one was taken before, so a state of this
round that has left the queue stays stored. -/
lemma take_states (hinv : RoundStates round) {state : RobotState} {rest : List RobotState}
    (hstate : round.stateQueue = state :: rest) {received : ℚ} {result : IngestionResult}
    {service' : ServiceState ω σ γ ActionQueues}
    (h : (ingestPayload received (.wellTyped state.payload)).run round.service =
      .ok result service') :
    RoundStates { round with service := service', stateQueue := rest } := by
  obtain ⟨hqueues, hstore⟩ := ingestPayload_valid h
  have hmem : state ∈ round.stateQueue := by rw [hstate]; exact List.mem_cons_self
  have hsub : ∀ queued ∈ rest, queued ∈ round.stateQueue := fun queued h => by
    rw [hstate]
    exact List.mem_cons_of_mem _ h
  have hnodup := hinv.queue_nodup
  rw [hstate] at hnodup
  -- what a robot's stored state is afterwards
  have hafter : ∀ r stored, service'.store.states.lookup r = some stored →
      round.service.store.states.lookup r = some stored ∨
        r = state.deviceId ∧ stored.val.state = state := by
    intro r stored hstored
    rcases hstore with ⟨candidate, hcandidate, hinsert, -⟩ | ⟨hsame, -⟩
    · rw [hinsert, Dict.lookup_insert_eq_ite] at hstored
      split_ifs at hstored with hr
      · obtain rfl := Option.some.inj hstored
        exact .inr ⟨hr, hcandidate⟩
      · exact .inl hstored
    · rw [hsame] at hstored
      exact .inl hstored
  refine
    { keyed := fun r stored hstored => ?_
      stored_le := fun r stored hstored => ?_
      queued_le := fun queued hqueued => hinv.queued_le queued (hsub queued hqueued)
      messages_le := fun r message hmessage => hinv.messages_le r message (hqueues ▸ hmessage)
      robots_nodup := hinv.robots_nodup
      announced := hinv.announced
      newer := hinv.newer
      queue_nodup := (List.nodup_cons.mp hnodup).2
      queued_older := fun queued hqueued => hinv.queued_older queued (hsub queued hqueued)
      untaken := fun other hother hqueued stored hstored => ?_
      taken := fun other hother hqueued => ?_ }
  · rcases hafter r stored hstored with hold | ⟨rfl, hnew⟩
    · exact hinv.keyed r stored hold
    · rw [hnew]
  · rcases hafter r stored hstored with hold | ⟨rfl, hnew⟩
    · exact hinv.stored_le r stored hold
    · rw [hnew]
      exact hinv.queued_le state hmem
  · rcases hafter other.deviceId stored hstored with hold | ⟨hr, hnew⟩
    · exact hinv.untaken other hother (hsub other hqueued) stored hold
    · rcases hinv.queued_older state hmem other hother hr.symm with rfl | hlt
      · exact absurd hqueued (List.nodup_cons.mp hnodup).1
      · rw [hnew]
        exact hlt
  · by_cases heq : other = state
    · -- this state was taken now, and it is newer than what was stored
      subst heq
      rcases hstore with ⟨candidate, hcandidate, hinsert, -⟩ | ⟨-, existing, hexisting, hlt⟩
      · exact ⟨candidate, by rw [hinsert]; exact AList.lookup_insert _, hcandidate⟩
      · exact absurd (hinv.untaken other hother hmem existing hexisting) hlt.asymm
    · have hout : other ∉ round.stateQueue := by
        rw [hstate, List.mem_cons, not_or]
        exact ⟨heq, hqueued⟩
      obtain ⟨held, hheld, hval⟩ := hinv.taken other hother hout
      rcases hstore with ⟨candidate, hcandidate, hinsert, hle⟩ | ⟨hsame, -⟩
      · refine ⟨held, ?_, hval⟩
        rw [hinsert, Dict.lookup_insert_eq_ite, if_neg, hheld]
        -- an older state of the same robot would have been refused
        intro hr
        have hnotolder := hle held (by rw [← hr]; exact hheld)
        rw [hval] at hnotolder
        rcases hinv.queued_older state hmem other hother hr.symm with rfl | hlt
        · exact heq rfl
        · exact absurd hlt hnotolder.not_gt
      · exact ⟨held, by rw [hsame]; exact hheld, hval⟩

/-- Taking a state sends nothing. -/
lemma take (hinv : RoundInvariant round first) {state : RobotState} {rest : List RobotState}
    (hstate : round.stateQueue = state :: rest) {received : ℚ} {result : IngestionResult}
    {service' : ServiceState ω σ γ ActionQueues}
    (h : (ingestPayload received (.wellTyped state.payload)).run round.service =
      .ok result service') :
    RoundInvariant { round with service := service', stateQueue := rest } first := by
  obtain ⟨hqueues, -⟩ := ingestPayload_valid h
  refine { take_states hinv.toRoundStates hstate h with
    receive_nodup := hinv.receive_nodup
    publishing := hinv.publishing
    first_tick := fun tick htick => ?_
    undecided := fun hnone other hother message hmessage =>
      hinv.undecided hnone other hother message (hqueues ▸ hmessage)
    decided := fun tick htick other hother hreceive => ?_
    answered := hinv.answered }
  · obtain ⟨hticks, hids, hheld⟩ := hinv.first_tick tick htick
    refine ⟨hticks, hids, fun other hother => ⟨fun hmem => (hheld other hother).1 ?_,
      (hheld other hother).2⟩⟩
    rw [hstate]
    exact List.mem_cons_of_mem _ hmem
  · rw [hqueues]
    exact hinv.decided tick htick other hother hreceive

/-- A tick changes nothing about the states. -/
lemma tick_states (hinv : RoundStates round) {service' : ServiceState ω σ γ ActionQueues}
    (hstore : service'.store = round.service.store) {number : ℕ} {messages : List ActionMessage}
    (hone : OnePerRobot runId round.service.store number messages)
    (hqueues : ∀ r, service'.publisher r = round.service.publisher r ++
      messages.filter fun message => message.val.deviceId = r) (ticks : List FleetTick) :
    RoundStates { round with service := service', ticks } where
  keyed := by rw [hstore]; exact hinv.keyed
  stored_le := by rw [hstore]; exact hinv.stored_le
  queued_le := hinv.queued_le
  messages_le r message hmessage := by
    rw [hqueues] at hmessage
    rcases List.mem_append.mp hmessage with hold | hnew
    · exact hinv.messages_le r message hold
    · obtain ⟨stored, hstored, htimestamp⟩ := hone.carries hnew
      exact ⟨of_decide_eq_true (List.mem_filter.mp hnew).2,
        htimestamp ▸ hinv.stored_le r stored hstored⟩
  robots_nodup := hinv.robots_nodup
  announced := hinv.announced
  newer := hinv.newer
  queue_nodup := hinv.queue_nodup
  queued_older := hinv.queued_older
  untaken := by rw [hstore]; exact hinv.untaken
  taken := by rw [hstore]; exact hinv.taken

/-- **A tick** on none of the states of the round sends stale actions only. The first tick on all of
them sends each robot its first action that is not stale, and later ticks come after it.

**Proof sketch.** By cases on whether a first tick has decided. If so, the new messages go behind
those that the invariant speaks of. If not, a tick on no state of the round sends timestamps older
than the round, and one on all of them is the first: its message to a robot carries the timestamp of
the published state. -/
lemma tick (hinv : RoundInvariant round first) {mono : ℚ} {epoch : ℤ} {result : ServiceTickResult}
    {service' : ServiceState ω σ γ ActionQueues}
    (h : (runTick wrappedAngle config geometry parts api queuePublisher runId mono epoch).run
      round.service = .ok result service')
    (hwhole : round.NoneTaken ∨ round.AllTaken) :
    ∃ first', RoundInvariant { round with
      service := service'
      ticks := round.ticks ++ [{
        tickId := tickIdOf service'.tickSequence
        known := round.service.store
        messages := result.actionMessages }] } first' := by
  obtain ⟨hstore, hone, hqueues⟩ := runTick_enqueue hinv.keyed h
  have hstates := fun ticks => tick_states hinv.toRoundStates hstore hone hqueues ticks
  cases first with
  | some tick =>
    refine ⟨some tick, { hstates _ with
      receive_nodup := hinv.receive_nodup
      publishing := hinv.publishing
      first_tick := fun tick' htick => ?_
      undecided := fun hnone => by cases hnone
      decided := fun tick' htick state hstate hreceive => ?_
      answered := hinv.answered }⟩
    · obtain ⟨hmem, hrest⟩ := hinv.first_tick tick' htick
      exact ⟨List.mem_append_left _ hmem, hrest⟩
    · obtain ⟨stale, message, rest, hqueue, hmessage⟩ :=
        hinv.decided tick' htick state hstate hreceive
      exact ⟨stale, message, _, by rw [hqueues, hqueue, List.append_assoc, List.cons_append],
        hmessage⟩
  | none =>
    have hnoaction : ∀ state ∈ round.published, ∀ message,
        round.actions.lookup state.deviceId ≠ some message := by
      intro state hstate message hmessage
      obtain ⟨_, hnone, -⟩ := hinv.answered state hstate message hmessage
      cases hnone
    rcases hwhole with hnone | ⟨hpublished, hall⟩
    · refine ⟨none, { hstates _ with
        receive_nodup := hinv.receive_nodup
        publishing := hinv.publishing
        first_tick := fun _ htick => by cases htick
        undecided := fun _ state hstate message hmessage => ?_
        decided := fun _ htick => by cases htick
        answered := fun state hstate message hmessage =>
          absurd hmessage (hnoaction state hstate message) }⟩
      rw [hqueues] at hmessage
      rcases List.mem_append.mp hmessage with hold | hnew
      · exact hinv.undecided rfl state hstate message hold
      · obtain ⟨stored, hstored, htimestamp⟩ := hone.carries hnew
        rw [htimestamp]
        exact hinv.untaken state hstate (hnone state hstate) stored hstored
    · refine ⟨some ⟨tickIdOf service'.tickSequence, round.service.store, result.actionMessages⟩, {
        hstates _ with
        receive_nodup := hinv.receive_nodup
        publishing := fun hne => absurd hpublished hne
        first_tick := fun tick' htick => ?_
        undecided := fun hnone => by cases hnone
        decided := fun tick' htick state hstate hreceive => ?_
        answered := fun state hstate message hmessage =>
          absurd hmessage (hnoaction state hstate message) }⟩
      · obtain rfl := Option.some.inj htick
        exact ⟨List.mem_append_right _ (List.mem_singleton_self _),
          fun message hmessage => (hone.identities message hmessage).2,
          fun state hstate => ⟨hall state hstate, hinv.taken state hstate (hall state hstate)⟩⟩
      · obtain rfl := Option.some.inj htick
        obtain ⟨message, rest, hfilter, hmem, htimestamp⟩ :=
          hone.exists_first (hinv.taken state hstate (hall state hstate))
        exact ⟨round.service.publisher state.deviceId, message, rest, by rw [hqueues, hfilter],
          hinv.undecided rfl state hstate, hmem, htimestamp.ge⟩

/-- What is left in the queues after a message is received was in them before. -/
lemma mem_of_mem_update {publisher : ActionQueues} {r r' : RobotId} {message other : ActionMessage}
    {queue : List ActionMessage} (hmessage : publisher r = message :: queue)
    (h : other ∈ Function.update publisher r queue r') : other ∈ publisher r' := by
  by_cases hr : r' = r
  · rw [hr, Function.update_self] at h
    rw [hr, hmessage]
    exact List.mem_cons_of_mem _ h
  · rwa [Function.update_of_ne hr] at h

/-- Receiving shortens the queue of one robot, which changes nothing about the states. -/
lemma receive_states (hinv : RoundStates round) {r : RobotId} {message : ActionMessage}
    {queue : List ActionMessage} (hmessage : round.service.publisher r = message :: queue)
    (toReceive : List RobotId) (actions : Dict RobotId ActionMessage) :
    RoundStates { round with
      service := { round.service with
        publisher := Function.update round.service.publisher r queue }
      toReceive
      actions } where
  keyed := hinv.keyed
  stored_le := hinv.stored_le
  queued_le := hinv.queued_le
  messages_le r' other hother := hinv.messages_le r' other (mem_of_mem_update hmessage hother)
  robots_nodup := hinv.robots_nodup
  announced := hinv.announced
  newer := hinv.newer
  queue_nodup := hinv.queue_nodup
  queued_older := hinv.queued_older
  untaken := hinv.untaken
  taken := hinv.taken

section Receive

variable {r : RobotId} {message : ActionMessage} {queue : List ActionMessage}

/-- Freshness is judged against the state that the robot published in this round. -/
lemma fresh_iff (hinv : RoundStates round) (hmessage : round.service.publisher r = message :: queue)
    {state : RobotState} (hstate : state ∈ round.published) (hr : state.deviceId = r) :
    round.Fresh r message ↔ state.timestamp ≤ message.val.sourceStateTimestamp := by
  subst hr
  have hid := (hinv.messages_le state.deviceId message
    (by rw [hmessage]; exact List.mem_cons_self)).1
  simp [MessageRound.Fresh, hid, hinv.announced state hstate]

/-- The first message in the queue of a waiting robot is its action, or comes before it. -/
lemma decided_cons (hinv : RoundInvariant round first)
    (hmessage : round.service.publisher r = message :: queue) {tick : FleetTick}
    (htick : first = some tick) {state : RobotState} (hstate : state ∈ round.published)
    (hr : state.deviceId = r) (hreceive : r ∈ round.toReceive) :
    (message ∈ tick.messages ∧ state.timestamp ≤ message.val.sourceStateTimestamp) ∨
      message.val.sourceStateTimestamp < state.timestamp ∧ ∃ stale decision rest,
        queue = stale ++ decision :: rest ∧
        (∀ old ∈ stale, old.val.sourceStateTimestamp < state.timestamp) ∧
        decision ∈ tick.messages ∧ state.timestamp ≤ decision.val.sourceStateTimestamp := by
  subst hr
  obtain ⟨stale, decision, rest, hsplit, hold, hdecision⟩ :=
    hinv.decided tick htick state hstate hreceive
  rw [hmessage] at hsplit
  rcases List.cons_eq_append_iff.mp hsplit with ⟨rfl, hcons⟩ | ⟨stale', rfl, hcons⟩
  · obtain ⟨rfl, -⟩ := List.cons.inj hcons
    exact .inl hdecision
  · exact .inr ⟨hold message List.mem_cons_self, stale', decision, rest, hcons,
      fun old hmem => hold old (List.mem_cons_of_mem _ hmem), hdecision⟩

/-- The action of another robot stays where it is. -/
lemma decided_of_ne (hinv : RoundInvariant round first) (queue : List ActionMessage)
    {tick : FleetTick} (htick : first = some tick) {state : RobotState}
    (hstate : state ∈ round.published) (hr : state.deviceId ≠ r)
    (hreceive : state.deviceId ∈ round.toReceive) : ∃ stale decision rest,
      Function.update round.service.publisher r queue state.deviceId = stale ++ decision :: rest ∧
      (∀ old ∈ stale, old.val.sourceStateTimestamp < state.timestamp) ∧
      decision ∈ tick.messages ∧ state.timestamp ≤ decision.val.sourceStateTimestamp := by
  rw [Function.update_of_ne hr]
  exact hinv.decided tick htick state hstate hreceive

/-- **A stale message is dropped**, and it was no action of the round. -/
lemma discard (hinv : RoundInvariant round first)
    (hmessage : round.service.publisher r = message :: queue) (hstale : ¬ round.Fresh r message) :
    RoundInvariant { round with
      service := { round.service with
        publisher := Function.update round.service.publisher r queue } } first := by
  refine { receive_states hinv.toRoundStates hmessage _ _ with
    receive_nodup := hinv.receive_nodup
    publishing := hinv.publishing
    first_tick := hinv.first_tick
    undecided := fun hnone state hstate other hother =>
      hinv.undecided hnone state hstate other (mem_of_mem_update hmessage hother)
    decided := fun tick htick state hstate hreceive => ?_
    answered := hinv.answered }
  by_cases hr : state.deviceId = r
  · rcases hinv.decided_cons hmessage htick hstate hr (hr ▸ hreceive) with
      hdecision | ⟨-, hafter⟩
    · exact absurd ((fresh_iff hinv.toRoundStates hmessage hstate hr).mpr hdecision.2) hstale
    · dsimp only
      rwa [hr, Function.update_self]
  · exact hinv.decided_of_ne queue htick hstate hr hreceive

/-- **The first message that is not stale** is the action of the robot.

**Proof sketch.** The robot that answers leaves the list of those that are waited for. Its message
is not stale, so a tick on all states of the round has decided, and the message is the one that this
tick sent to the robot. -/
lemma accept (hinv : RoundInvariant round first) (hpublished : round.toPublish = [])
    {robots : List RobotId} (hrobot : round.toReceive = r :: robots)
    (hmessage : round.service.publisher r = message :: queue) (hfresh : round.Fresh r message) :
    RoundInvariant { round with
      service := { round.service with
        publisher := Function.update round.service.publisher r queue }
      toReceive := robots
      actions := round.actions.insert r message } first := by
  have hnodup := hinv.receive_nodup
  rw [hrobot] at hnodup
  refine { receive_states hinv.toRoundStates hmessage _ _ with
    receive_nodup := (List.nodup_cons.mp hnodup).2
    publishing := fun hne => absurd hpublished hne
    first_tick := hinv.first_tick
    undecided := fun hnone state hstate other hother =>
      hinv.undecided hnone state hstate other (mem_of_mem_update hmessage hother)
    decided := fun tick htick state hstate hreceive => ?_
    answered := fun state hstate other hother => ?_ }
  · -- a robot that still waits is another one
    have hr : state.deviceId ≠ r := fun hr =>
      (List.nodup_cons.mp hnodup).1 (hr ▸ hreceive)
    exact hinv.decided_of_ne queue htick hstate hr
      (by rw [hrobot]; exact List.mem_cons_of_mem _ hreceive)
  · by_cases hr : state.deviceId = r
    · dsimp only at hother
      rw [hr, AList.lookup_insert] at hother
      obtain rfl := Option.some.inj hother
      have hnotold := (fresh_iff hinv.toRoundStates hmessage hstate hr).mp hfresh
      cases first with
      | none =>
        have hold := hinv.undecided rfl state hstate message
          (by rw [hr, hmessage]; exact List.mem_cons_self)
        exact absurd hold hnotold.not_gt
      | some tick =>
        rcases hinv.decided_cons hmessage rfl hstate hr
          (by rw [hrobot]; exact List.mem_cons_self) with hdecision | ⟨hold, -⟩
        · exact ⟨tick, rfl, hdecision.1⟩
        · exact absurd hold hnotold.not_gt
    · dsimp only at hother
      rw [AList.lookup_insert_ne hr] at hother
      exact hinv.answered state hstate other hother

end Receive

/-- An action that does not arrive is not among the actions of the round. -/
lemma timeout (hinv : RoundInvariant round first) {r : RobotId} {robots : List RobotId}
    (hrobot : round.toReceive = r :: robots) :
    RoundInvariant { round with toReceive := robots } first := by
  have hnodup := hinv.receive_nodup
  rw [hrobot] at hnodup
  refine { hinv with
    receive_nodup := (List.nodup_cons.mp hnodup).2
    decided := fun tick htick state hstate hreceive => ?_ }
  exact hinv.decided tick htick state hstate (by rw [hrobot]; exact List.mem_cons_of_mem _ hreceive)

/-- **The step lemma.** -/
lemma step (hinv : RoundInvariant round first) {event : RoundEvent}
    (hwhole : WholeRounds round event)
    (h : RoundStep wrappedAngle config geometry parts api runId round event round') :
    ∃ first', RoundInvariant round' first' := by
  cases h with
  | start states robotIds _ hstates hrobots => exact ⟨none, hinv.start hstates hrobots hwhole⟩
  | publish hstate => exact ⟨first, hinv.publish hstate⟩
  | take received hstate h => exact ⟨first, hinv.take hstate h⟩
  | tick mono epoch h => exact hinv.tick h hwhole
  | discard _ _ hmessage hstale => exact ⟨first, hinv.discard hmessage hstale⟩
  | accept hpublished hrobot hmessage hfresh =>
    exact ⟨first, hinv.accept hpublished hrobot hmessage hfresh⟩
  | timeout _ hrobot => exact ⟨first, hinv.timeout hrobot⟩

end RoundInvariant

/-- **Actions applied together were validated together** in every run in which each tick runs on
none or on all of the states of a round, and each round publishes newer states than the rounds
before it.

**Proof sketch.** By induction over the run. A tick on all states of a round answers all of its
robots, one on none of them answers with timestamps that are too old to be taken
(`RoundInvariant.step`). -/
theorem wholeRounds_oneDecision {round : MessageRound ω σ γ}
    (h : (wholeRoundMachine wrappedAngle config geometry parts api runId).Reachable round) :
    round.OneDecision := by
  obtain ⟨first, hinv⟩ : ∃ first, RoundInvariant round first := by
    refine Machine.Reachable.invariant (P := fun round => ∃ first, RoundInvariant round first)
      (fun _ hinit => ⟨none, .fresh hinit⟩) ?_ h
    rintro s t - ⟨first, hinv⟩ ⟨event, hwhole, hstep⟩
    exact hinv.step hwhole hstep
  exact hinv.oneDecision

end Invariant

/-! ## Two robots -/

/-- The monitor takes a state of the round. -/
def takeState (state : RobotState) : Service ℕ Store ℕ ActionQueues IngestionResult :=
  ingestPayload 1 (.wellTyped state.payload)

/-- The monitor runs a tick. -/
def lineTick : Service ℕ Store ℕ ActionQueues ServiceTickResult :=
  runTick id defaultConfig lineGeometry (shippedCollaborators defaultConfig lineGeometry fun _ => none)
    (managerApi defaultConfig) queuePublisher "run" 2 5

/-- The first message in the queue of a robot. -/
def firstAction (service : ServiceState ℕ Store ℕ ActionQueues) (r : RobotId) :
    Option (RobotId × String × Action) :=
  (service.publisher r).head?.map fun message =>
    (message.val.deviceId, message.val.tickId, message.val.action)

/-- A fresh monitor. -/
def lineMonitor : ServiceState ℕ Store ℕ ActionQueues :=
  { engine := EngineState.initial 0, publisher := fun _ => [] }

/-- The steps of the shipped monitor and a simulator of robots on a line. -/
abbrev LineStep : MessageRound ℕ Store ℕ → RoundEvent → MessageRound ℕ Store ℕ → Prop :=
  RoundStep id defaultConfig lineGeometry
    (shippedCollaborators defaultConfig lineGeometry fun _ => none) (managerApi defaultConfig) "run"

/-- Their runs. -/
abbrev lineRounds : Machine (MessageRound ℕ Store ℕ) :=
  roundMachine id defaultConfig lineGeometry
    (shippedCollaborators defaultConfig lineGeometry fun _ => none) (managerApi defaultConfig) "run"

/-- Their runs without a tick on a part of a round. -/
abbrev lineWholeRounds : Machine (MessageRound ℕ Store ℕ) :=
  wholeRoundMachine id defaultConfig lineGeometry
    (shippedCollaborators defaultConfig lineGeometry fun _ => none) (managerApi defaultConfig) "run"

/-- A robot that moves to the right. -/
def rightward : RobotState := lineState robotA 0 [0, 3]

/-- A robot that moves to the left, and has priority. -/
def leftward : RobotState := { lineState robotB 5 [5, 2] with loaded := true, deadline := 0 }

/-- A round of two robots that approach each other, before the monitor takes a state. -/
def publishedRound : MessageRound ℕ Store ℕ where
  service := lineMonitor
  stateQueue := [rightward, leftward]
  lastStateTimestamp := AList.insert robotB 0 (AList.insert robotA 0 ∅)
  published := [rightward, leftward]
  toReceive := [robotA, robotB]

/-- The two states can be published in a whole round. -/
lemma publishedRound_reachable : lineWholeRounds.Reachable publishedRound := by
  have hinit : lineWholeRounds.Reachable { service := lineMonitor } :=
    .init ⟨EngineState.initial 0, rfl⟩
  have hnewer :
      WholeRounds { service := lineMonitor } (.start [rightward, leftward] [robotA, robotB]) :=
    fun _ _ _ h => by
      rw [AList.lookup_empty] at h
      cases h
  have hstarted := hinit.step ⟨_, hnewer, RoundStep.start [rightward, leftward] [robotA, robotB]
    ⟨rfl, rfl⟩ (by decide) (by decide)⟩
  have hfirst := hstarted.step ⟨.publish, trivial, .publish rfl⟩
  exact hfirst.step ⟨.publish, trivial, .publish rfl⟩

/-- Both robots receive the first message of their queue. -/
lemma accept_both {M : Machine (MessageRound ℕ Store ℕ)}
    (haccept : ∀ round round', LineStep round .accept round' → M.step round round')
    {round : MessageRound ℕ Store ℕ} (hreach : M.Reachable round)
    (hpublished : round.toPublish = []) (hreceive : round.toReceive = [robotA, robotB])
    (hlast : round.lastStateTimestamp = publishedRound.lastStateTimestamp)
    {tickA tickB : String} {actionA actionB : Action}
    (hA : firstAction round.service robotA = some (robotA, tickA, actionA))
    (hB : firstAction round.service robotB = some (robotB, tickB, actionB)) :
    ∃ messageA messageB, messageA.val.tickId = tickA ∧ messageB.val.tickId = tickB ∧
      messageA.val.action = actionA ∧ messageB.val.action = actionB ∧
      ∃ service, M.Reachable { round with
        service
        toReceive := []
        actions := (round.actions.insert robotA messageA).insert robotB messageB } := by
  obtain ⟨messageA, hheadA, hfieldsA⟩ := Option.map_eq_some_iff.mp hA
  obtain ⟨messageB, hheadB, hfieldsB⟩ := Option.map_eq_some_iff.mp hB
  obtain ⟨queueA, hqueueA⟩ := List.head?_eq_some_iff.mp hheadA
  obtain ⟨queueB, hqueueB⟩ := List.head?_eq_some_iff.mp hheadB
  simp only [Prod.mk.injEq] at hfieldsA hfieldsB
  obtain ⟨hidA, htickA, hactionA⟩ := hfieldsA
  obtain ⟨hidB, htickB, hactionB⟩ := hfieldsB
  have hzero : ∀ r ∈ [robotA, robotB], (round.lastStateTimestamp.lookup r).getD 0 = 0 := by
    rw [hlast]
    decide
  have hfirst := hreach.step (haccept _ _ (.accept hpublished hreceive hqueueA
    ⟨hidA, (hzero robotA (by simp)).le.trans (Nat.zero_le _)⟩))
  have hqueueB' : Function.update round.service.publisher robotA queueA robotB =
      messageB :: queueB := by
    rw [Function.update_of_ne (by decide), hqueueB]
  have hsecond := hfirst.step (haccept _ _ (.accept hpublished rfl hqueueB'
    ⟨hidB, (hzero robotB (by simp)).le.trans (Nat.zero_le _)⟩))
  exact ⟨messageA, messageB, htickA, htickB, hactionA, hactionB, _, hsecond⟩

/-- The monitor takes both states and decides. -/
def wholeTick : Service ℕ Store ℕ ActionQueues PUnit := do
  let _ ← takeState rightward
  let _ ← takeState leftward
  let _ ← lineTick

/-- The monitor decides after each state. -/
def splitTicks : Service ℕ Store ℕ ActionQueues PUnit := do
  let _ ← takeState rightward
  let _ ← lineTick
  let _ ← takeState leftward
  let _ ← lineTick

/-- One tick on both robots resumes one of them and pauses the other. -/
theorem wholeRounds_oneDecision_approaching : ∃ round, lineWholeRounds.Reachable round ∧
    (round.actions.lookup robotA).map (fun message => message.val.action) = some .pause ∧
    (round.actions.lookup robotB).map (fun message => message.val.action) = some .resume ∧
    round.OneDecision := by
  obtain ⟨_, final, hrun, hA, hB⟩ := Ensures.exists_ok (x := wholeTick) (s := lineMonitor)
    (Q := fun _ service =>
      firstAction service robotA = some (robotA, "tick-00000001", .pause) ∧
      firstAction service robotB = some (robotB, "tick-00000001", .resume)) (by decide +kernel)
  obtain ⟨_, s₁, htakeA, hrun⟩ := run_bind_eq_ok.mp hrun
  obtain ⟨_, s₂, htakeB, hrun⟩ := run_bind_eq_ok.mp hrun
  obtain ⟨_, s₃, htick, hrun⟩ := run_bind_eq_ok.mp hrun
  obtain ⟨-, rfl⟩ := EStateM.Result.ok.inj hrun
  have hfirst := publishedRound_reachable.step ⟨.take 1, trivial, .take 1 rfl htakeA⟩
  have hboth := hfirst.step ⟨.take 1, trivial, .take 1 rfl htakeB⟩
  have hdecided := hboth.step ⟨.tick 2 5, .inr ⟨rfl, fun _ _ h => by cases h⟩, .tick 2 5 htick⟩
  obtain ⟨messageA, messageB, -, -, hactionA, hactionB, service, hreach⟩ :=
    accept_both (M := lineWholeRounds) (fun _ _ h => ⟨.accept, trivial, h⟩) hdecided rfl rfl rfl hA hB
  refine ⟨_, hreach, ?_, ?_, wholeRounds_oneDecision hreach⟩
  · rw [AList.lookup_insert_ne (by decide), AList.lookup_insert, Option.map_some, hactionA]
  · rw [AList.lookup_insert, Option.map_some, hactionB]

/-- **Two robots that approach each other are both resumed**, each by another tick: the first tick
knew only the first robot. -/
theorem oneDecision_splitRound : ∃ round, lineRounds.Reachable round ∧
    (∀ r ∈ [robotA, robotB],
      (round.actions.lookup r).map (fun message => message.val.action) = some .resume) ∧
    ¬ round.OneDecision := by
  obtain ⟨_, final, hrun, hA, hB⟩ := Ensures.exists_ok (x := splitTicks) (s := lineMonitor)
    (Q := fun _ service =>
      firstAction service robotA = some (robotA, "tick-00000001", .resume) ∧
      firstAction service robotB = some (robotB, "tick-00000002", .resume)) (by decide +kernel)
  obtain ⟨_, s₁, htakeA, hrun⟩ := run_bind_eq_ok.mp hrun
  obtain ⟨_, s₂, htickA, hrun⟩ := run_bind_eq_ok.mp hrun
  obtain ⟨_, s₃, htakeB, hrun⟩ := run_bind_eq_ok.mp hrun
  obtain ⟨_, s₄, htickB, hrun⟩ := run_bind_eq_ok.mp hrun
  obtain ⟨-, rfl⟩ := EStateM.Result.ok.inj hrun
  have hfirst :=
    (reachable_of_wholeRounds publishedRound_reachable).step ⟨.take 1, .take 1 rfl htakeA⟩
  have hpart := hfirst.step ⟨.tick 2 5, .tick 2 5 htickA⟩
  have hboth := hpart.step ⟨.take 1, .take 1 rfl htakeB⟩
  have hdecided := hboth.step ⟨.tick 2 5, .tick 2 5 htickB⟩
  obtain ⟨messageA, messageB, htickA, htickB, hactionA, hactionB, service, hreach⟩ :=
    accept_both (M := lineRounds) (fun _ _ h => ⟨.accept, h⟩) hdecided rfl rfl rfl hA hB
  have hlookupA : (AList.insert robotB messageB (AList.insert robotA messageA
      (∅ : Dict RobotId ActionMessage))).lookup robotA = some messageA := by
    rw [AList.lookup_insert_ne (by decide), AList.lookup_insert]
  refine ⟨_, hreach, fun r hr => ?_, fun hone => ?_⟩
  · rcases List.mem_pair.mp hr with rfl | rfl
    · exact (congrArg _ hlookupA).trans (congrArg some hactionA)
    · rw [AList.lookup_insert, Option.map_some, hactionB]
  · have hsame := hone.sameTick rightward List.mem_cons_self leftward
      (List.mem_cons_of_mem _ List.mem_cons_self) messageA messageB hlookupA
      (AList.lookup_insert _)
    rw [htickA, htickB] at hsame
    exact absurd hsame (by decide)

end CollisionMonitor
