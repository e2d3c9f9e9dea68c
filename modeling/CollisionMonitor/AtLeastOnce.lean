import CollisionMonitor.Lib.Copies
import CollisionMonitor.MessageRounds

set_option relaxedAutoImplicit false
set_option autoImplicit false

/-!
# At-least-once delivery

A publication that raises may have reached the broker, so its retry may be a duplicate. The queue
of a robot then holds the actions of the ticks in order, each repeated at most as often as it was
attempted, and a consumer that ignores the identities it has seen handles each action once.

## Main definitions

* `AtLeastOncePublisher` — what a publication does to the queues of the broker.
* `startedService` — the runs of a service that finds the messages of earlier processes.

## Main results

* `delivery_atLeastOnce` — what robots find in their queues.
-/

namespace CollisionMonitor

open Outcome

/-- A publisher in front of durable queues. A publication that returns has enqueued its message; one
that raises has either not reached the broker, or enqueued the message without a confirmation. -/
structure AtLeastOncePublisher {π : Type} (publisher : ActionPublisher π)
    (queues : π → ActionQueues) : Prop where
  returned : ∀ message state state', (publisher.publishAction message).run state = .ok ⟨⟩ state' →
    queues state' = (queues state).enqueue message
  raised : ∀ message state e state', (publisher.publishAction message).run state = .error e state' →
    queues state' = queues state ∨ queues state' = (queues state).enqueue message

/-- An enqueued message is the last one of the queue of its robot. -/
lemma enqueue_eq (queues : ActionQueues) (message : ActionMessage) (r : RobotId) :
    queues.enqueue message r = queues r ++
      (List.replicate 1 message).filter fun message => message.val.deviceId = r := by
  rcases eq_or_ne r message.val.deviceId with rfl | hne
  · simp [ActionQueues.enqueue]
  · simp [ActionQueues.enqueue, Function.update_of_ne hne, hne.symm]

/-- A publication that raises has added the message to the queues once or not at all. -/
lemma AtLeastOncePublisher.raised_eq {π : Type} {publisher : ActionPublisher π}
    {queues : π → ActionQueues} (h : AtLeastOncePublisher publisher queues)
    {message : ActionMessage} {state state' : π} {e : PyException}
    (hrun : (publisher.publishAction message).run state = .error e state') :
    ∃ n ≤ 1, ∀ r, queues state' r = queues state r ++
      (List.replicate n message).filter fun message => message.val.deviceId = r := by
  rcases h.raised _ _ _ _ hrun with hlost | hunconfirmed
  · exact ⟨0, Nat.zero_le _, fun r => by simp [hlost]⟩
  · exact ⟨1, le_rfl, fun r => hunconfirmed ▸ enqueue_eq _ _ r⟩

/-- What identifies a message on the wire. -/
def actionKey (message : ActionMessage) : String × RobotId × String :=
  message.val.idempotencyKey

/-- The messages of the ticks of a run, in the order in which the ticks were begun. -/
def ServiceRun.decided {ω σ γ π : Type} (run : ServiceRun ω σ γ π) : List ActionMessage :=
  run.ticks.flatMap TickRecord.messages

/-- The messages of the ticks of a run about one robot. -/
def ServiceRun.decidedFor {ω σ γ π : Type} (run : ServiceRun ω σ γ π) (r : RobotId) :
    List ActionMessage :=
  run.decided.filter fun message => message.val.deviceId = r

section Delivery

open Delivery

variable {E ω σ γ π : Type} {wrappedAngle : ℚ → ℚ} {config : MonitorConfig}
  {geometry : Geometry E} {parts : Collaborators ω} {api : GrantManagerApi σ γ}
  {publisher : ActionPublisher π} {queues : π → ActionQueues} {runId : String}
  {before : ActionQueues}

/-- The runs of a service that finds the messages of earlier processes in the queues. -/
def startedService (wrappedAngle : ℚ → ℚ) (config : MonitorConfig) (geometry : Geometry E)
    (parts : Collaborators ω) (api : GrantManagerApi σ γ) (publisher : ActionPublisher π)
    (runId : String) (queues : π → ActionQueues) (before : ActionQueues) :
    Machine (ServiceRun ω σ γ π) where
  init := fun run => ∃ engine publisher, queues publisher = before ∧
    run = { service := { engine, publisher } }
  step := ServiceStep wrappedAngle config geometry parts api publisher runId

/-- A run that starts in front of queues is a run of the service. -/
lemma serviceMachine_of_started {run : ServiceRun ω σ γ π}
    (h : (startedService wrappedAngle config geometry parts api publisher runId queues
      before).Reachable run) :
    (serviceMachine wrappedAngle config geometry parts api publisher runId).Reachable run := by
  obtain ⟨_, hreach, rfl⟩ := h.simulated
    (A := serviceMachine wrappedAngle config geometry parts api publisher runId) (· = ·)
    (by
      rintro _ ⟨engine, publisher, -, rfl⟩
      exact ⟨_, ⟨_, _, rfl⟩, rfl⟩)
    (by
      rintro run _ run' rfl hstep
      exact ⟨run', .single hstep, rfl⟩)
  exact hreach

/-- The messages of a run have distinct keys. -/
lemma ServiceInvariant.decided_keys_nodup {run : ServiceRun ω σ γ π}
    (h : ServiceInvariant runId run) : (run.decided.map actionKey).Nodup := by
  rw [ServiceRun.decided, List.map_flatMap, List.nodup_flatMap]
  refine ⟨fun record hrecord =>
    (h.complete record hrecord).keys_nodup record.known.states.nodupKeys, ?_⟩
  refine (List.pairwise_map.mp h.increasing).imp_of_mem fun {a b} ha hb hlt => ?_
  exact (h.complete a ha).keys_disjoint (h.complete b hb) hlt

/-- The messages of a run carry its identifier. -/
lemma ServiceInvariant.runId_of_decided {run : ServiceRun ω σ γ π}
    (h : ServiceInvariant runId run) {message : ActionMessage} (hmessage : message ∈ run.decided) :
    message.val.runId = runId := by
  obtain ⟨record, hrecord, hmem⟩ := List.mem_flatMap.mp hmessage
  exact ((h.complete record hrecord).onePerRobot.identities message hmem).1

/-- Nothing is published before the first await of a tick, also when it raises. -/
lemma beginTick_publisher (mono : ℚ) (epoch : ℤ) (service : ServiceState ω σ γ π) :
    Ensures (beginTick wrappedAngle config geometry parts api runId mono epoch) service
      (fun _ service' => service'.publisher = service.publisher)
      fun service' => service'.publisher = service.publisher := by
  unfold beginTick
  refine Ensures.bind_modify (Ensures.bind_get ?_)
  refine Ensures.bind_lift (Returns.of_runs (fun _ _ => trivial) (.inl rfl)) fun fleet _ => ?_
  refine ((Ensures.of_runs fun _ _ _ => trivial).zoom.weaken ?_).bind ?_
  · rintro _ ⟨engine, rfl, -⟩
    rfl
  rintro d _ ⟨engine, rfl, -⟩
  refine Ensures.bind_get ?_
  exact Ensures.bind_lift (Returns.of_runs (fun _ _ => trivial) (.inl rfl)) fun _ _ =>
    Ensures.pure rfl

/-! ## The invariant -/

/-- A pending tick is the last one of the run. Its messages up to the remaining ones were delivered
or reported as failed; the first remaining one was delivered at most at its earlier attempts, and
the others were not. -/
structure DeliveredUpTo (config : MonitorConfig) (decided : List ActionMessage)
    (count : String × RobotId × String → ℕ) (pending : PendingTick) : Prop where
  split : ∃ earlier done, decided = earlier ++ (done ++ pending.remaining) ∧
    pending.prepared.actionMessages = done ++ pending.remaining ∧
    ∀ message ∈ done, 0 < count (actionKey message) ∨
      message.val.deviceId ∈ pending.failures.map PublicationFailure.robotId
  attempt : 1 ≤ pending.attempt ∧ pending.attempt ≤ config.publicationMaximumAttempts
  head : ∀ message rest, pending.remaining = message :: rest →
    count (actionKey message) < pending.attempt ∧ ∀ later ∈ rest, count (actionKey later) = 0

namespace DeliveredUpTo

variable {decided : List ActionMessage} {count : String × RobotId × String → ℕ}
  {pending : PendingTick} {message : ActionMessage} {rest : List ActionMessage} {n : ℕ}

/-- An attempt at the first remaining message adds no copy of a later one. -/
lemma update_later (h : DeliveredUpTo config decided count pending)
    (hnodup : (decided.map actionKey).Nodup) (hremaining : pending.remaining = message :: rest)
    {later : ActionMessage} (hmem : later ∈ rest) :
    Function.update count (actionKey message) (count (actionKey message) + n)
      (actionKey later) = 0 := by
  obtain ⟨⟨earlier, done, hsplit, -, -⟩, -, hhead⟩ := h
  rw [Function.update_of_ne, (hhead message rest hremaining).2 later hmem]
  intro heq
  rw [hsplit, hremaining, ← List.append_assoc, List.map_append, List.map_cons,
    List.nodup_append] at hnodup
  exact (List.nodup_cons.mp hnodup.2.1).1 (heq ▸ List.mem_map_of_mem hmem)

/-- After an attempt that is repeated, the message still remains. -/
lemma retried (h : DeliveredUpTo config decided count pending)
    (hnodup : (decided.map actionKey).Nodup) (hremaining : pending.remaining = message :: rest)
    (hattempt : pending.attempt < config.publicationMaximumAttempts) (hn : n ≤ 1) :
    DeliveredUpTo config decided
      (Function.update count (actionKey message) (count (actionKey message) + n))
      { pending with attempt := pending.attempt + 1 } := by
  have hlater : ∀ later ∈ rest, Function.update count (actionKey message)
      (count (actionKey message) + n) (actionKey later) = 0 := fun later hmem =>
    h.update_later hnodup hremaining hmem
  obtain ⟨⟨earlier, done, hsplit, hmessages, hdone⟩, ⟨hone, -⟩, hhead⟩ := h
  obtain ⟨hcount, -⟩ := hhead message rest hremaining
  refine ⟨⟨earlier, done, hsplit, hmessages, fun m hm =>
    (hdone m hm).imp_left fun hpos => hpos.trans_le (le_update _ _ _)⟩,
    ⟨hone.trans (Int.le_add_one le_rfl), hattempt⟩, fun m later hm => ?_⟩
  obtain ⟨rfl, rfl⟩ := List.cons_eq_cons.mp (hremaining.symm.trans hm)
  refine ⟨?_, hlater⟩
  rw [Function.update_self]
  change ((count (actionKey message) + n : ℕ) : ℤ) < pending.attempt + 1
  omega

/-- After the last attempt at a message, the next one remains, of which there is no copy yet. -/
lemma next (h : DeliveredUpTo config decided count pending)
    (hnodup : (decided.map actionKey).Nodup) (hremaining : pending.remaining = message :: rest)
    {failures : List PublicationFailure}
    (hfailures : ∀ failure ∈ pending.failures, failure ∈ failures)
    (hdelivered : 0 < n ∨ message.val.deviceId ∈ failures.map PublicationFailure.robotId) :
    DeliveredUpTo config decided
      (Function.update count (actionKey message) (count (actionKey message) + n))
      { pending with remaining := rest, attempt := 1, failures } := by
  have hlater : ∀ later ∈ rest, Function.update count (actionKey message)
      (count (actionKey message) + n) (actionKey later) = 0 := fun later hmem =>
    h.update_later hnodup hremaining hmem
  obtain ⟨⟨earlier, done, hsplit, hmessages, hdone⟩, -, -⟩ := h
  refine ⟨⟨earlier, done ++ [message], ?_, ?_, fun m hm => ?_⟩,
    ⟨le_rfl, config.one_le_publicationMaximumAttempts⟩, fun m later hm => ?_⟩
  · rw [hsplit, hremaining, List.append_assoc, List.singleton_append]
  · rw [hmessages, hremaining, List.append_assoc, List.singleton_append]
  · rcases List.mem_append.mp hm with hm | hm
    · refine (hdone m hm).imp (fun hpos => hpos.trans_le (le_update _ _ _)) fun hfailed => ?_
      obtain ⟨failure, hfailure, heq⟩ := List.mem_map.mp hfailed
      exact heq ▸ List.mem_map_of_mem (hfailures failure hfailure)
    · rw [List.mem_singleton.mp hm, Function.update_self]
      exact hdelivered.imp_left fun hn => hn.trans_le (Nat.le_add_left _ _)
  · change rest = m :: later at hm
    rw [hm] at hlater
    refine ⟨?_, fun m' hm' => hlater m' (List.mem_cons_of_mem _ hm')⟩
    rw [hlater m List.mem_cons_self]
    exact zero_lt_one

end DeliveredUpTo

/-- What the queues hold during a run, in which every message has a number of copies. -/
structure Delivered (config : MonitorConfig) (queues : π → ActionQueues) (before : ActionQueues)
    (run : ServiceRun ω σ γ π) (count : String × RobotId × String → ℕ) : Prop where
  queues : ∀ r, queues run.service.publisher r = before r ++
    (copies actionKey count run.decided).filter fun message => message.val.deviceId = r
  bounded : ∀ key, (count key : ℤ) ≤ config.publicationMaximumAttempts
  undecided : ∀ key, key ∉ run.decided.map actionKey → count key = 0
  pending : ∀ pending, run.pending = some pending →
    DeliveredUpTo config run.decided count pending
  results : ∀ result ∈ run.results, ∀ message ∈ result.actionMessages,
    0 < count (actionKey message) ∨
      message.val.deviceId ∈ result.publicationFailures.map PublicationFailure.robotId

namespace Delivered

variable {run : ServiceRun ω σ γ π} {count : String × RobotId × String → ℕ}

/-- A tick that begins adds messages that have no copies yet.

**Proof sketch.** The keys of the new messages differ from all keys decided so far, so these
messages have no copies, and the queues stay as they are. -/
lemma begin (h : Delivered config queues before run count) {service' : ServiceState ω σ γ π}
    (hpublisher : service'.publisher = run.service.publisher) {prepared : PreparedTick}
    {record : TickRecord} (hmessages : record.messages = prepared.actionMessages)
    (hnodup : ((run.decided ++ record.messages).map actionKey).Nodup) :
    Delivered config queues before { run with
      service := service'
      pending := some {
        prepared, remaining := prepared.actionMessages, attempt := 1, failures := [] }
      ticks := run.ticks ++ [record] } count := by
  have hdecided : ServiceRun.decided { run with
      service := service'
      pending := some {
        prepared, remaining := prepared.actionMessages, attempt := 1, failures := [] }
      ticks := run.ticks ++ [record] } = run.decided ++ record.messages := by
    simp [ServiceRun.decided]
  have hnew : ∀ message ∈ record.messages, count (actionKey message) = 0 := by
    intro message hmessage
    refine h.undecided _ fun hold => ?_
    rw [List.map_append] at hnodup
    exact List.disjoint_of_nodup_append hnodup hold (List.mem_map_of_mem hmessage)
  constructor
  · intro r
    rw [hdecided, copies_append, copies_eq_nil hnew, List.append_nil]
    exact hpublisher ▸ h.queues r
  · exact h.bounded
  · intro key hkey
    rw [hdecided, List.map_append] at hkey
    exact h.undecided key fun hold => hkey (List.mem_append_left _ hold)
  · rintro _ ⟨⟩
    refine ⟨⟨run.decided, [], ?_, rfl, fun _ hmem => (by cases hmem)⟩,
      ⟨le_rfl, config.one_le_publicationMaximumAttempts⟩, fun message rest hrest => ?_⟩
    · rw [hdecided, hmessages, List.nil_append]
    · change prepared.actionMessages = message :: rest at hrest
      rw [hmessages, hrest] at hnew
      refine ⟨?_, fun later hlater => hnew later (List.mem_cons_of_mem _ hlater)⟩
      rw [hnew message List.mem_cons_self]
      exact zero_lt_one
  · exact h.results

/-- **An attempt** gives its message up to one more copy.

**Proof sketch.** Keys are distinct, so one more copy of the message changes the count of no other
message, and the later messages have no copies yet. -/
lemma attempt (h : Delivered config queues before run count)
    (hnodup : (run.decided.map actionKey).Nodup) {pending pending' : PendingTick}
    {message : ActionMessage} {rest : List ActionMessage} (hpending : run.pending = some pending)
    (hremaining : pending.remaining = message :: rest) {published : π}
    (attempted : List ActionMessage) {n : ℕ} (hn : n ≤ 1)
    (hqueues : ∀ r, queues published r = queues run.service.publisher r ++
      (List.replicate n message).filter fun message => message.val.deviceId = r)
    (hnext : DeliveredUpTo config run.decided
      (Function.update count (actionKey message) (count (actionKey message) + n)) pending') :
    Delivered config queues before { run with
      service := { run.service with publisher := published }
      pending := some pending'
      attempted }
      (Function.update count (actionKey message) (count (actionKey message) + n)) := by
  obtain ⟨⟨earlier, done, hsplit, -, -⟩, ⟨-, hmaximum⟩, hhead⟩ := h.pending pending hpending
  obtain ⟨hcount, hlater⟩ := hhead message rest hremaining
  rw [hremaining, ← List.append_assoc] at hsplit
  have hcopies : copies actionKey (Function.update count (actionKey message)
      (count (actionKey message) + n)) run.decided =
        copies actionKey count run.decided ++ List.replicate n message := by
    rw [hsplit, List.map_append, List.map_cons, List.nodup_append] at hnodup
    rw [hsplit]
    exact copies_update (fun hmem => hnodup.2.2 _ hmem _ List.mem_cons_self rfl)
      (List.nodup_cons.mp hnodup.2.1).1 hlater n
  constructor
  · intro r
    change queues published r = before r ++ (copies actionKey _ run.decided).filter _
    rw [hqueues r, h.queues r, hcopies, List.filter_append, List.append_assoc]
  · intro key
    rcases eq_or_ne key (actionKey message) with rfl | hne
    · rw [Function.update_self]
      omega
    · rw [Function.update_of_ne hne]
      exact h.bounded key
  · intro key hkey
    rw [Function.update_of_ne]
    · exact h.undecided key hkey
    · rintro rfl
      refine hkey (List.mem_map_of_mem ?_)
      change message ∈ run.decided
      rw [hsplit]
      exact List.mem_append_right _ List.mem_cons_self
  · rintro _ ⟨⟩
    exact hnext
  · exact fun result hresult message hmessage =>
      (h.results result hresult message hmessage).imp_left fun hpos =>
        hpos.trans_le (le_update _ _ _)

/-- A tick that ends reports what was not delivered. -/
lemma finish (h : Delivered config queues before run count) {pending : PendingTick}
    {result : ServiceTickResult} (hpending : run.pending = some pending)
    (hremaining : pending.remaining = [])
    (hfinish : finishTick config runId pending.prepared pending.failures = .ok result) :
    Delivered config queues before { run with
      pending := none, results := run.results ++ [result] } count := by
  refine { h with pending := fun _ heq => (by cases heq), results := fun ended hended => ?_ }
  rcases List.mem_append.mp hended with hended | hended
  · exact h.results ended hended
  · obtain ⟨trace, -, hfinish⟩ := bind_eq_ok.mp hfinish
    obtain rfl := Except.ok.inj hfinish
    obtain ⟨⟨_, done, -, hmessages, hdone⟩, -, -⟩ := h.pending pending hpending
    rw [hremaining, List.append_nil] at hmessages
    rw [List.mem_singleton.mp hended]
    intro message hmessage
    exact hdone message (hmessages ▸ hmessage)

/-- **What the queues hold is kept by every step** of the service.

**Proof sketch.** By cases on the step. Only an attempt touches the queues, and it appends one copy
of its message or, where it raises, at most one. -/
lemma step (hbroker : AtLeastOncePublisher publisher queues)
    (h : Delivered config queues before run count) {run' : ServiceRun ω σ γ π}
    (hinv : ServiceInvariant runId run) (hinv' : ServiceInvariant runId run')
    (hstep : ServiceStep wrappedAngle config geometry parts api publisher runId run run') :
    ∃ count', Delivered config queues before run' count' := by
  have hnodup := hinv.decided_keys_nodup
  cases hstep with
  | ingest received payload hrun =>
    obtain ⟨store, counted, rfl, -⟩ := (ingestPayload_spec received payload _).get_ok hrun
    exact ⟨count, { h with }⟩
  | ingestRaises received payload hrun =>
    rw [(ingestPayload_spec received payload _).get_error hrun]
    exact ⟨count, h⟩
  | begin mono epoch hidle hrun =>
    obtain ⟨-, hpublisher, -, -⟩ := (beginTick_spec mono epoch _ hinv.keyed).get_ok hrun
    refine ⟨count, h.begin hpublisher rfl ?_⟩
    simpa [ServiceRun.decided] using hinv'.decided_keys_nodup
  | beginRaises mono epoch hidle hrun =>
    have hpublisher := (beginTick_publisher mono epoch _).get_error hrun
    exact ⟨count, { h with queues := hpublisher ▸ h.queues }⟩
  | published hpending hremaining hrun =>
    refine ⟨_, h.attempt hnodup hpending hremaining _ le_rfl ?_ ?_⟩
    · rw [hbroker.returned _ _ _ hrun]
      exact enqueue_eq _ _
    · exact (h.pending _ hpending).next hnodup hremaining (fun _ hmem => hmem) (.inl zero_lt_one)
  | retried hpending hremaining hattempt hrun =>
    obtain ⟨n, hn, hqueues⟩ := hbroker.raised_eq hrun
    exact ⟨_, h.attempt hnodup hpending hremaining _ hn hqueues
      ((h.pending _ hpending).retried hnodup hremaining hattempt hn)⟩
  | failed hpending hremaining hattempt hrun =>
    obtain ⟨n, hn, hqueues⟩ := hbroker.raised_eq hrun
    refine ⟨_, h.attempt hnodup hpending hremaining _ hn hqueues
      ((h.pending _ hpending).next hnodup hremaining
        (fun _ hmem => List.mem_append_left _ hmem) (.inr ?_))⟩
    rw [List.map_append]
    exact List.mem_append_right _ List.mem_cons_self
  | finish hpending hremaining hfinish => exact ⟨count, h.finish hpending hremaining hfinish⟩
  | finishRaises hpending hremaining hfinish =>
    exact ⟨count, { h with pending := fun _ heq => (by cases heq) }⟩

end Delivered

/-- What the queues hold is accounted for in every run. -/
lemma delivered_of_reachable (hbroker : AtLeastOncePublisher publisher queues)
    {run : ServiceRun ω σ γ π} (h : (startedService wrappedAngle config geometry parts api publisher
      runId queues before).Reachable run) : ∃ count, Delivered config queues before run count := by
  refine h.invariant (P := fun run => ∃ count, Delivered config queues before run count) ?_ ?_
  · rintro _ ⟨engine, publisher, hqueues, rfl⟩
    refine ⟨fun _ => 0, fun r => ?_, fun key => ?_, fun _ _ => rfl, fun _ heq => (by cases heq),
      fun _ hmem => (by cases hmem)⟩
    · exact hqueues ▸ (List.append_nil _).symm
    · exact zero_le_one.trans config.one_le_publicationMaximumAttempts
  · rintro run run' hreach ⟨count, hdelivered⟩ hstep
    exact hdelivered.step hbroker
      (serviceInvariant_of_reachable (serviceMachine_of_started hreach))
      (serviceInvariant_of_reachable (serviceMachine_of_started (hreach.step hstep))) hstep

/-- **At-least-once delivery.** In every run of the service in front of durable queues, whatever is
ingested while it publishes and whichever attempts fail, with or without the message: the queue of
a robot holds what it held before, and then the actions of the ticks in order, each repeated at most
as often as it may be attempted and without any other message in between. An action whose
publication is not reported as failed is there. A robot that ignores the identities that it has seen
handles each delivered action once, in the order of the ticks, also after a restart.

**Proof sketch.** By induction over the run, the queues hold the copies of what was decided, counted
by key (`delivered_of_reachable`). Keys are distinct, so a receiver that remembers them handles each
message once (`once_copies`). -/
theorem delivery_atLeastOnce (hbroker : AtLeastOncePublisher publisher queues)
    (hbefore : ∀ r, ∀ message ∈ before r, message.val.runId ≠ runId) {run : ServiceRun ω σ γ π}
    (h : (startedService wrappedAngle config geometry parts api publisher runId queues
      before).Reachable run) :
    ∃ count : String × RobotId × String → ℕ,
      (∀ key, (count key : ℤ) ≤ config.publicationMaximumAttempts) ∧
      (∀ r, queues run.service.publisher r =
        before r ++ copies actionKey count (run.decidedFor r)) ∧
      (∀ result ∈ run.results, ∀ message ∈ result.actionMessages, message.val.deviceId ∉
        result.publicationFailures.map PublicationFailure.robotId →
          message ∈ queues run.service.publisher message.val.deviceId) ∧
      ∀ r, once actionKey [] (queues run.service.publisher r) = once actionKey [] (before r) ++
        (run.decidedFor r).filter fun message => 0 < count (actionKey message) := by
  obtain ⟨count, hdelivered⟩ := delivered_of_reachable hbroker h
  have hinv := serviceInvariant_of_reachable (serviceMachine_of_started h)
  have hqueues : ∀ r, queues run.service.publisher r =
      before r ++ copies actionKey count (run.decidedFor r) := by
    intro r
    rw [hdelivered.queues r, filter_copies, ServiceRun.decidedFor]
  refine ⟨count, hdelivered.bounded, hqueues, fun result hresult message hmessage hfailed => ?_,
    fun r => ?_⟩
  · have hcount := (hdelivered.results result hresult message hmessage).resolve_right hfailed
    obtain ⟨record, hrecord, heq, -⟩ := hinv.results result hresult
    rw [hqueues]
    refine List.mem_append_right _ (mem_copies.mpr ⟨List.mem_filter.mpr ⟨?_, ?_⟩, hcount⟩)
    · exact List.mem_flatMap.mpr ⟨record, hrecord, heq ▸ hmessage⟩
    · exact decide_eq_true rfl
  rw [hqueues, once_append, once_copies]
  · exact hinv.decided_keys_nodup.sublist (List.filter_sublist.map actionKey)
  · -- a key of an earlier process names another run
    intro message hmessage hmem
    obtain ⟨old, hold, heq⟩ := List.mem_map.mp hmem
    have hrun := hinv.runId_of_decided (List.mem_filter.mp hmessage).1
    refine hbefore r old hold ?_
    rw [← hrun]
    exact congrArg Prod.fst heq

end Delivery

/-! ## A lost confirmation -/

/-- A publisher whose queues accept every message, and whose first confirmation is lost. Its state
is whether that has happened, and the queues. -/
def unconfirmedPublisher : ActionPublisher (Bool × ActionQueues) where
  publishAction message := fun state =>
    if state.1 then .ok ⟨⟩ (true, state.2.enqueue message)
    else .error (.runtimeError "connection lost") (true, state.2.enqueue message)

/-- A publisher whose confirmations are lost keeps the contract. -/
lemma unconfirmedPublisher_atLeastOnce : AtLeastOncePublisher unconfirmedPublisher Prod.snd where
  returned := by
    rintro message ⟨_ | _, queues⟩ state' h
    · cases h
    · obtain ⟨-, rfl⟩ := EStateM.Result.ok.inj h
      rfl
  raised := by
    rintro message ⟨_ | _, queues⟩ e state' h
    · obtain ⟨-, rfl⟩ := EStateM.Result.error.inj h
      exact .inr rfl
    · cases h

/-- A robot that stands reports, and a tick begins. -/
def standingTick : Service ℕ Store ℕ (Bool × ActionQueues) PreparedTick := do
  let _ ← ingestPayload 1 (standing "a")
  beginTick id defaultConfig lineGeometry
    (shippedCollaborators defaultConfig lineGeometry fun _ => none) (managerApi defaultConfig)
    "run" 1 5

/-- The retry after the lost confirmation leaves two messages, of which one is handled. -/
theorem delivery_atLeastOnce_unconfirmed : ∃ run, (startedService id defaultConfig lineGeometry
      (shippedCollaborators defaultConfig lineGeometry fun _ => none) (managerApi defaultConfig)
      unconfirmedPublisher "run" Prod.snd fun _ => []).Reachable run ∧
    (run.service.publisher.2 robotA).length = 2 ∧
    ∃ count : String × RobotId × String → ℕ,
      Delivery.once actionKey [] (run.service.publisher.2 robotA) =
        (run.decidedFor robotA).filter fun message => 0 < count (actionKey message) := by
  obtain ⟨prepared, service, hrun, hrobots⟩ := Ensures.exists_ok (x := standingTick)
    (s := { engine := EngineState.initial 0, publisher := (false, fun _ => []) })
    (Q := fun prepared _ => prepared.actionMessages.map (fun message => message.val.deviceId) =
      [robotA]) (by decide +kernel)
  obtain ⟨message, hmessages, hrobot⟩ := List.map_eq_singleton_iff.mp hrobots
  obtain ⟨result, stored, hstored, hbegin⟩ := run_bind_eq_ok.mp hrun
  have hfresh : (startedService id defaultConfig lineGeometry
      (shippedCollaborators defaultConfig lineGeometry fun _ => none) (managerApi defaultConfig)
      unconfirmedPublisher "run" Prod.snd fun _ => []).Reachable _ :=
    .init ⟨EngineState.initial 0, (false, fun _ => []), rfl, rfl⟩
  have hbegun := (hfresh.step (.ingest 1 _ hstored)).step (.begin 1 5 rfl hbegin)
  have hpublisher : service.publisher = (false, fun _ => []) := by
    obtain ⟨store, counted, rfl, -⟩ := (ingestPayload_spec 1 _ _).get_ok hstored
    exact (beginTick_publisher 1 5 _).get_ok hbegin
  have hretried := hbegun.step (ServiceStep.retried rfl hmessages (show (1 : ℤ) < 3 by decide)
    (congrArg (unconfirmedPublisher.publishAction message).run hpublisher))
  have hpublished := hretried.step (ServiceStep.published rfl hmessages rfl)
  obtain ⟨count, -, -, -, hhandled⟩ := delivery_atLeastOnce unconfirmedPublisher_atLeastOnce
    (fun _ _ hmem => (by cases hmem)) hpublished
  refine ⟨_, hpublished, ?_, count, hhandled robotA⟩
  simp [ActionQueues.enqueue, hrobot]

end CollisionMonitor
