import CollisionMonitor.Ingestion
import CollisionMonitor.Lib.Machine
import CollisionMonitor.Simulator

set_option relaxedAutoImplicit false
set_option autoImplicit false

/-!
# The in-memory state queue

The state queue of `transport/memory.py` between the tasks that submit payloads and the task that
runs `consume_states`. Deliveries are objects shared between the queue and whoever waits for their
settlement, so the queue holds their numbers, in the order of submission.

The consumer task takes an item from the queue, ingests its payload and settles it in three steps,
between which any other task may run.

## Main definitions

* `InMemoryStateDelivery`, `InMemoryStateConsumer` — the two classes.
* `QueuedService` — a service in memory, its state queue and its consumer task.
* `ConsumerStep`, `queueMachine` — the steps of the consumer task, and its interleavings with
  submissions, ticks and the closing of the queue.

## Main results

* `stateQueue_exactlyOnce` — every delivery is ingested and settled once, in the order of
  submission, and the consumer task never fails.
* `consumer_drains` — left alone, the consumer task settles everything that was submitted.
-/

namespace CollisionMonitor

open Outcome

/-! ## Deliveries and their queue -/

/-- `"acknowledged"` or `"rejected"`. -/
inductive Settlement
  | acknowledged
  | rejected
  deriving DecidableEq, Repr

/-- How the service settles a delivery whose payload was accepted or not. -/
def Settlement.ofAccepted (accepted : Bool) : Settlement :=
  if accepted then .acknowledged else .rejected

/-- A state delivery that is settled at most once. -/
structure InMemoryStateDelivery where
  payload : StatePayload
  settlement : Option Settlement := none

namespace InMemoryStateDelivery

variable (delivery : InMemoryStateDelivery)

/-- Record successful application acceptance. -/
def acknowledge : Except PyException InMemoryStateDelivery := do
  raiseIf (delivery.settlement ≠ none)
    (.runtimeError "state delivery has already been settled")
  return { delivery with settlement := some .acknowledged }

/-- Record rejection and reject in-memory requeue requests. -/
def reject (requeue : Bool) : Except PyException InMemoryStateDelivery := do
  raiseIf (delivery.settlement ≠ none)
    (.runtimeError "state delivery has already been settled")
  raiseIf (requeue = true) (.valueError "in-memory state delivery does not support requeue")
  return { delivery with settlement := some .rejected }

/-- Acknowledge or reject a delivery, as `consume_states` does. -/
def settle (accepted : Bool) : Except PyException InMemoryStateDelivery :=
  if accepted then delivery.acknowledge else delivery.reject false

/-- A delivery that is not settled can be settled. -/
lemma settle_of_unsettled (h : delivery.settlement = none) (accepted : Bool) :
    delivery.settle accepted =
      .ok { delivery with settlement := some (.ofAccepted accepted) } := by
  cases accepted <;> simp [settle, acknowledge, reject, raiseIf, h, Settlement.ofAccepted]

/-- Settling a delivery leaves its payload as it is. -/
lemma settle_payload {delivery' : InMemoryStateDelivery} {accepted : Bool}
    (h : delivery.settle accepted = .ok delivery') : delivery'.payload = delivery.payload := by
  cases hsettlement : delivery.settlement with
  | none =>
    rw [delivery.settle_of_unsettled hsettlement] at h
    rw [← Except.ok.inj h]
  | some settlement =>
    cases accepted <;> simp [settle, acknowledge, reject, raiseIf, hsettlement] at h

end InMemoryStateDelivery

/-- An item of the queue: a delivery, by its number, or the marker `_CLOSE`. -/
inductive QueueItem
  | delivery (number : ℕ)
  | close
  deriving DecidableEq, Repr

/-- Decoded state payloads, queued. -/
structure InMemoryStateConsumer where
  queue : List QueueItem := []
  closed : Bool := false
  deliveries : List InMemoryStateDelivery := []

namespace InMemoryStateConsumer

variable (consumer : InMemoryStateConsumer)

/-- Queue a payload, preserving submission order. -/
def submit (payload : StatePayload) : Except PyException (ℕ × InMemoryStateConsumer) := do
  raiseIf (consumer.closed = true)
    (.runtimeError "cannot submit to a closed in-memory state consumer")
  let number := consumer.deliveries.length
  return (number, { consumer with
    deliveries := consumer.deliveries ++ [{ payload }]
    queue := consumer.queue ++ [.delivery number] })

/-- End iteration after every already queued payload is consumed. -/
def close : InMemoryStateConsumer :=
  if consumer.closed then consumer
  else { consumer with closed := true, queue := consumer.queue ++ [.close] }

/-- A queue that is open accepts a payload. -/
lemma submit_of_open (h : consumer.closed = false) (payload : StatePayload) :
    consumer.submit payload = .ok (consumer.deliveries.length, { consumer with
      deliveries := consumer.deliveries ++ [{ payload }]
      queue := consumer.queue ++ [.delivery consumer.deliveries.length] }) := by
  simp [submit, raiseIf, h]

/-- What is accepted was submitted to an open queue. -/
lemma submit_eq_ok {payload : StatePayload} {number : ℕ} {consumer' : InMemoryStateConsumer}
    (h : consumer.submit payload = .ok (number, consumer')) :
    consumer.closed = false ∧ number = consumer.deliveries.length ∧
      consumer' = { consumer with
        deliveries := consumer.deliveries ++ [{ payload }]
        queue := consumer.queue ++ [.delivery consumer.deliveries.length] } := by
  obtain ⟨_, hopen, h⟩ := bind_eq_ok.mp h
  obtain ⟨rfl, rfl⟩ := Prod.mk.inj (Except.ok.inj h)
  exact ⟨by simpa using hopen, rfl, rfl⟩

end InMemoryStateConsumer

/-! ## The consumer task -/

/-- Where the task that runs `consume_states` is. -/
inductive ConsumerTaskPhase
  | waiting
  | handling (number : ℕ)
  | settling (number : ℕ) (accepted : Bool)
  | ended
  | raised (e : PyException)

/-- A payload that was ingested, and the result. -/
structure Ingestion where
  payload : StatePayload
  result : IngestionResult

/-- The settlement that follows an ingestion. -/
def Ingestion.settlement (ingestion : Ingestion) : Settlement :=
  .ofAccepted ingestion.result.accepted

/-- A service in memory with its state queue and its consumer task, and the history of what that
task ingested. -/
structure QueuedService (ω σ γ : Type) where
  consumer : InMemoryStateConsumer := {}
  phase : ConsumerTaskPhase := .waiting
  transport : InMemoryTransportState ω σ γ
  ingestions : List Ingestion := []

section Machine

variable {ω σ γ : Type}

/-- The steps of the consumer task: `consume_states` over `receive_states`. -/
inductive ConsumerStep : QueuedService ω σ γ → QueuedService ω σ γ → Prop
  | took {s} (number : ℕ) (rest : List QueueItem) (hphase : s.phase = .waiting)
      (hqueue : s.consumer.queue = .delivery number :: rest) :
      ConsumerStep s { s with
        consumer := { s.consumer with queue := rest }
        phase := .handling number }
  | ended {s} (rest : List QueueItem) (hphase : s.phase = .waiting)
      (hqueue : s.consumer.queue = .close :: rest) :
      ConsumerStep s { s with
        consumer := { s.consumer with queue := rest }
        phase := .ended }
  | ingested {s delivery result service'} (number : ℕ) (hphase : s.phase = .handling number)
      (hdelivery : s.consumer.deliveries[number]? = some delivery)
      (h : (ingestPayload s.transport.monotonicSeconds delivery.payload).run s.transport.service =
        .ok result service') :
      ConsumerStep s { s with
        transport := { s.transport with service := service' }
        phase := .settling number result.accepted
        ingestions := s.ingestions ++ [{ payload := delivery.payload, result }] }
  | ingestRaised {s delivery e service'} (number : ℕ) (hphase : s.phase = .handling number)
      (hdelivery : s.consumer.deliveries[number]? = some delivery)
      (h : (ingestPayload s.transport.monotonicSeconds delivery.payload).run s.transport.service =
        .error e service') :
      ConsumerStep s { s with
        transport := { s.transport with service := service' }
        phase := .raised e }
  | settled {s delivery delivery'} (number : ℕ) (accepted : Bool)
      (hphase : s.phase = .settling number accepted)
      (hdelivery : s.consumer.deliveries[number]? = some delivery)
      (h : delivery.settle accepted = .ok delivery') :
      ConsumerStep s { s with
        consumer := { s.consumer with deliveries := s.consumer.deliveries.set number delivery' }
        phase := .waiting }
  | settleRaised {s delivery e} (number : ℕ) (accepted : Bool)
      (hphase : s.phase = .settling number accepted)
      (hdelivery : s.consumer.deliveries[number]? = some delivery)
      (h : delivery.settle accepted = .error e) :
      ConsumerStep s { s with phase := .raised e }

/-- The steps of the consumer task and of the tasks beside it. These submit payloads and close the
queue, move the clocks and run ticks; the monotonic clock is never negative. -/
inductive QueueStep : QueuedService ω σ γ → QueuedService ω σ γ → Prop
  | consumer {s t} (h : ConsumerStep s t) : QueueStep s t
  | submitted {s number consumer'} (payload : StatePayload)
      (h : s.consumer.submit payload = .ok (number, consumer')) :
      QueueStep s { s with consumer := consumer' }
  | closed {s} : QueueStep s { s with consumer := s.consumer.close }
  | elsewhere {s} (transport : InMemoryTransportState ω σ γ)
      (hclock : 0 ≤ transport.monotonicSeconds) : QueueStep s { s with transport }

/-- The interleavings of a new state queue, whatever its service. -/
def queueMachine : Machine (QueuedService ω σ γ) where
  init s := ∃ transport, 0 ≤ transport.monotonicSeconds ∧ s = { transport }
  step := QueueStep

/-! ## The invariant -/

/-- The deliveries that were put into the queue but not taken, in order. -/
def waitingItems (taken put : ℕ) : List QueueItem :=
  (List.range' taken (put - taken)).map .delivery

/-- What is put comes last. -/
lemma waitingItems_put {taken put : ℕ} (h : taken ≤ put) :
    waitingItems taken (put + 1) = waitingItems taken put ++ [.delivery put] := by
  rw [waitingItems, Nat.sub_add_comm h, List.range'_1_concat, List.map_append,
    Nat.add_sub_cancel' h]
  rfl

/-- What is taken next comes first. -/
lemma waitingItems_of_lt {taken put : ℕ} (h : taken < put) :
    waitingItems taken put = .delivery taken :: waitingItems (taken + 1) put := by
  obtain ⟨n, rfl⟩ := Nat.exists_eq_add_of_lt h
  rw [waitingItems, show taken + n + 1 - taken = n + 1 by omega, List.range'_succ, List.map_cons,
    waitingItems, show taken + n + 1 - (taken + 1) = n by omega]

/-- Nothing waits once everything was taken. -/
lemma waitingItems_self (n : ℕ) : waitingItems n n = [] := by
  simp [waitingItems]

/-- Setting an element leaves a feature alone in which the two agree. -/
lemma map_set_of_eq {α β : Type} {f : α → β} {l : List α} {n : ℕ} {a b : α} (h : l[n]? = some a)
    (hf : f b = f a) : (l.set n b).map f = l.map f := by
  obtain ⟨hlt, rfl⟩ := List.getElem?_eq_some_iff.mp h
  have hlt' : n < (l.map f).length := by simpa using hlt
  have hget : (l.map f)[n] = f l[n] := List.getElem_map f
  rw [List.map_set, hf, ← hget, List.set_getElem_self]

/-- How many deliveries have been taken from the queue and how many have been settled, in each phase
of the consumer task after these ingestions. -/
inductive ConsumerTaskPhase.Counts : ConsumerTaskPhase → List Ingestion → ℕ → ℕ → Prop
  | waiting (before : List Ingestion) : Counts .waiting before before.length before.length
  | handling (before : List Ingestion) :
      Counts (.handling before.length) before (before.length + 1) before.length
  | settling (before : List Ingestion) (last : Ingestion) :
      Counts (.settling before.length last.result.accepted) (before ++ [last])
        (before.length + 1) before.length
  | ended (before : List Ingestion) : Counts .ended before before.length before.length

/-- What is settled was ingested, what is ingested was taken, and at most one is taken but not
settled. -/
lemma ConsumerTaskPhase.Counts.le {phase : ConsumerTaskPhase} {ingestions : List Ingestion}
    {taken settled : ℕ} (h : phase.Counts ingestions taken settled) :
    settled ≤ ingestions.length ∧ ingestions.length ≤ taken ∧ taken ≤ settled + 1 := by
  cases h <;> simp

/-- The iteration has reached the marker. -/
def ConsumerTaskPhase.isEnded : ConsumerTaskPhase → Bool
  | .ended => true
  | _ => false

/-- What holds in every state of a state queue from which so many deliveries have been taken, and
so many have been settled. -/
structure QueuedService.Tracked (s : QueuedService ω σ γ) (taken settled : ℕ) : Prop where
  clock : 0 ≤ s.transport.monotonicSeconds
  counts : s.phase.Counts s.ingestions taken settled
  taken_le : taken ≤ s.consumer.deliveries.length
  queue : s.consumer.queue = waitingItems taken s.consumer.deliveries.length ++
    if s.consumer.closed && !s.phase.isEnded then [.close] else []
  ended : s.phase.isEnded = true → s.consumer.closed = true ∧ taken = s.consumer.deliveries.length
  payloads : s.ingestions.map Ingestion.payload =
    (s.consumer.deliveries.map InMemoryStateDelivery.payload).take s.ingestions.length
  settlements : ∀ i delivery, s.consumer.deliveries[i]? = some delivery →
    delivery.settlement =
      if i < settled then (s.ingestions[i]?).map Ingestion.settlement else none

/-- What holds in every state of a state queue. -/
def QueuedService.Consistent (s : QueuedService ω σ γ) : Prop :=
  ∃ taken settled, s.Tracked taken settled

variable {s t : QueuedService ω σ γ}

/-- With a clock that is not negative, ingestion raises nothing. -/
lemma ingestPayload_total {π : Type} {received : ℚ} (hclock : 0 ≤ received)
    (payload : StatePayload) (service : ServiceState ω σ γ π) :
    ∃ result service', (ingestPayload received payload).run service = .ok result service' := by
  obtain ⟨result, service', hrun, -⟩ := Ensures.exists_ok (Q := fun _ _ => True)
    (show Ensures (ingestPayload received payload) service _ _ by
      unfold ingestPayload
      refine Ensures.bind_get ?_
      split
      · exact Ensures.bind_set (Ensures.pure trivial)
      · next state hstate =>
        refine Ensures.bind_lift (P := fun _ => True) ?_ fun _ _ =>
          Ensures.bind_set (Ensures.pure trivial)
        refine Returns.of_runs (fun _ _ => trivial) (.inr ?_)
        by_cases hle : ∀ existing, service.store.states.lookup state.deviceId = some existing →
            existing.val.state.timestamp ≤ state.timestamp
        · obtain ⟨reason, hupdate⟩ := update_of_le hclock hle
          exact ⟨_, hupdate⟩
        · push Not at hle
          obtain ⟨existing, hlook, hlt⟩ := hle
          obtain ⟨reason, hupdate⟩ := update_of_lt hclock hlook hlt
          exact ⟨_, hupdate⟩)
  exact ⟨result, service', hrun⟩

namespace QueuedService

/-- A new queue is consistent. -/
lemma Consistent.new {transport : InMemoryTransportState ω σ γ}
    (hclock : 0 ≤ transport.monotonicSeconds) :
    ({ transport } : QueuedService ω σ γ).Consistent :=
  ⟨0, 0, {
    clock := hclock
    counts := .waiting []
    taken_le := le_rfl
    queue := rfl
    ended := fun h => by cases h
    payloads := rfl
    settlements := fun i delivery h => by cases h }⟩

namespace Tracked

variable {taken settled : ℕ}

/-- The consumer task takes the next delivery. -/
lemma took (hs : s.Tracked taken settled) {number : ℕ} {rest : List QueueItem}
    (hphase : s.phase = .waiting) (hqueue : s.consumer.queue = .delivery number :: rest) :
    number = taken ∧ ({ s with
      consumer := { s.consumer with queue := rest }
      phase := .handling number } : QueuedService ω σ γ).Tracked (taken + 1) settled := by
  have hcounts := hs.counts
  rw [hphase] at hcounts
  cases hcounts
  have hexpected := hs.queue.symm.trans hqueue
  rw [hphase] at hexpected
  rcases hs.taken_le.lt_or_eq with hlt | heq
  · rw [waitingItems_of_lt hlt, List.cons_append] at hexpected
    obtain ⟨hnumber, rfl⟩ := List.cons.inj hexpected
    obtain rfl := QueueItem.delivery.inj hnumber
    exact ⟨rfl, hs.clock, .handling _, hlt, rfl, fun h => (by cases h), hs.payloads, hs.settlements⟩
  · -- only the marker is left
    rw [heq, waitingItems_self, List.nil_append] at hexpected
    split_ifs at hexpected
    cases hexpected

/-- The consumer task reaches the marker, after every delivery. -/
lemma reached (hs : s.Tracked taken settled) {rest : List QueueItem} (hphase : s.phase = .waiting)
    (hqueue : s.consumer.queue = .close :: rest) :
    ({ s with
      consumer := { s.consumer with queue := rest }
      phase := .ended } : QueuedService ω σ γ).Tracked taken settled := by
  have hcounts := hs.counts
  rw [hphase] at hcounts
  cases hcounts
  have hexpected := hs.queue.symm.trans hqueue
  rw [hphase] at hexpected
  rcases hs.taken_le.lt_or_eq with hlt | heq
  · rw [waitingItems_of_lt hlt, List.cons_append] at hexpected
    cases List.cons.inj hexpected |>.1
  · rw [heq, waitingItems_self, List.nil_append] at hexpected
    split_ifs at hexpected with hmarked
    · obtain ⟨-, rfl⟩ := List.cons.inj hexpected
      refine ⟨hs.clock, .ended _, hs.taken_le, ?_, fun _ => ⟨?_, heq⟩, hs.payloads, hs.settlements⟩
      · rw [heq, waitingItems_self]
        simp [ConsumerTaskPhase.isEnded]
      · exact (Bool.and_eq_true_iff.mp hmarked).1

/-- The consumer task ingests the delivery that it took. -/
lemma ingested (hs : s.Tracked taken settled) {number : ℕ} (hphase : s.phase = .handling number)
    {delivery : InMemoryStateDelivery}
    (hdelivery : s.consumer.deliveries[number]? = some delivery) (result : IngestionResult)
    (service : ServiceState ω σ γ InMemoryActionPublisher) :
    ({ s with
      transport := { s.transport with service }
      phase := .settling number result.accepted
      ingestions := s.ingestions ++ [{ payload := delivery.payload, result }] } :
        QueuedService ω σ γ).Tracked taken settled := by
  have hcounts := hs.counts
  rw [hphase] at hcounts
  obtain ⟨hclock, -, hle, hqueue, -, hpayloads, hsettlements⟩ := hs
  rw [hphase] at hqueue
  cases hcounts
  refine ⟨hclock, .settling s.ingestions ⟨delivery.payload, result⟩, hle, hqueue,
    fun h => (by cases h), ?_, fun i delivery' hi => ?_⟩
  · rw [List.map_append, hpayloads, List.length_append, List.length_singleton,
      List.take_add_one, List.getElem?_map, hdelivery]
    rfl
  · rw [hsettlements i delivery' hi]
    split_ifs with hlt
    · rw [List.getElem?_append_left hlt]
    · rfl

/-- The consumer task settles the delivery that it ingested, which can be settled.

**Proof sketch.** The delivery that is settled is the last one ingested, and it was not settled
before. So the deliveries with a settlement are one more than they were, in the same order. -/
lemma settle (hs : s.Tracked taken settled) {number : ℕ} {accepted : Bool}
    (hphase : s.phase = .settling number accepted) {delivery : InMemoryStateDelivery}
    (hdelivery : s.consumer.deliveries[number]? = some delivery) :
    ∃ delivery', delivery.settle accepted = .ok delivery' ∧ ({ s with
      consumer := { s.consumer with deliveries := s.consumer.deliveries.set number delivery' }
      phase := .waiting } : QueuedService ω σ γ).Tracked taken (settled + 1) := by
  have hcounts := hs.counts
  rw [hphase] at hcounts
  obtain ⟨hclock, -, hle, hqueue, -, hpayloads, hsettlements⟩ := hs
  rw [hphase] at hqueue
  generalize hingestions : s.ingestions = ingestions at hcounts hpayloads hsettlements
  cases hcounts with
  | settling before last =>
    have hunsettled := hsettlements _ _ hdelivery
    rw [if_neg (lt_irrefl _)] at hunsettled
    refine ⟨_, delivery.settle_of_unsettled hunsettled _, hclock, ?_, ?_, ?_, fun h => (by cases h),
      ?_, fun i delivery' hi => ?_⟩
    · have hwaiting := ConsumerTaskPhase.Counts.waiting (before ++ [last])
      rwa [List.length_append, List.length_singleton] at hwaiting
    · rwa [List.length_set]
    · rw [List.length_set]
      exact hqueue
    · -- settling leaves the payloads as they are
      have hkept := map_set_of_eq (f := InMemoryStateDelivery.payload) hdelivery
        (b := { delivery with settlement := some (.ofAccepted last.result.accepted) }) rfl
      exact hpayloads.trans (congrArg _ hkept.symm)
    · dsimp only at hi
      rw [List.getElem?_set] at hi
      split_ifs at hi with heq hlt
      · obtain rfl := Option.some.inj hi
        subst heq
        rw [if_pos (Nat.lt_succ_self _), List.getElem?_concat_length]
        rfl
      · rw [hsettlements i delivery' hi]
        by_cases hlt : i < before.length
        · rw [if_pos hlt, if_pos (by omega)]
        · rw [if_neg hlt, if_neg (by omega)]

/-- A delivery is submitted. -/
lemma submitted (hs : s.Tracked taken settled) (hopen : s.consumer.closed = false)
    (payload : StatePayload) : ({ s with
      consumer := { s.consumer with
        deliveries := s.consumer.deliveries ++ [{ payload }]
        queue := s.consumer.queue ++ [.delivery s.consumer.deliveries.length] } } :
      QueuedService ω σ γ).Tracked taken settled := by
  have hlength : s.ingestions.length ≤ s.consumer.deliveries.length :=
    hs.counts.le.2.1.trans hs.taken_le
  refine ⟨hs.clock, hs.counts, ?_, ?_, fun hended => ?_, ?_, fun i delivery hi => ?_⟩
  · rw [List.length_append]
    exact hs.taken_le.trans (Nat.le_add_right _ _)
  · dsimp only
    rw [List.length_append, List.length_singleton, waitingItems_put hs.taken_le, hs.queue, hopen]
    simp
  · exact absurd ((hs.ended hended).1.symm.trans hopen) Bool.noConfusion
  · rw [hs.payloads, List.map_append, List.take_append_of_le_length (by simpa using hlength)]
  · dsimp only at hi ⊢
    rw [List.getElem?_append] at hi
    split_ifs at hi with hlt
    · exact hs.settlements i delivery hi
    · -- a new delivery is not settled
      have hsettled := hs.counts.le
      have hle := hs.taken_le
      rw [List.getElem?_singleton] at hi
      split_ifs at hi
      obtain rfl := Option.some.inj hi
      rw [if_neg (by omega)]

/-- The queue is closed. -/
lemma closed (hs : s.Tracked taken settled) :
    ({ s with consumer := s.consumer.close } : QueuedService ω σ γ).Tracked taken settled := by
  unfold InMemoryStateConsumer.close
  split_ifs with hclosed
  · exact hs
  · have hended : s.phase.isEnded = false := by
      by_contra hended
      exact hclosed (hs.ended (by simpa using hended)).1
    refine ⟨hs.clock, hs.counts, hs.taken_le, ?_, fun h => ?_, hs.payloads, hs.settlements⟩
    · dsimp only
      rw [hs.queue, hended]
      simp [hclosed]
    · exact absurd (hended.symm.trans h) Bool.noConfusion

/-- A delivery that is being handled or settled was submitted. -/
lemma exists_delivery (hs : s.Tracked taken settled) {number : ℕ} (h : number < taken) :
    ∃ delivery, s.consumer.deliveries[number]? = some delivery :=
  ⟨_, List.getElem?_eq_getElem (h.trans_le hs.taken_le)⟩

/-- The consumer task never fails. -/
lemma phase_ne_raised (hs : s.Tracked taken settled) (e : PyException) : s.phase ≠ .raised e := by
  intro hphase
  have hcounts := hs.counts
  rw [hphase] at hcounts
  cases hcounts

end Tracked

/-- **What a step of the consumer task does**: it takes the next delivery, ingests it, settles it,
or ends at the marker. -/
lemma Consistent.consumer (hs : s.Consistent) (h : ConsumerStep s t) : t.Consistent := by
  obtain ⟨taken, settled, hs⟩ := hs
  cases h with
  | took number rest hphase hqueue => exact ⟨_, _, (hs.took hphase hqueue).2⟩
  | ended rest hphase hqueue => exact ⟨_, _, hs.reached hphase hqueue⟩
  | ingested number hphase hdelivery h => exact ⟨_, _, hs.ingested hphase hdelivery _ _⟩
  | ingestRaised number hphase hdelivery h =>
    obtain ⟨_, _, hreturns⟩ := ingestPayload_total hs.clock _ _
    cases hreturns.symm.trans h
  | settled number accepted hphase hdelivery h =>
    obtain ⟨delivery', hsettle, ht⟩ := hs.settle hphase hdelivery
    obtain rfl := Except.ok.inj (hsettle.symm.trans h)
    exact ⟨_, _, ht⟩
  | settleRaised number accepted hphase hdelivery h =>
    obtain ⟨delivery', hsettle, -⟩ := hs.settle hphase hdelivery
    cases hsettle.symm.trans h

/-- **Every step** keeps the queue consistent. -/
lemma Consistent.step (hs : s.Consistent) (h : QueueStep s t) : t.Consistent := by
  cases h with
  | consumer h => exact hs.consumer h
  | submitted payload h =>
    obtain ⟨taken, settled, hs⟩ := hs
    obtain ⟨hopen, rfl, rfl⟩ := s.consumer.submit_eq_ok h
    exact ⟨_, _, hs.submitted hopen payload⟩
  | closed =>
    obtain ⟨taken, settled, hs⟩ := hs
    exact ⟨_, _, hs.closed⟩
  | elsewhere transport hclock =>
    obtain ⟨taken, settled, hs⟩ := hs
    exact ⟨_, _, { hs with clock := hclock }⟩

/-- The invariant holds in every interleaving. -/
lemma consistent_of_reachable (h : queueMachine.Reachable s) : s.Consistent := by
  refine h.invariant ?_ fun _ _ _ hs hstep => hs.step hstep
  rintro _ ⟨transport, hclock, rfl⟩
  exact .new hclock

end QueuedService

/-! ## Exactly once -/

/-- The settlements, as a list. -/
lemma QueuedService.Tracked.settlements_eq {taken settled : ℕ} (hs : s.Tracked taken settled) :
    s.consumer.deliveries.map InMemoryStateDelivery.settlement =
      (s.ingestions.take settled).map (fun ingestion => some ingestion.settlement) ++
        List.replicate (s.consumer.deliveries.length - settled) none := by
  obtain ⟨hsettled, hingested, -⟩ := hs.counts.le
  have hle := hs.taken_le
  have hlength : ((s.ingestions.take settled).map
      fun ingestion => some ingestion.settlement).length = settled := by
    rw [List.length_map, List.length_take, min_eq_left hsettled]
  refine List.ext_getElem? fun i => ?_
  rw [List.getElem?_map, List.getElem?_append, hlength, List.getElem?_map]
  cases hi : s.consumer.deliveries[i]? with
  | none =>
    have hi := List.getElem?_eq_none_iff.mp hi
    rw [if_neg (by omega), List.getElem?_eq_none (by rw [List.length_replicate]; omega)]
    rfl
  | some delivery =>
    have hlt := (List.getElem?_eq_some_iff.mp hi).1
    rw [Option.map_some, hs.settlements i delivery hi]
    split_ifs with hi
    · rw [List.getElem?_take_of_lt hi, List.getElem?_eq_getElem (by omega)]
      rfl
    · rw [List.getElem?_replicate_of_lt (by omega)]

/-- A consumer task that has ended has ingested and settled everything. -/
lemma QueuedService.Tracked.all_of_ended {taken settled : ℕ} (hs : s.Tracked taken settled)
    (h : s.phase.isEnded = true) : s.consumer.closed = true ∧
      s.ingestions.length = s.consumer.deliveries.length ∧
      settled = s.consumer.deliveries.length := by
  obtain ⟨hclosed, hall⟩ := hs.ended h
  have hcounts := hs.counts
  cases hphase : s.phase with
  | ended =>
    rw [hphase] at hcounts
    cases hcounts
    exact ⟨hclosed, hall, hall⟩
  | _ =>
    rw [hphase] at h
    cases h

/-- **Every delivery is ingested once and settled once, in the order of submission**, however the
consumer task interleaves with submissions, ticks and the closing of the queue. The payloads that
were ingested are those of the first deliveries, the settlements follow the results, at most one
delivery is taken but not settled, and the queue holds exactly the deliveries that were not taken.
The consumer task never fails, and once it has ended everything that was submitted is settled.

**Proof sketch.** The invariant `Tracked` counts how many deliveries were taken and how many
settled. The consumer task is at most one delivery ahead of itself, and every other task only
appends. -/
theorem stateQueue_exactlyOnce (h : queueMachine.Reachable s) :
    ∃ taken settled, settled ≤ s.ingestions.length ∧ s.ingestions.length ≤ taken ∧
      taken ≤ settled + 1 ∧ taken ≤ s.consumer.deliveries.length ∧
      s.ingestions.map Ingestion.payload =
        (s.consumer.deliveries.map InMemoryStateDelivery.payload).take s.ingestions.length ∧
      s.consumer.deliveries.map InMemoryStateDelivery.settlement =
        (s.ingestions.take settled).map (fun ingestion => some ingestion.settlement) ++
          List.replicate (s.consumer.deliveries.length - settled) none ∧
      s.consumer.queue = waitingItems taken s.consumer.deliveries.length ++
        (if s.consumer.closed && !s.phase.isEnded then [.close] else []) ∧
      (∀ e, s.phase ≠ .raised e) ∧
      (s.phase.isEnded = true →
        s.consumer.closed = true ∧ settled = s.consumer.deliveries.length) := by
  obtain ⟨taken, settled, hs⟩ := QueuedService.consistent_of_reachable h
  obtain ⟨hsettled, hingested, htaken⟩ := hs.counts.le
  refine ⟨taken, settled, hsettled, hingested, htaken, hs.taken_le, hs.payloads, hs.settlements_eq,
    hs.queue, hs.phase_ne_raised, fun hended => ?_⟩
  obtain ⟨hclosed, -, hall⟩ := hs.all_of_ended hended
  exact ⟨hclosed, hall⟩

/-- The payload of a robot that stands at its goal. -/
def arrivedPayload : StatePayload := .wellTyped {
  deviceId := "a", timestamp := 1, x := 0, y := 0, theta := 0, batteryLevel := 50, loaded := false
  deadline := 1000, path := [] }

/-- A payload that is not a state and one that is are submitted to a new service, and the queue is
closed. -/
def submittedQueue : QueuedService ℕ Store ℕ where
  consumer := {
    queue := [.delivery 0, .delivery 1, .close]
    closed := true
    deliveries := [{ payload := .malformed none }, { payload := arrivedPayload }] }
  transport := .initial 0

/-- Both payloads are submitted, and the queue is closed. -/
lemma submittedQueue_reachable : queueMachine.Reachable submittedQueue :=
  .step (.step (.step (.init ⟨.initial 0, le_rfl, rfl⟩) (.submitted (.malformed none) rfl))
    (.submitted arrivedPayload rfl)) .closed

/-- The first payload was rejected, and the second one accepted with this result. -/
def drainedQueue (result : IngestionResult)
    (service : ServiceState ℕ Store ℕ InMemoryActionPublisher) : QueuedService ℕ Store ℕ where
  consumer := {
    closed := true
    deliveries := [{ payload := .malformed none, settlement := some .rejected },
      { payload := arrivedPayload, settlement := some .acknowledged }] }
  phase := .ended
  transport := { InMemoryTransportState.initial 0 with service }
  ingestions := [
    { payload := .malformed none
      result := { accepted := false, robotId := none, reason := "input_validation_failed" } },
    { payload := arrivedPayload, result }]

/-- The consumer task takes, ingests and settles both, and ends at the marker. -/
lemma submittedQueue_drains :
    ∃ result service, Relation.ReflTransGen ConsumerStep submittedQueue
      (drainedQueue result service) := by
  obtain ⟨result, service, hrun, haccepted⟩ := Ensures.exists_ok
    (x := ingestPayload 0 arrivedPayload)
    (s := { (InMemoryTransportState.initial 0).service with rejectedStateCount := 1 })
    (Q := fun result _ => result.accepted = true) (by decide +kernel)
  have hfirst : Relation.ReflTransGen ConsumerStep submittedQueue _ :=
    .tail (.tail (.single (.took 0 _ rfl rfl)) (.ingested 0 rfl rfl rfl))
      (.settled 0 false rfl rfl rfl)
  have hsecond := (hfirst.tail (.took 1 _ rfl rfl)).tail (.ingested 1 rfl rfl hrun)
  rw [haccepted] at hsecond
  exact ⟨result, service, (hsecond.tail (.settled 1 true rfl rfl rfl)).tail (.ended [] rfl rfl)⟩

/-- Where the consumer task ends is reachable. -/
lemma drainedQueue_reachable {result : IngestionResult}
    {service : ServiceState ℕ Store ℕ InMemoryActionPublisher}
    (h : Relation.ReflTransGen ConsumerStep submittedQueue (drainedQueue result service)) :
    queueMachine.Reachable (drainedQueue result service) :=
  submittedQueue_reachable.trans (h.lift id fun _ _ => .consumer)

/-- Two deliveries, each ingested once and settled once: one is rejected, the other acknowledged. -/
theorem stateQueue_exactlyOnce_drained : ∃ result service,
    (drainedQueue result service).consumer.deliveries.map InMemoryStateDelivery.settlement =
        [some .rejected, some .acknowledged] ∧
      (drainedQueue result service).ingestions.map Ingestion.payload =
        [.malformed none, arrivedPayload] ∧
      (∀ e, (drainedQueue result service).phase ≠ .raised e) ∧
      ∃ settled, settled ≤ (drainedQueue result service).ingestions.length ∧ settled = 2 := by
  obtain ⟨result, service, hrun⟩ := submittedQueue_drains
  obtain ⟨taken, settled, hsettled, -, -, -, -, -, -, hfails, hended⟩ :=
    stateQueue_exactlyOnce (drainedQueue_reachable hrun)
  exact ⟨result, service, rfl, rfl, hfails, settled, hsettled, (hended rfl).2⟩

/-! ## Draining -/

/-- How many steps the consumer task has before it, at most. -/
def QueuedService.work (s : QueuedService ω σ γ) : ℕ :=
  3 * s.consumer.queue.length + match s.phase with
    | .handling _ => 2
    | .settling _ _ => 1
    | _ => 0

/-- Every step of the consumer task is one step less for it. -/
lemma QueuedService.work_lt (h : ConsumerStep s t) : t.work < s.work := by
  cases h with
  | took number rest hphase hqueue => simp [work, hphase, hqueue]; omega
  | ended rest hphase hqueue => simp [work, hphase, hqueue]
  | ingested number hphase hdelivery h => simp [work, hphase]
  | ingestRaised number hphase hdelivery h => simp [work, hphase]
  | settled number accepted hphase hdelivery h => simp [work, hphase]
  | settleRaised number accepted hphase hdelivery h => simp [work, hphase]

/-- A consumer task that cannot go on waits at an empty queue, or has ended.

**Proof sketch.** By cases on the phase of the consumer task. A delivery that is handled can be
ingested, and one that is being settled can be settled, so neither is the phase of a task that
cannot go on. A task that waits finds the queue empty, and then everything taken was settled. -/
lemma QueuedService.Tracked.idle {taken settled : ℕ} (hs : s.Tracked taken settled)
    (hidle : ∀ t, ¬ ConsumerStep s t) :
    settled = s.consumer.deliveries.length ∧ s.phase.isEnded = s.consumer.closed := by
  have hcounts := hs.counts
  cases hphase : s.phase with
  | waiting =>
    rw [hphase] at hcounts
    cases hcounts
    have hqueue := hs.queue
    rw [hphase] at hqueue
    rcases hs.taken_le.lt_or_eq with hlt | heq
    · rw [waitingItems_of_lt hlt, List.cons_append] at hqueue
      exact absurd (.took _ _ hphase hqueue) (hidle _)
    · rw [heq, waitingItems_self, List.nil_append] at hqueue
      refine ⟨heq, ?_⟩
      cases hclosed : s.consumer.closed with
      | false => rfl
      | true =>
        rw [hclosed] at hqueue
        exact absurd (.ended _ hphase hqueue) (hidle _)
  | handling number =>
    rw [hphase] at hcounts
    obtain ⟨delivery, hdelivery⟩ : ∃ delivery, s.consumer.deliveries[number]? = some delivery := by
      cases hcounts
      exact hs.exists_delivery (Nat.lt_succ_self _)
    obtain ⟨result, service', hreturns⟩ :=
      ingestPayload_total hs.clock delivery.payload s.transport.service
    exact absurd (.ingested number hphase hdelivery hreturns) (hidle _)
  | settling number accepted =>
    rw [hphase] at hcounts
    obtain ⟨delivery, hdelivery⟩ : ∃ delivery, s.consumer.deliveries[number]? = some delivery := by
      generalize s.ingestions = ingestions at hcounts
      cases hcounts
      exact hs.exists_delivery (Nat.lt_succ_self _)
    obtain ⟨delivery', hsettle, -⟩ := hs.settle hphase hdelivery
    exact absurd (.settled number accepted hphase hdelivery hsettle) (hidle _)
  | ended =>
    obtain ⟨hclosed, -, hall⟩ := hs.all_of_ended (by rw [hphase]; rfl)
    exact ⟨hall, hclosed.symm⟩
  | raised e => exact absurd hphase (hs.phase_ne_raised e)

/-- **Left alone, the consumer task settles everything that was submitted.** From every state of a
state queue each run of its own steps stops, and where it stops every delivery is settled; it has
ended there iff the queue was closed.

**Proof sketch.** Every step of the consumer task does some of its remaining work (`work_lt`). It
cannot stop while something is in the queue, or in between (`Tracked.idle`). -/
theorem consumer_drains (h : queueMachine.Reachable s) :
    Acc (fun u t => ConsumerStep t u) s ∧
      ∀ t, Relation.ReflTransGen ConsumerStep s t → (∀ u, ¬ ConsumerStep t u) →
        (∀ delivery ∈ t.consumer.deliveries, delivery.settlement ≠ none) ∧
          t.phase.isEnded = t.consumer.closed := by
  refine ⟨Subrelation.accessible (fun h => QueuedService.work_lt h)
    (InvImage.accessible QueuedService.work (Nat.lt_wfRel.wf.apply _)), fun t hrun hidle => ?_⟩
  have hreach : queueMachine.Reachable t := h.trans (hrun.lift id fun _ _ => .consumer)
  obtain ⟨taken, settled, hs⟩ := QueuedService.consistent_of_reachable hreach
  obtain ⟨hall, hended⟩ := hs.idle hidle
  refine ⟨fun delivery hdelivery => ?_, hended⟩
  obtain ⟨i, hi⟩ := List.mem_iff_getElem?.mp hdelivery
  have hlt := (List.getElem?_eq_some_iff.mp hi).1
  have hsettled := hs.counts.le.1
  rw [hs.settlements i delivery hi, if_pos (by omega), List.getElem?_eq_getElem (by omega)]
  exact Option.some_ne_none _

/-- The consumer task settles both payloads and ends, as the queue was closed. -/
theorem consumer_drains_closed : ∃ result service,
    Relation.ReflTransGen ConsumerStep submittedQueue (drainedQueue result service) ∧
      Acc (fun u t => ConsumerStep t u) submittedQueue ∧
      (∀ delivery ∈ (drainedQueue result service).consumer.deliveries,
        delivery.settlement ≠ none) ∧
      (drainedQueue result service).phase.isEnded = true := by
  obtain ⟨result, service, hrun⟩ := submittedQueue_drains
  obtain ⟨hacc, hdrained⟩ := consumer_drains submittedQueue_reachable
  have hidle : ∀ u, ¬ ConsumerStep (drainedQueue result service) u := by
    intro u hstep
    cases hstep with
    | took number rest hphase => cases hphase
    | ended rest hphase => cases hphase
    | ingested number hphase => cases hphase
    | ingestRaised number hphase => cases hphase
    | settled number accepted hphase => cases hphase
    | settleRaised number accepted hphase => cases hphase
  obtain ⟨hsettled, hended⟩ := hdrained _ hrun hidle
  exact ⟨result, service, hrun, hacc, hsettled, hended⟩

end Machine

end CollisionMonitor
