import CollisionMonitor.Lib.Broker
import CollisionMonitor.Lib.Machine
import CollisionMonitor.LatestStates
import CollisionMonitor.Reconnection

set_option relaxedAutoImplicit false
set_option autoImplicit false

/-!
# States from the broker

The service consumes the shared state queue of the broker one delivery at a time, and settles each
after it has ingested it. Channels may be lost at any moment, and then what is not settled is
delivered again, perhaps after its settlement was sent.

An iterator may still give messages of a lost channel. Settling such a message has no effect at the
broker, or raises.

## Main definitions

* `BrokeredService`, `BrokerStep`, `brokerMachine` — the interleavings of robots, broker, consumer
  and ticks.

## Main results

* `states_neverLost` — no published state is lost, whatever connections fail.
-/

namespace CollisionMonitor

open Outcome

/-- Where the body of `consume_states` is. -/
inductive HandlingPhase
  | idle
  | ingesting (number : ℕ)
  | settling (number : ℕ) (accepted : Bool)
  | raised (e : PyException)
  | cancelled

/-- A message that was ingested. -/
structure BrokerIngestion where
  number : ℕ
  delivery : StateDelivery
  accepted : Bool

/-- How `consume_states` settles a delivery. -/
def dispositionOf (accepted : Bool) : Disposition :=
  if accepted then .acknowledged else .rejected false

/-- A service that consumes a queue of the broker: the messages that were published to it, the
queue, the messages that the iterator holds, and the history of ingestions. -/
structure BrokeredService (ω σ γ π : Type) where
  messages : List (IncomingMessage StatePayload)
  broker : BrokerQueue Disposition
  loop : ConsumerLoop
  buffered : List ℕ := []
  handling : HandlingPhase := .idle
  service : ServiceState ω σ γ π
  ingestions : List BrokerIngestion := []

section Machine

variable {ω σ γ π : Type} (config : MonitorConfig)

/-- The steps of the robots, the broker, the consumer task and the tasks beside it. -/
inductive BrokerStep : BrokeredService ω σ γ π → BrokeredService ω σ γ π → Prop
  | published {s} (message : IncomingMessage StatePayload) :
      BrokerStep s { s with messages := s.messages ++ [message], broker := s.broker.publish }
  | delivered {s} (number : ℕ) (rest : List ℕ) (hwaiting : s.broker.waiting = number :: rest)
      (hopen : s.loop.phase = .iterating ∨ s.loop.phase = .yielding) :
      BrokerStep s { s with
        broker := s.broker.deliver number rest, buffered := s.buffered ++ [number] }
  | channelLost {s} (order kept : List ℕ)
      (horder : order.Perm (s.broker.unsettled ++ s.broker.waiting))
      (hkept : kept.Sublist s.buffered) :
      BrokerStep s { s with broker := s.broker.requeue order, buffered := kept }
  -- `receive_states`: an iterator is entered or left
  | iterator {s loop effects} (event : ConsumerEvent StatePayload)
      (hevent : event = .opened ∨ event = .ended ∨ ∃ error, event = .raised error)
      (h : receiveStep config s.loop event = some (loop, effects)) :
      BrokerStep s { s with loop, buffered := [] }
  | waited {s loop effects} (event : ConsumerEvent StatePayload)
      (hevent : event = .woke ∨ event = .closeCalled)
      (h : receiveStep config s.loop event = some (loop, effects)) :
      BrokerStep s { s with loop }
  | cancelled {s loop effects} (h : receiveStep (P := StatePayload) config s.loop .cancelled =
      some (loop, effects)) : BrokerStep s { s with loop, handling := .cancelled }
  | resumed {s loop effects} (hidle : s.handling = .idle)
      (h : receiveStep (P := StatePayload) config s.loop .resumed = some (loop, effects)) :
      BrokerStep s { s with loop }
  -- `_decode_delivery`
  | took {s message payload loop effects} (number : ℕ) (rest : List ℕ)
      (hbuffered : s.buffered = number :: rest) (hmessage : s.messages[number]? = some message)
      (hdecoded : message.decoded = .ok payload)
      (h : receiveStep config s.loop (.received message) = some (loop, effects)) :
      BrokerStep s { s with loop, buffered := rest, handling := .ingesting number }
  | refused {s message error loop effects broker} (number : ℕ) (rest : List ℕ)
      (hbuffered : s.buffered = number :: rest) (hmessage : s.messages[number]? = some message)
      (hdecoded : message.decoded = .error error)
      (hsettles : s.broker.Settles number (.rejected false) broker)
      (h : receiveStep config s.loop (.received message) = some (loop, effects)) :
      BrokerStep s { s with loop, buffered := rest, broker }
  | refusalRaised {s message error loop effects broker} (number : ℕ) (rest : List ℕ)
      (raised : String) (hbuffered : s.buffered = number :: rest)
      (hmessage : s.messages[number]? = some message) (hdecoded : message.decoded = .error error)
      (hsettles : s.broker.Settles number (.rejected false) broker)
      (h : receiveStep (P := StatePayload) config s.loop (.raised raised) = some (loop, effects)) :
      BrokerStep s { s with loop, buffered := [], broker }
  -- the body of `consume_states`
  | ingested {s message payload result service} (number : ℕ) (received : ℚ)
      (hreceived : 0 ≤ received) (hhandling : s.handling = .ingesting number)
      (hmessage : s.messages[number]? = some message) (hdecoded : message.decoded = .ok payload)
      (h : (ingestPayload received payload).run s.service = .ok result service) :
      BrokerStep s { s with
        service
        handling := .settling number result.accepted
        ingestions := s.ingestions ++ [{
          number
          delivery := { payload, receivedMonotonicSeconds := received }
          accepted := result.accepted }] }
  | ingestRaised {s message payload e service} (number : ℕ) (received : ℚ)
      (hreceived : 0 ≤ received) (hhandling : s.handling = .ingesting number)
      (hmessage : s.messages[number]? = some message) (hdecoded : message.decoded = .ok payload)
      (h : (ingestPayload received payload).run s.service = .error e service) :
      BrokerStep s { s with service, handling := .raised e }
  | settled {s broker} (number : ℕ) (accepted : Bool)
      (hhandling : s.handling = .settling number accepted)
      (hsettles : s.broker.Settles number (dispositionOf accepted) broker) :
      BrokerStep s { s with broker, handling := .idle }
  | settleRaised {s broker} (number : ℕ) (accepted : Bool) (e : PyException)
      (hhandling : s.handling = .settling number accepted)
      (hsettles : s.broker.Settles number (dispositionOf accepted) broker) :
      BrokerStep s { s with broker, handling := .raised e }
  -- ticks leave the store as it is
  | elsewhere {s} (service : ServiceState ω σ γ π) (hstore : service.store = s.service.store) :
      BrokerStep s { s with service }

/-- The interleavings of a new service, with the messages that already wait. -/
def brokerMachine : Machine (BrokeredService ω σ γ π) where
  init s := ∃ messages service, service.store = {} ∧ s = {
    messages
    broker := { published := messages.length, waiting := List.range messages.length }
    loop := ConsumerLoop.start config
    service }
  step := BrokerStep config

end Machine

/-! ## The invariant -/

section Invariant

variable {ω σ γ π : Type} {config : MonitorConfig} {s t : BrokeredService ω σ γ π}

/-- A settlement is right for its message: a malformed message is dropped, and any other was
ingested, and acknowledged iff it was accepted. -/
def BrokeredService.Justified (s : BrokeredService ω σ γ π) (number : ℕ) (d : Disposition) : Prop :=
  ∃ message, s.messages[number]? = some message ∧
    ((∃ error, message.decoded = .error error) ∧ d = .rejected false ∨
      ∃ ingestion ∈ s.ingestions, ingestion.number = number ∧
        message.decoded = .ok ingestion.delivery.payload ∧ d = dispositionOf ingestion.accepted)

/-- What holds in every state. -/
structure BrokeredService.Kept (s : BrokeredService ω σ γ π) : Prop where
  conserves : s.broker.Conserves
  published : s.broker.published = s.messages.length
  settled : ∀ number d, (number, d) ∈ s.broker.settled → s.Justified number d
  handling : ∀ number accepted, s.handling = .settling number accepted →
    s.Justified number (dispositionOf accepted)
  ingestions : ∀ ingestion ∈ s.ingestions, 0 ≤ ingestion.delivery.receivedMonotonicSeconds ∧
    ∃ message, s.messages[ingestion.number]? = some message ∧
      message.decoded = .ok ingestion.delivery.payload
  latest : HoldsLatest s.service.store (s.ingestions.map BrokerIngestion.delivery)

/-- What is appended to the messages does not change a message. -/
lemma getElem?_of_append {α : Type} {l : List α} {n : ℕ} {a : α} (l' : List α)
    (h : l[n]? = some a) : (l ++ l')[n]? = some a := by
  rw [List.getElem?_append_left (List.getElem?_eq_some_iff.mp h).1]
  exact h

/-- A right settlement stays right. -/
lemma BrokeredService.Justified.mono {number : ℕ} {d : Disposition} (h : s.Justified number d)
    (hmessages : s.messages <+: t.messages) (hingestions : s.ingestions ⊆ t.ingestions) :
    t.Justified number d := by
  obtain ⟨message, hmessage, hcause⟩ := h
  obtain ⟨later, hlater⟩ := hmessages
  refine ⟨message, hlater ▸ getElem?_of_append later hmessage, hcause.imp_right ?_⟩
  rintro ⟨ingestion, hmem, hrest⟩
  exact ⟨ingestion, hingestions hmem, hrest⟩

namespace BrokeredService.Kept

/-- An attempt to settle a message rightly. -/
lemma settles {number : ℕ} {d : Disposition} {broker : BrokerQueue Disposition} (h : s.Kept)
    (hsettles : s.broker.Settles number d broker) (hright : s.Justified number d) :
    Kept { s with broker } := by
  refine { h with
    conserves := h.conserves.settles hsettles
    published := ?_
    settled := ?_ }
  · cases hsettles <;> exact h.published
  · intro n d' hmem
    cases hsettles with
    | lost => exact h.settled n d' hmem
    | processed =>
      rcases List.mem_append.mp hmem with hmem | hmem
      · exact h.settled n d' hmem
      · obtain ⟨rfl, rfl⟩ := Prod.mk.inj (List.mem_singleton.mp hmem)
        exact hright

/-- A malformed message is dropped. -/
lemma refuses {number : ℕ} {message : IncomingMessage StatePayload} {error : String}
    {broker : BrokerQueue Disposition} (h : s.Kept) (hmessage : s.messages[number]? = some message)
    (hdecoded : message.decoded = .error error)
    (hsettles : s.broker.Settles number (.rejected false) broker) : Kept { s with broker } :=
  h.settles hsettles ⟨message, hmessage, .inl ⟨⟨error, hdecoded⟩, rfl⟩⟩

/-- A message is ingested. -/
lemma ingest {ingestion : BrokerIngestion} {message : IncomingMessage StatePayload}
    {result : IngestionResult} {service : ServiceState ω σ γ π} (h : s.Kept)
    (hreceived : 0 ≤ ingestion.delivery.receivedMonotonicSeconds)
    (hmessage : s.messages[ingestion.number]? = some message)
    (hdecoded : message.decoded = .ok ingestion.delivery.payload)
    (hrun : (ingestPayload ingestion.delivery.receivedMonotonicSeconds
      ingestion.delivery.payload).run s.service = .ok result service) :
    Kept { s with
      service
      handling := .settling ingestion.number ingestion.accepted
      ingestions := s.ingestions ++ [ingestion] } := by
  have hingestions : ∀ i ∈ s.ingestions ++ [ingestion], 0 ≤ i.delivery.receivedMonotonicSeconds ∧
      ∃ message, s.messages[i.number]? = some message ∧
        message.decoded = .ok i.delivery.payload := by
    intro i hmem
    rcases List.mem_append.mp hmem with hmem | hmem
    · exact h.ingestions i hmem
    · rw [List.mem_singleton.mp hmem]
      exact ⟨hreceived, message, hmessage, hdecoded⟩
  refine { h with settled := ?_, handling := ?_, ingestions := hingestions, latest := ?_ }
  · exact fun n d hmem => (h.settled n d hmem).mono List.prefix_rfl (List.subset_append_left _ _)
  · intro n accepted heq
    obtain ⟨rfl, rfl⟩ := HandlingPhase.settling.inj heq
    exact ⟨message, hmessage, .inr ⟨ingestion, List.mem_append_right _ List.mem_cons_self, rfl,
      hdecoded, rfl⟩⟩
  · -- to consume a delivery is to ingest it and then to settle it
    have hclock : ∀ d ∈ (s.ingestions ++ [ingestion]).map BrokerIngestion.delivery,
        0 ≤ d.receivedMonotonicSeconds :=
      List.forall_mem_map.mpr fun i hi => (hingestions i hi).1
    rw [List.map_append] at hclock ⊢
    obtain ⟨_, store, count, hconsumed, hlatest⟩ := consumeDelivery_run hclock h.latest
    rw [consumeDelivery, run_ok_bind hrun] at hconsumed
    obtain ⟨-, rfl⟩ := EStateM.Result.ok.inj hconsumed
    exact hlatest

/-- **A step.**

**Proof sketch.** By cases on the step. The broker conserves its messages in every step of its own.
A delivery that is being handled or was settled is justified by what its message decodes to and by
the ingestion, and both only grow. -/
lemma step (h : s.Kept) (hstep : BrokerStep config s t) : t.Kept := by
  cases hstep with
  | published message =>
    have hmono : ∀ {number d}, s.Justified number d → Justified { s with
        messages := s.messages ++ [message], broker := s.broker.publish } number d :=
      fun hright => hright.mono (List.prefix_append _ _) (List.Subset.refl _)
    refine { h with
      conserves := h.conserves.publish
      published := ?_
      settled := fun n d hmem => hmono (h.settled n d hmem)
      handling := fun n accepted heq => hmono (h.handling n accepted heq)
      ingestions := ?_ }
    · rw [List.length_append, ← h.published]
      rfl
    · intro ingestion hmem
      obtain ⟨hclock, message, hmessage, hdecoded⟩ := h.ingestions ingestion hmem
      exact ⟨hclock, message, getElem?_of_append _ hmessage, hdecoded⟩
  | delivered number rest hwaiting => exact { h with conserves := h.conserves.deliver hwaiting }
  | channelLost order kept horder => exact { h with conserves := h.conserves.requeue horder }
  | iterator | waited | resumed => exact { h with }
  | cancelled | took => exact { h with handling := fun _ _ heq => (by cases heq) }
  | refused number rest _ hmessage hdecoded hsettles =>
    exact { h.refuses hmessage hdecoded hsettles with }
  | refusalRaised number rest raised _ hmessage hdecoded hsettles =>
    exact { h.refuses hmessage hdecoded hsettles with }
  | @ingested _ payload result _ number received hreceived _ hmessage hdecoded hrun =>
    let delivery : StateDelivery := { payload, receivedMonotonicSeconds := received }
    exact @ingest _ _ _ _ s ⟨number, delivery, result.accepted⟩ _ _ _ h hreceived hmessage hdecoded
      hrun
  | ingestRaised number received hreceived _ hmessage hdecoded hrun =>
    rw [(ingestPayload_spec received _ _).get_error hrun]
    exact { h with handling := fun _ _ heq => (by cases heq) }
  | settled number accepted hhandling hsettles =>
    exact { h.settles hsettles (h.handling number accepted hhandling) with
      handling := fun _ _ heq => (by cases heq) }
  | settleRaised number accepted e hhandling hsettles =>
    exact { h.settles hsettles (h.handling number accepted hhandling) with
      handling := fun _ _ heq => (by cases heq) }
  | elsewhere service hstore => exact { h with latest := hstore ▸ h.latest }

end BrokeredService.Kept

/-! ## What the store holds -/

/-- A valid state of a robot was delivered, and is its own. -/
lemma mem_validStates {deliveries : List StateDelivery} {r : RobotId} {stored : StoredStateFields}
    (h : stored ∈ validStates deliveries r) : stored.state.deviceId = r ∧
      ∃ d ∈ deliveries, RobotState.modelValidate d.payload = .ok stored.state := by
  obtain ⟨d, hd, hsome⟩ := List.mem_filterMap.mp h
  split at hsome
  case h_1 state hvalid =>
    split_ifs at hsome with hrobot
    rw [← Option.some.inj hsome]
    exact ⟨hrobot, d, hd, hvalid⟩
  case h_2 => cases hsome

/-- A delivery with a valid state counts for its robot. -/
lemma mem_validStates_of_mem {deliveries : List StateDelivery} {d : StateDelivery}
    {state : RobotState} (hd : d ∈ deliveries)
    (hvalid : RobotState.modelValidate d.payload = .ok state) :
    ⟨state, d.receivedMonotonicSeconds⟩ ∈ validStates deliveries state.deviceId := by
  refine List.mem_filterMap.mpr ⟨d, hd, ?_⟩
  rw [hvalid]
  exact if_pos rfl

/-- The message is a JSON object that validates to this state. -/
def IncomingMessage.Carries (message : IncomingMessage StatePayload) (state : RobotState) : Prop :=
  ∃ payload, message.decoded = .ok payload ∧ RobotState.modelValidate payload = .ok state

/-- The store holds this state of the robot or one that is not older. -/
def LatestStateStore.Covers (store : LatestStateStore) (state : RobotState) : Prop :=
  ∃ stored, store.states.lookup state.deviceId = some stored ∧
    state.timestamp ≤ stored.val.state.timestamp

namespace BrokeredService.Kept

/-- The state of a message that was settled is covered. -/
lemma covers {number : ℕ} {d : Disposition} {message : IncomingMessage StatePayload}
    {state : RobotState} (h : s.Kept) (hright : s.Justified number d)
    (hmessage : s.messages[number]? = some message) (hcarries : message.Carries state) :
    s.service.store.Covers state := by
  obtain ⟨payload, hdecoded, hvalid⟩ := hcarries
  obtain ⟨message', hmessage', hcause⟩ := hright
  obtain rfl := Option.some.inj (hmessage.symm.trans hmessage')
  rcases hcause with ⟨⟨error, hmalformed⟩, -⟩ | ⟨ingestion, hmem, rfl, hdecoded', -⟩
  · cases hdecoded.symm.trans hmalformed
  obtain rfl := Except.ok.inj (hdecoded.symm.trans hdecoded')
  have hclock : ∀ d ∈ s.ingestions.map BrokerIngestion.delivery, 0 ≤ d.receivedMonotonicSeconds :=
    List.forall_mem_map.mpr fun i hi => (h.ingestions i hi).1
  have hstate := mem_validStates_of_mem (List.mem_map_of_mem hmem) hvalid
  obtain ⟨greatest, hgreatest⟩ : ∃ greatest, LastMax sourceTimestamp
    (validStates (s.ingestions.map BrokerIngestion.delivery) state.deviceId) greatest :=
      exists_lastMax (List.ne_nil_of_mem hstate)
  exact ⟨⟨greatest, stored_accepted (received_nonneg hclock hgreatest.mem)⟩,
    (h.latest _ _).mpr hgreatest, hgreatest.le _ hstate⟩

/-- What is stored for a robot was published by it. -/
lemma stored_published {r : RobotId} {stored : StoredRobotState} (h : s.Kept)
    (hstored : s.service.store.states.lookup r = some stored) : stored.val.state.deviceId = r ∧
      ∃ message ∈ s.messages, message.Carries stored.val.state := by
  obtain ⟨hrobot, d, hd, hvalid⟩ := mem_validStates ((h.latest r stored).mp hstored).mem
  obtain ⟨ingestion, hmem, rfl⟩ := List.mem_map.mp hd
  obtain ⟨-, message, hmessage, hdecoded⟩ := h.ingestions ingestion hmem
  exact ⟨hrobot, message, List.mem_of_getElem? hmessage, _, hdecoded, hvalid⟩

end BrokeredService.Kept

/-- The invariant holds in every run of the broker. -/
lemma kept_of_reachable (h : (brokerMachine config).Reachable s) : s.Kept := by
  refine h.invariant ?_ fun _ _ _ hkept hstep => hkept.step hstep
  rintro _ ⟨messages, service, hstore, rfl⟩
  refine ⟨?_, rfl, fun _ _ hmem => (by cases hmem), fun _ _ heq => (by cases heq),
    fun _ hmem => (by cases hmem), hstore ▸ Ingested.fresh.latest⟩
  exact List.Perm.of_eq (List.append_nil _)

/-- **No published state is lost.** In every run, whatever channels and settlements are lost and
however often messages are redelivered:
every message that was published to the queue waits in it, was delivered and is not settled, or was
settled once; a malformed message was dropped, and any other was ingested before it was settled, and
acknowledged iff it was accepted; the store holds for the robot of every settled valid state that
state or one that is not older; what it holds was published by that robot; and when nothing is left
to settle, this covers every valid state that was published.

**Proof sketch.** The invariant `Kept` relates the broker, the deliveries under way and the store.
Settling follows ingestion, so a state that is settled is covered by the store, and states are only
ever replaced by later ones. -/
theorem states_neverLost (h : (brokerMachine config).Reachable s) :
    (s.broker.waiting ++ (s.broker.unsettled ++ s.broker.settled.map Prod.fst)).Perm
      (List.range s.messages.length) ∧
    (∀ number d, (number, d) ∈ s.broker.settled → s.Justified number d ∧
      ∀ message state, s.messages[number]? = some message → message.Carries state →
        s.service.store.Covers state) ∧
    (∀ r stored, s.service.store.states.lookup r = some stored → stored.val.state.deviceId = r ∧
      ∃ message ∈ s.messages, message.Carries stored.val.state) ∧
    (s.broker.waiting = [] → s.broker.unsettled = [] → ∀ message ∈ s.messages, ∀ state,
      message.Carries state → s.service.store.Covers state) := by
  have hkept := kept_of_reachable h
  have hsettled : ∀ number d, (number, d) ∈ s.broker.settled → s.Justified number d ∧
      ∀ message state, s.messages[number]? = some message → message.Carries state →
        s.service.store.Covers state := fun number d hmem =>
    ⟨hkept.settled number d hmem, fun _ _ => hkept.covers (hkept.settled number d hmem)⟩
  refine ⟨hkept.published ▸ hkept.conserves, hsettled, fun _ _ => hkept.stored_published, ?_⟩
  intro hwaiting hunsettled message hmem state hcarries
  obtain ⟨number, hmessage⟩ := List.mem_iff_getElem?.mp hmem
  have hnumber : number < s.broker.published := by
    rw [hkept.published]
    exact (List.getElem?_eq_some_iff.mp hmessage).1
  obtain ⟨d, hd⟩ := hkept.conserves.exists_settled hwaiting hunsettled hnumber
  exact (hsettled number d hd).2 message state hmessage hcarries

end Invariant

/-! ## A settlement that is lost -/

/-- A robot that stands has reported before the service started. -/
def standingMessage : IncomingMessage StatePayload where
  bodySizeBytes := 100
  decoded := .ok (standing "a")

/-- The report is ingested, and ingested again. -/
def ingestTwice : Service ℕ Store ℕ Unit (IngestionResult × IngestionResult) := do
  let first ← ingestPayload 1 (standing "a")
  let second ← ingestPayload 2 (standing "a")
  return (first, second)

/-- The channel is lost before the state is acknowledged, so it is delivered and ingested again. -/
theorem states_neverLost_redelivered : ∃ s : BrokeredService ℕ Store ℕ Unit,
    (brokerMachine defaultConfig).Reachable s ∧ s.ingestions.length = 2 ∧
    s.broker.settled = [(0, .acknowledged)] ∧
    ∀ message ∈ s.messages, ∀ state, message.Carries state → s.service.store.Covers state := by
  obtain ⟨⟨first, second⟩, service, hrun, haccepted⟩ := Ensures.exists_ok (x := ingestTwice)
    (s := { engine := EngineState.initial 0, publisher := () })
    (Q := fun results _ => results.2.accepted = true) (by decide +kernel)
  obtain ⟨_, stored, hfirst, hrest⟩ := run_bind_eq_ok.mp hrun
  obtain ⟨_, restored, hsecond, hpure⟩ := run_bind_eq_ok.mp hrest
  obtain ⟨heq, rfl⟩ := EStateM.Result.ok.inj hpure
  obtain ⟨rfl, rfl⟩ := Prod.mk.inj heq
  have hfresh : (brokerMachine defaultConfig).Reachable _ :=
    .init ⟨[standingMessage], { engine := EngineState.initial 0, publisher := () }, rfl, rfl⟩
  have hopened := hfresh.step (.iterator .opened (.inl rfl) rfl)
  have hdelivered := hopened.step (.delivered 0 [] rfl (.inl rfl))
  have htook := hdelivered.step (.took 0 [] rfl rfl rfl rfl)
  have hingested := htook.step (.ingested 0 1 zero_le_one rfl rfl rfl hfirst)
  have hlost := hingested.step (.channelLost [0] [] (List.Perm.refl _) (List.Sublist.refl _))
  have hunsettled := hlost.step (.settled 0 _ rfl .lost)
  have hresumed := hunsettled.step (.resumed rfl rfl)
  have hredelivered := hresumed.step (.delivered 0 [] rfl (.inl rfl))
  have htook := hredelivered.step (.took 0 [] rfl rfl rfl rfl)
  have hingested := htook.step (.ingested 0 2 zero_le_two rfl rfl rfl hsecond)
  have hsettled := hingested.step (.settled 0 _ rfl (.processed (List.mem_singleton.mpr rfl)))
  exact ⟨_, hsettled, rfl, congrArg (fun accepted => [(0, dispositionOf accepted)]) haccepted,
    (states_neverLost hsettled).2.2.2 rfl rfl⟩

end CollisionMonitor
