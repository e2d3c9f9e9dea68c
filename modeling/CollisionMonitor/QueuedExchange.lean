import CollisionMonitor.ClosedLoop
import CollisionMonitor.StateQueue

set_option relaxedAutoImplicit false
set_option autoImplicit false

/-!
# Exchanges through the state queue

`InMemorySimulatorTransport` does not call the service to ingest its payloads: it submits them to
the state queue and waits until the consumer task has settled them, one after the other. Here its
`exchange_tick` and `close` run beside the consumer task, and every interleaving of the two tasks
refines the sequential `exchangeTick`.

The refinement maps a state to what it will be once the consumer task has ingested the backlog.

## Main definitions

* `Exchange`, `ExchangeStep` — the transport with its state queue, and its interleavings.
* `exchangeMachine` — the transport that ingests its payloads itself, call by call.
* `QueuedService.Drains` — what the backlog of a state queue leads to.

## Main results

* `exchange_refines` — a caller sees the outcomes and exceptions of sequential calls.
* `exchange_returns` — every call returns or raises; the two tasks never wait for each other.
-/

namespace CollisionMonitor

open Outcome

/-! ## The two machines -/

/-- The arguments of a call of `exchange_tick`. -/
structure ExchangeCall where
  payloads : List StatePayloadFields
  robotIds : List RobotId

/-- Where the task is that calls the transport. -/
inductive CallerPhase
  | idle
  /-- The payloads left to submit, and the numbers of the deliveries so far. -/
  | submitting (call : ExchangeCall) (left : List StatePayloadFields) (numbers : List ℕ)
  /-- The numbers of the deliveries whose settlement is left to wait for. -/
  | settling (call : ExchangeCall) (left : List ℕ)
  | closing
  | closed

/-- The transport with its state queue and its caller, and what the caller has seen: the outcomes
of the calls that returned, and the call that raised. -/
structure Exchange (ω σ γ : Type) where
  queue : QueuedService ω σ γ
  caller : CallerPhase := .idle
  outcomes : List (ExchangeCall × SimulatorTickOutcome) := []
  failure : Option (ExchangeCall × PyException) := none

/-- The transport without a queue, and what its caller has seen. -/
structure ExchangeLog (ω σ γ : Type) where
  transport : InMemoryTransportState ω σ γ
  outcomes : List (ExchangeCall × SimulatorTickOutcome) := []
  failure : Option (ExchangeCall × PyException) := none

section Machines

variable {E ω σ γ : Type} (wrappedAngle : ℚ → ℚ) (config : MonitorConfig)
  (geometry : Geometry E) (parts : Collaborators ω) (api : GrantManagerApi σ γ)
  (runId : String) (startEpochMs : ℤ)

/-- The part of `exchange_tick` after all deliveries are settled. -/
def decideExchange (robotIds : List RobotId) :
    EStateM PyException (InMemoryTransportState ω σ γ) SimulatorTickOutcome := do
  let state ← get
  let result ← zoom InMemoryTransportState.service (fun state service =>
      { state with service })
    (runTick wrappedAngle config geometry parts api ⟨InMemoryActionPublisher.publishAction⟩ runId
      state.monotonicSeconds state.epochMs)
  let messages := Dict.ofPairs (result.actionMessages.map fun message =>
    (message.val.deviceId, message))
  let missing := sorted (robotIds.filter (· ∉ messages)).dedup
  lift (raiseIf (missing ≠ []) (.runtimeError
    ("monitor omitted simulator actions for robots: " ++ pyReprList missing)))
  return {
    actions := messages
    alarms := result.trace.alarms
    safetyValid := some result.trace.safetyValid
    serviceResult := some result }

/-- The steps that need no new call: those of the consumer task, and those of a call under way. -/
inductive InternalStep : Exchange ω σ γ → Exchange ω σ γ → Prop
  | consumer {e queue} (h : ConsumerStep e.queue queue) : InternalStep e { e with queue }
  | submitted {e consumer'} (call : ExchangeCall) (payload : StatePayloadFields)
      (left : List StatePayloadFields) (numbers : List ℕ) (number : ℕ)
      (hcaller : e.caller = .submitting call (payload :: left) numbers)
      (h : e.queue.consumer.submit (.wellTyped payload) = .ok (number, consumer')) :
      InternalStep e { e with
        queue := { e.queue with consumer := consumer' }
        caller := .submitting call left (numbers ++ [number]) }
  | submitRaised {e exception} (call : ExchangeCall) (payload : StatePayloadFields)
      (left : List StatePayloadFields) (numbers : List ℕ)
      (hcaller : e.caller = .submitting call (payload :: left) numbers)
      (h : e.queue.consumer.submit (.wellTyped payload) = .error exception) :
      InternalStep e { e with caller := .idle, failure := some (call, exception) }
  | submittedAll {e} (call : ExchangeCall) (numbers : List ℕ)
      (hcaller : e.caller = .submitting call [] numbers) :
      InternalStep e { e with caller := .settling call numbers }
  | acknowledged {e delivery} (call : ExchangeCall) (number : ℕ) (left : List ℕ)
      (hcaller : e.caller = .settling call (number :: left))
      (hdelivery : e.queue.consumer.deliveries[number]? = some delivery)
      (hsettlement : delivery.settlement = some .acknowledged) :
      InternalStep e { e with caller := .settling call left }
  | rejected {e delivery} (call : ExchangeCall) (number : ℕ) (left : List ℕ)
      (hcaller : e.caller = .settling call (number :: left))
      (hdelivery : e.queue.consumer.deliveries[number]? = some delivery)
      (hsettlement : delivery.settlement = some .rejected) :
      InternalStep e { e with
        caller := .idle
        failure := some (call, .runtimeError "simulator state was rejected by the monitor") }
  | returned {e outcome transport} (call : ExchangeCall) (hcaller : e.caller = .settling call [])
      (h : (decideExchange wrappedAngle config geometry parts api runId call.robotIds).run
        e.queue.transport = .ok outcome transport) :
      InternalStep e { e with
        queue := { e.queue with transport }
        caller := .idle
        outcomes := e.outcomes ++ [(call, outcome)] }
  | raised {e exception transport} (call : ExchangeCall) (hcaller : e.caller = .settling call [])
      (h : (decideExchange wrappedAngle config geometry parts api runId call.robotIds).run
        e.queue.transport = .error exception transport) :
      InternalStep e { e with
        queue := { e.queue with transport }
        caller := .idle
        failure := some (call, exception) }
  /-- The consumer task has ended. -/
  | closeReturned {e} (hcaller : e.caller = .closing) (hended : e.queue.phase.isEnded = true) :
      InternalStep e { e with caller := .closed }

/-- The steps of the transport. A caller makes one call after the other, with any arguments, until
one raises; then, or before, it closes the transport. -/
inductive ExchangeStep : Exchange ω σ γ → Exchange ω σ γ → Prop
  | internal {e e'}
      (h : InternalStep wrappedAngle config geometry parts api runId e e') : ExchangeStep e e'
  | called {e} (call : ExchangeCall) (hcaller : e.caller = .idle) (hfailure : e.failure = none) :
      ExchangeStep e { e with
        queue := { e.queue with
          transport := e.queue.transport.tickClocks startEpochMs call.payloads }
        caller := .submitting call call.payloads [] }
  | closeCalled {e} (hcaller : e.caller = .idle) :
      ExchangeStep e { e with
        queue := { e.queue with consumer := e.queue.consumer.close }
        caller := .closing }

/-- The interleavings of a new transport, whatever its service. -/
def queuedExchangeMachine : Machine (Exchange ω σ γ) where
  init e := ∃ transport, 0 ≤ transport.monotonicSeconds ∧ e = { queue := { transport } }
  step := ExchangeStep wrappedAngle config geometry parts api runId startEpochMs

/-- One sequential call. -/
inductive ExchangeLogStep : ExchangeLog ω σ γ → ExchangeLog ω σ γ → Prop
  | returned {log outcome transport} (call : ExchangeCall) (hfailure : log.failure = none)
      (h : (exchangeTick wrappedAngle config geometry parts api runId startEpochMs call.payloads
        call.robotIds).run log.transport = .ok outcome transport) :
      ExchangeLogStep log { log with transport, outcomes := log.outcomes ++ [(call, outcome)] }
  | raised {log exception transport} (call : ExchangeCall) (hfailure : log.failure = none)
      (h : (exchangeTick wrappedAngle config geometry parts api runId startEpochMs call.payloads
        call.robotIds).run log.transport = .error exception transport) :
      ExchangeLogStep log { log with transport, failure := some (call, exception) }

/-- The runs of sequential calls. -/
def exchangeMachine : Machine (ExchangeLog ω σ γ) where
  init log := ∃ transport, 0 ≤ transport.monotonicSeconds ∧ log = { transport }
  step := ExchangeLogStep wrappedAngle config geometry parts api runId startEpochMs

end Machines

/-! ## The backlog -/

section Backlog

variable {ω σ γ : Type}

/-- The payloads that were submitted but not ingested. -/
def QueuedService.backlog (q : QueuedService ω σ γ) : List StatePayload :=
  (q.consumer.deliveries.map InMemoryStateDelivery.payload).drop q.ingestions.length

/-- The backlog starts with the first delivery that was not ingested. -/
lemma QueuedService.backlog_eq_cons (q : QueuedService ω σ γ) {delivery : InMemoryStateDelivery}
    (h : q.consumer.deliveries[q.ingestions.length]? = some delivery) :
    q.backlog = delivery.payload :: (q.consumer.deliveries.map InMemoryStateDelivery.payload).drop
      (q.ingestions.length + 1) := by
  obtain ⟨hlt, rfl⟩ := List.getElem?_eq_some_iff.mp h
  have hlt' : q.ingestions.length < (q.consumer.deliveries.map
      InMemoryStateDelivery.payload).length := by simpa using hlt
  rw [QueuedService.backlog, List.drop_eq_getElem_cons hlt', List.getElem_map]

/-- Ingesting the backlog leads to these results, of all deliveries, and to this state. -/
structure QueuedService.Drains (q : QueuedService ω σ γ) (results : List IngestionResult)
    (final : InMemoryTransportState ω σ γ) : Prop where
  ingested : ∃ rest, (q.backlog.mapM (ingestPayload q.transport.monotonicSeconds)).run
      q.transport.service = .ok rest final.service ∧
    results = q.ingestions.map Ingestion.result ++ rest
  clocks : final = { q.transport with service := final.service }

namespace QueuedService.Drains

variable {q q' : QueuedService ω σ γ} {results : List IngestionResult}
  {final : InMemoryTransportState ω σ γ}

/-- Without a backlog nothing is left to do. -/
lemma of_backlog (h : q.backlog = []) :
    q.Drains (q.ingestions.map Ingestion.result) q.transport where
  ingested := ⟨[], by rw [h]; rfl, (List.append_nil _).symm⟩
  clocks := rfl

/-- What a state queue without a backlog leads to is what there is. -/
lemma eq_of_backlog (h : q.Drains results final) (hbacklog : q.backlog = []) :
    final = q.transport := by
  obtain ⟨rest, hrun, -⟩ := h.ingested
  rw [hbacklog] at hrun
  obtain ⟨-, hservice⟩ := EStateM.Result.ok.inj hrun
  rw [h.clocks, ← hservice]

/-- **A step of the consumer task does not change what the queue leads to.**

**Proof sketch.** Only ingestion changes what is still to be drained: it takes the first delivery of
the backlog and appends its result. Settling leaves the payloads as they are. -/
lemma consumer (hs : q.Consistent) (h : q.Drains results final) (hstep : ConsumerStep q q') :
    q'.Drains results final := by
  obtain ⟨taken, settled, hs⟩ := hs
  cases hstep with
  | took number rest hphase hqueue => exact ⟨h.ingested, h.clocks⟩
  | ended rest hphase hqueue => exact ⟨h.ingested, h.clocks⟩
  | @ingested delivery result service' number hphase hdelivery hingest =>
    have hcounts := hs.counts
    rw [hphase] at hcounts
    obtain ⟨rest, hrun, hresults⟩ := h.ingested
    cases hcounts
    rw [q.backlog_eq_cons hdelivery, List.mapM_cons] at hrun
    obtain ⟨result', service, hfirst, hrun⟩ := run_bind_eq_ok.mp hrun
    obtain ⟨rest', _, hrest, hrun⟩ := run_bind_eq_ok.mp hrun
    obtain ⟨rfl, rfl⟩ := EStateM.Result.ok.inj hrun
    obtain ⟨rfl, rfl⟩ := EStateM.Result.ok.inj (hfirst.symm.trans hingest)
    refine ⟨⟨rest', ?_, ?_⟩, h.clocks⟩
    · rw [QueuedService.backlog, List.length_append]
      exact hrest
    · rw [hresults, List.map_append, List.append_assoc]
      rfl
  | ingestRaised number hphase hdelivery hingest =>
    obtain ⟨_, _, hreturns⟩ := ingestPayload_total hs.clock _ _
    cases hreturns.symm.trans hingest
  | @settled delivery delivery' number accepted hphase hdelivery hsettle =>
    obtain ⟨rest, hrun, hresults⟩ := h.ingested
    refine ⟨⟨rest, ?_, hresults⟩, h.clocks⟩
    -- settling leaves the payloads as they are
    have hkept := map_set_of_eq (f := InMemoryStateDelivery.payload) hdelivery
      (delivery.settle_payload hsettle)
    rw [QueuedService.backlog, hkept]
    exact hrun
  | settleRaised number accepted hphase hdelivery hsettle =>
    obtain ⟨delivery', hreturns, -⟩ := hs.settle hphase hdelivery
    cases hreturns.symm.trans hsettle

/-- A submitted payload is ingested after the backlog. -/
lemma submitted (hs : q.Consistent) (h : q.Drains results final) (payload : StatePayload)
    (queue : List QueueItem) : ∃ result service',
      (ingestPayload q.transport.monotonicSeconds payload).run final.service = .ok result service' ∧
      ({ q with consumer := { q.consumer with
        deliveries := q.consumer.deliveries ++ [{ payload }], queue } } :
          QueuedService ω σ γ).Drains (results ++ [result]) { final with service := service' } := by
  obtain ⟨taken, settled, hs⟩ := hs
  obtain ⟨result, service', hingest⟩ := ingestPayload_total hs.clock payload final.service
  obtain ⟨rest, hrun, hresults⟩ := h.ingested
  refine ⟨result, service', hingest, ⟨rest ++ [result], ?_, ?_⟩, ?_⟩
  · have hlength : q.ingestions.length ≤ (q.consumer.deliveries.map
        InMemoryStateDelivery.payload).length := by
      rw [List.length_map]
      exact hs.counts.le.2.1.trans hs.taken_le
    rw [QueuedService.backlog, List.map_append, List.drop_append_of_le_length hlength,
      List.mapM_append]
    refine (run_ok_bind hrun).trans ?_
    rw [List.map_singleton, List.mapM_cons, bind_assoc, run_ok_bind hingest]
    rfl
  · rw [hresults, List.append_assoc]
  · rw [h.clocks]

end QueuedService.Drains

end Backlog

/-! ## The refinement -/

section Refinement

variable {E ω σ γ : Type} {wrappedAngle : ℚ → ℚ} {config : MonitorConfig}
  {geometry : Geometry E} {parts : Collaborators ω} {api : GrantManagerApi σ γ}
  {runId : String} {startEpochMs : ℤ}

/-- An exchange ingests its payloads and, unless one is rejected, goes on to its decision. -/
lemma exchangeTick_run {state : InMemoryTransportState ω σ γ}
    {payloads : List StatePayloadFields} {robotIds : List RobotId}
    {results : List IngestionResult} {service : ServiceState ω σ γ InMemoryActionPublisher}
    (h : (payloads.mapM fun payload => ingestPayload
      (state.tickClocks startEpochMs payloads).monotonicSeconds (.wellTyped payload)).run
        (state.tickClocks startEpochMs payloads).service = .ok results service) :
    (exchangeTick wrappedAngle config geometry parts api runId startEpochMs payloads robotIds).run
        state =
      if ∃ result ∈ results, result.accepted = false then
        .error (.runtimeError "simulator state was rejected by the monitor")
          { state.tickClocks startEpochMs payloads with service }
      else (decideExchange wrappedAngle config geometry parts api runId robotIds).run
        { state.tickClocks startEpochMs payloads with service } := by
  have hmodify : (modify fun state => state.tickClocks startEpochMs payloads : EStateM PyException
      (InMemoryTransportState ω σ γ) PUnit).run state =
        .ok ⟨⟩ (state.tickClocks startEpochMs payloads) := rfl
  have hget : (get : EStateM PyException (InMemoryTransportState ω σ γ) _).run
      (state.tickClocks startEpochMs payloads) = .ok (state.tickClocks startEpochMs payloads)
        (state.tickClocks startEpochMs payloads) := rfl
  have hzoom : (zoom InMemoryTransportState.service (fun state service => { state with service })
      _).run (state.tickClocks startEpochMs payloads) = _ := run_zoom_of_ok h
  unfold exchangeTick
  rw [run_ok_bind hmodify, run_ok_bind hget, run_ok_bind hzoom]
  split_ifs with hrejected
  · rw [raiseIf, if_pos hrejected]
    rfl
  · rw [raiseIf_of_not _ hrejected]
    rfl

/-- A call under way, after so many of its payloads were submitted and so many of its deliveries
were found acknowledged. -/
structure InCall (startEpochMs : ℤ) (start : InMemoryTransportState ω σ γ) (call : ExchangeCall)
    (submitted : List StatePayloadFields) (acknowledged : ℕ) (before results : List IngestionResult)
    (final : InMemoryTransportState ω σ γ) (q : QueuedService ω σ γ) : Prop where
  drains : q.Drains (before ++ results) final
  opened : q.consumer.closed = false
  put : q.consumer.deliveries.length = before.length + submitted.length
  taken : before.length + acknowledged ≤ q.ingestions.length
  accepted : ∀ i < acknowledged, ∃ result, results[i]? = some result ∧ result.accepted = true
  ingested : (submitted.mapM fun payload => ingestPayload
    (start.tickClocks startEpochMs call.payloads).monotonicSeconds (.wellTyped payload)).run
      (start.tickClocks startEpochMs call.payloads).service = .ok results final.service
  clocks : final = { start.tickClocks startEpochMs call.payloads with service := final.service }

section Steps

variable {q q' : QueuedService ω σ γ}

/-- The backlog is empty iff everything was ingested. -/
lemma backlog_eq_nil_iff :
    q.backlog = [] ↔ q.consumer.deliveries.length ≤ q.ingestions.length := by
  rw [QueuedService.backlog, List.drop_eq_nil_iff, List.length_map]

/-- The clock is never negative. -/
lemma QueuedService.Consistent.clock (hq : q.Consistent) : 0 ≤ q.transport.monotonicSeconds := by
  obtain ⟨taken, settled, hq⟩ := hq
  exact hq.clock

/-- What a step of the consumer task leaves alone. -/
lemma ConsumerStep.kept (h : ConsumerStep q q') :
    q'.consumer.closed = q.consumer.closed ∧
      q'.consumer.deliveries.length = q.consumer.deliveries.length ∧
      q.ingestions.length ≤ q'.ingestions.length := by
  cases h <;> simp

/-- At most what was submitted is ingested. -/
lemma QueuedService.Consistent.ingestions_le (hq : q.Consistent) :
    q.ingestions.length ≤ q.consumer.deliveries.length := by
  obtain ⟨taken, settled, hq⟩ := hq
  exact hq.counts.le.2.1.trans hq.taken_le

/-- The clocks of a tick are not negative. -/
lemma tickClocks_nonneg {state : InMemoryTransportState ω σ γ} (h : 0 ≤ state.monotonicSeconds)
    (payloads : List StatePayloadFields) :
    0 ≤ (state.tickClocks startEpochMs payloads).monotonicSeconds := by
  cases payloads with
  | nil => exact h
  | cons payload payloads => exact le_max_right _ _

/-- The clocks may move. -/
lemma QueuedService.Consistent.withTransport (hq : q.Consistent)
    {transport : InMemoryTransportState ω σ γ} (h : 0 ≤ transport.monotonicSeconds) :
    ({ q with transport } : QueuedService ω σ γ).Consistent :=
  hq.step (.elsewhere transport h)

/-- A loop has one result for each element. -/
lemma length_of_run_mapM {ε τ α β : Type} {f : α → EStateM ε τ β} {l : List α} {s s' : τ}
    {bs : List β} (h : (l.mapM f).run s = .ok bs s') : bs.length = l.length := by
  have hensures : Ensures (l.mapM f) s (fun bs _ => bs.length = l.length) fun _ => True := by
    refine Ensures.mapM (fun pre bs _ => bs.length = pre.length) rfl
      fun pre a post bs t _ hlength => Ensures.of_runs fun b _ _ => ?_
    rw [List.length_append, List.length_append, hlength]
    rfl
  exact hensures.get_ok h

variable {start final : InMemoryTransportState ω σ γ} {call : ExchangeCall}
  {submitted : List StatePayloadFields} {acknowledged : ℕ} {before results : List IngestionResult}

namespace InCall

/-- A step of the consumer task keeps the call where it is. -/
lemma consumer (hq : q.Consistent)
    (h : InCall startEpochMs start call submitted acknowledged before results final q)
    (hstep : ConsumerStep q q') :
    InCall startEpochMs start call submitted acknowledged before results final q' := by
  obtain ⟨hclosed, hlength, hle⟩ := hstep.kept
  exact { h with
    drains := h.drains.consumer hq hstep
    opened := hclosed.trans h.opened
    put := hlength.trans h.put
    taken := h.taken.trans hle }

/-- A call begins when there is no backlog. -/
lemma begin (hq : q.Consistent) (hopen : q.consumer.closed = false) (hbacklog : q.backlog = [])
    (call : ExchangeCall) :
    InCall startEpochMs q.transport call [] 0 (q.ingestions.map Ingestion.result) []
      (q.transport.tickClocks startEpochMs call.payloads)
      { q with transport := q.transport.tickClocks startEpochMs call.payloads } where
  drains := by
    rw [List.append_nil]
    exact .of_backlog (q := { q with
      transport := q.transport.tickClocks startEpochMs call.payloads }) hbacklog
  opened := hopen
  put := by
    rw [List.length_map]
    exact le_antisymm (backlog_eq_nil_iff.mp hbacklog) hq.ingestions_le
  taken := by rw [List.length_map]; rfl
  accepted i hi := absurd hi (Nat.not_lt_zero i)
  ingested := rfl
  clocks := rfl

/-- The next payload is submitted. -/
lemma submit (hq : q.Consistent)
    (h : InCall startEpochMs start call submitted 0 before results final q)
    (payload : StatePayloadFields) (queue : List QueueItem) : ∃ results' final',
      InCall startEpochMs start call (submitted ++ [payload]) 0 before results' final'
        { q with consumer := { q.consumer with
          deliveries := q.consumer.deliveries ++ [{ payload := .wellTyped payload }]
          queue } } := by
  obtain ⟨result, service', hingest, hdrains⟩ := h.drains.submitted hq (.wellTyped payload) queue
  refine ⟨results ++ [result], { final with service := service' }, ?_⟩
  have hclock : q.transport.monotonicSeconds =
      (start.tickClocks startEpochMs call.payloads).monotonicSeconds := by
    have hfinal := congrArg InMemoryTransportState.monotonicSeconds h.drains.clocks
    rw [h.clocks] at hfinal
    exact hfinal.symm
  rw [hclock] at hingest
  refine ⟨?_, h.opened, ?_, h.taken, fun i hi => absurd hi (Nat.not_lt_zero i), ?_, ?_⟩
  · rw [← List.append_assoc]
    exact hdrains
  · rw [List.length_append, List.length_append, h.put, Nat.add_assoc]
    rfl
  · rw [List.mapM_append, run_ok_bind h.ingested, List.mapM_cons, bind_assoc, run_ok_bind hingest]
    rfl
  · rw [h.clocks]

/-- A settled delivery of the call has the settlement of its own result. -/
lemma result_of_settlement (hq : q.Consistent)
    (h : InCall startEpochMs start call submitted acknowledged before results final q) {j : ℕ}
    {delivery : InMemoryStateDelivery} {settlement : Settlement}
    (hdelivery : q.consumer.deliveries[before.length + j]? = some delivery)
    (hsettlement : delivery.settlement = some settlement) :
    before.length + j < q.ingestions.length ∧
      ∃ result, results[j]? = some result ∧ .ofAccepted result.accepted = settlement := by
  obtain ⟨taken, settled, hq⟩ := hq
  have hsettled := hq.counts.le.1
  have hown := hq.settlements _ _ hdelivery
  rw [hsettlement] at hown
  split_ifs at hown with hlt
  have hlt' : before.length + j < q.ingestions.length := hlt.trans_le hsettled
  rw [List.getElem?_eq_getElem hlt'] at hown
  refine ⟨hlt', q.ingestions[before.length + j].result, ?_, (Option.some.inj hown).symm⟩
  -- the results so far are the first ones
  obtain ⟨rest, -, hresults⟩ := h.drains.ingested
  have hindex := congrArg (fun results => results[before.length + j]?) hresults
  rw [List.getElem?_append_right (Nat.le_add_right _ _), Nat.add_sub_cancel_left,
    List.getElem?_append_left (by rwa [List.length_map]), List.getElem?_map,
    List.getElem?_eq_getElem hlt'] at hindex
  exact hindex

/-- The caller finds its next delivery acknowledged. -/
lemma acknowledge (hq : q.Consistent)
    (h : InCall startEpochMs start call submitted acknowledged before results final q)
    {delivery : InMemoryStateDelivery}
    (hdelivery : q.consumer.deliveries[before.length + acknowledged]? = some delivery)
    (hsettlement : delivery.settlement = some .acknowledged) :
    InCall startEpochMs start call submitted (acknowledged + 1) before results final q := by
  obtain ⟨hlt, result, hresult, hof⟩ := h.result_of_settlement hq hdelivery hsettlement
  refine { h with taken := hlt, accepted := fun i hi => ?_ }
  rcases Nat.lt_succ_iff_lt_or_eq.mp hi with hi | rfl
  · exact h.accepted i hi
  · refine ⟨result, hresult, ?_⟩
    by_contra hrejected
    rw [Settlement.ofAccepted, if_neg hrejected] at hof
    cases hof

/-- **When the caller has found all deliveries acknowledged**, nothing is left to ingest, and what
the service decides is what a sequential call decides. -/
lemma complete {j : ℕ} (hj : call.payloads.length ≤ j)
    (h : InCall startEpochMs start call call.payloads j before results final q) :
    q.backlog = [] ∧ (exchangeTick wrappedAngle config geometry parts api runId startEpochMs
      call.payloads call.robotIds).run start =
        (decideExchange wrappedAngle config geometry parts api runId call.robotIds).run
          q.transport := by
  have hbacklog : q.backlog = [] := by
    have hput := h.put
    have htaken := h.taken
    exact backlog_eq_nil_iff.mpr (by omega)
  refine ⟨hbacklog, ?_⟩
  rw [exchangeTick_run h.ingested, if_neg, ← h.clocks, h.drains.eq_of_backlog hbacklog]
  rintro ⟨result, hresult, hrejected⟩
  obtain ⟨i, hi⟩ := List.mem_iff_getElem?.mp hresult
  have hlt := (List.getElem?_eq_some_iff.mp hi).1
  rw [length_of_run_mapM h.ingested] at hlt
  obtain ⟨result', hi', haccepted⟩ := h.accepted i (hlt.trans_le hj)
  obtain rfl := Option.some.inj (hi.symm.trans hi')
  cases hrejected.symm.trans haccepted

end InCall

/-- Deciding leaves the clocks as they are. -/
lemma decideExchange_clock (state : InMemoryTransportState ω σ γ) (robotIds : List RobotId) :
    Ensures (decideExchange wrappedAngle config geometry parts api runId robotIds) state
      (fun _ state' => state'.monotonicSeconds = state.monotonicSeconds)
      fun state' => state'.monotonicSeconds = state.monotonicSeconds := by
  unfold decideExchange
  refine Ensures.bind_get (Ensures.bind (Q := fun _ state' => ∃ service,
    state' = { state with service }) ?_ ?_)
  · have hany : Ensures (runTick wrappedAngle config geometry parts api
        ⟨InMemoryActionPublisher.publishAction⟩ runId state.monotonicSeconds state.epochMs)
        state.service (fun _ _ => True) fun _ => True := Ensures.of_runs fun _ _ _ => trivial
    refine (hany.zoom.mono ?_).weaken ?_
    · rintro _ _ ⟨service, rfl, -⟩
      exact ⟨service, rfl⟩
    · rintro _ ⟨service, rfl, -⟩
      rfl
  · rintro result _ ⟨service, rfl⟩
    exact Ensures.bind_lift (P := fun _ => True) (Returns.of_runs (fun _ _ => trivial) (.inl rfl))
      fun _ _ => Ensures.pure rfl

/-- The deliveries that are left to wait for. -/
lemma drop_range_eq_cons {base n j number : ℕ} {left : List ℕ}
    (h : (List.range' base n).drop j = number :: left) :
    j < n ∧ number = base + j ∧ left = (List.range' base n).drop (j + 1) := by
  have hlt : j < (List.range' base n).length := by
    by_contra hge
    rw [List.drop_eq_nil_iff.mpr (not_lt.mp hge)] at h
    cases h
  rw [List.drop_eq_getElem_cons hlt, List.getElem_range'_1] at h
  obtain ⟨rfl, rfl⟩ := List.cons.inj h
  exact ⟨by simpa using hlt, rfl, rfl⟩

end Steps

/-- The states of the transport that a log of sequential calls explains. -/
inductive Refines (startEpochMs : ℤ) (log : ExchangeLog ω σ γ) : Exchange ω σ γ → Prop
  | idle {q} (hq : q.Consistent) (hopen : q.consumer.closed = false)
      (hdrains : ∃ results, q.Drains results log.transport)
      (hbacklog : log.failure = none → q.backlog = []) :
      Refines startEpochMs log ⟨q, .idle, log.outcomes, log.failure⟩
  | submitting {q call submitted left before results final} (hq : q.Consistent)
      (hfailure : log.failure = none) (hcall : call.payloads = submitted ++ left)
      (h : InCall startEpochMs log.transport call submitted 0 before results final q) :
      Refines startEpochMs log ⟨q, .submitting call left
        (List.range' before.length submitted.length), log.outcomes, log.failure⟩
  | settling {q call before results final} (acknowledged : ℕ) (hq : q.Consistent)
      (hfailure : log.failure = none)
      (h : InCall startEpochMs log.transport call call.payloads acknowledged before results final
        q) :
      Refines startEpochMs log ⟨q, .settling call ((List.range' before.length
        call.payloads.length).drop acknowledged), log.outcomes, log.failure⟩
  | closing {q} (hq : q.Consistent) (hclosed : q.consumer.closed = true)
      (hdrains : ∃ results, q.Drains results log.transport) :
      Refines startEpochMs log ⟨q, .closing, log.outcomes, log.failure⟩
  | closed {q} (hq : q.Consistent) (hended : q.phase.isEnded = true)
      (hdrains : ∃ results, q.Drains results log.transport) :
      Refines startEpochMs log ⟨q, .closed, log.outcomes, log.failure⟩

namespace Refines

variable {log : ExchangeLog ω σ γ} {e e' : Exchange ω σ γ}

/-- The consumer task goes on beside the caller. -/
lemma consumer (h : Refines startEpochMs log e) {queue : QueuedService ω σ γ}
    (hstep : ConsumerStep e.queue queue) : Refines startEpochMs log { e with queue } := by
  cases h with
  | idle hq hopen hdrains hbacklog =>
    obtain ⟨hclosed, hlength, hle⟩ := hstep.kept
    obtain ⟨results, hdrains⟩ := hdrains
    refine .idle (hq.consumer hstep) (hclosed.trans hopen) ⟨results, hdrains.consumer hq hstep⟩
      fun hfailure => backlog_eq_nil_iff.mpr ?_
    exact hlength.le.trans ((backlog_eq_nil_iff.mp (hbacklog hfailure)).trans hle)
  | submitting hq hfailure hcall h =>
    exact .submitting (hq.consumer hstep) hfailure hcall (h.consumer hq hstep)
  | settling acknowledged hq hfailure h =>
    exact .settling acknowledged (hq.consumer hstep) hfailure (h.consumer hq hstep)
  | closing hq hclosed hdrains =>
    obtain ⟨results, hdrains⟩ := hdrains
    exact .closing (hq.consumer hstep) (hstep.kept.1.trans hclosed)
      ⟨results, hdrains.consumer hq hstep⟩
  | closed hq hended hdrains =>
    -- the task has ended
    exfalso
    cases hstep <;> simp_all [ConsumerTaskPhase.isEnded]

/-- **Every step is matched** by sequential calls: a call that returns or raises by one call, every
other step by none.

**Proof sketch.** By cases on the step, and on the relation in the state before it. Submissions and
acknowledgements move inside the call that is under way. At the end of a call everything submitted
has been ingested, so the sequential call starts its tick in the same state. -/
lemma step (h : Refines startEpochMs log e)
    (hstep : ExchangeStep wrappedAngle config geometry parts api runId startEpochMs e e') :
    ∃ log', Relation.ReflTransGen (exchangeMachine wrappedAngle config geometry parts api runId
      startEpochMs).step log log' ∧ Refines startEpochMs log' e' := by
  cases hstep with
  | internal hstep =>
    cases hstep with
    | consumer hstep => exact ⟨log, .refl, h.consumer hstep⟩
    | submitted call payload left numbers number hcaller hsubmit =>
      cases h with
      | @submitting q call' submitted left' before results final hq hfailure hcall h =>
        obtain ⟨rfl, rfl, rfl⟩ := CallerPhase.submitting.inj hcaller
        obtain ⟨-, rfl, rfl⟩ := q.consumer.submit_eq_ok hsubmit
        obtain ⟨results', final', h'⟩ := h.submit hq payload
          (q.consumer.queue ++ [.delivery q.consumer.deliveries.length])
        refine ⟨log, .refl, ?_⟩
        have hnumbers : List.range' before.length (submitted ++ [payload]).length =
            List.range' before.length submitted.length ++ [q.consumer.deliveries.length] := by
          rw [List.length_append, List.length_singleton, List.range'_1_concat, h.put]
        rw [← hnumbers]
        exact .submitting (hq.step (.submitted _ hsubmit)) hfailure
          (by rw [hcall, List.append_assoc]; rfl) h'
      | _ => cases hcaller
    | submitRaised call payload left numbers hcaller hsubmit =>
      cases h with
      | @submitting q call' submitted left' before results final hq hfailure hcall h =>
        rw [q.consumer.submit_of_open h.opened] at hsubmit
        cases hsubmit
      | _ => cases hcaller
    | submittedAll call numbers hcaller =>
      cases h with
      | @submitting q call' submitted left' before results final hq hfailure hcall h =>
        obtain ⟨rfl, rfl, rfl⟩ := CallerPhase.submitting.inj hcaller
        rw [List.append_nil] at hcall
        subst hcall
        exact ⟨log, .refl, .settling 0 hq hfailure h⟩
      | _ => cases hcaller
    | acknowledged call number left hcaller hdelivery hsettlement =>
      cases h with
      | @settling q call' before results final j hq hfailure h =>
        obtain ⟨rfl, hleft⟩ := CallerPhase.settling.inj hcaller
        obtain ⟨-, rfl, rfl⟩ := drop_range_eq_cons hleft
        exact ⟨log, .refl, .settling (j + 1) hq hfailure (h.acknowledge hq hdelivery hsettlement)⟩
      | _ => cases hcaller
    | rejected call number left hcaller hdelivery hsettlement =>
      cases h with
      | @settling q call' before results final j hq hfailure h =>
        obtain ⟨rfl, hleft⟩ := CallerPhase.settling.inj hcaller
        obtain ⟨-, rfl, -⟩ := drop_range_eq_cons hleft
        obtain ⟨-, result, hresult, hof⟩ := h.result_of_settlement hq hdelivery hsettlement
        have hrejected : result.accepted = false := by
          by_contra haccepted
          rw [Settlement.ofAccepted, if_pos (by simpa using haccepted)] at hof
          cases hof
        refine ⟨{ log with transport := _, failure := some (call', _) },
          .single (.raised call' hfailure ((exchangeTick_run h.ingested).trans
            (if_pos ⟨result, List.mem_of_getElem? hresult, hrejected⟩))), ?_⟩
        exact .idle hq h.opened ⟨_, h.clocks ▸ h.drains⟩ fun hnone => by cases hnone
      | _ => cases hcaller
    | returned call hcaller hrun =>
      cases h with
      | @settling q call' before results final j hq hfailure h =>
        obtain ⟨rfl, hleft⟩ := CallerPhase.settling.inj hcaller
        have hj := List.drop_eq_nil_iff.mp hleft
        rw [List.length_range'] at hj
        obtain ⟨hbacklog, hsame⟩ := h.complete hj
        have hclock := (decideExchange_clock _ _).get_ok hrun
        refine ⟨{ log with transport := _, outcomes := _ },
          .single (.returned call' hfailure (hsame.trans hrun)), ?_⟩
        exact .idle (hq.withTransport (hclock ▸ hq.clock)) h.opened ⟨_, .of_backlog hbacklog⟩
          fun _ => hbacklog
      | _ => cases hcaller
    | raised call hcaller hrun =>
      cases h with
      | @settling q call' before results final j hq hfailure h =>
        obtain ⟨rfl, hleft⟩ := CallerPhase.settling.inj hcaller
        have hj := List.drop_eq_nil_iff.mp hleft
        rw [List.length_range'] at hj
        obtain ⟨hbacklog, hsame⟩ := h.complete hj
        have hclock := (decideExchange_clock _ _).get_error hrun
        refine ⟨{ log with transport := _, failure := _ },
          .single (.raised call' hfailure (hsame.trans hrun)), ?_⟩
        exact .idle (hq.withTransport (hclock ▸ hq.clock)) h.opened ⟨_, .of_backlog hbacklog⟩
          fun _ => hbacklog
      | _ => cases hcaller
    | closeReturned hcaller hended =>
      cases h with
      | closing hq hclosed hdrains => exact ⟨log, .refl, .closed hq hended hdrains⟩
      | _ => cases hcaller
  | called call hcaller hfailure =>
    cases h with
    | @idle q hq hopen hdrains hbacklog =>
      obtain ⟨results, hdrains⟩ := hdrains
      have htransport : log.transport = q.transport := hdrains.eq_of_backlog (hbacklog hfailure)
      have hbegin : InCall startEpochMs log.transport call [] 0
          (q.ingestions.map Ingestion.result) []
          (q.transport.tickClocks startEpochMs call.payloads)
          { q with transport := q.transport.tickClocks startEpochMs call.payloads } := by
        rw [htransport]
        exact .begin hq hopen (hbacklog hfailure) call
      refine ⟨log, .refl, ?_⟩
      exact @Refines.submitting _ _ _ startEpochMs log _ call [] _ _ _ _
        (hq.withTransport (tickClocks_nonneg hq.clock _)) hfailure rfl hbegin
    | _ => cases hcaller
  | closeCalled hcaller =>
    cases h with
    | @idle q hq hopen hdrains hbacklog =>
      have hclose : q.consumer.close =
          { q.consumer with closed := true, queue := q.consumer.queue ++ [.close] } := by
        rw [InMemoryStateConsumer.close, if_neg (by simp [hopen])]
      refine ⟨log, .refl, .closing (hq.step .closed) ?_ ?_⟩
      · rw [hclose]
      · obtain ⟨results, hdrains⟩ := hdrains
        rw [hclose]
        exact ⟨results, hdrains.ingested, hdrains.clocks⟩
    | _ => cases hcaller

end Refines

/-- Every reachable state of the transport is explained by sequential calls. -/
lemma refines_of_reachable {e : Exchange ω σ γ} (h : (queuedExchangeMachine wrappedAngle config
    geometry parts api runId startEpochMs).Reachable e) :
    ∃ log, (exchangeMachine wrappedAngle config geometry parts api runId startEpochMs).Reachable
      log ∧ Refines startEpochMs log e := by
  refine h.simulated (Refines startEpochMs) ?_ fun log e e' hR hstep => hR.step hstep
  rintro _ ⟨transport, hclock, rfl⟩
  have hq : ({ transport } : QueuedService ω σ γ).Consistent := .new hclock
  exact ⟨{ transport }, ⟨transport, hclock, rfl⟩,
    .idle hq rfl ⟨[], .of_backlog rfl⟩ fun _ => rfl⟩

/-- **The queue is transparent.** Whatever the interleaving of the caller with the consumer task,
the caller has seen the outcomes and the exception of sequential calls with the same arguments that
ingest their payloads themselves. Between its calls, and once the transport is closed, the clocks,
the service and the publisher are also in the state that these sequential calls leave.

**Proof sketch.** A simulation: while a call is under way, the sequential transport is still before
it, and the relation keeps the list of ingestions that lead from there to the present state
(`refines_of_reachable`). -/
theorem exchange_refines {e : Exchange ω σ γ} (h : (queuedExchangeMachine wrappedAngle config
    geometry parts api runId startEpochMs).Reachable e) :
    ∃ log, (exchangeMachine wrappedAngle config geometry parts api runId startEpochMs).Reachable
        log ∧
      e.outcomes = log.outcomes ∧ e.failure = log.failure ∧
      (e.caller = .idle → e.failure = none → e.queue.transport = log.transport) ∧
      (e.caller = .closed → e.queue.transport = log.transport) := by
  obtain ⟨log, hlog, hR⟩ := refines_of_reachable h
  refine ⟨log, hlog, ?_⟩
  cases hR with
  | idle hq hopen hdrains hbacklog =>
    obtain ⟨results, hdrains⟩ := hdrains
    exact ⟨rfl, rfl, fun _ hfailure => (hdrains.eq_of_backlog (hbacklog hfailure)).symm,
      fun hcaller => by cases hcaller⟩
  | closed hq hended hdrains =>
    obtain ⟨results, hdrains⟩ := hdrains
    obtain ⟨taken, settled, hq⟩ := hq
    obtain ⟨-, hall, -⟩ := hq.all_of_ended hended
    exact ⟨rfl, rfl, fun hcaller => (by cases hcaller), fun _ =>
      (hdrains.eq_of_backlog (backlog_eq_nil_iff.mpr hall.ge)).symm⟩
  | _ => exact ⟨rfl, rfl, fun hcaller => (by cases hcaller), fun hcaller => (by cases hcaller)⟩

/-! ## Every call ends -/

/-- How many steps the tasks have before them, at most, without a new call. -/
def Exchange.work (e : Exchange ω σ γ) : ℕ :=
  e.queue.work + match e.caller with
    | .submitting _ left numbers => 6 * left.length + numbers.length + 3
    | .settling _ left => left.length + 2
    | .closing => 1
    | _ => 0

/-- Every internal step is one step less. -/
lemma Exchange.work_lt {e e' : Exchange ω σ γ}
    (h : InternalStep wrappedAngle config geometry parts api runId e e') : e'.work < e.work := by
  cases h with
  | consumer h => exact Nat.add_lt_add_right (QueuedService.work_lt h) _
  | submitted call payload left numbers number hcaller h =>
    obtain ⟨-, -, rfl⟩ := e.queue.consumer.submit_eq_ok h
    simp [work, QueuedService.work, hcaller]
    omega
  | submitRaised call payload left numbers hcaller h => simp [work, hcaller]
  | submittedAll call numbers hcaller => simp [work, hcaller]
  | acknowledged call number left hcaller hdelivery hsettlement => simp [work, hcaller]
  | rejected call number left hcaller hdelivery hsettlement => simp [work, hcaller]
  | returned call hcaller h => simp [work, QueuedService.work, hcaller]
  | raised call hcaller h => simp [work, QueuedService.work, hcaller]
  | closeReturned hcaller hended => simp [work, hcaller]

/-- A caller that cannot go on, beside a consumer task that cannot either, is between two calls or
has closed the transport.

**Proof sketch.** By cases on the relation. While payloads are left the caller can submit the next
one. While it waits for a settlement, a consumer task that cannot go on has settled everything, so
the caller can. After `close` the consumer task has ended, so the call can return. -/
lemma Refines.idle_of_stuck {log : ExchangeLog ω σ γ} {e : Exchange ω σ γ}
    (h : Refines startEpochMs log e)
    (hstuck : ∀ e', ¬ InternalStep wrappedAngle config geometry parts api runId e e') :
    e.caller = .idle ∨ e.caller = .closed := by
  have hconsumer : ∀ queue, ¬ ConsumerStep e.queue queue := fun queue hstep =>
    hstuck _ (.consumer hstep)
  cases h with
  | idle hq hopen hdrains hbacklog => exact .inl rfl
  | @submitting q call submitted left before results final hq hfailure hcall h =>
    exfalso
    cases left with
    | nil => exact hstuck _ (.submittedAll call _ rfl)
    | cons payload left =>
      exact hstuck _ (.submitted call payload left _ _ rfl (q.consumer.submit_of_open h.opened _))
  | @settling q call before results final j hq hfailure h =>
    exfalso
    cases hleft : (List.range' before.length call.payloads.length).drop j with
    | nil =>
      cases hrun : (decideExchange wrappedAngle config geometry parts api runId call.robotIds).run
          q.transport with
      | ok outcome transport => exact hstuck _ (.returned call (by rw [hleft]) hrun)
      | error exception transport => exact hstuck _ (.raised call (by rw [hleft]) hrun)
    | cons number left =>
      obtain ⟨hlt, rfl, -⟩ := drop_range_eq_cons hleft
      -- a consumer task that cannot go on has settled everything
      obtain ⟨taken, settled, hq⟩ := hq
      obtain ⟨hall, -⟩ := hq.idle hconsumer
      have hput := h.put
      obtain ⟨delivery, hdelivery⟩ : ∃ delivery,
          q.consumer.deliveries[before.length + j]? = some delivery :=
        ⟨_, List.getElem?_eq_getElem (by omega)⟩
      have hsettlement := hq.settlements _ _ hdelivery
      have hingested := hq.counts.le.1
      rw [if_pos (by omega), List.getElem?_eq_getElem (by omega), Option.map_some] at hsettlement
      cases hkind : q.ingestions[before.length + j].settlement with
      | acknowledged =>
        exact hstuck _ (.acknowledged call _ left (by rw [hleft]) hdelivery
          (hsettlement.trans (congrArg some hkind)))
      | rejected =>
        exact hstuck _ (.rejected call _ left (by rw [hleft]) hdelivery
          (hsettlement.trans (congrArg some hkind)))
  | closing hq hclosed hdrains =>
    obtain ⟨taken, settled, hq⟩ := hq
    exact absurd (.closeReturned rfl ((hq.idle hconsumer).2.trans hclosed)) (hstuck _)
  | closed hq hended hdrains => exact .inr rfl

/-- **Every call ends**, and so does `close`: from every reachable state each run of the two tasks
without a new call stops, and it stops only between two calls or when the transport is closed. In
particular the caller and the consumer task never wait for each other.

**Proof sketch.** Every step of either task does some of the remaining work (`Exchange.work_lt`). In
the states of the simulation one of the two tasks can always move, except between calls and after
`close` (`idle_of_stuck`). -/
theorem exchange_returns {e : Exchange ω σ γ} (h : (queuedExchangeMachine wrappedAngle config
    geometry parts api runId startEpochMs).Reachable e) :
    Acc (fun e₂ e₁ => InternalStep wrappedAngle config geometry parts api runId e₁ e₂) e ∧
      ∀ e', Relation.ReflTransGen (InternalStep wrappedAngle config geometry parts api runId) e e' →
        (∀ e₂, ¬ InternalStep wrappedAngle config geometry parts api runId e' e₂) →
          e'.caller = .idle ∨ e'.caller = .closed := by
  refine ⟨Subrelation.accessible (fun h => Exchange.work_lt h)
    (InvImage.accessible Exchange.work (Nat.lt_wfRel.wf.apply _)), fun e' hrun hstuck => ?_⟩
  obtain ⟨log, -, hR⟩ := refines_of_reachable
    (h.trans (hrun.lift id fun _ _ hstep => .internal hstep))
  exact hR.idle_of_stuck hstuck

end Refinement

/-! ## One call -/

/-- A robot that stands at the origin. -/
def standingPayload : StatePayloadFields where
  deviceId := "a"
  timestamp := 1
  x := 0
  y := 0
  theta := 0
  batteryLevel := 50
  loaded := false
  deadline := 0
  path := []

/-- The call for that robot. -/
def standingCall : ExchangeCall where
  payloads := [standingPayload]
  robotIds := [robotA]

/-- The transport of the shipped service on a line, with its state queue. -/
def lineExchangeMachine : Machine (Exchange ℕ Store ℕ) :=
  queuedExchangeMachine id defaultConfig lineGeometry
    (shippedCollaborators defaultConfig lineGeometry fun _ => none) (managerApi defaultConfig)
    "run" 0

/-- The call of the robot that stands is made. -/
lemma standingCall_called : ∃ e : Exchange ℕ Store ℕ, lineExchangeMachine.Reachable e ∧
    e.caller = .submitting standingCall [standingPayload] [] := by
  have hfresh : lineExchangeMachine.Reachable _ :=
    .init ⟨InMemoryTransportState.initial 0, le_rfl, rfl⟩
  exact ⟨_, hfresh.step (.called standingCall rfl rfl), rfl⟩

/-- The payload is ingested and acknowledged while the caller waits for its settlement. -/
lemma standingCall_returned : ∃ e : Exchange ℕ Store ℕ, lineExchangeMachine.Reachable e ∧
    e.caller = .idle ∧ e.failure = none ∧ e.outcomes.map Prod.fst = [standingCall] := by
  obtain ⟨outcome, transport, hexchange, -⟩ := Ensures.exists_ok
    (x := exchangeTick id defaultConfig lineGeometry
      (shippedCollaborators defaultConfig lineGeometry fun _ => none) (managerApi defaultConfig)
      "run" 0 [standingPayload] [robotA])
    (s := InMemoryTransportState.initial 0) (Q := fun _ _ => True) (by decide +kernel)
  obtain ⟨result, service, hingest, haccepted⟩ := Ensures.exists_ok
    (x := ingestPayload ((InMemoryTransportState.initial 0).tickClocks 0
      [standingPayload]).monotonicSeconds (.wellTyped standingPayload))
    (s := ((InMemoryTransportState.initial 0).tickClocks 0 [standingPayload]).service)
    (Q := fun result _ => result.accepted = true) (by decide +kernel)
  have hloop : ([standingPayload].mapM fun payload => ingestPayload ((InMemoryTransportState.initial
      0).tickClocks 0 [standingPayload]).monotonicSeconds (.wellTyped payload)).run
        ((InMemoryTransportState.initial 0).tickClocks 0 [standingPayload]).service =
          .ok [result] service := by
    rw [List.mapM_cons, run_ok_bind hingest]
    rfl
  rw [exchangeTick_run hloop, if_neg (by simp [haccepted])] at hexchange
  have hfresh : lineExchangeMachine.Reachable _ :=
    .init ⟨InMemoryTransportState.initial 0, le_rfl, rfl⟩
  have hcalled := hfresh.step (.called standingCall rfl rfl)
  have hsubmitted := hcalled.step
    (.internal (.submitted standingCall standingPayload [] [] 0 rfl rfl))
  have htook := hsubmitted.step (.internal (.consumer (.took 0 [] rfl rfl)))
  have hingested := htook.step (.internal (.consumer (.ingested 0 rfl rfl hingest)))
  have hsettled := hingested.step (.internal (.consumer
    (.settled 0 result.accepted rfl rfl (by rw [haccepted]; rfl))))
  have hall := hsettled.step (.internal (.submittedAll standingCall [0] rfl))
  have hacknowledged := hall.step (.internal (.acknowledged standingCall 0 [] rfl rfl rfl))
  exact ⟨_, hacknowledged.step (.internal (.returned standingCall rfl hexchange)), rfl, rfl, rfl⟩

/-- The call has the outcome of a sequential call, and leaves the state of one. -/
theorem exchange_refines_standing : ∃ e log, lineExchangeMachine.Reachable e ∧
    (exchangeMachine id defaultConfig lineGeometry
      (shippedCollaborators defaultConfig lineGeometry fun _ => none) (managerApi defaultConfig)
      "run" 0).Reachable log ∧ e.outcomes.map Prod.fst = [standingCall] ∧
    e.outcomes = log.outcomes ∧ e.queue.transport = log.transport := by
  obtain ⟨e, hreach, hidle, hfailure, hcalls⟩ := standingCall_returned
  obtain ⟨log, hlog, houtcomes, -, htransport, -⟩ := exchange_refines hreach
  exact ⟨e, log, hreach, hlog, hcalls, houtcomes, htransport hidle hfailure⟩

/-- The call, once begun, ends. -/
theorem exchange_returns_standing : ∃ e, lineExchangeMachine.Reachable e ∧
    e.caller = .submitting standingCall [standingPayload] [] ∧
    Acc (fun e₂ e₁ => InternalStep id defaultConfig lineGeometry
      (shippedCollaborators defaultConfig lineGeometry fun _ => none) (managerApi defaultConfig)
      "run" e₁ e₂) e := by
  obtain ⟨e, hreach, hcaller⟩ := standingCall_called
  exact ⟨e, hreach, hcaller, (exchange_returns hreach).1⟩

end CollisionMonitor
