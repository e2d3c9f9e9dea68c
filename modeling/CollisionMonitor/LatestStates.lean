import CollisionMonitor.Lib.View
import CollisionMonitor.MessageRounds

set_option relaxedAutoImplicit false
set_option autoImplicit false

/-!
# Decisions from latest states

What the service decides and publishes depends on the deliveries only through the latest valid
state of each robot when a tick begins. The order between robots, superseded states, repetitions
and malformed payloads cannot be seen from outside.

## Main definitions

* `runEvents` — deliveries and ticks in any order.
* `tickInputs` — the ticks of a sequence of events, each with the deliveries before it.
* `SameLatest` — two histories leave the same latest state of each robot.

## Main results

* `runEvents_latest` — equal latest states at every tick lead to the same results.
-/

namespace CollisionMonitor

open Outcome

/-- What happens to a service from outside. -/
inductive ServiceEvent
  | delivered (delivery : StateDelivery)
  | ticked (capturedMonotonicSeconds : ℚ) (capturedEpochMs : ℤ)

/-- The ticks of a sequence of events: their clocks, and what was delivered before them. -/
def tickInputs : List StateDelivery → List ServiceEvent → List (ℚ × ℤ × List StateDelivery)
  | _, [] => []
  | history, .delivered delivery :: events => tickInputs (history ++ [delivery]) events
  | history, .ticked mono epoch :: events => (mono, epoch, history) :: tickInputs history events

/-- Two histories leave the same latest state of each robot, with the same receive time. -/
def SameLatest (history history' : List StateDelivery) : Prop :=
  ∀ r stored, LastMax sourceTimestamp (validStates history r) stored ↔
    LastMax sourceTimestamp (validStates history' r) stored

section Events

variable {E ω σ γ π : Type} (wrappedAngle : ℚ → ℚ) (config : MonitorConfig)
  (geometry : Geometry E) (parts : Collaborators ω) (api : GrantManagerApi σ γ)
  (publisher : ActionPublisher π) (runId : String)

/-- Consume deliveries and run ticks in the order of the events. -/
def runEvents : List ServiceEvent → Service ω σ γ π (List ServiceTickResult)
  | [] => pure []
  | .delivered delivery :: events => do
    let _ ← consumeDelivery delivery
    runEvents events
  | .ticked mono epoch :: events => do
    let result ← runTick wrappedAngle config geometry parts api publisher runId mono epoch
    let results ← runEvents events
    return result :: results

/-- What a tick can see of a service: all but the counter of rejected states, and of the store only
the snapshots that it can take. -/
def ServiceState.view (service : ServiceState ω σ γ π) :
    EngineState ω σ γ × ℕ × π × (ℚ → ℤ → Except PyException FleetStateSnapshot) :=
  (service.engine, service.tickSequence, service.publisher, fun mono epoch =>
    service.store.snapshot wrappedAngle mono epoch config.staleTimeoutSeconds config.poseTolerance)

variable {wrappedAngle config geometry parts api publisher runId}

/-- Two services look alike iff their engines, ticks and publishers are equal and their stores
always show the same. -/
lemma view_eq_iff {service service' : ServiceState ω σ γ π} :
    service.view wrappedAngle config = service'.view wrappedAngle config ↔
      service.engine = service'.engine ∧ service.tickSequence = service'.tickSequence ∧
      service.publisher = service'.publisher ∧ ∀ mono epoch,
        service.store.snapshot wrappedAngle mono epoch config.staleTimeoutSeconds
          config.poseTolerance =
        service'.store.snapshot wrappedAngle mono epoch config.staleTimeoutSeconds
          config.poseTolerance := by
  simp only [ServiceState.view, Prod.mk.injEq, funext_iff]

/-- **A tick** depends on the store only through its snapshot. -/
lemma runTick_respects (mono : ℚ) (epoch : ℤ) :
    Respects (ServiceState.view (ω := ω) (σ := σ) (γ := γ) (π := π) wrappedAngle config)
      (runTick wrappedAngle config geometry parts api publisher runId mono epoch) := by
  unfold runTick
  refine Respects.bind (Respects.modify fun s t h => ?_) fun _ => ?_
  · obtain ⟨hengine, hsequence, hpublisher, hsnapshot⟩ := view_eq_iff.mp h
    exact view_eq_iff.mpr ⟨hengine, congrArg (· + 1) hsequence, hpublisher, hsnapshot⟩
  refine Respects.bind_get (fun s t h => ?_) fun service => ?_
  · obtain ⟨-, hsequence, -, hsnapshot⟩ := view_eq_iff.mp h
    rw [hsequence, hsnapshot]
  refine Respects.bind (Respects.lift _) fun fleet => ?_
  refine Respects.bind (Respects.zoom _ (fun s t h => (view_eq_iff.mp h).1) fun s t engine h => ?_)
    fun decision => ?_
  · obtain ⟨-, hrest⟩ := view_eq_iff.mp h
    exact view_eq_iff.mpr ⟨rfl, hrest⟩
  refine Respects.bind_get (fun s t h => ?_) fun service => ?_
  · obtain ⟨hengine, -⟩ := view_eq_iff.mp h
    rw [hengine]
  refine Respects.bind (Respects.lift _) fun messages => ?_
  refine Respects.bind (Respects.zoom _ (fun s t h => (view_eq_iff.mp h).2.2.1)
    fun s t publisher h => ?_) fun outcomes => ?_
  · obtain ⟨hengine, hsequence, -, hsnapshot⟩ := view_eq_iff.mp h
    exact view_eq_iff.mpr ⟨hengine, hsequence, rfl, hsnapshot⟩
  exact Respects.bind (Respects.lift _) fun trace => Respects.pure _

/-! ## The store -/

/-- A snapshot depends only on what the store holds for each robot. -/
lemma snapshot_congr {store store' : LatestStateStore}
    (h : ∀ r, store.states.lookup r = store'.states.lookup r) (mono : ℚ) (epoch : ℤ)
    (timeout tolerance : ℚ) : store.snapshot wrappedAngle mono epoch timeout tolerance =
      store'.snapshot wrappedAngle mono epoch timeout tolerance := by
  have hkeys : sorted store.states.keys = sorted store'.states.keys := by
    refine eq_of_pairwise_of_mem_iff (fun _ _ h => h.not_gt)
      (pairwise_sorted_lt store.states.nodupKeys) (pairwise_sorted_lt store'.states.nodupKeys)
      fun r => ?_
    rw [mem_sorted, mem_sorted, ← AList.mem_keys, ← AList.mem_keys, ← AList.lookup_isSome,
      ← AList.lookup_isSome, h]
  have hrobot : store.snapshotRobot wrappedAngle mono epoch timeout tolerance =
      store'.snapshotRobot wrappedAngle mono epoch timeout tolerance := by
    funext r
    unfold LatestStateStore.snapshotRobot item Dict.getItem
    rw [h]
  unfold LatestStateStore.snapshot
  rw [hkeys, hrobot]

/-- Stores that hold equally latest states hold the same for each robot. -/
lemma lookup_of_sameLatest {store store' : LatestStateStore} {history history' : List StateDelivery}
    (h : HoldsLatest store history) (h' : HoldsLatest store' history')
    (hsame : SameLatest history history') (r : RobotId) :
    store.states.lookup r = store'.states.lookup r :=
  Option.ext fun stored => ((h r stored).trans (hsame r stored.val)).trans (h' r stored).symm

/-- Any delivery is consumed, and changes nothing in view but the store. -/
lemma consumeDelivery_run {history : List StateDelivery} {delivery : StateDelivery}
    (hclock : ∀ d ∈ history ++ [delivery], 0 ≤ d.receivedMonotonicSeconds)
    {service : ServiceState ω σ γ π} (h : HoldsLatest service.store history) :
    ∃ disposition store count, (consumeDelivery delivery).run service =
        .ok disposition { service with store, rejectedStateCount := count } ∧
      HoldsLatest store (history ++ [delivery]) := by
  have hhistory : ∀ d ∈ history, 0 ≤ d.receivedMonotonicSeconds := fun d hd =>
    hclock d (List.mem_append_left _ hd)
  have hreceived := hclock delivery (by simp)
  by_cases haccepts : Accepts history delivery
  · obtain ⟨store, hrun, hlatest⟩ := consumeDelivery_accepted hhistory hreceived h haccepts
    exact ⟨_, store, service.rejectedStateCount, hrun, hlatest⟩
  · obtain ⟨hrun, hlatest⟩ := consumeDelivery_rejected hhistory hreceived h haccepts
    exact ⟨_, service.store, _, hrun, hlatest⟩

/-! ## Runs -/

/-- All of a service but the store and the counter of rejected states. -/
def ServiceState.visiblePart (service : ServiceState ω σ γ π) : EngineState ω σ γ × ℕ × π :=
  (service.engine, service.tickSequence, service.publisher)

/-- Two services that look the same after two histories. -/
structure Alike (history history' : List StateDelivery) (service service' : ServiceState ω σ γ π) :
    Prop where
  visiblePart : service.visiblePart = service'.visiblePart
  latest : HoldsLatest service.store history
  latest' : HoldsLatest service'.store history'

variable {history history' : List StateDelivery} {service service' : ServiceState ω σ γ π}

/-- A delivery to the second service is not seen. -/
lemma Alike.delivered (h : Alike history history' service service') {store : LatestStateStore}
    {delivery : StateDelivery} (hlatest : HoldsLatest store (history' ++ [delivery])) (count : ℕ) :
    Alike history (history' ++ [delivery]) service
      { service' with store, rejectedStateCount := count } :=
  ⟨h.visiblePart, h.latest, hlatest⟩

/-- Services that look the same are alike in either order. -/
lemma Alike.symm (h : Alike history history' service service') :
    Alike history' history service' service :=
  ⟨h.visiblePart.symm, h.latest', h.latest⟩

/-- When the histories leave the same latest states, a tick finds nothing different. -/
lemma Alike.view_eq (h : Alike history history' service service')
    (hsame : SameLatest history history') :
    service.view wrappedAngle config = service'.view wrappedAngle config := by
  obtain ⟨hengine, hrest⟩ := Prod.mk.inj h.visiblePart
  obtain ⟨hsequence, hpublisher⟩ := Prod.mk.inj hrest
  exact view_eq_iff.mpr ⟨hengine, hsequence, hpublisher, fun mono epoch =>
    snapshot_congr (lookup_of_sameLatest h.latest h.latest' hsame) mono epoch _ _⟩

/-- **A tick of two services that look the same**: both raise the same, or both return the same and
still look the same. -/
lemma Alike.tick (h : Alike history history' service service')
    (hsame : SameLatest history history') (mono : ℚ) (epoch : ℤ) :
    (∃ result next next', Alike history history' next next' ∧
      (runTick wrappedAngle config geometry parts api publisher runId mono epoch).run service =
        .ok result next ∧
      (runTick wrappedAngle config geometry parts api publisher runId mono epoch).run service' =
        .ok result next') ∨
    ∃ e next next', next.visiblePart = next'.visiblePart ∧
      (runTick wrappedAngle config geometry parts api publisher runId mono epoch).run service =
        .error e next ∧
      (runTick wrappedAngle config geometry parts api publisher runId mono epoch).run service' =
        .error e next' := by
  have hpart : ∀ {next next' : ServiceState ω σ γ π}, next.view wrappedAngle config =
      next'.view wrappedAngle config → next.visiblePart = next'.visiblePart := by
    intro next next' hview
    obtain ⟨hengine, hsequence, hpublisher, -⟩ := view_eq_iff.mp hview
    rw [ServiceState.visiblePart, hengine, hsequence, hpublisher]
    rfl
  rcases visible_eq_cases (runTick_respects mono epoch _ _ (h.view_eq hsame)) with
    ⟨result, next, next', hs, ht, hview⟩ | ⟨e, next, next', hs, ht, hview⟩
  · obtain ⟨_, _, hdecided⟩ := (runTick_spec mono epoch service).get_ok hs
    obtain ⟨_, _, hdecided'⟩ := (runTick_spec mono epoch service').get_ok ht
    refine .inl ⟨result, next, next', ⟨hpart hview, ?_, ?_⟩, hs, ht⟩
    · rw [hdecided.store]
      exact h.latest
    · rw [hdecided'.store]
      exact h.latest'
  · exact .inr ⟨e, next, next', hpart hview, hs, ht⟩

variable (wrappedAngle config geometry parts api publisher runId)

/-- What is seen of a run from outside: what it returns or raises, and all that it leaves but the
store and the counter of rejected states. -/
def outside (events : List ServiceEvent) (service : ServiceState ω σ γ π) :
    Except PyException (List ServiceTickResult) × EngineState ω σ γ × ℕ × π :=
  visible ServiceState.visiblePart
    ((runEvents wrappedAngle config geometry parts api publisher runId events).run service)

variable {wrappedAngle config geometry parts api publisher runId}

/-- Ticks of two runs about the same latest states, at the same times. -/
def SameInputs (ticks ticks' : List (ℚ × ℤ × List StateDelivery)) : Prop :=
  List.Forall₂ (fun tick tick' => tick.1 = tick'.1 ∧ tick.2.1 = tick'.2.1 ∧
    SameLatest tick.2.2 tick'.2.2) ticks ticks'

/-- A delivery in front of other events is consumed first. -/
lemma outside_delivered {delivery : StateDelivery} (events : List ServiceEvent)
    {disposition : Disposition} {next : ServiceState ω σ γ π}
    (h : (consumeDelivery delivery).run service = .ok disposition next) :
    outside wrappedAngle config geometry parts api publisher runId (.delivered delivery :: events)
        service =
      outside wrappedAngle config geometry parts api publisher runId events next := by
  rw [outside, runEvents, run_ok_bind h, outside]

/-- A tick in front of other events adds its result. -/
lemma outside_ticked {mono : ℚ} {epoch : ℤ} (events : List ServiceEvent)
    {result : ServiceTickResult} {next : ServiceState ω σ γ π}
    (h : (runTick wrappedAngle config geometry parts api publisher runId mono epoch).run service =
      .ok result next) :
    outside wrappedAngle config geometry parts api publisher runId (.ticked mono epoch :: events)
        service =
      ((outside wrappedAngle config geometry parts api publisher runId events next).1.map
          (result :: ·),
        (outside wrappedAngle config geometry parts api publisher runId events next).2) := by
  rw [outside, runEvents, run_ok_bind h, visible_map, outside]

/-- A tick that raises ends the run. -/
lemma outside_raised {mono : ℚ} {epoch : ℤ} (events : List ServiceEvent) {e : PyException}
    {next : ServiceState ω σ γ π}
    (h : (runTick wrappedAngle config geometry parts api publisher runId mono epoch).run service =
      .error e next) :
    outside wrappedAngle config geometry parts api publisher runId (.ticked mono epoch :: events)
        service = (.error e, next.visiblePart) := by
  rw [outside, runEvents, run_error_bind h, visible]

/-- The receive times of a run are not negative. -/
def Timed (history : List StateDelivery) (events : List ServiceEvent) : Prop :=
  (∀ d ∈ history, 0 ≤ d.receivedMonotonicSeconds) ∧
    ∀ d, .delivered d ∈ events → 0 ≤ d.receivedMonotonicSeconds

/-- The rest after a delivery is timed. -/
lemma Timed.delivered {delivery : StateDelivery} {events : List ServiceEvent}
    (h : Timed history (.delivered delivery :: events)) : Timed (history ++ [delivery]) events := by
  refine ⟨fun d hd => ?_, fun d hd => h.2 d (List.mem_cons_of_mem _ hd)⟩
  rcases List.mem_append.mp hd with hd | hd
  · exact h.1 d hd
  · rw [List.mem_singleton.mp hd]
    exact h.2 _ List.mem_cons_self

/-- The rest after a tick is timed. -/
lemma Timed.ticked {mono : ℚ} {epoch : ℤ} {events : List ServiceEvent}
    (h : Timed history (.ticked mono epoch :: events)) : Timed history events :=
  ⟨h.1, fun d hd => h.2 d (List.mem_cons_of_mem _ hd)⟩

/-- The deliveries up to the next tick are not seen, and leave it as it is. -/
lemma Alike.skip (h : Alike history history' service service') {events : List ServiceEvent}
    (htimed : Timed history' events) : ∃ history'' service'' rest,
      (rest = [] ∨ ∃ mono epoch later, rest = .ticked mono epoch :: later) ∧
      Timed history'' rest ∧ Alike history history'' service service'' ∧
      tickInputs history' events = tickInputs history'' rest ∧
      outside wrappedAngle config geometry parts api publisher runId events service' =
        outside wrappedAngle config geometry parts api publisher runId rest service'' := by
  induction events generalizing history' service' with
  | nil => exact ⟨history', service', [], .inl rfl, htimed, h, rfl, rfl⟩
  | cons event events ih =>
    cases event with
    | ticked mono epoch =>
      exact ⟨history', service', _, .inr ⟨mono, epoch, events, rfl⟩, htimed, h, rfl, rfl⟩
    | delivered delivery =>
      obtain ⟨_, store, count, hrun, hlatest⟩ := consumeDelivery_run htimed.delivered.1 h.latest'
      obtain ⟨history'', service'', rest, hrest, htimed', halike, hinputs, hsame⟩ :=
        ih (h.delivered hlatest count) htimed.delivered
      exact ⟨history'', service'', rest, hrest, htimed', halike, hinputs,
        (outside_delivered events hrun).trans hsame⟩

/-- **Runs about the same latest states look the same**, by induction on the first run. The
deliveries of the second run up to its next tick are skipped. -/
lemma Alike.outside_eq {events : List ServiceEvent} :
    ∀ {events' : List ServiceEvent} {history history' : List StateDelivery}
      {service service' : ServiceState ω σ γ π}, Alike history history' service service' →
    Timed history events → Timed history' events' →
    SameInputs (tickInputs history events) (tickInputs history' events') →
    outside wrappedAngle config geometry parts api publisher runId events service =
      outside wrappedAngle config geometry parts api publisher runId events' service' := by
  induction events with
  | nil =>
    intro events' history history' service service' h _ htimed' hinputs
    obtain ⟨_, _, _, rfl | ⟨mono, epoch, later, rfl⟩, _, halike, hskipped, hrun⟩ := h.skip htimed'
    · rw [hrun]
      exact congrArg (Prod.mk _) halike.visiblePart
    · rw [hskipped] at hinputs
      cases hinputs
  | cons event events ih =>
    intro events' history history' service service' h htimed htimed' hinputs
    cases event with
    | delivered delivery =>
      obtain ⟨_, store, count, hrun, hlatest⟩ := consumeDelivery_run htimed.delivered.1 h.latest
      rw [outside_delivered events hrun]
      exact ih (h.symm.delivered hlatest count).symm htimed.delivered htimed' hinputs
    | ticked mono epoch =>
      obtain ⟨_, _, _, rfl | ⟨mono', epoch', later, rfl⟩, htimed'', halike, hskipped, hrun⟩ :=
        h.skip htimed'
      · rw [hskipped] at hinputs
        cases hinputs
      · rw [hskipped] at hinputs
        obtain ⟨⟨hmono, hepoch, hsame⟩, hlater⟩ := List.forall₂_cons.mp hinputs
        dsimp only at hmono hepoch
        rw [hrun, ← hmono, ← hepoch]
        rcases halike.tick hsame mono epoch with
          ⟨result, next, next', halike', hs, ht⟩ | ⟨e, next, next', hpart, hs, ht⟩
        · rw [outside_ticked events hs, outside_ticked later ht,
            ih halike' htimed.ticked htimed''.ticked hlater]
        · rw [outside_raised events hs, outside_raised later ht, hpart]

/-- **Only latest states count.** Two runs of a new service whose ticks are at the same times, and
before each of which the same latest valid state of each robot was delivered at the same time,
return the same results or raise the same exception, and leave the same engine, tick number and
publisher. So nothing that the monitor decides or publishes depends on how the deliveries of
different robots interleave, on repetitions and superseded states, or on malformed payloads.

**Proof sketch.** Both runs are followed tick by tick. Between two ticks the stores come to hold the
same latest states, so they show the same, and a tick reads nothing else of them
(`Alike.outside_eq`). -/
theorem runEvents_latest {events events' : List ServiceEvent}
    (hclock : ∀ d, .delivered d ∈ events → 0 ≤ d.receivedMonotonicSeconds)
    (hclock' : ∀ d, .delivered d ∈ events' → 0 ≤ d.receivedMonotonicSeconds)
    (hstore : service.store = {}) (h : SameInputs (tickInputs [] events) (tickInputs [] events')) :
    outside wrappedAngle config geometry parts api publisher runId events service =
      outside wrappedAngle config geometry parts api publisher runId events' service := by
  have hlatest : HoldsLatest service.store [] := by
    rw [hstore]
    exact Ingested.fresh.latest
  exact Alike.outside_eq ⟨rfl, hlatest, hlatest⟩ ⟨fun _ hd => (by cases hd), hclock⟩
    ⟨fun _ hd => (by cases hd), hclock'⟩ h

end Events

/-! ## Two robots that report in either order -/

/-- A robot reports its state. -/
def stateReport (state : RobotState) : StateDelivery where
  payload := .wellTyped state.payload
  receivedMonotonicSeconds := 1

/-- A delivery without the fields of a state. -/
def malformedDelivery : StateDelivery where
  payload := .malformed none
  receivedMonotonicSeconds := 1

/-- Each robot reports one valid state, in whatever order. -/
lemma sameLatest_swapped : SameLatest [stateReport rightward, stateReport leftward]
    [malformedDelivery, stateReport leftward, stateReport rightward] := by
  have hfirst : RobotState.modelValidate (stateReport rightward).payload = .ok rightward :=
    RobotState.modelValidate_payload rightward
  have hsecond : RobotState.modelValidate (stateReport leftward).payload = .ok leftward :=
    RobotState.modelValidate_payload leftward
  have hmalformed : RobotState.modelValidate malformedDelivery.payload = .error _ := rfl
  intro r stored
  have hleft : validStates [stateReport rightward, stateReport leftward] r = _ :=
    validStates_append_singleton [stateReport rightward] (stateReport leftward) r
  have hmiddle : validStates [malformedDelivery, stateReport leftward] r = _ :=
    validStates_append_singleton [malformedDelivery] (stateReport leftward) r
  have hright : validStates [malformedDelivery, stateReport leftward, stateReport rightward] r = _ :=
    validStates_append_singleton [malformedDelivery, stateReport leftward] (stateReport rightward) r
  rw [hleft, hright, hmiddle, validStates_singleton_invalid hmalformed,
    validStates_singleton hfirst, validStates_singleton hsecond, List.nil_append]
  by_cases hr : rightward.deviceId = r
  · subst hr
    rfl
  · rw [if_neg hr, List.nil_append, List.append_nil]

/-- The order of the two reports and the malformed payload are not seen. -/
theorem runEvents_latest_swapped :
    outside id defaultConfig lineGeometry (shippedCollaborators defaultConfig lineGeometry
        fun _ => none) (managerApi defaultConfig) quietPublisher "run"
        [.delivered (stateReport rightward), .delivered (stateReport leftward), .ticked 1 5]
        { engine := EngineState.initial 0, publisher := () } =
      outside id defaultConfig lineGeometry (shippedCollaborators defaultConfig lineGeometry
        fun _ => none) (managerApi defaultConfig) quietPublisher "run"
        [.delivered malformedDelivery, .delivered (stateReport leftward),
          .delivered (stateReport rightward), .ticked 1 5]
        { engine := EngineState.initial 0, publisher := () } := by
  refine runEvents_latest ?_ ?_ rfl (.cons ⟨rfl, rfl, sameLatest_swapped⟩ .nil)
  all_goals simp [stateReport, malformedDelivery]

end CollisionMonitor
