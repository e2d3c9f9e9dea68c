import CollisionMonitor.Config
import CollisionMonitor.Lib.Fifo
import CollisionMonitor.Lib.Machine

set_option relaxedAutoImplicit false
set_option autoImplicit false

/-!
# The supervisor of the service

`CollisionMonitorService.run` starts the consumer, the decision loop and a task that waits for the
stop event, and ends when one of them gives it a reason. The tasks run on one event loop, which runs
the callbacks that are ready in the order in which they became ready. So the supervisor sees a task
that ended some callbacks later, and other tasks may end in between.

## Main definitions

* `DecisionPhase`, `decisionStep` — `decision_loop`, as a reaction to what it sees at its awaits.
* `Supervision`, `SupervisionStep`, `supervisionMachine` — the event loop with its four tasks.

## Main results

* `run_supervised` — why `run` ends, and that it ends when it should.
-/

namespace CollisionMonitor

/-! ## The decision loop -/

/-- How a task ended. -/
inductive TaskEnd
  | returned
  | raised (e : PyException)
  | cancelled

/-- The await at which `decision_loop` waits: a tick that it began at a time of the monotonic clock,
or a sleep. -/
inductive DecisionPhase
  | created
  | ticking (tickStarted : ℚ)
  | sleeping (remaining : ℚ)
  | ended (how : TaskEnd)

/-- What `decision_loop` sees at its awaits, with the monotonic clock where it reads it. -/
inductive DecisionEvent
  | begun (now : ℚ)
  | suspended
  | ticked (finished now : ℚ)
  | woke (now : ℚ)
  | raised (e : PyException)
  | cancelled

section DecisionLoop

variable (config : MonitorConfig) (stopSet : Bool)

/-- The head of the loop `while not stop_event.is_set()`. -/
def decisionHead (now : ℚ) : DecisionPhase := if stopSet then .ended .returned else .ticking now

/-- The end of a tick: sleep until the next one is due. -/
def afterTick (tickStarted finished now : ℚ) : DecisionPhase :=
  let elapsed := max (finished - tickStarted) 0
  let remaining := max (config.tickIntervalSeconds - elapsed) 0
  if 0 < remaining ∧ stopSet = false then .sleeping remaining else decisionHead stopSet now

/-- One step of `decision_loop`, if the event can occur at the await. -/
def decisionStep : DecisionPhase → DecisionEvent → Option DecisionPhase
  | .created, .begun now => some (decisionHead stopSet now)
  | .created, .cancelled => some (.ended .cancelled)
  | .ticking tickStarted, .suspended => some (.ticking tickStarted)
  | .ticking tickStarted, .ticked finished now =>
    some (afterTick config stopSet tickStarted finished now)
  | .ticking _, .raised e => some (.ended (.raised e))
  | .ticking _, .cancelled => some (.ended .cancelled)
  | .sleeping remaining, .suspended => some (.sleeping remaining)
  | .sleeping _, .woke now => some (decisionHead stopSet now)
  | .sleeping _, .raised e => some (.ended (.raised e))
  | .sleeping _, .cancelled => some (.ended .cancelled)
  | _, _ => none

/-- What `decision_loop` does when its task runs: it may pass several awaits. -/
def decisionRun (phase : DecisionPhase) (events : List DecisionEvent) : Option DecisionPhase :=
  events.foldlM (decisionStep config stopSet) phase

end DecisionLoop

/-- The decision loop has ended. -/
def DecisionPhase.isEnded : DecisionPhase → Bool
  | .ended _ => true
  | _ => false

/-! ## The event loop -/

/-- A callback that is ready: a task continues, or `asyncio.wait` is told that a task that it
watches has ended. A call of `asyncio.wait` is known by whether it watches the consumer. -/
inductive ReadyCallback
  | consumer
  | decision
  | stop
  | completion (watchesConsumer : Bool)
  | supervisor
  deriving DecidableEq

/-- Where the task of `stop_event.wait()` is. -/
inductive StopPhase
  | created
  | waiting
  | ended
  deriving DecidableEq

/-- How `run` ends: it returns, it raises what a task raised or
`RuntimeError("periodic decision loop ended before stop was requested")`, or it is cancelled. -/
inductive RunOutcome
  | returned
  | raised (e : PyException)
  | endedEarly
  | cancelled

/-- Where `run` is: at `asyncio.wait`, at the `gather` of its `finally` block, or at its end. -/
inductive SupervisorPhase
  | waiting
  | stopping (outcome : RunOutcome)
  | ended (outcome : RunOutcome)

/-- The stop event, the callbacks that are ready, the tasks, and `run` with the tasks it watches. -/
structure Supervision where
  stopSet : Bool
  ready : List ReadyCallback := [.consumer, .decision, .stop]
  consumer : Option TaskEnd := none
  decision : DecisionPhase := .created
  stopTask : StopPhase := .created
  watchesConsumer : Bool := true
  -- the future of the current `asyncio.wait` is resolved
  woken : Bool := false
  phase : SupervisorPhase := .waiting

namespace Supervision

variable (s : Supervision)

/-- The callback of a task that ends. -/
def notify (watched : Bool) : List ReadyCallback :=
  match s.phase with
  | .waiting => if watched then [.completion s.watchesConsumer] else []
  | _ => []

/-- Setting the event wakes its waiter. -/
def alarm : List ReadyCallback :=
  if s.stopTask = .waiting ∧ s.stopSet = false ∧ .stop ∉ s.ready then [.stop] else []

/-- Cancelling wakes a task that has not ended. -/
def wakeups : List ReadyCallback :=
  (if s.consumer.isNone ∧ .consumer ∉ s.ready then [.consumer] else []) ++
  (if ¬ s.decision.isEnded ∧ .decision ∉ s.ready then [.decision] else []) ++
  if s.stopTask ≠ .ended ∧ .stop ∉ s.ready then [.stop] else []

/-- The `finally` block of `run` cancels the tasks and waits for them. -/
def stopAll (outcome : RunOutcome) : Supervision :=
  { s with phase := .stopping outcome, ready := s.ready ++ s.wakeups }

/-- The body of the loop of `run`, after `asyncio.wait`. -/
def inspect : Supervision :=
  if s.stopTask = .ended then s.stopAll .returned
  else match s.decision with
    | .ended (.raised e) => s.stopAll (.raised e)
    | .ended .cancelled => s.stopAll .cancelled
    | .ended .returned => s.stopAll .endedEarly
    | _ => match s.watchesConsumer, s.consumer with
      | true, some (.raised e) => s.stopAll (.raised e)
      | true, some .cancelled => s.stopAll .cancelled
      | true, some .returned => { s with watchesConsumer := false, woken := false }
      | _, _ => { s with woken := false }

/-- Every task has ended. -/
def AllEnded : Prop :=
  s.consumer.isSome = true ∧ s.decision.isEnded = true ∧ s.stopTask = .ended

/-- A task that `run` watches has ended. -/
def SomeEnded : Prop :=
  s.stopTask = .ended ∨ s.decision.isEnded = true ∨
    s.watchesConsumer = true ∧ s.consumer.isSome = true

end Supervision

/-- How `run` will end or has ended. -/
def SupervisorPhase.outcome : SupervisorPhase → Option RunOutcome
  | .waiting => none
  | .stopping outcome => some outcome
  | .ended outcome => some outcome

/-- What may happen next. -/
inductive SupervisionStep (config : MonitorConfig) : Supervision → Supervision → Prop
  | stopRequested {s} :
      SupervisionStep config s { s with stopSet := true, ready := s.ready ++ s.alarm }
  | consumerReady {s} (hconsumer : s.consumer = none) (hnew : .consumer ∉ s.ready) :
      SupervisionStep config s { s with ready := s.ready ++ [.consumer] }
  | decisionReady {s} (hdecision : s.decision.isEnded = false) (hnew : .decision ∉ s.ready) :
      SupervisionStep config s { s with ready := s.ready ++ [.decision] }
  | consumerSuspended {s rest} (hready : s.ready = .consumer :: rest) :
      SupervisionStep config s { s with ready := rest }
  | consumerEnded {s rest} (how : TaskEnd) (hready : s.ready = .consumer :: rest)
      (hconsumer : s.consumer = none) : SupervisionStep config s { s with
        consumer := some how, ready := rest ++ s.notify s.watchesConsumer }
  | decisionRan {s rest phase} (events : List DecisionEvent) (hevents : events ≠ [])
      (hready : s.ready = .decision :: rest)
      (hrun : decisionRun config s.stopSet s.decision events = some phase) :
      SupervisionStep config s { s with
        decision := phase, ready := rest ++ s.notify phase.isEnded }
  -- `stop_event.wait()` returns at once when the event is set
  | stopWaits {s rest} (hready : s.ready = .stop :: rest) (hphase : s.phase = .waiting)
      (hstop : s.stopSet = false) :
      SupervisionStep config s { s with stopTask := .waiting, ready := rest }
  | stopEnded {s rest} (hready : s.ready = .stop :: rest)
      (hstop : s.phase = .waiting → s.stopSet = true) :
      SupervisionStep config s { s with stopTask := .ended, ready := rest ++ s.notify true }
  -- a resolved future is not resolved again, nor is that of an earlier `asyncio.wait`
  | completed {s rest} (hready : s.ready = .completion s.watchesConsumer :: rest)
      (hphase : s.phase = .waiting) (hwoken : s.woken = false) :
      SupervisionStep config s { s with woken := true, ready := rest ++ [.supervisor] }
  | ignored {s rest} (watchesConsumer : Bool)
      (hready : s.ready = .completion watchesConsumer :: rest)
      (hlate : s.phase ≠ .waiting ∨ s.woken = true ∨ watchesConsumer ≠ s.watchesConsumer) :
      SupervisionStep config s { s with ready := rest }
  | resumed {s rest} (hready : s.ready = .supervisor :: rest) (hphase : s.phase = .waiting) :
      SupervisionStep config s { s with ready := rest }.inspect
  -- `run` itself is cancelled, also at the `gather`
  | cancelled {s} (hphase : ∀ outcome, s.phase ≠ .ended outcome) :
      SupervisionStep config s (s.stopAll .cancelled)
  | overtaken {s rest} (hready : s.ready = .supervisor :: rest) (hphase : s.phase ≠ .waiting) :
      SupervisionStep config s { s with ready := rest }
  | joined {s outcome} (hphase : s.phase = .stopping outcome) (hall : s.AllEnded) :
      SupervisionStep config s { s with phase := .ended outcome }

/-- The runs of the supervisor, from its first `asyncio.wait`. -/
def supervisionMachine (config : MonitorConfig) : Machine Supervision where
  init s := ∃ stopSet, s = { stopSet }
  step := SupervisionStep config

/-! ## The invariant -/

section Invariant

open Fifo

variable {config : MonitorConfig} {s t : Supervision}

/-- The interval of ticks is positive. -/
lemma MonitorConfig.tickIntervalSeconds_pos (config : MonitorConfig) :
    0 < config.tickIntervalSeconds :=
  config.positive_of_mem "tick_interval_seconds" (by simp [ConfigFields.positiveValues])

/-- What holds of the decision loop at its awaits: it returns only when the event is set, and sleeps
for at most one interval. -/
structure DecisionPhase.Sound (config : MonitorConfig) (stopSet : Bool) (phase : DecisionPhase) :
    Prop where
  decided : phase = .ended .returned → stopSet = true
  slept : ∀ remaining, phase = .sleeping remaining →
    0 < remaining ∧ remaining ≤ config.tickIntervalSeconds

/-- The head of the decision loop returns or ticks as it should. -/
lemma decisionHead_sound (stopSet : Bool) (now : ℚ) :
    (decisionHead stopSet now).Sound config stopSet := by
  unfold decisionHead
  split_ifs with hstop
  · exact ⟨fun _ => hstop, fun _ heq => (by cases heq)⟩
  · exact ⟨fun heq => (by cases heq), fun _ heq => (by cases heq)⟩

/-- After a tick the decision loop sleeps no longer than an interval. -/
lemma afterTick_sound (stopSet : Bool) (tickStarted finished now : ℚ) :
    (afterTick config stopSet tickStarted finished now).Sound config stopSet := by
  unfold afterTick
  dsimp only
  split_ifs with hsleep
  · refine ⟨fun heq => (by cases heq), fun remaining heq => ?_⟩
    obtain rfl := DecisionPhase.sleeping.inj heq
    refine ⟨hsleep.1, max_le ?_ config.tickIntervalSeconds_pos.le⟩
    exact sub_le_self _ (le_max_right _ _)
  · exact decisionHead_sound stopSet now

/-- A step of the decision loop begins at an await. -/
lemma decisionStep_sound {stopSet : Bool} {phase phase' : DecisionPhase} {event : DecisionEvent}
    (h : decisionStep config stopSet phase event = some phase')
    (hphase : phase.Sound config stopSet) :
    phase.isEnded = false ∧ phase'.Sound config stopSet := by
  have hother : ∀ phase : DecisionPhase, phase ≠ .ended .returned →
      (∀ remaining, phase ≠ .sleeping remaining) → phase.Sound config stopSet :=
    fun phase hended hsleeping => ⟨fun heq => absurd heq hended,
      fun remaining heq => absurd heq (hsleeping remaining)⟩
  unfold decisionStep at h
  split at h
  all_goals cases h
  all_goals refine ⟨rfl, ?_⟩
  all_goals first
    | exact decisionHead_sound _ _
    | exact afterTick_sound _ _ _ _
    | exact hphase
    | exact hother _ (by simp) (by simp)

/-- **When the decision loop runs**, it had not ended. -/
lemma decisionRun_sound {stopSet : Bool} {phase phase' : DecisionPhase}
    {events : List DecisionEvent} (hevents : events ≠ [])
    (h : decisionRun config stopSet phase events = some phase')
    (hphase : phase.Sound config stopSet) :
    phase.isEnded = false ∧ phase'.Sound config stopSet := by
  have hrun : ∀ (events : List DecisionEvent) (phase : DecisionPhase),
      decisionRun config stopSet phase events = some phase' → phase.Sound config stopSet →
        phase'.Sound config stopSet := by
    intro events
    induction events with
    | nil =>
      rintro phase h hphase
      obtain rfl := Option.some.inj h
      exact hphase
    | cons event events ih =>
      rintro phase h hphase
      obtain ⟨middle, hstep, hrest⟩ := Option.bind_eq_some_iff.mp h
      exact ih middle hrest (decisionStep_sound hstep hphase).2
  refine ⟨?_, hrun events phase h hphase⟩
  cases events with
  | nil => exact absurd rfl hevents
  | cons event events =>
    obtain ⟨middle, hstep, -⟩ := Option.bind_eq_some_iff.mp h
    exact (decisionStep_sound hstep hphase).1

namespace Supervision

/-- Why `run` ends the way it does. -/
def Accounted (s : Supervision) : RunOutcome → Prop
  | .returned => s.stopSet = true ∧ s.stopTask = .ended
  | .raised e => s.decision = .ended (.raised e) ∨ s.consumer = some (.raised e)
  | .endedEarly => s.stopSet = true ∧ s.decision = .ended .returned ∧
      s.watchesConsumer = true ∧ s.consumer.isSome = true
  | .cancelled => True

/-- What holds while `run` is at `asyncio.wait`. -/
structure Watching (s : Supervision) : Prop where
  requested : s.stopTask = .ended → s.stopSet = true
  woken : .supervisor ∈ s.ready ↔ s.woken = true
  noticed : s.SomeEnded → s.woken = true ∨ .completion s.watchesConsumer ∈ s.ready
  quiet : ¬ s.SomeEnded → s.woken = false ∧ .completion s.watchesConsumer ∉ s.ready
  /-- When the decision loop has returned, the stop task is ahead of the supervisor. -/
  behind : s.decision = .ended .returned → s.stopTask ≠ .ended →
    (s.watchesConsumer = true → s.consumer = none) →
      Ahead (fun c => c = .supervisor ∨ c = .completion s.watchesConsumer) .stop s.ready

/-- What holds in every state. -/
structure Supervised (config : MonitorConfig) (s : Supervision) : Prop where
  pending : s.stopTask = .ended ∨ .stop ∈ s.ready ∨ s.stopTask = .waiting ∧ s.stopSet = false
  decided : s.decision = .ended .returned → s.stopSet = true
  slept : ∀ remaining, s.decision = .sleeping remaining →
    0 < remaining ∧ remaining ≤ config.tickIntervalSeconds
  unwatched : s.watchesConsumer = false → s.consumer = some .returned
  tags : .completion false ∈ s.ready → s.watchesConsumer = false
  once : s.ready.count .supervisor ≤ 1
  watching : s.phase = .waiting → s.Watching
  accounted : ∀ outcome, s.phase.outcome = some outcome → s.Accounted outcome
  joined : ∀ outcome, s.phase = .ended outcome → s.AllEnded

/-- Callbacks of the consumer and the decision loop may come and go. -/
lemma Watching.requeue {ready : List ReadyCallback} (h : s.Watching)
    (hmem : ∀ c, c ≠ .consumer → c ≠ .decision → c ≠ .stop → (c ∈ ready ↔ c ∈ s.ready))
    (hahead : ∀ P, Ahead P .stop s.ready → Ahead P .stop ready) : Watching { s with ready } where
  requested := h.requested
  woken := (hmem _ (by simp) (by simp) (by simp)).trans h.woken
  noticed hsome := (h.noticed hsome).imp_right (hmem _ (by simp) (by simp) (by simp)).mpr
  quiet hnone := ⟨(h.quiet hnone).1, fun hin => (h.quiet hnone).2
    ((hmem _ (by simp) (by simp) (by simp)).mp hin)⟩
  behind hdecision hstop hconsumer := hahead _ (h.behind hdecision hstop hconsumer)

/-- The ready callbacks may be put in another order that keeps what stands ahead of the stop
task. -/
lemma Supervised.requeue {ready : List ReadyCallback} (h : s.Supervised config)
    (hmem : ∀ c, c ≠ .consumer → c ≠ .decision → (c ∈ ready ↔ c ∈ s.ready))
    (hcount : ready.count .supervisor = s.ready.count .supervisor)
    (hahead : ∀ P, Ahead P .stop s.ready → Ahead P .stop ready) :
    Supervised config { s with ready } :=
  { h with
    pending := h.pending.imp_right (.imp_left (hmem _ (by simp) (by simp)).mpr)
    tags := fun hin => h.tags ((hmem _ (by simp) (by simp)).mp hin)
    once := hcount.trans_le h.once
    watching := fun hphase => (h.watching hphase).requeue
      (fun c hconsumer hdecision _ => hmem c hconsumer hdecision) hahead }

/-- A callback of the consumer or the decision loop is pushed. -/
lemma Supervised.push {c : ReadyCallback} (h : s.Supervised config)
    (hc : c = .consumer ∨ c = .decision) :
    Supervised config { s with ready := s.ready ++ [c] } := by
  refine h.requeue (fun c' hconsumer hdecision => ?_) ?_ fun P hahead => hahead.push _
  · grind
  · grind

/-- A callback of the consumer or the decision loop is popped. -/
lemma Supervised.pop {c : ReadyCallback} {rest : List ReadyCallback} (h : s.Supervised config)
    (hready : s.ready = c :: rest) (hc : c = .consumer ∨ c = .decision) :
    Supervised config { s with ready := rest } := by
  refine h.requeue (fun c' hconsumer hdecision => ?_) ?_ fun P hahead => ?_
  · grind
  · grind
  · rw [hready] at hahead
    rcases hahead.pop with rfl | ⟨-, hrest⟩
    · grind
    · exact hrest

/-- **A task that `run` watches ends.** -/
lemma Watching.ends (h : s.Watching) (hready : t.ready = s.ready ++ [.completion s.watchesConsumer])
    (hwatches : t.watchesConsumer = s.watchesConsumer) (hwoken : t.woken = s.woken)
    (hsome : t.SomeEnded) (hrequested : t.stopTask = .ended → t.stopSet = true)
    (hbehind : t.decision = .ended .returned → t.stopTask ≠ .ended →
      (t.watchesConsumer = true → t.consumer = none) →
        Ahead (fun c => c = .supervisor ∨ c = .completion s.watchesConsumer) .stop s.ready) :
    t.Watching where
  requested := hrequested
  woken := by
    rw [hready, hwoken, ← h.woken]
    simp
  noticed _ := .inr (by rw [hready, hwatches]; simp)
  quiet hnone := absurd hsome hnone
  behind hdecision hstop hconsumer := by
    rw [hready, hwatches]
    exact (hbehind hdecision hstop hconsumer).push _

/-- A supervisor that waits is woken by what it watches. -/
lemma notify_waiting (hphase : s.phase = .waiting) (watched : Bool) :
    s.notify watched = if watched then [.completion s.watchesConsumer] else [] := by
  unfold notify
  rw [hphase]

/-- What is told about a task that ends concerns the current `asyncio.wait` only. -/
lemma mem_notify {c : ReadyCallback} {watched : Bool} (h : c ∈ s.notify watched) :
    c = .completion s.watchesConsumer := by
  unfold notify at h
  split at h
  · split_ifs at h
    · exact List.mem_singleton.mp h
    · cases h
  · cases h

/-- What is told about a task leaves the tags and the supervisor's callback alone. -/
lemma Supervised.tags_notify (h : s.Supervised config) (watched : Bool)
    (hin : .completion false ∈ s.ready ++ s.notify watched) : s.watchesConsumer = false := by
  rcases List.mem_append.mp hin with hin | hin
  · exact h.tags hin
  · exact (ReadyCallback.completion.inj (mem_notify hin)).symm

/-- The supervisor is ready at most once after it was woken. -/
lemma Supervised.once_notify (h : s.Supervised config) (watched : Bool) :
    (s.ready ++ s.notify watched).count .supervisor ≤ 1 := by
  have hnone : (s.notify watched).count .supervisor = 0 :=
    List.count_eq_zero.mpr fun hin => by cases mem_notify hin
  rw [List.count_append, hnone]
  exact h.once

/-- The consumer ends. -/
lemma Supervised.consumerEnds (h : s.Supervised config) (how : TaskEnd)
    (hconsumer : s.consumer = none) : Supervised config { s with
      consumer := some how, ready := s.ready ++ s.notify s.watchesConsumer } := by
  have hwatches : s.watchesConsumer = true := by
    by_contra hnot
    cases hconsumer.symm.trans (h.unwatched (Bool.eq_false_iff.mpr hnot))
  refine { h with
    pending := h.pending.imp_right (.imp_left (List.mem_append_left _))
    unwatched := fun hnot => absurd (hnot.symm.trans hwatches) (by simp)
    tags := h.tags_notify _
    once := h.once_notify _
    watching := fun (hphase : s.phase = .waiting) => ?_
    accounted := fun outcome houtcome => ?_
    joined := fun outcome houtcome => ?_ }
  · refine (h.watching hphase).ends ?_ rfl rfl (.inr (.inr ⟨hwatches, rfl⟩))
      (h.watching hphase).requested fun _ _ hnone => absurd (hnone hwatches) (by simp)
    change s.ready ++ s.notify s.watchesConsumer = _
    rw [notify_waiting hphase, if_pos hwatches]
  · have haccounted := h.accounted outcome houtcome
    cases outcome with
    | returned => exact haccounted
    | raised e => exact haccounted.imp_right fun heq => absurd (hconsumer.symm.trans heq) (by simp)
    | endedEarly => exact ⟨haccounted.1, haccounted.2.1, haccounted.2.2.1, rfl⟩
    | cancelled => trivial
  · exact ⟨rfl, (h.joined outcome houtcome).2⟩

/-- The decision loop runs.

**Proof sketch.** If the loop goes on, nothing that is watched changes. If it ends, the supervisor
is woken, unless it has been woken before. If it returned because of the stop event, nothing had
ended before, so the wake-up of the stop task is in the queue and stays ahead of that of the
supervisor. -/
lemma Supervised.decisionRuns {phase : DecisionPhase} {events : List DecisionEvent}
    (h : s.Supervised config) (hevents : events ≠ [])
    (hrun : decisionRun config s.stopSet s.decision events = some phase) :
    Supervised config { s with
      decision := phase, ready := s.ready ++ s.notify phase.isEnded } := by
  obtain ⟨hbefore, hsound⟩ := decisionRun_sound hevents hrun ⟨h.decided, h.slept⟩
  refine { h with
    pending := h.pending.imp_right (.imp_left (List.mem_append_left _))
    decided := hsound.decided
    slept := hsound.slept
    tags := h.tags_notify _
    once := h.once_notify _
    watching := fun (hphase : s.phase = .waiting) => ?_
    accounted := fun outcome houtcome => ?_
    joined := fun outcome houtcome => ?_ }
  · have hwatching := h.watching hphase
    have hnotify := notify_waiting hphase phase.isEnded
    cases hended : phase.isEnded with
    | true =>
      rw [hended, if_pos rfl] at hnotify
      refine hwatching.ends (by rw [← hnotify]) rfl rfl (.inr (.inl hended)) hwatching.requested
        fun (hreturned : phase = .ended .returned) hstop hconsumer => ?_
      -- before it returned no task had ended, so the supervisor had nothing to see
      have hnone : ¬ s.SomeEnded := by
        rintro (hended | hended | ⟨hwatches, hended⟩)
        · exact hstop hended
        · exact absurd (hended.symm.trans hbefore) (by simp)
        · rw [show s.consumer = none from hconsumer hwatches] at hended
          cases hended
      obtain ⟨hwoken, hquiet⟩ := hwatching.quiet hnone
      have hset := hsound.decided hreturned
      refine ahead_of_mem ?_ ?_
      · rcases h.pending with hended | hin | ⟨-, hunset⟩
        · exact absurd hended hstop
        · exact hin
        · exact absurd (hset.symm.trans hunset) (by simp)
      · rintro c hin (rfl | rfl)
        · exact absurd ((hwatching.woken.mp hin).symm.trans hwoken) (by simp)
        · exact hquiet hin
    | false =>
      rw [hended, if_neg (by simp)] at hnotify
      have hsome : SomeEnded { s with decision := phase, ready := s.ready ++ s.notify false } ↔
          s.SomeEnded := by
        unfold SomeEnded
        rw [hended, hbefore]
      rw [hnotify, List.append_nil] at hsome ⊢
      exact ⟨hwatching.requested, hwatching.woken, fun h => hwatching.noticed (hsome.mp h),
        fun h => hwatching.quiet fun h' => h (hsome.mpr h'),
        fun heq => absurd hended (by rw [show phase = _ from heq]; simp [DecisionPhase.isEnded])⟩
  · have haccounted := h.accounted outcome houtcome
    cases outcome with
    | returned => exact haccounted
    | raised e =>
      refine haccounted.imp_left fun heq => ?_
      rw [heq] at hbefore
      cases hbefore
    | endedEarly =>
      rw [haccounted.2.1] at hbefore
      cases hbefore
    | cancelled => trivial
  · exact absurd ((h.joined outcome houtcome).2.1.symm.trans hbefore) (by simp)

/-- A callback that is popped leaves the others. -/
lemma mem_rest {c c' : ReadyCallback} {rest : List ReadyCallback} (hready : s.ready = c :: rest)
    (hne : c' ≠ c) : c' ∈ rest ↔ c' ∈ s.ready := by
  rw [hready, List.mem_cons, or_iff_right hne]

/-- What is ready behind the first callback is ready. -/
lemma mem_of_mem_rest {c c' : ReadyCallback} {rest : List ReadyCallback}
    (hready : s.ready = c :: rest) (hin : c' ∈ rest) : c' ∈ s.ready := by
  rw [hready]
  exact List.mem_cons_of_mem _ hin

/-- The supervisor is ready at most once behind the first callback. -/
lemma Supervised.once_rest {c : ReadyCallback} {rest : List ReadyCallback}
    (h : s.Supervised config) (hready : s.ready = c :: rest) : rest.count .supervisor ≤ 1 := by
  have honce := h.once
  rw [hready] at honce
  exact List.count_le_count_cons.trans honce

/-- The task of `stop_event.wait()` begins to wait. -/
lemma Supervised.stopWaits {rest : List ReadyCallback} (h : s.Supervised config)
    (hready : s.ready = .stop :: rest) (hphase : s.phase = .waiting) (hstop : s.stopSet = false) :
    Supervised config { s with stopTask := .waiting, ready := rest } := by
  have hwatching := h.watching hphase
  have hopen : s.stopTask ≠ .ended := fun hended =>
    absurd ((hwatching.requested hended).symm.trans hstop) (by simp)
  have hmem : ∀ c, c ≠ .stop → (c ∈ rest ↔ c ∈ s.ready) := fun c => mem_rest hready
  have hsome : SomeEnded { s with stopTask := .waiting, ready := rest } ↔ s.SomeEnded := by
    simp [SomeEnded, hopen]
  refine { h with
    pending := .inr (.inr ⟨rfl, hstop⟩)
    tags := fun hin => h.tags ((hmem _ (by simp)).mp hin)
    once := h.once_rest hready
    watching := fun _ => ?_
    accounted := fun outcome houtcome => ?_
    joined := fun outcome houtcome => ?_ }
  · exact ⟨fun heq => (by cases heq), (hmem _ (by simp)).trans hwatching.woken,
      fun h => (hwatching.noticed (hsome.mp h)).imp_right (hmem _ (by simp)).mpr,
      fun h => (hwatching.quiet fun h' => h (hsome.mpr h')).imp_right
        fun hnot hin => hnot ((hmem _ (by simp)).mp hin),
      fun heq => absurd ((h.decided heq).symm.trans hstop) (by simp)⟩
  · rw [show s.phase.outcome = none by rw [hphase]; rfl] at houtcome
    cases houtcome
  · rw [show s.phase = .ended outcome from houtcome] at hphase
    cases hphase

/-- The task of `stop_event.wait()` ends.

**Proof sketch.** The stop task leaves the ready queue, and the supervisor is woken unless it has
been woken before. -/
lemma Supervised.stopEnds {rest : List ReadyCallback} (h : s.Supervised config)
    (hready : s.ready = .stop :: rest) (hstop : s.phase = .waiting → s.stopSet = true) :
    Supervised config { s with stopTask := .ended, ready := rest ++ s.notify true } := by
  have hmem : ∀ c, c ≠ .stop → (c ∈ rest ↔ c ∈ s.ready) := fun c => mem_rest hready
  refine { h with
    pending := .inl rfl
    tags := fun hin => ?_
    once := ?_
    watching := fun (hphase : s.phase = .waiting) => ?_
    accounted := fun outcome houtcome => ?_
    joined := fun outcome houtcome => ?_ }
  · refine h.tags_notify true (List.mem_append.mpr ?_)
    exact (List.mem_append.mp hin).imp_left (hmem _ (by simp)).mp
  · have honce := h.once_notify true
    rwa [hready, List.cons_append, List.count_cons_of_ne (by simp)] at honce
  · have hwatching := h.watching hphase
    change Watching { s with stopTask := .ended, ready := rest ++ s.notify true }
    rw [notify_waiting hphase, if_pos rfl]
    refine ⟨fun _ => hstop hphase, ?_, fun _ => .inr ?_, fun hnone => absurd (.inl rfl) hnone,
      fun _ hopen => absurd rfl hopen⟩
    · rw [List.mem_append, or_iff_left (by simp), hmem _ (by simp)]
      exact hwatching.woken
    · exact List.mem_append_right _ (List.mem_singleton_self _)
  · have haccounted := h.accounted outcome houtcome
    cases outcome with
    | returned => exact ⟨haccounted.1, rfl⟩
    | raised e => exact haccounted
    | endedEarly => exact haccounted
    | cancelled => trivial
  · exact ⟨(h.joined outcome houtcome).1, (h.joined outcome houtcome).2.1, rfl⟩

/-- The alarm wakes the stop task only. -/
lemma mem_alarm {c : ReadyCallback} (hin : c ∈ s.alarm) : c = .stop := by
  unfold alarm at hin
  split_ifs at hin
  · exact List.mem_singleton.mp hin
  · cases hin

/-- The stop event is set.

**Proof sketch.** The stop task is put at the end of the ready queue, if it waits and is not there
yet. Nothing that is ahead in the queue changes. -/
lemma Supervised.stopRequested (h : s.Supervised config) :
    Supervised config { s with stopSet := true, ready := s.ready ++ s.alarm } := by
  have hmem : ∀ c, c ≠ .stop → (c ∈ s.ready ++ s.alarm ↔ c ∈ s.ready) := fun c hc => by
    rw [List.mem_append, or_iff_left fun hin => hc (mem_alarm hin)]
  refine { h with
    pending := ?_
    decided := fun _ => rfl
    tags := fun hin => h.tags ((hmem _ (by simp)).mp hin)
    once := ?_
    watching := fun hphase => ?_
    accounted := fun outcome houtcome => ?_ }
  · rcases h.pending with hended | hin | hwaiting
    · exact .inl hended
    · exact .inr (.inl (List.mem_append_left _ hin))
    · refine .inr (.inl ?_)
      by_cases hin : .stop ∈ s.ready
      · exact List.mem_append_left _ hin
      · exact List.mem_append_right _ (by simp [alarm, hwaiting, hin])
  · have hnone : .supervisor ∉ s.alarm := fun hin => by cases mem_alarm hin
    rw [List.count_append, List.count_eq_zero.mpr hnone]
    exact h.once
  · have hqueue := (h.watching hphase).requeue (fun c _ _ hstop => hmem c hstop)
      fun P hahead => hahead.push _
    exact ⟨fun _ => rfl, hqueue.woken, hqueue.noticed, hqueue.quiet, hqueue.behind⟩
  · have haccounted := h.accounted outcome houtcome
    cases outcome with
    | returned => exact ⟨rfl, haccounted.2⟩
    | raised e => exact haccounted
    | endedEarly => exact ⟨rfl, haccounted.2⟩
    | cancelled => trivial

/-- `asyncio.wait` is told that a task has ended, and wakes the supervisor. -/
lemma Supervised.completes {rest : List ReadyCallback} (h : s.Supervised config)
    (hready : s.ready = .completion s.watchesConsumer :: rest) (hphase : s.phase = .waiting)
    (hwoken : s.woken = false) :
    Supervised config { s with woken := true, ready := rest ++ [.supervisor] } := by
  have hwatching := h.watching hphase
  have hsome : s.SomeEnded := by
    by_contra hnone
    exact (hwatching.quiet hnone).2 (by rw [hready]; exact List.mem_cons_self)
  refine { h with
    pending := h.pending.imp_right (.imp_left fun hin => ?_)
    tags := fun hin => ?_
    once := ?_
    watching := fun _ => ?_ }
  · rw [hready] at hin
    exact List.mem_append_left _ ((List.mem_cons.mp hin).resolve_left (by simp))
  · rcases List.mem_append.mp hin with hin | hin
    · exact h.tags (mem_of_mem_rest hready hin)
    · cases List.mem_singleton.mp hin
  · have hnot : .supervisor ∉ rest := fun hin =>
      absurd ((hwatching.woken.mp (mem_of_mem_rest hready hin)).symm.trans hwoken) (by simp)
    rw [List.count_append, List.count_eq_zero.mpr hnot]
    simp
  · refine ⟨hwatching.requested, by simp, fun _ => .inl rfl, fun hnone => absurd hsome hnone,
      fun hdecision hstop hconsumer => ?_⟩
    have hbehind := hwatching.behind hdecision hstop hconsumer
    rw [hready] at hbehind
    rcases hbehind.pop with heq | ⟨hnot, -⟩
    · cases heq
    · exact absurd (.inr rfl) hnot

/-- A callback of `asyncio.wait` comes too late. -/
lemma Supervised.ignores {rest : List ReadyCallback} {watchesConsumer : Bool}
    (h : s.Supervised config) (hready : s.ready = .completion watchesConsumer :: rest)
    (hlate : s.phase ≠ .waiting ∨ s.woken = true ∨ watchesConsumer ≠ s.watchesConsumer) :
    Supervised config { s with ready := rest } := by
  have hmem : ∀ c, c ≠ .completion watchesConsumer → (c ∈ rest ↔ c ∈ s.ready) :=
    fun c => mem_rest hready
  refine { h with
    pending := h.pending.imp_right (.imp_left (hmem _ (by simp)).mpr)
    tags := fun hin => h.tags (mem_of_mem_rest hready hin)
    once := h.once_rest hready
    watching := fun hphase => ?_ }
  have hwatching := h.watching hphase
  refine ⟨hwatching.requested, (hmem _ (by simp)).trans hwatching.woken, fun hsome => ?_,
    fun hnone => (hwatching.quiet hnone).imp_right
      fun hnot hin => hnot (mem_of_mem_rest hready hin), fun hdecision hstop hconsumer => ?_⟩
  · rcases hwatching.noticed hsome with hwoken | hin
    · exact .inl hwoken
    · rcases hlate with hnot | hwoken | htag
      · exact absurd hphase hnot
      · exact .inl hwoken
      · exact .inr ((hmem _ fun heq => htag (ReadyCallback.completion.inj heq).symm).mpr hin)
  · have hbehind := hwatching.behind hdecision hstop hconsumer
    rw [hready] at hbehind
    rcases hbehind.pop with heq | ⟨-, hbehind⟩
    · cases heq
    · exact hbehind

/-- The future of `asyncio.wait` wakes a `run` that was cancelled meanwhile. -/
lemma Supervised.overtakes {rest : List ReadyCallback} (h : s.Supervised config)
    (hready : s.ready = .supervisor :: rest) (hphase : s.phase ≠ .waiting) :
    Supervised config { s with ready := rest } :=
  { h with
    pending := h.pending.imp_right (.imp_left (mem_rest hready (by simp)).mpr)
    tags := fun hin => h.tags (mem_of_mem_rest hready hin)
    once := h.once_rest hready
    watching := fun heq => absurd heq hphase }

/-- A supervisor that raises wakes the tasks it cancels. -/
lemma mem_wakeups {c : ReadyCallback} (hin : c ∈ s.wakeups) :
    c = .consumer ∨ c = .decision ∨ c = .stop := by
  unfold wakeups at hin
  grind

/-- `run` enters its `finally` block, from a state with other callbacks of its own. -/
lemma Supervised.stops {ready : List ReadyCallback} {outcome : RunOutcome}
    (h : s.Supervised config) (hmem : ∀ c, c ≠ .supervisor → (c ∈ ready ↔ c ∈ s.ready))
    (honce : ready.count .supervisor ≤ 1) (haccounted : s.Accounted outcome) :
    Supervised config (stopAll { s with ready } outcome) := by
  refine { h with
    pending := ?_
    tags := fun hin => ?_
    once := ?_
    watching := fun hphase => (by cases hphase)
    accounted := fun other hother => ?_
    joined := fun _ hphase => (by cases hphase) }
  · by_cases hended : s.stopTask = .ended
    · exact .inl hended
    · refine .inr (.inl ?_)
      by_cases hin : .stop ∈ ready
      · exact List.mem_append_left _ hin
      · exact List.mem_append_right _ (by simp [wakeups, hended, hin])
  · rcases List.mem_append.mp hin with hin | hin
    · exact h.tags ((hmem _ (by simp)).mp hin)
    · have hwake := mem_wakeups hin
      grind
  · have hnone : ReadyCallback.supervisor ∉ wakeups { s with ready } := fun hin => by
      have hwake := mem_wakeups hin
      grind
    change (ready ++ wakeups { s with ready }).count .supervisor ≤ 1
    rwa [List.count_append, List.count_eq_zero.mpr hnone]
  · obtain rfl := Option.some.inj hother
    cases outcome <;> exact haccounted

/-- **The supervisor looks at the tasks.** It wakes only when one has ended, and where the decision
loop has returned before the stop task ended, the consumer had ended before.

**Proof sketch.** The wake-up has been taken from the queue, so no other is in it. If the decision
loop has returned and the stop task has not ended, no watched consumer is open, because the wake-up
of the stop task would have been ahead. If only the consumer has ended, a new wait begins, for which
nothing is ready yet. -/
lemma Supervised.inspects {rest : List ReadyCallback} (h : s.Supervised config)
    (hready : s.ready = .supervisor :: rest) (hphase : s.phase = .waiting) :
    Supervised config (inspect { s with ready := rest }) := by
  have hwatching := h.watching hphase
  have hmem : ∀ c, c ≠ .supervisor → (c ∈ rest ↔ c ∈ s.ready) := fun c => mem_rest hready
  have hsome : s.SomeEnded := by
    by_contra hnone
    have hwoken := hwatching.woken.mp (by rw [hready]; exact List.mem_cons_self)
    exact absurd (hwoken.symm.trans (hwatching.quiet hnone).1) (by simp)
  have hnot : rest.count .supervisor = 0 := by
    have honce := h.once
    rw [hready, List.count_cons_self] at honce
    exact Nat.le_zero.mp (Nat.le_of_succ_le_succ honce)
  have honce : rest.count .supervisor ≤ 1 := hnot.trans_le zero_le_one
  unfold inspect
  split_ifs with hstop
  · exact h.stops hmem honce ⟨hwatching.requested hstop, hstop⟩
  · replace hstop : s.stopTask ≠ .ended := hstop
    split
    · next e heq => exact h.stops hmem honce (.inl heq)
    · exact h.stops hmem honce trivial
    · next heq =>
      refine h.stops hmem honce ⟨h.decided heq, heq, ?_⟩
      by_contra hopen
      have hbehind := hwatching.behind heq hstop fun hwatches =>
        Option.not_isSome_iff_eq_none.mp fun hended => hopen ⟨hwatches, hended⟩
      rw [hready] at hbehind
      rcases hbehind.pop with hhead | ⟨hahead, -⟩
      · cases hhead
      · exact hahead (.inl rfl)
    · next hraised hcancelled hreturned =>
      have hopen : s.decision.isEnded = false := by
        cases hdecision : s.decision with
        | ended how =>
          cases how with
          | returned => exact absurd hdecision hreturned
          | raised e => exact absurd hdecision (hraised e)
          | cancelled => exact absurd hdecision hcancelled
        | _ => rfl
      obtain ⟨hwatches, hended⟩ : s.watchesConsumer = true ∧ s.consumer.isSome = true :=
        (hsome.resolve_left hstop).resolve_left (by rw [hopen]; simp)
      split
      · next e _ heq => exact h.stops hmem honce (.inr heq)
      · exact h.stops hmem honce trivial
      · next _ heq =>
        -- a new `asyncio.wait`, of which no callback can be ready
        refine { h with
          pending := h.pending.imp_right (.imp_left (hmem _ (by simp)).mpr)
          unwatched := fun _ => heq
          tags := fun _ => rfl
          once := honce
          watching := fun _ => ⟨hwatching.requested, ?_, ?_, fun _ => ⟨rfl, fun hin => ?_⟩, ?_⟩
          accounted := fun outcome houtcome => ?_ }
        · simpa using List.count_eq_zero.mp hnot
        · rintro (hended | hended | ⟨hwatches, -⟩)
          · exact absurd hended hstop
          · exact absurd (hended.symm.trans hopen) (by simp)
          · cases hwatches
        · exact absurd ((h.tags ((hmem _ (by simp)).mp hin)).symm.trans hwatches) (by simp)
        · exact fun hdecision => absurd hdecision hreturned
        · rw [show s.phase.outcome = none by rw [hphase]; rfl] at houtcome
          cases houtcome
      · next hraised hcancelled hreturned =>
        obtain ⟨how, heq⟩ := Option.isSome_iff_exists.mp hended
        cases how with
        | returned => exact absurd heq (hreturned hwatches)
        | raised e => exact absurd heq (hraised e hwatches)
        | cancelled => exact absurd heq (hcancelled hwatches)

/-- **What one step keeps.** -/
lemma Supervised.step (h : s.Supervised config) (hstep : SupervisionStep config s t) :
    t.Supervised config := by
  cases hstep with
  | stopRequested => exact h.stopRequested
  | consumerReady hconsumer hnew => exact h.push (.inl rfl)
  | decisionReady hdecision hnew => exact h.push (.inr rfl)
  | consumerSuspended hready => exact h.pop hready (.inl rfl)
  | consumerEnded how hready hconsumer =>
    exact (h.pop hready (.inl rfl)).consumerEnds how hconsumer
  | decisionRan events hevents hready hrun =>
    exact (h.pop hready (.inr rfl)).decisionRuns hevents hrun
  | stopWaits hready hphase hstop => exact h.stopWaits hready hphase hstop
  | stopEnded hready hstop => exact h.stopEnds hready hstop
  | completed hready hphase hwoken => exact h.completes hready hphase hwoken
  | ignored watchesConsumer hready hlate => exact h.ignores hready hlate
  | resumed hready hphase => exact h.inspects hready hphase
  | cancelled hphase => exact h.stops (fun _ _ => Iff.rfl) h.once trivial
  | overtaken hready hphase => exact h.overtakes hready hphase
  | joined hphase hall =>
    exact { h with
      watching := fun heq => (by cases heq)
      accounted := fun outcome houtcome => h.accounted outcome (by
        rw [hphase]
        exact houtcome)
      joined := fun _ _ => hall }

/-- **The invariant holds in every run** of the event loop. -/
theorem supervised_of_reachable (h : (supervisionMachine config).Reachable s) :
    s.Supervised config := by
  induction h with
  | init hinit =>
    obtain ⟨stopSet, rfl⟩ := hinit
    refine ⟨.inr (.inl (by simp)), nofun, nofun, nofun, by simp, by simp, fun _ => ?_, nofun, nofun⟩
    have hnone : ¬ SomeEnded { stopSet } := by simp [SomeEnded, DecisionPhase.isEnded]
    exact ⟨nofun, by simp, fun hsome => absurd hsome hnone, fun _ => ⟨rfl, by simp⟩, nofun⟩
  | step _ hstep ih => exact ih.step hstep

end Supervision

/-! ## Why `run` ends, and when -/

/-- **The supervisor of the service.** However the callbacks of the tasks interleave:

* `run` returns only where a stop was requested and seen, raises only what a task raised, and says
  that the decision loop ended before stop was requested only where stop *was* requested and the
  consumer had ended at the same time;
* it ends only after every task has ended;
* it waits with nothing ready only where no stop was requested and no task that it watches has
  ended: no wake-up is lost;
* the decision loop sleeps for a positive time and never for longer than the tick interval.

**Proof sketch.** The invariant `Supervised` says who is ready and who has been woken. If the
supervisor waits with nothing ready, then nothing that it watches has ended, for it would have been
noticed, and the stop task is still waiting for the event. -/
theorem run_supervised (h : (supervisionMachine config).Reachable s) :
    (∀ outcome, s.phase.outcome = some outcome → s.Accounted outcome) ∧
      (∀ outcome, s.phase = .ended outcome → s.AllEnded) ∧
      (s.phase = .waiting → s.ready = [] → s.stopSet = false ∧ ¬ s.SomeEnded) ∧
      ∀ remaining, s.decision = .sleeping remaining →
        0 < remaining ∧ remaining ≤ config.tickIntervalSeconds := by
  have hs := Supervision.supervised_of_reachable h
  refine ⟨hs.accounted, hs.joined, fun hphase hready => ?_, hs.slept⟩
  have hnone : ¬ s.SomeEnded := fun hsome => by
    have hwatching := hs.watching hphase
    rcases hwatching.noticed hsome with hwoken | hin
    · have hin := hwatching.woken.mpr hwoken
      rw [hready] at hin
      cases hin
    · rw [hready] at hin
      cases hin
  rcases hs.pending with hended | hin | ⟨-, hunset⟩
  · exact absurd (.inl hended) hnone
  · rw [hready] at hin
    cases hin
  · exact ⟨hunset, hnone⟩

end Invariant

/-- The consumer ends, and before the supervisor sees it stop is requested and the decision loop
returns. -/
def overtakenStop : Supervision where
  stopSet := true
  ready := [.supervisor, .stop, .completion true]
  consumer := some .returned
  decision := .ended .returned
  stopTask := .waiting
  woken := true

/-- The run gets there step by step. -/
lemma overtakenStop_reachable : (supervisionMachine defaultConfig).Reachable overtakenStop := by
  have hticking : (supervisionMachine defaultConfig).Reachable
      { stopSet := false, ready := [.completion true], consumer := some .returned,
        decision := .ticking 0, stopTask := .waiting } :=
    .step (.step (.step (.init ⟨false, rfl⟩) (.consumerEnded .returned rfl rfl))
      (.decisionRan [.begun 0] (by simp) rfl rfl)) (.stopWaits rfl rfl rfl)
  have hrequested : (supervisionMachine defaultConfig).Reachable
      { stopSet := true, ready := [.decision, .supervisor, .stop], consumer := some .returned,
        decision := .ticking 0, stopTask := .waiting, woken := true } :=
    .step (.step (.step hticking (.decisionReady rfl (by simp))) (.completed rfl rfl rfl))
      .stopRequested
  have hreturns : decisionRun defaultConfig true (.ticking 0) [.ticked 0 0] =
      some (.ended .returned) := by
    simp [decisionRun, decisionStep, afterTick, decisionHead]
  have hreturned := Machine.Reachable.step hrequested
    (.decisionRan [.ticked 0 0] (by simp) rfl hreturns)
  exact hreturned

/-- So `run` can say that the decision loop ended before stop was requested where stop was
requested before. -/
theorem run_supervised_overtaken : ∃ s, (supervisionMachine defaultConfig).Reachable s ∧
    s.phase = .ended .endedEarly ∧ s.AllEnded ∧ s.stopSet = true := by
  have hreach := Machine.Reachable.step (.step (.step overtakenStop_reachable
    (.resumed rfl rfl)) (.stopEnded rfl nofun)) (.joined rfl ⟨rfl, rfl, rfl⟩)
  obtain ⟨haccounted, hall, -⟩ := run_supervised hreach
  exact ⟨_, hreach, rfl, hall _ rfl, (haccounted _ rfl).1⟩

end CollisionMonitor
