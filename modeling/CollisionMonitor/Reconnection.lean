import CollisionMonitor.BrokerSettings
import CollisionMonitor.Config
import CollisionMonitor.Lib.Backoff

set_option relaxedAutoImplicit false
set_option autoImplicit false

/-!
# Reconnection of the RabbitMQ transport

The two retry loops of `rabbitmq.py`: `_connect_with_backoff`, which opens the connection, and
`receive_states`, which consumes the state queue. Both sleep a delay that doubles up to a maximum.
The first starts afresh for every connection. The second resets its delay only when the iterator of
the queue ends normally, so deliveries between two interruptions do not shorten the next sleep.

The handles of the connection and its channels decide only which broker calls an attempt makes, and
are not part of the state.

## Main definitions

* `connectWithBackoff` — the loop that opens the connection.
* `ConsumerLoop`, `receiveStep` — the consumer, as a reaction to what it sees at its awaits.
* `ConsumerLoop.Paced` — how the delay of the consumer depends on its history.

## Main results

* `connectWithBackoff_slept` — the sleeps of one connection follow the bounded backoff.
* `paced_of_run` — the consumer counts the interruptions since the last normal end.
* `receiveStates_delay_exact` — exactly when a sleep follows the failures since the last delivery.
-/

namespace CollisionMonitor

open Backoff

/-- The backoff delay of a configuration after `n` failures in a row. -/
def MonitorConfig.reconnectDelay (config : MonitorConfig) (n : ℕ) : ℚ :=
  delay 2 config.rabbitmqReconnectInitialDelaySeconds config.rabbitmqReconnectMaxDelaySeconds n

section Delay

variable (config : MonitorConfig)

/-- The first delay is the configured one. -/
lemma reconnectDelay_zero : config.reconnectDelay 0 = config.rabbitmqReconnectInitialDelaySeconds :=
  delay_zero config.rabbitmqReconnectInitialDelaySeconds_le

/-- The next delay is twice as long, up to the longest. -/
lemma next_reconnectDelay (n : ℕ) :
    min (config.reconnectDelay n * 2) config.rabbitmqReconnectMaxDelaySeconds =
      config.reconnectDelay (n + 1) :=
  next_delay one_le_two (config.rabbitmqReconnectInitialDelaySeconds_pos.le.trans
    config.rabbitmqReconnectInitialDelaySeconds_le) n

end Delay

/-! ## Opening the connection -/

/-- What the transport does that an observer sees: the log events with their fields, the sleeps, and
the fate of the messages. -/
inductive TransportEffect (P : Type)
  | connectionFailed (error : String) (retryDelaySeconds : ℚ)
  | connected (stateQueue : String)
  | consumerInterrupted (error : String) (retryDelaySeconds : ℚ)
  | stateMessageRejectedMalformed (error : String) (bodySizeBytes : ℕ)
  | slept (seconds : ℚ)
  | yielded (payload : P)
  deriving DecidableEq, Repr

/-- The delay of a sleep. -/
def TransportEffect.sleep {P : Type} : TransportEffect P → Option ℚ
  | slept seconds => some seconds
  | _ => none

/-- What the loop finds when it tries to connect. -/
inductive ConnectAttempt (C : Type)
  | closed
  | failed (error : String)
  | succeeded (connection : C)

/-- The attempt raised. -/
def ConnectAttempt.isFailed {C : Type} : ConnectAttempt C → Bool
  | failed _ => true
  | _ => false

section Connect

variable {C P : Type} (config : MonitorConfig) (settings : BrokerFields)

/-- The loop of `_connect_with_backoff`: its effects, and its outcome once there is one. -/
def connectLoop (delay : ℚ) :
    List (ConnectAttempt C) → List (TransportEffect P) × Option (Except PyException C)
  | [] => ([], none)
  | .closed :: _ => ([], some (.error (.runtimeError "RabbitMQ transport closed while connecting")))
  | .failed error :: attempts =>
    let rest := connectLoop (min (delay * 2) config.rabbitmqReconnectMaxDelaySeconds) attempts
    (.connectionFailed error delay :: .slept delay :: rest.1, rest.2)
  | .succeeded connection :: _ => ([.connected settings.rabbitmqStateQueue], some (.ok connection))

/-- Open a robust connection using an exponentially increasing bounded delay. -/
def connectWithBackoff (attempts : List (ConnectAttempt C)) :
    List (TransportEffect P) × Option (Except PyException C) :=
  connectLoop config settings config.rabbitmqReconnectInitialDelaySeconds attempts

/-- The loop sleeps the delays of its failed attempts. -/
lemma connectLoop_slept (n : ℕ) (attempts : List (ConnectAttempt C)) :
    (connectLoop (P := P) config settings (config.reconnectDelay n) attempts).1.filterMap
        TransportEffect.sleep =
      (List.range' n (attempts.takeWhile ConnectAttempt.isFailed).length).map
        config.reconnectDelay := by
  induction attempts generalizing n with
  | nil => rfl
  | cons attempt attempts ih =>
    cases attempt with
    | closed => rfl
    | succeeded connection => rfl
    | failed error =>
      have htail := ih (n + 1)
      rw [← next_reconnectDelay] at htail
      have hfailed : (ConnectAttempt.failed (C := C) error).isFailed = true := rfl
      rw [List.takeWhile_cons_of_pos hfailed, List.length_cons, List.range'_succ, List.map_cons,
        ← htail]
      rfl

/-- **The sleeps of one connection follow the backoff**: the `k`-th failure in a row sleeps the
initial delay doubled `k - 1` times, up to the maximum. -/
theorem connectWithBackoff_slept (attempts : List (ConnectAttempt C)) :
    (connectWithBackoff (P := P) config settings attempts).1.filterMap TransportEffect.sleep =
      (List.range (attempts.takeWhile ConnectAttempt.isFailed).length).map
        config.reconnectDelay := by
  rw [connectWithBackoff, ← reconnectDelay_zero, connectLoop_slept, List.range_eq_range']

/-- Three failures and a connection, with half a second initially and one at most. -/
example : (connectWithBackoff (P := Unit) ⟨{
        rabbitmqReconnectInitialDelaySeconds := 1 / 2
        rabbitmqReconnectMaxDelaySeconds := 1 }, by decide +kernel⟩ {}
    [.failed "down", .failed "down", .failed "down", .succeeded ()]).1.filterMap
      TransportEffect.sleep = [1 / 2, 1, 1] := by
  decide +kernel

end Connect

/-! ## Consuming the state queue -/

/-- One message of the state queue: the size of its body, and what decoding it as a JSON object
gives. -/
structure IncomingMessage (P : Type) where
  bodySizeBytes : ℕ
  decoded : Except String P

/-- What the consumer sees at its awaits. -/
inductive ConsumerEvent (P : Type)
  /-- The channel, the exchange, the queue and its binding are there, and the iterator is entered. -/
  | opened
  /-- One of those calls, the iteration, or the rejection of a malformed message raised. -/
  | raised (error : String)
  /-- The iterator gave a message. -/
  | received (message : IncomingMessage P)
  /-- The receiver of the last delivery asks for the next one. -/
  | resumed
  /-- The iterator ended normally. -/
  | ended
  /-- The sleep is over. -/
  | woke
  /-- The transport is being closed. -/
  | closeCalled
  /-- The task is cancelled. -/
  | cancelled

/-- The await at which the consumer waits. -/
inductive ConsumerPhase
  | opening
  | iterating
  | yielding
  | sleeping
  | finished
  deriving DecidableEq, Repr

/-- The state of `receive_states`: where it waits, its delay, and whether the transport is
closed. -/
structure ConsumerLoop where
  phase : ConsumerPhase
  reconnectDelay : ℚ
  closed : Bool
  deriving DecidableEq, Repr

/-- The head of the loop `while not self._closed`. -/
def ConsumerLoop.atHead (loop : ConsumerLoop) : ConsumerLoop :=
  { loop with phase := if loop.closed then .finished else .opening }

/-- The return on a closed transport inside the iteration. -/
def ConsumerLoop.afterMessage (loop : ConsumerLoop) : ConsumerLoop :=
  { loop with phase := if loop.closed then .finished else .iterating }

section Receive

variable {P : Type} (config : MonitorConfig)

/-- The start of `receive_states` on an open transport. -/
def ConsumerLoop.start : ConsumerLoop :=
  { phase := .opening
    reconnectDelay := config.rabbitmqReconnectInitialDelaySeconds
    closed := false }

/-- The handler of an exception. -/
def ConsumerLoop.interrupt (loop : ConsumerLoop) (error : String) :
    ConsumerLoop × List (TransportEffect P) :=
  if loop.closed then ({ loop with phase := .finished }, [])
  else ({ loop with phase := .sleeping },
    [.consumerInterrupted error loop.reconnectDelay, .slept loop.reconnectDelay])

/-- The normal end of the iteration resets the delay. -/
def ConsumerLoop.afterEnd (loop : ConsumerLoop) : ConsumerLoop :=
  ConsumerLoop.atHead
    { loop with reconnectDelay := config.rabbitmqReconnectInitialDelaySeconds }

/-- The end of a sleep doubles the delay. -/
def ConsumerLoop.afterSleep (loop : ConsumerLoop) : ConsumerLoop :=
  ConsumerLoop.atHead
    { loop with
      reconnectDelay := min (loop.reconnectDelay * 2) config.rabbitmqReconnectMaxDelaySeconds }

/-- One step of `receive_states`, if the event can occur at the await. -/
def receiveStep (loop : ConsumerLoop) :
    ConsumerEvent P → Option (ConsumerLoop × List (TransportEffect P))
  | .opened => if loop.phase = .opening then some ({ loop with phase := .iterating }, []) else none
  | .raised error =>
    if loop.phase = .opening ∨ loop.phase = .iterating then some (loop.interrupt error) else none
  | .received message =>
    if loop.phase = .iterating then
      match message.decoded with
      | .ok payload => some ({ loop with phase := .yielding }, [.yielded payload])
      | .error error => some (loop.afterMessage,
          [.stateMessageRejectedMalformed error message.bodySizeBytes])
    else none
  | .resumed => if loop.phase = .yielding then some (loop.afterMessage, []) else none
  | .ended => if loop.phase = .iterating then some (loop.afterEnd config, []) else none
  | .woke => if loop.phase = .sleeping then some (loop.afterSleep config, []) else none
  | .closeCalled => some ({ loop with closed := true }, [])
  | .cancelled => some ({ loop with phase := .finished }, [])

/-- The state after a sequence of events, if they can occur in that order. -/
def receiveStates (events : List (ConsumerEvent P)) : Option ConsumerLoop :=
  events.foldlM (fun loop event => (receiveStep config loop event).map Prod.fst)
    (ConsumerLoop.start config)

end Receive

/-! ## The delay and the history -/

namespace ConsumerEvent

variable {P : Type}

/-- The event is an interruption. -/
def isInterruption : ConsumerEvent P → Bool
  | raised _ => true
  | _ => false

/-- The iterator ended normally. -/
def isEnd : ConsumerEvent P → Bool
  | ended => true
  | _ => false

/-- The event is a message that counts as a delivery. -/
def isDelivery (counts : IncomingMessage P → Bool) : ConsumerEvent P → Bool
  | received message => counts message
  | _ => false

end ConsumerEvent

open ConsumerEvent

/-- The interruptions since the most recent normal end of the iteration. -/
def interruptionsSinceEnd {P : Type} (events : List (ConsumerEvent P)) : ℕ :=
  streak isInterruption isEnd events

/-- The interruptions since the most recent delivery or normal end of the iteration. -/
def consecutiveInterruptions {P : Type} (counts : IncomingMessage P → Bool)
    (events : List (ConsumerEvent P)) : ℕ :=
  streak isInterruption (fun event => event.isEnd || event.isDelivery counts) events

/-- A delivery came after an interruption, and no normal end of the iteration since that
interruption. -/
def RecoveredWithoutEnd {P : Type} (counts : IncomingMessage P → Bool)
    (events : List (ConsumerEvent P)) : Prop :=
  Overdue isInterruption isEnd (isDelivery counts) events

/-- How the delay of a consumer depends on its history: it counts the interruptions since the last
normal end, the one of the current sleep not yet included. -/
structure ConsumerLoop.Paced {P : Type} (config : MonitorConfig) (events : List (ConsumerEvent P))
    (loop : ConsumerLoop) : Prop where
  awake : loop.phase ≠ .sleeping → loop.phase ≠ .finished →
    loop.reconnectDelay = config.reconnectDelay (interruptionsSinceEnd events)
  asleep : loop.phase = .sleeping → ∃ n, interruptionsSinceEnd events = n + 1 ∧
    loop.reconnectDelay = config.reconnectDelay n

section Runs

variable {P : Type} {config : MonitorConfig}

/-- An interruption is neither an end nor a delivery. -/
lemma isInterruption_disjoint (counts : IncomingMessage P → Bool) (event : ConsumerEvent P)
    (h : event.isInterruption) : ¬ event.isEnd ∧ ¬ event.isDelivery counts := by
  cases event with
  | raised error => simp [isEnd, isDelivery]
  | _ => cases h

/-- Other events leave the count of interruptions. -/
lemma interruptionsSinceEnd_neither (events : List (ConsumerEvent P)) {event : ConsumerEvent P}
    (hend : event.isEnd = false) (hint : event.isInterruption = false) :
    interruptionsSinceEnd (events ++ [event]) = interruptionsSinceEnd events :=
  streak_snoc_of_neither events (by simp [hend]) (by simp [hint])

/-- The loop starts with the first delay. -/
lemma paced_start : (ConsumerLoop.start config).Paced (P := P) config [] where
  awake _ _ := (reconnectDelay_zero config).symm
  asleep h := by cases h

/-- A loop that is awake with the right delay is paced. -/
lemma ConsumerLoop.Paced.of_delay {events : List (ConsumerEvent P)} {loop : ConsumerLoop}
    (hphase : loop.phase ≠ .sleeping)
    (hdelay : loop.reconnectDelay = config.reconnectDelay (interruptionsSinceEnd events)) :
    loop.Paced config events where
  awake _ _ := hdelay
  asleep h := absurd h hphase

/-- A loop that has finished is paced. -/
lemma ConsumerLoop.Paced.of_finished {events : List (ConsumerEvent P)} {loop : ConsumerLoop}
    (hphase : loop.phase = .finished) : loop.Paced config events where
  awake _ h := absurd hphase h
  asleep h := by simp [hphase] at h

/-- At its head the loop is awake. -/
lemma phase_atHead (loop : ConsumerLoop) : loop.atHead.phase ≠ .sleeping := by
  unfold ConsumerLoop.atHead
  split_ifs <;> simp

/-- After a message the loop is awake. -/
lemma phase_afterMessage (loop : ConsumerLoop) : loop.afterMessage.phase ≠ .sleeping := by
  unfold ConsumerLoop.afterMessage
  split_ifs <;> simp

/-- An event that is neither an interruption, a normal end nor the end of a sleep leaves the delay,
and starts no sleep. -/
structure ConsumerLoop.Quiet (loop loop' : ConsumerLoop) : Prop where
  delay : loop'.reconnectDelay = loop.reconnectDelay
  phase : loop'.phase = loop.phase ∨ loop'.phase = .finished ∨
    loop.phase ≠ .sleeping ∧ loop.phase ≠ .finished ∧ loop'.phase ≠ .sleeping

/-- A loop that stays awake with its delay is quiet. -/
lemma ConsumerLoop.Quiet.of_awake {loop loop' : ConsumerLoop} (hasleep : loop.phase ≠ .sleeping)
    (hrunning : loop.phase ≠ .finished) (hphase : loop'.phase ≠ .sleeping)
    (hdelay : loop'.reconnectDelay = loop.reconnectDelay) : loop.Quiet loop' :=
  ⟨hdelay, .inr (.inr ⟨hasleep, hrunning, hphase⟩)⟩

/-- **The steps of the consumer**, by what they do to the delay.

**Proof sketch.** By cases on the event. Each has its own guard, and only three of them touch the
delay: an exception, the end of the iterator and the end of a sleep. -/
lemma receiveStep_cases {loop loop' : ConsumerLoop} {event : ConsumerEvent P}
    {effects : List (TransportEffect P)}
    (hstep : receiveStep config loop event = some (loop', effects)) :
    (∃ error, event = .raised error ∧ (loop.phase = .opening ∨ loop.phase = .iterating) ∧
      (loop', effects) = loop.interrupt error) ∨
    (event = .ended ∧ loop' = loop.afterEnd config) ∨
    (event = .woke ∧ loop.phase = .sleeping ∧ loop' = loop.afterSleep config) ∨
    (event.isInterruption = false ∧ event.isEnd = false ∧ loop.Quiet loop') := by
  cases event with
  | opened =>
    obtain ⟨hphase, hloop⟩ := Option.ite_none_right_eq_some.mp hstep
    cases hloop
    have hquiet : loop.Quiet { loop with phase := .iterating } :=
      .of_awake (by simp [hphase]) (by simp [hphase]) (by simp) rfl
    exact .inr (.inr (.inr ⟨rfl, rfl, hquiet⟩))
  | raised error =>
    obtain ⟨hphase, hloop⟩ := Option.ite_none_right_eq_some.mp hstep
    exact .inl ⟨error, rfl, hphase, (Option.some.inj hloop).symm⟩
  | received message =>
    obtain ⟨hphase, hloop⟩ := Option.ite_none_right_eq_some.mp hstep
    -- a message that decodes is yielded, the others are rejected
    have hquiet : loop.Quiet loop' := by
      cases hdecoded : message.decoded with
      | ok payload =>
        rw [hdecoded] at hloop
        cases hloop
        exact .of_awake (by simp [hphase]) (by simp [hphase]) (by simp) rfl
      | error text =>
        rw [hdecoded] at hloop
        cases hloop
        exact .of_awake (by simp [hphase]) (by simp [hphase]) (phase_afterMessage loop) rfl
    exact .inr (.inr (.inr ⟨rfl, rfl, hquiet⟩))
  | resumed =>
    obtain ⟨hphase, hloop⟩ := Option.ite_none_right_eq_some.mp hstep
    cases hloop
    have hquiet : loop.Quiet loop.afterMessage :=
      .of_awake (by simp [hphase]) (by simp [hphase]) (phase_afterMessage loop) rfl
    exact .inr (.inr (.inr ⟨rfl, rfl, hquiet⟩))
  | ended =>
    obtain ⟨-, hloop⟩ := Option.ite_none_right_eq_some.mp hstep
    cases hloop
    exact .inr (.inl ⟨rfl, rfl⟩)
  | woke =>
    obtain ⟨hphase, hloop⟩ := Option.ite_none_right_eq_some.mp hstep
    cases hloop
    exact .inr (.inr (.inl ⟨rfl, hphase, rfl⟩))
  | closeCalled =>
    cases hstep
    exact .inr (.inr (.inr ⟨rfl, rfl, rfl, .inl rfl⟩))
  | cancelled =>
    cases hstep
    exact .inr (.inr (.inr ⟨rfl, rfl, rfl, .inr (.inl rfl)⟩))

/-- **One event keeps the pace.**

**Proof sketch.** By the cases of `receiveStep_cases`. An interruption is counted when its sleep
starts and doubles the delay when the sleep ends; a normal end resets both, and everything else
leaves both alone. -/
lemma paced_step {events : List (ConsumerEvent P)} {event : ConsumerEvent P}
    {loop loop' : ConsumerLoop} {effects : List (TransportEffect P)}
    (hpaced : loop.Paced config events)
    (hstep : receiveStep config loop event = some (loop', effects)) :
    loop'.Paced config (events ++ [event]) := by
  rcases receiveStep_cases hstep with ⟨error, rfl, hphase, hres⟩ | ⟨rfl, rfl⟩ | ⟨rfl, hphase, rfl⟩ |
    ⟨hint, hend, hquiet⟩
  · -- an interruption: the sleep it starts is counted, the delay not yet doubled
    have hdelay := hpaced.awake (by rcases hphase with h | h <;> simp [h])
      (by rcases hphase with h | h <;> simp [h])
    unfold ConsumerLoop.interrupt at hres
    split_ifs at hres with hclosed
    · cases hres
      exact .of_finished rfl
    · cases hres
      refine ⟨fun h => absurd rfl h, fun _ => ⟨interruptionsSinceEnd events, ?_, hdelay⟩⟩
      exact streak_snoc_of_fails events (by simp [isEnd]) rfl
  · refine .of_delay (phase_atHead _) ?_
    rw [show interruptionsSinceEnd (events ++ [.ended]) = 0 from
      streak_snoc_of_resets events rfl, reconnectDelay_zero]
    rfl
  · obtain ⟨n, hn, hdelay⟩ := hpaced.asleep hphase
    refine .of_delay (phase_atHead _) ?_
    rw [interruptionsSinceEnd_neither events rfl rfl, hn, ← next_reconnectDelay, ← hdelay]
    rfl
  · rcases hquiet.phase with hphase | hphase | ⟨hawake, hrunning, hphase⟩
    · constructor
      · rw [hphase, hquiet.delay, interruptionsSinceEnd_neither events hend hint]
        exact hpaced.awake
      · rw [hphase, hquiet.delay, interruptionsSinceEnd_neither events hend hint]
        exact hpaced.asleep
    · exact .of_finished hphase
    · refine .of_delay hphase ?_
      rw [hquiet.delay, interruptionsSinceEnd_neither events hend hint]
      exact hpaced.awake hawake hrunning

/-- **Every run keeps the pace.** -/
theorem paced_of_run {events : List (ConsumerEvent P)} {loop : ConsumerLoop}
    (hrun : receiveStates config events = some loop) : loop.Paced config events := by
  induction events using List.reverseRecOn generalizing loop with
  | nil =>
    obtain rfl := Option.some.inj hrun
    exact paced_start
  | append_singleton events event ih =>
    rw [receiveStates, List.foldlM_append] at hrun
    obtain ⟨before, hbefore, hlast⟩ := Option.bind_eq_some_iff.mp hrun
    rw [List.foldlM_cons] at hlast
    obtain ⟨after, hafter, hlast⟩ := Option.bind_eq_some_iff.mp hlast
    obtain rfl := Option.some.inj hlast
    obtain ⟨⟨after, effects⟩, hstep, rfl⟩ := Option.map_eq_some_iff.mp hafter
    exact paced_step (ih hbefore) hstep

/-- An interruption of an open transport sleeps the current delay. -/
lemma interrupt_effects {loop loop' : ConsumerLoop} {error : String}
    {effects : List (TransportEffect P)} (hopen : loop.closed = false)
    (hstep : receiveStep config loop (.raised error) = some (loop', effects)) :
    (loop.phase = .opening ∨ loop.phase = .iterating) ∧
      effects = [.consumerInterrupted error loop.reconnectDelay, .slept loop.reconnectDelay] := by
  obtain ⟨hphase, hloop⟩ := Option.ite_none_right_eq_some.mp hstep
  rw [ConsumerLoop.interrupt, if_neg (by simp [hopen])] at hloop
  cases hloop
  exact ⟨hphase, rfl⟩

/-- **Exactly when a sleep follows the failures since the last delivery.** An interruption of an
open transport sleeps one delay, never more than the maximum. That delay is the initial one doubled
for every further interruption since the last delivery or normal end, up to the maximum, iff no
delivery came after an interruption without a normal end of the iteration since, or the maximum is
reached anyway. Whichever messages count as deliveries: all of them, or only those that decode.

**Proof sketch.** The consumer counts the interruptions since the last normal end (`paced_of_run`),
which are more than those since the last delivery iff such a delivery came (`streak_lt_iff`), and
delays of different counts differ below the maximum (`delay_eq_iff`). -/
theorem receiveStates_delay_exact (counts : IncomingMessage P → Bool)
    {events : List (ConsumerEvent P)} {error : String} {loop loop' : ConsumerLoop}
    {effects : List (TransportEffect P)} (hrun : receiveStates config events = some loop)
    (hopen : loop.closed = false)
    (hstep : receiveStep config loop (.raised error) = some (loop', effects)) :
    let k := consecutiveInterruptions counts (events ++ [.raised error])
    let initial := config.rabbitmqReconnectInitialDelaySeconds
    let maximum := config.rabbitmqReconnectMaxDelaySeconds
    ∃ seconds, effects = [.consumerInterrupted error seconds, .slept seconds] ∧
      seconds ≤ maximum ∧
      (seconds = min (initial * 2 ^ (k - 1)) maximum ↔
        ¬ RecoveredWithoutEnd counts events ∨ maximum ≤ initial * 2 ^ (k - 1)) := by
  intro k initial maximum
  obtain ⟨hphase, heffects⟩ := interrupt_effects hopen hstep
  have hdelay : loop.reconnectDelay = delay 2 initial maximum (interruptionsSinceEnd events) :=
    (paced_of_run hrun).awake (by rcases hphase with h | h <;> simp [h])
      (by rcases hphase with h | h <;> simp [h])
  have hk : k - 1 = consecutiveInterruptions counts events := by
    have hsucc : k = consecutiveInterruptions counts events + 1 :=
      streak_snoc_of_fails events (by simp [isEnd, isDelivery]) rfl
    omega
  refine ⟨loop.reconnectDelay, heffects, hdelay ▸ delay_le _, ?_⟩
  rw [hdelay, hk]
  have hle : consecutiveInterruptions counts events ≤ interruptionsSinceEnd events :=
    streak_le events
  have hlt : consecutiveInterruptions counts events < interruptionsSinceEnd events ↔
      RecoveredWithoutEnd counts events :=
    streak_lt_iff (isInterruption_disjoint counts) events
  by_cases hrecovered : RecoveredWithoutEnd counts events
  · rw [or_iff_right (not_not.mpr hrecovered)]
    exact delay_eq_iff one_lt_two config.rabbitmqReconnectInitialDelaySeconds_pos (hlt.mpr hrecovered)
  · have heq : interruptionsSinceEnd events = consecutiveInterruptions counts events :=
      le_antisymm (not_lt.mp fun h => hrecovered (hlt.mp h)) hle
    rw [heq]
    exact iff_of_true rfl (.inl hrecovered)

/-- A history in which the queue was consumed between two interruptions. -/
def consumedBetween : List (ConsumerEvent String) :=
  [.raised "connection reset", .woke, .opened, .received ⟨2, .ok "state"⟩, .resumed]

/-- With the default delays of one and thirty seconds, the second interruption of `consumedBetween`
sleeps two seconds, although it is the first one since the delivery. -/
theorem receiveStates_delay_consumedBetween :
    ∃ loop, receiveStates defaultConfig consumedBetween = some loop ∧ loop.closed = false ∧
      (receiveStep defaultConfig loop (P := String) (.raised "connection reset")).map Prod.snd =
        some [.consumerInterrupted "connection reset" 2, .slept 2] ∧
      consecutiveInterruptions (fun _ => true)
        (consumedBetween ++ [.raised "connection reset"]) = 1 ∧
      min (defaultConfig.rabbitmqReconnectInitialDelaySeconds * 2 ^ (1 - 1))
        defaultConfig.rabbitmqReconnectMaxDelaySeconds = 1 := by
  refine ⟨⟨.iterating, 2, false⟩, ?_, rfl, ?_, ?_, ?_⟩
  · decide +kernel
  · decide +kernel
  · decide +kernel
  · decide +kernel

/-- A second interruption without a delivery sleeps two seconds, as it should. -/
theorem receiveStates_delay_exact_twice :
    ∃ seconds : ℚ, [TransportEffect.consumerInterrupted "refused" 2, .slept 2] =
        [TransportEffect.consumerInterrupted (P := String) "refused" seconds, .slept seconds] ∧
      seconds ≤ 30 ∧ (seconds = min (1 * 2 ^ (2 - 1)) 30 ↔
        ¬ RecoveredWithoutEnd (fun _ => true) [.raised "refused", ConsumerEvent.woke (P := String)] ∨
          (30 : ℚ) ≤ 1 * 2 ^ (2 - 1)) := by
  have hrun : receiveStates defaultConfig [.raised "refused", ConsumerEvent.woke (P := String)] =
      some ⟨.opening, 2, false⟩ := by
    decide +kernel
  have hstep : receiveStep defaultConfig ⟨.opening, 2, false⟩
      (ConsumerEvent.raised (P := String) "refused") =
        some (⟨.sleeping, 2, false⟩, [.consumerInterrupted "refused" 2, .slept 2]) := by
    decide +kernel
  exact receiveStates_delay_exact (fun _ => true) hrun rfl hstep

end Runs

end CollisionMonitor
