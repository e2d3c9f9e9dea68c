import CollisionMonitor.Lib.Lock
import CollisionMonitor.Lib.Machine
import Mathlib.Data.Finset.Card

set_option relaxedAutoImplicit false
set_option autoImplicit false

/-!
# Connections and channels of the RabbitMQ transport

`RabbitMQTransport` opens its connection and its two channels on demand, from any number of tasks
that share three locks, while the broker may close any of them at any time, and `close` may run
beside all that.

A step takes a task from one await to the next. A task that finds a lock free is let in by a step
of its own, so there are more interleavings here than the event loop has. What an await of the
broker library gives is left open: it returns or raises, and a cancellation raises as well. Handles
are numbered in the order in which they are opened, and are not open again once they are closed.

## Main definitions

* `TransportState` — the fields of the transport, where its tasks wait, and which handles are open.
* `transportStep` — one step of a task, of `close` or of the broker.
* `transportMachine` — the runs of a new transport.

## Main results

* `transport_oneConnection` — in every interleaving there is at most one open connection.
* `close_final` — what is open after `close`, in every continuation.
-/

namespace CollisionMonitor

open Lock

/-! ## The state -/

/-- The two channels: one consumes states, the other publishes actions. -/
inductive ChannelKind
  | consumer
  | publisher
  deriving DecidableEq, Repr

/-- The handle of a channel, and the connection it was opened on. -/
structure Channel where
  number : ℕ
  connection : ℕ
  deriving DecidableEq, Repr

/-- Where a task waits that asks for a channel. -/
inductive TaskPhase
  | idle
  | awaitingChannelLock (kind : ChannelKind)
  | awaitingConnectionLock (kind : ChannelKind)
  | connecting (kind : ChannelKind)
  | backingOff (kind : ChannelKind)
  | openingChannel (kind : ChannelKind) (connection : ℕ)
  /-- The awaits between opening the consumer channel and storing it. -/
  | declaring (channel : Channel)
  deriving DecidableEq, Repr

namespace TaskPhase

/-- The task holds `_connection_lock`. -/
def holdsConnectionLock : TaskPhase → Bool
  | connecting _ | backingOff _ => true
  | _ => false

/-- The task holds `_consumer_channel_lock` or `_publisher_channel_lock`. -/
def holdsChannelLock (kind : ChannelKind) : TaskPhase → Bool
  | awaitingConnectionLock k | connecting k | backingOff k | openingChannel k _ => k = kind
  | declaring _ => kind = .consumer
  | _ => false

/-- The task waits for the broker to answer an attempt to connect. -/
def isConnecting : TaskPhase → Bool
  | connecting _ => true
  | _ => false

end TaskPhase

/-- A task that connects holds the lock of the connection. -/
lemma TaskPhase.holds_of_isConnecting {p : TaskPhase} (h : p.isConnecting) :
    p.holdsConnectionLock := by
  cases p with
  | connecting kind => rfl
  | _ => cases h

/-- Where `close` waits. -/
inductive ClosePhase
  | notCalled
  | closingChannels (channel : Channel) (rest : List Channel)
  | closingConnection (connection : ℕ)
  | returned
  | raised
  deriving DecidableEq, Repr

/-- The fields of the transport, the phases of its tasks, and the handles that are open. -/
structure TransportState (ι : Type) where
  connection : Option ℕ := none
  channel : ChannelKind → Option Channel := fun _ => none
  connectionLock : Option ι := none
  channelLock : ChannelKind → Option ι := fun _ => none
  closed : Bool := false
  phase : ι → TaskPhase := fun _ => .idle
  closing : ClosePhase := .notCalled
  openConnections : Finset ℕ := ∅
  openChannels : Finset Channel := ∅
  handles : ℕ := 0

namespace TransportState

variable {ι : Type} [DecidableEq ι] (s : TransportState ι)

/-- The stored connection, if it is open. -/
def openConnection : Option ℕ := s.connection.filter (· ∈ s.openConnections)

/-- The stored channel, if it is open. -/
def openChannel (kind : ChannelKind) : Option Channel :=
  (s.channel kind).filter (· ∈ s.openChannels)

/-- A task goes on to a phase, and takes or releases the locks that its phases hold. -/
def moveTo (i : ι) (phase : TaskPhase) : TransportState ι :=
  { s with
    phase := Function.update s.phase i phase
    connectionLock := pass i phase.holdsConnectionLock s.connectionLock
    channelLock := fun kind => pass i (phase.holdsChannelLock kind) (s.channelLock kind) }

/-- A connection is closed, with the channels on it. -/
def dropConnection (connection : ℕ) : TransportState ι :=
  { s with
    openConnections := s.openConnections.erase connection
    openChannels := s.openChannels.filter (·.connection ≠ connection) }

/-- A channel is closed. -/
def dropChannel (channel : Channel) : TransportState ι :=
  { s with openChannels := s.openChannels.erase channel }

/-! ## The methods, between their awaits -/

/-- Enter `_connect_with_backoff`, or go on in its loop: a closed transport raises. -/
def attempt (i : ι) (kind : ChannelKind) : TransportState ι :=
  s.moveTo i (if s.closed then .idle else .connecting kind)

/-- Enter `_connection_or_connect`. -/
def connectionOrConnect (i : ι) (kind : ChannelKind) : TransportState ι :=
  if s.closed then s.moveTo i .idle
  else match s.openConnection with
    | some connection => s.moveTo i (.openingChannel kind connection)
    | none => s.moveTo i (.awaitingConnectionLock kind)

/-- Let a task in at the lock of the connection, which looks at the connection again. -/
def enterConnectionLock (i : ι) (kind : ChannelKind) : TransportState ι :=
  match s.openConnection with
  | some connection => s.moveTo i (.openingChannel kind connection)
  | none => s.attempt i kind

/-- Store a new connection, which has no channels yet. -/
def storeConnection : TransportState ι :=
  { s with
    connection := some s.handles
    channel := fun _ => none
    openConnections := insert s.handles s.openConnections
    handles := s.handles + 1 }

/-- An attempt to connect succeeds. -/
def connected (i : ι) (kind : ChannelKind) : TransportState ι :=
  s.storeConnection.moveTo i (.openingChannel kind s.handles)

/-- Ask for a channel: `_consumer_channel_or_open` or `_publisher_channel_or_open`. -/
def channelOrOpen (i : ι) (kind : ChannelKind) : TransportState ι :=
  match s.openChannel kind with
  | some _ => s
  | none => s.moveTo i (.awaitingChannelLock kind)

/-- Let a task in at the lock of a channel, which looks at the channel again. -/
def enterChannelLock (i : ι) (kind : ChannelKind) : TransportState ι :=
  match s.openChannel kind with
  | some _ => s.moveTo i .idle
  | none => s.connectionOrConnect i kind

/-- Store an opened channel and return it. -/
def storeChannel (i : ι) (kind : ChannelKind) (channel : Channel) : TransportState ι :=
  { s with channel := Function.update s.channel kind (some channel) }.moveTo i .idle

/-- A new channel is open if its connection still is. -/
def openedChannel (connection : ℕ) : TransportState ι :=
  { s with
    openChannels := if connection ∈ s.openConnections then
      insert { number := s.handles, connection } s.openChannels else s.openChannels
    handles := s.handles + 1 }

/-- `connection.channel` returns a new channel. The consumer goes on to declare its queue; the
publisher stores the channel. -/
def receiveChannel (i : ι) (kind : ChannelKind) (connection : ℕ) : TransportState ι :=
  let channel : Channel := { number := s.handles, connection }
  match kind with
  | .consumer => (s.openedChannel connection).moveTo i (.declaring channel)
  | .publisher => (s.openedChannel connection).storeChannel i .publisher channel

/-- The handler of an exception in `receive_states`. -/
def interrupted : TransportState ι :=
  if s.closed then s
  else if s.connection ≠ none ∧ s.openConnection = none then
    { s with connection := none, channel := fun _ => none }
  else { s with channel := Function.update s.channel .consumer none }

/-- The end of `close`. -/
def finishClose : TransportState ι :=
  { s with connection := none, channel := fun _ => none, closing := .returned }

/-- The part of `close` after its loop over the channels. -/
def closeConnection : TransportState ι :=
  match s.openConnection with
  | some connection => { s with closing := .closingConnection connection }
  | none => s.finishClose

/-- The loop of `close` over the channels that are left. -/
def closeChannels : List Channel → TransportState ι
  | [] => s.closeConnection
  | channel :: rest =>
    if channel ∈ s.openChannels then { s with closing := .closingChannels channel rest }
    else closeChannels rest

/-- Enter `close`. -/
def close : TransportState ι :=
  if s.closed then s
  else { s with closed := true }.closeChannels
    ([s.channel .consumer, s.channel .publisher].filterMap id)

end TransportState

/-! ## The machine -/

/-- The steps of the tasks, of the broker and of `close`. -/
inductive TransportStep {ι : Type} [DecidableEq ι] : TransportState ι → TransportState ι → Prop
  /-- A task asks for a channel. -/
  | asked {s} (i : ι) (kind : ChannelKind) (hphase : s.phase i = .idle) :
      TransportStep s (s.channelOrOpen i kind)
  | channelLockAcquired {s} (i : ι) (kind : ChannelKind)
      (hphase : s.phase i = .awaitingChannelLock kind) (hlock : s.channelLock kind = none) :
      TransportStep s (s.enterChannelLock i kind)
  | connectionLockAcquired {s} (i : ι) (kind : ChannelKind)
      (hphase : s.phase i = .awaitingConnectionLock kind) (hlock : s.connectionLock = none) :
      TransportStep s (s.enterConnectionLock i kind)
  | connected {s} (i : ι) (kind : ChannelKind) (hphase : s.phase i = .connecting kind) :
      TransportStep s (s.connected i kind)
  | connectionFailed {s} (i : ι) (kind : ChannelKind) (hphase : s.phase i = .connecting kind) :
      TransportStep s (s.moveTo i (.backingOff kind))
  /-- The sleep between two attempts to connect is over. -/
  | woke {s} (i : ι) (kind : ChannelKind) (hphase : s.phase i = .backingOff kind) :
      TransportStep s (s.attempt i kind)
  | channelOpened {s} (i : ι) (kind : ChannelKind) (connection : ℕ)
      (hphase : s.phase i = .openingChannel kind connection) :
      TransportStep s (s.receiveChannel i kind connection)
  /-- The consumer has set its prefetch count, and declared and bound its queue. -/
  | declared {s} (i : ι) (channel : Channel) (hphase : s.phase i = .declaring channel) :
      TransportStep s (s.storeChannel i .consumer channel)
  /-- The await of a task raises, or the task is cancelled. -/
  | raised {s} (i : ι) : TransportStep s (s.moveTo i .idle)
  /-- The consumer handles an exception. -/
  | interrupted {s} : TransportStep s s.interrupted
  | connectionLost {s} (connection : ℕ) : TransportStep s (s.dropConnection connection)
  | channelLost {s} (channel : Channel) : TransportStep s (s.dropChannel channel)
  | closeCalled {s} : TransportStep s s.close
  | channelClosed {s} (channel : Channel) (rest : List Channel)
      (hclosing : s.closing = .closingChannels channel rest) :
      TransportStep s ((s.dropChannel channel).closeChannels rest)
  | connectionClosed {s} (connection : ℕ) (hclosing : s.closing = .closingConnection connection) :
      TransportStep s (s.dropConnection connection).finishClose
  | closeRaised {s} (hclosing : (∃ channel rest, s.closing = .closingChannels channel rest) ∨
      ∃ connection, s.closing = .closingConnection connection) :
      TransportStep s { s with closing := .raised }

/-- The runs of a new transport. -/
def transportMachine (ι : Type) [DecidableEq ι] : Machine (TransportState ι) where
  init s := s = {}
  step := TransportStep

/-! ## The invariant -/

/-- Every lock is held by the task whose phase holds it. -/
structure TransportState.Guarded {ι : Type} (s : TransportState ι) : Prop where
  connection : Guards s.connectionLock TaskPhase.holdsConnectionLock s.phase
  channel : ∀ kind, Guards (s.channelLock kind) (TaskPhase.holdsChannelLock kind) s.phase

/-- What holds in every state of a transport. -/
structure TransportState.Consistent {ι : Type} (s : TransportState ι) : Prop where
  guarded : s.Guarded
  stored : ∀ c ∈ s.openConnections, s.connection = some c
  /-- A new connection is attempted only when none is open. -/
  exclusive : ∀ i, (s.phase i).holdsConnectionLock → s.openConnections = ∅
  onOpen : ∀ channel ∈ s.openChannels, channel.connection ∈ s.openConnections
  closed : s.closing ≠ .notCalled → s.closed = true
  /-- The connection that `close` closes is the only one, and no task can open another. -/
  closing : ∀ c, s.closing = .closingConnection c →
    s.openConnections ⊆ {c} ∧ ∀ i, ¬ (s.phase i).isConnecting

namespace TransportState

section Handles

variable {ι : Type} {s : TransportState ι}

/-- A transport without an open stored connection has no open connection. -/
lemma Consistent.openConnections_eq_empty (hs : s.Consistent) (h : s.openConnection = none) :
    s.openConnections = ∅ := by
  refine Finset.eq_empty_of_forall_notMem fun c hc => ?_
  rw [openConnection, hs.stored c hc, Option.filter_eq_none_iff] at h
  exact h c rfl (by simpa using hc)

/-- The stored channels do not matter. -/
lemma Consistent.withChannel (hs : s.Consistent) (channel : ChannelKind → Option Channel) :
    ({ s with channel } : TransportState ι).Consistent :=
  ⟨⟨hs.guarded.connection, hs.guarded.channel⟩, hs.stored, hs.exclusive, hs.onOpen, hs.closed,
    hs.closing⟩

/-- Handles may be closed at any time, a connection together with its channels. -/
lemma Consistent.shrink (hs : s.Consistent) {connections : Finset ℕ} {channels : Finset Channel}
    (hconnections : connections ⊆ s.openConnections)
    (hchannels : ∀ channel ∈ channels, channel.connection ∈ connections) :
    ({ s with openConnections := connections, openChannels := channels } :
      TransportState ι).Consistent where
  guarded := ⟨hs.guarded.connection, hs.guarded.channel⟩
  stored c hc := hs.stored c (hconnections hc)
  exclusive i hi := Finset.subset_empty.mp (hs.exclusive i hi ▸ hconnections)
  onOpen := hchannels
  closed := hs.closed
  closing c hc := ⟨hconnections.trans (hs.closing c hc).1, (hs.closing c hc).2⟩

/-- The broker may close a connection. -/
lemma Consistent.dropConnection (hs : s.Consistent) (connection : ℕ) :
    (s.dropConnection connection).Consistent :=
  hs.shrink (Finset.erase_subset _ _) fun channel hchannel => by
    obtain ⟨hmem, hne⟩ := Finset.mem_filter.mp hchannel
    exact Finset.mem_erase.mpr ⟨hne, hs.onOpen channel hmem⟩

/-- The broker may close a channel. -/
lemma Consistent.dropChannel (hs : s.Consistent) (channel : Channel) :
    (s.dropChannel channel).Consistent :=
  hs.shrink subset_rfl fun other hother => hs.onOpen other (Finset.mem_of_mem_erase hother)

/-- The stored connection may be forgotten when no connection is open. -/
lemma Consistent.forget (hs : s.Consistent) (hopen : s.openConnections = ∅)
    (channel : ChannelKind → Option Channel) :
    ({ s with connection := none, channel } : TransportState ι).Consistent where
  guarded := ⟨hs.guarded.connection, hs.guarded.channel⟩
  stored c hc := by
    have hc : c ∈ s.openConnections := hc
    rw [hopen] at hc
    exact absurd hc (Finset.notMem_empty _)
  exclusive _ _ := hopen
  onOpen := hs.onOpen
  closed := hs.closed
  closing := hs.closing

/-- Closing may be interrupted. -/
lemma Consistent.interrupted (hs : s.Consistent) : s.interrupted.Consistent := by
  unfold TransportState.interrupted
  split_ifs with hclosed hlost
  · exact hs
  · exact hs.forget (hs.openConnections_eq_empty hlost.2) _
  · exact hs.withChannel _

/-- `close` goes on to a phase, on a closed transport. -/
lemma Consistent.withClosing (hs : s.Consistent) (hclosed : s.closed = true) {p : ClosePhase}
    (hp : ∀ c, p = .closingConnection c → c ∈ s.openConnections) :
    ({ s with closing := p } : TransportState ι).Consistent where
  guarded := ⟨hs.guarded.connection, hs.guarded.channel⟩
  stored := hs.stored
  exclusive := hs.exclusive
  onOpen := hs.onOpen
  closed _ := hclosed
  closing c hc := by
    have hopen := hp c hc
    refine ⟨fun d hd => ?_, fun i hi => ?_⟩
    · have heq := (hs.stored d hd).symm.trans (hs.stored c hopen)
      rw [Finset.mem_singleton]
      exact Option.some.inj heq
    · rw [hs.exclusive i (TaskPhase.holds_of_isConnecting hi)] at hopen
      exact absurd hopen (Finset.notMem_empty _)

/-- Closing may end once no connection is open. -/
lemma Consistent.finishClose (hs : s.Consistent) (hclosed : s.closed = true)
    (hopen : s.openConnections = ∅) : s.finishClose.Consistent :=
  (hs.forget hopen fun _ => none).withClosing hclosed fun _ h => by cases h

/-- Closing the connection keeps the transport consistent. -/
lemma Consistent.closeConnection (hs : s.Consistent) (hclosed : s.closed = true) :
    s.closeConnection.Consistent := by
  unfold TransportState.closeConnection
  split
  · next c hc =>
    refine hs.withClosing hclosed fun d hd => ?_
    obtain rfl : c = d := by simpa using hd
    exact of_decide_eq_true (Option.filter_eq_some_iff.mp hc).2
  · next hnone => exact hs.finishClose hclosed (hs.openConnections_eq_empty hnone)

/-- So does closing channels. -/
lemma Consistent.closeChannels (hs : s.Consistent) (hclosed : s.closed = true)
    (channels : List Channel) : (s.closeChannels channels).Consistent := by
  induction channels with
  | nil => exact hs.closeConnection hclosed
  | cons channel rest ih =>
    unfold TransportState.closeChannels
    split_ifs
    · exact hs.withClosing hclosed fun _ h => by cases h
    · exact ih

/-- So does the mark that the transport is closed. -/
lemma Consistent.marked (hs : s.Consistent) :
    ({ s with closed := true } : TransportState ι).Consistent :=
  ⟨⟨hs.guarded.connection, hs.guarded.channel⟩, hs.stored, hs.exclusive, hs.onOpen, fun _ => rfl,
    hs.closing⟩

/-- **Closing** keeps the transport consistent, wherever it has to wait. -/
lemma Consistent.close (hs : s.Consistent) : s.close.Consistent := by
  unfold TransportState.close
  split_ifs
  · exact hs
  · exact hs.marked.closeChannels rfl _

/-- A new transport satisfies the invariant. -/
lemma Consistent.new : ({} : TransportState ι).Consistent where
  guarded := ⟨.of_forall_not fun _ => by simp [TaskPhase.holdsConnectionLock],
    fun _ => .of_forall_not fun _ => by simp [TaskPhase.holdsChannelLock]⟩
  stored c hc := absurd hc (Finset.notMem_empty c)
  exclusive _ _ := rfl
  onOpen channel hchannel := absurd hchannel (Finset.notMem_empty channel)
  closed h := absurd rfl h
  closing _ h := by cases h

end Handles

section Moves

variable {ι : Type} [DecidableEq ι] {s : TransportState ι}

/-- A task may move into a phase whose locks are free or its own. -/
lemma Guarded.moveTo (hs : s.Guarded) (i : ι) (p : TaskPhase)
    (hconnection : p.holdsConnectionLock → s.connectionLock = none ∨ s.connectionLock = some i)
    (hchannel : ∀ kind, p.holdsChannelLock kind →
      s.channelLock kind = none ∨ s.channelLock kind = some i) : (s.moveTo i p).Guarded where
  connection := hs.connection.pass i p hconnection
  channel kind := (hs.channel kind).pass i p (hchannel kind)

/-- The task that moves is in its new phase. -/
@[simp] lemma moveTo_phase_self (i : ι) (p : TaskPhase) : (s.moveTo i p).phase i = p :=
  Function.update_self ..

/-- The other tasks stay where they are. -/
lemma moveTo_phase_of_ne {i j : ι} (h : j ≠ i) (p : TaskPhase) :
    (s.moveTo i p).phase j = s.phase j :=
  Function.update_of_ne h ..

/-- **A move keeps the invariant** if the task takes free locks only, attempts to connect only while
no connection is open, and not on a closed transport. -/
lemma Consistent.moveTo (hs : s.Consistent) (i : ι) (p : TaskPhase)
    (hconnection : p.holdsConnectionLock →
      (s.connectionLock = none ∨ s.connectionLock = some i) ∧ s.openConnections = ∅)
    (hconnecting : p.isConnecting → s.closed = false)
    (hchannel : ∀ kind, p.holdsChannelLock kind →
      s.channelLock kind = none ∨ s.channelLock kind = some i) : (s.moveTo i p).Consistent where
  guarded := hs.guarded.moveTo i p (fun h => (hconnection h).1) hchannel
  stored := hs.stored
  exclusive j hj := by
    by_cases hji : j = i
    · rw [hji, moveTo_phase_self] at hj
      exact (hconnection hj).2
    · rw [moveTo_phase_of_ne hji] at hj
      exact hs.exclusive j hj
  onOpen := hs.onOpen
  closed := hs.closed
  closing c hc := by
    obtain ⟨hsub, hnone⟩ := hs.closing c hc
    refine ⟨hsub, fun j hj => ?_⟩
    by_cases hji : j = i
    · rw [hji, moveTo_phase_self] at hj
      have hclosed := hs.closed (by rw [show s.closing = _ from hc]; simp)
      rw [hconnecting hj] at hclosed
      cases hclosed
    · rw [moveTo_phase_of_ne hji] at hj
      exact hnone j hj

/-- A task may always give up. -/
lemma Consistent.giveUp (hs : s.Consistent) (i : ι) : (s.moveTo i .idle).Consistent :=
  hs.moveTo i .idle (fun h => by cases h) (fun h => by cases h) fun _ h => by cases h

/-- A task goes on inside the lock of its channel. -/
lemma Consistent.moveTo_inside (hs : s.Consistent) {i : ι} {kind : ChannelKind} {p : TaskPhase}
    (hlock : s.channelLock kind = none ∨ s.channelLock kind = some i)
    (hinside : ∀ k, p.holdsChannelLock k → k = kind) (hp : p.holdsConnectionLock = false) :
    (s.moveTo i p).Consistent :=
  hs.moveTo i p (fun h => absurd (hp.symm.trans h) Bool.false_ne_true)
    (fun h => absurd (hp.symm.trans (TaskPhase.holds_of_isConnecting h)) Bool.false_ne_true)
    fun k hk => hinside k hk ▸ hlock

/-- A task that holds its locks may attempt to connect while no connection is open. -/
lemma Consistent.attempt (hs : s.Consistent) {i : ι} {kind : ChannelKind}
    (hlock : s.connectionLock = none ∨ s.connectionLock = some i)
    (hchannel : s.channelLock kind = some i) (hopen : s.openConnections = ∅) :
    (s.attempt i kind).Consistent := by
  unfold TransportState.attempt
  split_ifs with hclosed
  · exact hs.giveUp i
  · refine hs.moveTo i _ (fun _ => ⟨hlock, hopen⟩) (fun _ => by simpa using hclosed) fun k hk => ?_
    obtain rfl : kind = k := by simpa [TaskPhase.holdsChannelLock] using hk
    exact .inr hchannel

/-- A task may ask for the connection after its channel lock. -/
lemma Consistent.connectionOrConnect (hs : s.Consistent) {i : ι} {kind : ChannelKind}
    (hlock : s.channelLock kind = none) : (s.connectionOrConnect i kind).Consistent := by
  unfold TransportState.connectionOrConnect
  split_ifs
  · exact hs.giveUp i
  · split
    · exact hs.moveTo_inside (.inl hlock) (fun k hk => by simpa [TaskPhase.holdsChannelLock,
        eq_comm] using hk) rfl
    · exact hs.moveTo_inside (.inl hlock) (fun k hk => by simpa [TaskPhase.holdsChannelLock,
        eq_comm] using hk) rfl

/-- A task may enter the free lock of the connection. -/
lemma Consistent.enterConnectionLock (hs : s.Consistent) {i : ι} {kind : ChannelKind}
    (hphase : s.phase i = .awaitingConnectionLock kind) (hlock : s.connectionLock = none) :
    (s.enterConnectionLock i kind).Consistent := by
  have hchannel : s.channelLock kind = some i :=
    (hs.guarded.channel kind i).mp (by simp [hphase, TaskPhase.holdsChannelLock])
  unfold TransportState.enterConnectionLock
  split
  · exact hs.moveTo_inside (.inr hchannel) (fun k hk => by simpa [TaskPhase.holdsChannelLock,
      eq_comm] using hk) rfl
  · next hnone => exact hs.attempt (.inl hlock) hchannel (hs.openConnections_eq_empty hnone)

/-- **A new connection is the only open one**: the task that opened it was alone inside the lock. -/
lemma Consistent.connected (hs : s.Consistent) {i : ι} {kind : ChannelKind}
    (hphase : s.phase i = .connecting kind) : (s.connected i kind).Consistent := by
  have hinside : (s.phase i).holdsConnectionLock := by simp [hphase, TaskPhase.holdsConnectionLock]
  have hempty : s.openConnections = ∅ := hs.exclusive i hinside
  have hlock : s.channelLock kind = some i :=
    (hs.guarded.channel kind i).mp (by simp [hphase, TaskPhase.holdsChannelLock])
  have hguarded : s.storeConnection.Guarded := ⟨hs.guarded.connection, hs.guarded.channel⟩
  refine ⟨hguarded.moveTo i _ (fun h => by cases h) fun k hk => ?_, fun c hc => ?_, fun j hj => ?_,
    fun channel hchannel => ?_, hs.closed, fun c hc => ?_⟩
  · obtain rfl : kind = k := by simpa [TaskPhase.holdsChannelLock] using hk
    exact .inr hlock
  · have hc : c ∈ insert s.handles s.openConnections := hc
    rw [hempty, insert_empty_eq, Finset.mem_singleton] at hc
    rw [hc]
    rfl
  · by_cases hji : j = i
    · rw [hji, TransportState.connected, moveTo_phase_self] at hj
      cases hj
    · rw [TransportState.connected, moveTo_phase_of_ne hji] at hj
      exact absurd (hs.guarded.connection.unique hj hinside) hji
  · have hold := hs.onOpen channel hchannel
    rw [hempty] at hold
    exact absurd hold (Finset.notMem_empty _)
  · exact absurd (by simp [hphase, TaskPhase.isConnecting]) ((hs.closing c hc).2 i)

/-- A task may receive the channel that it opened. -/
lemma Consistent.receiveChannel (hs : s.Consistent) {i : ι} {kind : ChannelKind} {connection : ℕ}
    (hphase : s.phase i = .openingChannel kind connection) :
    (s.receiveChannel i kind connection).Consistent := by
  have hlock : s.channelLock kind = some i :=
    (hs.guarded.channel kind i).mp (by simp [hphase, TaskPhase.holdsChannelLock])
  have hopened : (s.openedChannel connection).Consistent :=
    ⟨⟨hs.guarded.connection, hs.guarded.channel⟩, hs.stored, hs.exclusive, fun channel hmem => by
      unfold TransportState.openedChannel at hmem ⊢
      dsimp only at hmem ⊢
      split_ifs at hmem with hopen
      · rcases Finset.mem_insert.mp hmem with rfl | hmem
        · exact hopen
        · exact hs.onOpen channel hmem
      · exact hs.onOpen channel hmem, hs.closed, hs.closing⟩
  cases kind with
  | consumer =>
    exact hopened.moveTo_inside (.inr hlock) (fun k hk => by simpa [TaskPhase.holdsChannelLock]
      using hk) rfl
  | publisher => exact (hopened.withChannel _).giveUp i

end Moves

end TransportState

variable {ι : Type} [DecidableEq ι]

/-- **One step keeps the invariant.**

**Proof sketch.** By cases on the step, each with the lemma about the state operation that it
applies. A task that connects or backs off holds both locks, and no connection is open meanwhile
(`hinside`). -/
lemma TransportState.Consistent.step {s t : TransportState ι} (hs : s.Consistent)
    (h : TransportStep s t) : t.Consistent := by
  -- a task inside the lock of the connection is inside that of its channel as well
  have hinside : ∀ {i kind}, s.phase i = .connecting kind ∨ s.phase i = .backingOff kind →
      s.connectionLock = some i ∧ s.channelLock kind = some i ∧ s.openConnections = ∅ := by
    intro i kind hphase
    have hconnection : (s.phase i).holdsConnectionLock := by
      rcases hphase with h | h <;> simp [h, TaskPhase.holdsConnectionLock]
    have hchannel : (s.phase i).holdsChannelLock kind := by
      rcases hphase with h | h <;> simp [h, TaskPhase.holdsChannelLock]
    exact ⟨(hs.guarded.connection i).mp hconnection, (hs.guarded.channel kind i).mp hchannel,
      hs.exclusive i hconnection⟩
  cases h with
  | asked i kind hphase =>
    unfold TransportState.channelOrOpen
    split
    · exact hs
    · exact hs.moveTo i _ (fun h => by cases h) (fun h => by cases h) fun _ h => by cases h
  | channelLockAcquired i kind hphase hlock =>
    unfold TransportState.enterChannelLock
    split
    · exact hs.giveUp i
    · exact hs.connectionOrConnect hlock
  | connectionLockAcquired i kind hphase hlock => exact hs.enterConnectionLock hphase hlock
  | connected i kind hphase => exact hs.connected hphase
  | connectionFailed i kind hphase =>
    obtain ⟨hconnection, hchannel, hopen⟩ := hinside (.inl hphase)
    refine hs.moveTo i _ (fun _ => ⟨.inr hconnection, hopen⟩) (fun h => by cases h) fun k hk => ?_
    obtain rfl : kind = k := by simpa [TaskPhase.holdsChannelLock] using hk
    exact .inr hchannel
  | woke i kind hphase =>
    obtain ⟨hconnection, hchannel, hopen⟩ := hinside (.inr hphase)
    exact hs.attempt (.inr hconnection) hchannel hopen
  | channelOpened i kind connection hphase => exact hs.receiveChannel hphase
  | declared i channel hphase => exact (hs.withChannel _).giveUp i
  | raised i => exact hs.giveUp i
  | interrupted => exact hs.interrupted
  | connectionLost connection => exact hs.dropConnection connection
  | channelLost channel => exact hs.dropChannel channel
  | closeCalled => exact hs.close
  | channelClosed channel rest hclosing =>
    exact (hs.dropChannel _).closeChannels (hs.closed (by simp [hclosing])) _
  | connectionClosed connection hclosing =>
    refine (hs.dropConnection connection).finishClose (hs.closed (by simp [hclosing])) ?_
    refine Finset.subset_empty.mp fun c hc => ?_
    obtain ⟨hne, hmem⟩ := Finset.mem_erase.mp hc
    exact absurd (Finset.mem_singleton.mp ((hs.closing connection hclosing).1 hmem)) hne
  | closeRaised hclosing =>
    refine hs.withClosing (hs.closed ?_) fun _ h => by cases h
    rcases hclosing with ⟨channel, rest, hclosing⟩ | ⟨connection, hclosing⟩ <;> simp [hclosing]

/-- The invariant holds in every interleaving. -/
lemma consistent_of_reachable {s : TransportState ι} (h : (transportMachine ι).Reachable s) :
    s.Consistent :=
  h.invariant (fun _ hinit => hinit ▸ .new) fun _ _ _ hs hstep => hs.step hstep

/-! ## Results -/

/-- Task `i` waits for a lock that task `j` holds. -/
def TransportState.WaitsOn {ι : Type} (s : TransportState ι) (i j : ι) : Prop :=
  (∃ kind, s.phase i = .awaitingChannelLock kind ∧ s.channelLock kind = some j) ∨
    ∃ kind, s.phase i = .awaitingConnectionLock kind ∧ s.connectionLock = some j

/-- The step that takes a task on, without an exception: it is let in at a free lock, the broker
answers, or its sleep is over. -/
def TransportState.Proceeds (s : TransportState ι) (i : ι) (t : TransportState ι) : Prop :=
  match s.phase i with
  | .idle => False
  | .awaitingChannelLock kind => s.channelLock kind = none ∧ t = s.enterChannelLock i kind
  | .awaitingConnectionLock kind => s.connectionLock = none ∧ t = s.enterConnectionLock i kind
  | .connecting kind => t = s.connected i kind
  | .backingOff kind => t = s.attempt i kind
  | .openingChannel kind connection => t = s.receiveChannel i kind connection
  | .declaring channel => t = s.storeChannel i .consumer channel

/-- Proceeding is a step of the machine. -/
lemma TransportState.Proceeds.step {s t : TransportState ι} {i : ι} (h : s.Proceeds i t) :
    TransportStep s t := by
  unfold TransportState.Proceeds at h
  split at h
  · exact h.elim
  · next kind hphase => exact h.2 ▸ .channelLockAcquired i kind hphase h.1
  · next kind hphase => exact h.2 ▸ .connectionLockAcquired i kind hphase h.1
  · next kind hphase => exact h ▸ .connected i kind hphase
  · next kind hphase => exact h ▸ .woke i kind hphase
  · next kind connection hphase => exact h ▸ .channelOpened i kind connection hphase
  · next channel hphase => exact h ▸ .declared i channel hphase

/-- The holder of the connection lock waits for the broker or sleeps, so it can proceed. -/
lemma TransportState.Consistent.connectionHolder_proceeds {s : TransportState ι}
    (hs : s.Consistent) {j : ι} (hlock : s.connectionLock = some j) : ∃ t, s.Proceeds j t := by
  have hholds := (hs.guarded.connection j).mpr hlock
  unfold TransportState.Proceeds
  cases hphase : s.phase j with
  | connecting kind => exact ⟨_, rfl⟩
  | backingOff kind => exact ⟨_, rfl⟩
  | _ =>
    rw [hphase] at hholds
    cases hholds

/-- The holder of a channel lock can proceed, unless it waits for the connection lock. -/
lemma TransportState.Consistent.channelHolder_proceeds {s : TransportState ι} (hs : s.Consistent)
    {kind : ChannelKind} {j : ι} (hlock : s.channelLock kind = some j) :
    (∃ t, s.Proceeds j t) ∨
      ∃ k, s.phase j = .awaitingConnectionLock kind ∧ s.connectionLock = some k := by
  have hholds := (hs.guarded.channel kind j).mpr hlock
  unfold TransportState.Proceeds
  cases hphase : s.phase j with
  | awaitingConnectionLock kind' =>
    rw [hphase] at hholds
    obtain rfl : kind' = kind := by simpa [TaskPhase.holdsChannelLock] using hholds
    cases hconnection : s.connectionLock with
    | none => exact .inl ⟨_, rfl, rfl⟩
    | some k => exact .inr ⟨k, rfl, rfl⟩
  | connecting kind' => exact .inl ⟨_, rfl⟩
  | backingOff kind' => exact .inl ⟨_, rfl⟩
  | openingChannel kind' connection => exact .inl ⟨_, rfl⟩
  | declaring channel => exact .inl ⟨_, rfl⟩
  | _ =>
    rw [hphase] at hholds
    cases hholds

/-- **No deadlock.** A task that waits for a lock waits for another task, which can proceed or waits
for a third one that can.

**Proof sketch.** Who holds the connection lock waits for no lock. Who holds a channel lock can at
most wait for the connection lock, and then it does not hold that one, nor does a task that waits
for a channel lock. -/
lemma TransportState.Consistent.waitsOn {s : TransportState ι} (hs : s.Consistent) {i j : ι}
    (h : s.WaitsOn i j) : i ≠ j ∧ ((∃ t, s.Proceeds j t) ∨
      ∃ k, k ≠ i ∧ k ≠ j ∧ s.WaitsOn j k ∧ ∃ t, s.Proceeds k t) := by
  have hnot : ∀ {k l : ι}, s.connectionLock = some k → ¬ (s.phase l).holdsConnectionLock → k ≠ l :=
    fun hlock hfree heq => hfree (heq ▸ (hs.guarded.connection _).mpr hlock)
  rcases h with ⟨kind, hphase, hlock⟩ | ⟨kind, hphase, hlock⟩
  · have hfree : ¬ (s.phase i).holdsConnectionLock := by
      simp [hphase, TaskPhase.holdsConnectionLock]
    refine ⟨?_, (hs.channelHolder_proceeds hlock).imp_right ?_⟩
    · rintro rfl
      have hholds := (hs.guarded.channel kind i).mpr hlock
      rw [hphase] at hholds
      cases hholds
    · rintro ⟨k, hwaits, hconnection⟩
      exact ⟨k, hnot hconnection hfree,
        hnot hconnection (by simp [hwaits, TaskPhase.holdsConnectionLock]),
        .inr ⟨kind, hwaits, hconnection⟩, hs.connectionHolder_proceeds hconnection⟩
  · exact ⟨(hnot hlock (by simp [hphase, TaskPhase.holdsConnectionLock])).symm,
      .inl (hs.connectionHolder_proceeds hlock)⟩

/-- **At most one connection, in every interleaving.** At most one connection is open, and the
transport stores it; open channels are channels of it; a task attempts to connect only while none
is open. Of the tasks inside the lock of the connection, and of those inside the lock of either
channel, there is at most one. And the locks never deadlock: a task that waits for a lock waits for
another task that can proceed, or that waits for a third task that can.

**Proof sketch.** All of this is read off the invariant `Consistent`, which every step keeps. -/
theorem transport_oneConnection {s : TransportState ι} (h : (transportMachine ι).Reachable s) :
    (∀ i, (s.phase i).isConnecting → s.openConnections = ∅) ∧
      s.openConnections.card ≤ 1 ∧
      (∀ c ∈ s.openConnections, s.connection = some c) ∧
      (∀ channel ∈ s.openChannels, s.connection = some channel.connection) ∧
      (∀ i j, (s.phase i).isConnecting → (s.phase j).isConnecting → i = j) ∧
      (∀ i j, (s.phase i).holdsConnectionLock → (s.phase j).holdsConnectionLock → i = j) ∧
      (∀ kind i j, (s.phase i).holdsChannelLock kind → (s.phase j).holdsChannelLock kind →
        i = j) ∧
      ∀ i j, s.WaitsOn i j → i ≠ j ∧ ((∃ t, s.Proceeds j t) ∨
        ∃ k, k ≠ i ∧ k ≠ j ∧ s.WaitsOn j k ∧ ∃ t, s.Proceeds k t) := by
  have hs := consistent_of_reachable h
  have hlock := hs.guarded.connection
  refine ⟨fun i hi => hs.exclusive i (TaskPhase.holds_of_isConnecting hi), ?_, hs.stored,
    fun channel hchannel => hs.stored _ (hs.onOpen channel hchannel), fun i j hi hj => ?_,
    fun i j hi hj => hlock.unique hi hj,
    fun kind i j hi hj => (hs.guarded.channel kind).unique hi hj,
    fun i j hwaits => hs.waitsOn hwaits⟩
  · exact Finset.card_le_one.mpr fun c hc d hd =>
      Option.some.inj ((hs.stored c hc).symm.trans (hs.stored d hd))
  · exact hlock.unique (TaskPhase.holds_of_isConnecting hi) (TaskPhase.holds_of_isConnecting hj)

/-- Three tasks at the locks: the publisher connects, a consumer has its channel lock and waits for
the connection, and a second consumer waits for the channel lock. -/
def contended : TransportState (Fin 3) :=
  (((((({} : TransportState (Fin 3)).channelOrOpen 0 .publisher).channelOrOpen 1
    .consumer).channelOrOpen 2 .consumer).enterChannelLock 0 .publisher).enterChannelLock 1
      .consumer).enterConnectionLock 0 .publisher

/-- The three tasks get there by six steps. -/
lemma contended_reachable : (transportMachine (Fin 3)).Reachable contended :=
  .step (.step (.step (.step (.step (.step (.init rfl)
    (.asked 0 .publisher rfl)) (.asked 1 .consumer rfl)) (.asked 2 .consumer rfl))
    (.channelLockAcquired 0 .publisher rfl rfl)) (.channelLockAcquired 1 .consumer rfl rfl))
    (.connectionLockAcquired 0 .publisher rfl rfl)

/-- The second consumer waits for the first, which waits for the publisher, which can proceed. -/
theorem transport_oneConnection_contended :
    contended.phase 0 = .connecting .publisher ∧
      contended.WaitsOn 2 1 ∧ contended.WaitsOn 1 0 ∧ contended.openConnections = ∅ ∧
      (∃ t, contended.Proceeds 0 t ∧ (transportMachine (Fin 3)).Reachable t) ∧
      ∀ i, (contended.phase i).holdsConnectionLock → i = 0 := by
  obtain ⟨hempty, -, -, -, -, hunique, -, hwaits⟩ := transport_oneConnection contended_reachable
  have hwait : contended.WaitsOn 1 0 := .inr ⟨.consumer, rfl, rfl⟩
  refine ⟨rfl, .inl ⟨.consumer, rfl, rfl⟩, hwait, hempty 0 rfl, ?_, fun i hi => hunique i 0 hi rfl⟩
  rcases (hwaits 1 0 hwait).2 with ⟨t, hproceeds⟩ | ⟨k, -, -, hwaits, -⟩
  · exact ⟨t, hproceeds, .step contended_reachable hproceeds.step⟩
  · rcases hwaits with ⟨kind, hphase, -⟩ | ⟨kind, hphase, -⟩ <;> cases hphase

/-- The state of a publisher that has opened the connection and its channel. -/
def publisherReady : TransportState Unit :=
  ((((({} : TransportState Unit).channelOrOpen () .publisher).enterChannelLock ()
    .publisher).enterConnectionLock () .publisher).connected () .publisher).receiveChannel ()
      .publisher 0

/-- A publisher alone gets there by five steps. -/
lemma publisherReady_reachable : (transportMachine Unit).Reachable publisherReady :=
  .step (.step (.step (.step (.step (.init rfl)
    (.asked () .publisher rfl)) (.channelLockAcquired () .publisher rfl rfl))
    (.connectionLockAcquired () .publisher rfl rfl)) (.connected () .publisher rfl))
    (.channelOpened () .publisher 0 rfl)

/-! ## Closing -/

/-- What holds from the call of `close` on, if no task was connecting then. -/
structure TransportState.Closing {ι : Type} (s : TransportState ι) : Prop where
  closed : s.closed = true
  notConnecting : ∀ i, ¬ (s.phase i).isConnecting
  returned : s.closing = .returned → s.openConnections = ∅

namespace TransportState

section Handles

variable {ι : Type} {s : TransportState ι}

/-- What the loop of `close` changes: at most where it waits and what is stored. -/
lemma Consistent.closeChannels_spec (hs : s.Consistent) (channels : List Channel) :
    (s.closeChannels channels).closed = s.closed ∧ (s.closeChannels channels).phase = s.phase ∧
      (s.closeChannels channels).openConnections = s.openConnections ∧
      ((s.closeChannels channels).closing = .returned → s.openConnections = ∅) := by
  induction channels with
  | nil =>
    unfold TransportState.closeChannels TransportState.closeConnection
    split
    · exact ⟨rfl, rfl, rfl, fun h => by cases h⟩
    · next hnone => exact ⟨rfl, rfl, rfl, fun _ => hs.openConnections_eq_empty hnone⟩
  | cons channel rest ih =>
    unfold TransportState.closeChannels
    split_ifs
    · exact ⟨rfl, rfl, rfl, fun h => by cases h⟩
    · exact ih

/-- The loop of `close` on a closed transport. -/
lemma Closing.closeChannels (hclosed : s.closed = true) (hs : s.Consistent)
    (hphase : ∀ i, ¬ (s.phase i).isConnecting) (channels : List Channel) :
    (s.closeChannels channels).Closing ∧
      (s.closeChannels channels).openConnections = s.openConnections := by
  obtain ⟨hclosed', hphase', hopen', hreturned⟩ := hs.closeChannels_spec channels
  exact ⟨⟨hclosed' ▸ hclosed, hphase' ▸ hphase, fun h => hopen' ▸ hreturned h⟩, hopen'⟩

/-- Handles may be closed at any time. -/
lemma Closing.shrink (h : s.Closing) {connections : Finset ℕ} (channels : Finset Channel)
    (hsub : connections ⊆ s.openConnections) : ({ s with
      openConnections := connections, openChannels := channels } : TransportState ι).Closing where
  closed := h.closed
  notConnecting := h.notConnecting
  returned hreturned := Finset.subset_empty.mp (h.returned hreturned ▸ hsub)

/-- The stored channels do not matter to a transport that is being closed. -/
lemma Closing.withChannel (h : s.Closing) (channel : ChannelKind → Option Channel) :
    ({ s with channel } : TransportState ι).Closing :=
  ⟨h.closed, h.notConnecting, h.returned⟩

end Handles

variable {s t : TransportState ι}

/-- A task of a closed transport moves, but not to an attempt to connect. -/
lemma Closing.moveTo (h : s.Closing) (i : ι) {p : TaskPhase} (hp : ¬ p.isConnecting) :
    (s.moveTo i p).Closing where
  closed := h.closed
  notConnecting j := by
    by_cases hji : j = i
    · rw [hji, moveTo_phase_self]
      exact hp
    · rw [moveTo_phase_of_ne hji]
      exact h.notConnecting j
  returned := h.returned

/-- A task that attempts to connect then finds the transport closed. -/
lemma Closing.attempt (h : s.Closing) (i : ι) (kind : ChannelKind) :
    (s.attempt i kind).Closing := by
  rw [TransportState.attempt, if_pos h.closed]
  exact h.moveTo i Bool.false_ne_true

/-- **A step of a closed transport opens no connection.**

**Proof sketch.** By cases on the step. Once `close` was called no task begins an attempt, because
`attempt` and `connectionOrConnect` look at the mark first, and the steps of an attempt under way
are excluded (`notConnecting`). All other steps leave the connections alone or close one. -/
lemma Closing.step (hs : s.Consistent) (h : s.Closing) (hstep : TransportStep s t) :
    t.Closing ∧ t.openConnections ⊆ s.openConnections := by
  cases hstep with
  | asked i kind hphase =>
    unfold TransportState.channelOrOpen
    split
    · exact ⟨h, subset_rfl⟩
    · exact ⟨h.moveTo i Bool.false_ne_true, subset_rfl⟩
  | channelLockAcquired i kind hphase hlock =>
    unfold TransportState.enterChannelLock
    split
    · exact ⟨h.moveTo i Bool.false_ne_true, subset_rfl⟩
    · rw [TransportState.connectionOrConnect, if_pos h.closed]
      exact ⟨h.moveTo i Bool.false_ne_true, subset_rfl⟩
  | connectionLockAcquired i kind hphase hlock =>
    unfold TransportState.enterConnectionLock
    split
    · exact ⟨h.moveTo i Bool.false_ne_true, subset_rfl⟩
    · exact ⟨h.attempt i kind, subset_rfl⟩
  | connected i kind hphase =>
    exact absurd (by simp [hphase, TaskPhase.isConnecting]) (h.notConnecting i)
  | connectionFailed i kind hphase =>
    exact absurd (by simp [hphase, TaskPhase.isConnecting]) (h.notConnecting i)
  | woke i kind hphase => exact ⟨h.attempt i kind, subset_rfl⟩
  | channelOpened i kind connection hphase =>
    have hopened : (s.openedChannel connection).Closing := ⟨h.closed, h.notConnecting, h.returned⟩
    cases kind with
    | consumer => exact ⟨hopened.moveTo i Bool.false_ne_true, subset_rfl⟩
    | publisher => exact ⟨(hopened.withChannel _).moveTo i Bool.false_ne_true, subset_rfl⟩
  | declared i channel hphase =>
    exact ⟨(h.withChannel _).moveTo i Bool.false_ne_true, subset_rfl⟩
  | raised i => exact ⟨h.moveTo i Bool.false_ne_true, subset_rfl⟩
  | interrupted =>
    rw [TransportState.interrupted, if_pos h.closed]
    exact ⟨h, subset_rfl⟩
  | connectionLost connection =>
    exact ⟨h.shrink _ (Finset.erase_subset _ _), Finset.erase_subset _ _⟩
  | channelLost channel => exact ⟨h.shrink _ subset_rfl, subset_rfl⟩
  | closeCalled =>
    rw [TransportState.close, if_pos h.closed]
    exact ⟨h, subset_rfl⟩
  | channelClosed channel rest hclosing =>
    obtain ⟨hclosed, heq⟩ := Closing.closeChannels (s := s.dropChannel channel) h.closed
      (hs.dropChannel channel) h.notConnecting rest
    exact ⟨hclosed, heq.subset⟩
  | connectionClosed connection hclosing =>
    have hsub := (hs.closing connection hclosing).1
    refine ⟨⟨h.closed, h.notConnecting, fun _ => Finset.subset_empty.mp fun c hc => ?_⟩,
      Finset.erase_subset _ _⟩
    obtain ⟨hne, hmem⟩ := Finset.mem_erase.mp hc
    exact absurd (Finset.mem_singleton.mp (hsub hmem)) hne
  | closeRaised hclosing =>
    exact ⟨⟨h.closed, h.notConnecting, fun hreturned => by cases hreturned⟩, subset_rfl⟩

end TransportState

/-- **What `close` leaves open.** When `close` is called while no task waits for an attempt to
connect, no connection is opened from then on, whatever the tasks still do; and once it has
returned, no connection and no channel is open.

**Proof sketch.** By induction over the continuation. The mark of `close` keeps every task from a
further attempt, and no task was waiting for one (`Closing.step`); what was open when `close` was
called is closed by it. -/
theorem close_final {s t : TransportState ι} (hreach : (transportMachine ι).Reachable s)
    (hopen : s.closed = false) (hquiet : ∀ i, ¬ (s.phase i).isConnecting)
    (hrun : Relation.ReflTransGen TransportStep s.close t) :
    t.openConnections ⊆ s.openConnections ∧
      (t.closing = .returned → t.openConnections = ∅ ∧ t.openChannels = ∅) := by
  have hs := consistent_of_reachable hreach
  have hcalled : s.close.Closing ∧ s.close.openConnections = s.openConnections := by
    rw [TransportState.close, if_neg (by simp [hopen])]
    exact TransportState.Closing.closeChannels rfl hs.marked hquiet _
  have hkept : t.Consistent ∧ t.Closing ∧ t.openConnections ⊆ s.openConnections := by
    induction hrun with
    | refl => exact ⟨hs.close, hcalled.1, hcalled.2.subset⟩
    | tail _ hstep ih =>
      obtain ⟨hconsistent, hclosing, hsub⟩ := ih
      obtain ⟨hclosing', hsub'⟩ := hclosing.step hconsistent hstep
      exact ⟨hconsistent.step hstep, hclosing', hsub'.trans hsub⟩
  obtain ⟨hconsistent, hclosing, hsub⟩ := hkept
  refine ⟨hsub, fun hreturned => ?_⟩
  have hempty := hclosing.returned hreturned
  refine ⟨hempty, Finset.eq_empty_of_forall_notMem fun channel hchannel => ?_⟩
  have hon := hconsistent.onOpen channel hchannel
  rw [hempty] at hon
  exact absurd hon (Finset.notMem_empty _)

/-- Closing the transport of a publisher that is ready. -/
theorem close_final_publisher : ∃ t : TransportState Unit,
    Relation.ReflTransGen TransportStep publisherReady.close t ∧ t.closing = .returned ∧
      t.openConnections = ∅ ∧ t.openChannels = ∅ := by
  have hrun : Relation.ReflTransGen TransportStep publisherReady.close
      (((publisherReady.close.dropChannel ⟨1, 0⟩).closeChannels []).dropConnection 0).finishClose :=
    .tail (.tail .refl (.channelClosed ⟨1, 0⟩ [] rfl)) (.connectionClosed 0 rfl)
  refine ⟨_, hrun, rfl, ?_⟩
  exact (close_final publisherReady_reachable rfl (fun _ => Bool.false_ne_true) hrun).2 rfl

/-- A connection that is opened while `close` runs stays open after it has returned. -/
example : ∃ s : TransportState Unit, (transportMachine Unit).Reachable s ∧
    s.closing = .returned ∧ s.openConnections = {0} := by
  refine ⟨_, .step (.step (.step (.step (.step (.init rfl)
    (.asked () .consumer rfl)) (.channelLockAcquired () .consumer rfl rfl))
    (.connectionLockAcquired () .consumer rfl rfl)) .closeCalled) (.connected () .consumer rfl),
    rfl, rfl⟩

end CollisionMonitor
