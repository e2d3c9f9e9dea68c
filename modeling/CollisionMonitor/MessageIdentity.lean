import CollisionMonitor.BrokerSettings
import CollisionMonitor.Lib.Joined
import CollisionMonitor.ServiceRun

set_option relaxedAutoImplicit false
set_option autoImplicit false

/-!
# The identity of published messages

`publish_action` gives every message to the broker under a `message_id` that joins the run, the
robot and the tick by colons. Tick identifiers contain no colon, but a run ID or a robot ID may, so
two logical actions can share a `message_id`.

The JSON of a message and the quotation of a robot ID are parameters.

## Main definitions

* `outgoingMessage`, `publishAction` — the message given to the broker, and its publication.
* `Publishable` — what is known of the messages of a service.
* `ColonMoved` — two messages differ by a colon between run and robot.

## Main results

* `publishable_of_attempted` — the messages of every run of the service are publishable.
* `messageId_eq_iff` — all pairs of messages that share a `message_id`.
* `messageId_exact` — exactly when the `message_id` is the logical identity.
-/

namespace CollisionMonitor

open Outcome

/-! ## Publication -/

/-- The message that an exchange publishes. -/
structure OutgoingMessage (B : Type) where
  body : B
  contentType : String
  contentEncoding : String
  persistent : Bool
  messageId : String
  type : String
  appId : String

/-- The broker's answer to a published message. -/
inductive BasicMethod
  | ack
  | nack
  | reject
  deriving DecidableEq, Repr

/-- The durable output queue name for one robot. -/
def actionQueueName (settings : BrokerFields) (robotId : String) : Except PyException String := do
  raiseIf (robotId = "") (.valueError "robot ID must not be empty")
  return settings.rabbitmqActionQueuePrefix ++ robotId

section Publish

variable {B : Type} (modelDumpJson : ActionMessageFields → B)

/-- The persistent message that carries an action. -/
def outgoingMessage (message : ActionMessageFields) : OutgoingMessage B where
  body := modelDumpJson message
  contentType := "application/json"
  contentEncoding := "utf-8"
  persistent := true
  messageId := message.runId ++ ":" ++ message.deviceId.val ++ ":" ++ message.tickId
  type := "collision_monitor.action"
  appId := "collision-monitor"

/-- Publish an action with broker confirmation; `publish` is the exchange, given the message and the
routing key, and `repr` quotes a text. -/
def publishAction (settings : BrokerFields) (repr : String → String)
    (publish : OutgoingMessage B → String → Except PyException (Option BasicMethod))
    (message : ActionMessage) : Except PyException Unit := do
  let queueName ← actionQueueName settings message.val.deviceId.val
  let confirmation ← publish (outgoingMessage modelDumpJson message.val) queueName
  raiseIf (confirmation ∈ [none, some .nack, some .reject])
    (.runtimeError ("RabbitMQ did not confirm action for robot " ++ repr message.val.deviceId.val))

/-- **A confirmed action was published to its robot's queue** under its `message_id`, and the broker
acknowledged it. -/
theorem publishAction_eq_ok {settings : BrokerFields} {repr : String → String}
    {publish : OutgoingMessage B → String → Except PyException (Option BasicMethod)}
    {message : ActionMessage} :
    publishAction modelDumpJson settings repr publish message = .ok () ↔
      publish (outgoingMessage modelDumpJson message.val)
        (settings.rabbitmqActionQueuePrefix ++ message.val.deviceId.val) = .ok (some .ack) := by
  have hqueue : actionQueueName settings message.val.deviceId.val =
      .ok (settings.rabbitmqActionQueuePrefix ++ message.val.deviceId.val) := by
    rw [actionQueueName, raiseIf_of_not _ message.val.deviceId.property]
    rfl
  rw [publishAction, hqueue, ok_bind, bind_eq_ok]
  constructor
  · rintro ⟨confirmation, hpublish, hok⟩
    rw [raiseIf_eq_ok] at hok
    rw [hpublish]
    rcases confirmation with _ | _ | _ | _
    · simp at hok
    · rfl
    · simp at hok
    · simp at hok
  · intro hpublish
    exact ⟨_, hpublish, raiseIf_eq_ok.mpr (by decide)⟩

end Publish

/-! ## Messages of the service -/

/-- What is known of a message that a service publishes: its run ID is not blank, and its tick ID is
one that the service counts. -/
structure Publishable (message : ActionMessageFields) : Prop where
  runId : isBlank message.runId = false
  tickId : ∃ tickSequence, message.tickId = tickIdOf tickSequence

/-- **The messages of every run of a service are publishable.** -/
theorem publishable_of_attempted {E ω σ γ π : Type} {wrappedAngle : ℚ → ℚ}
    {config : MonitorConfig} {geometry : Geometry E} {parts : Collaborators ω}
    {api : GrantManagerApi σ γ} {publisher : ActionPublisher π} {runId : String}
    (hrunId : isBlank runId = false) {run : ServiceRun ω σ γ π}
    (h : (serviceMachine wrappedAngle config geometry parts api publisher runId).Reachable run)
    {message : ActionMessage} (hmessage : message ∈ run.attempted) : Publishable message.val := by
  have hinv := serviceInvariant_of_reachable h
  obtain ⟨record, hrecord, hmem⟩ := hinv.attempted message hmessage
  obtain ⟨hid, htick⟩ := (hinv.complete record hrecord).onePerRobot.identities message hmem
  exact ⟨hid ▸ hrunId, record.number, htick⟩

/-- A tick identifier contains no colon. -/
lemma colon_notMem_tickIdOf (n : ℕ) : ':' ∉ (tickIdOf n).toList := by
  intro h
  simp only [tickIdOf, String.toList_append, String.toList_ofList, List.mem_append] at h
  rcases h with (h | h) | h
  · exact absurd h (by decide)
  · exact absurd (List.eq_of_mem_replicate h) (by decide)
  · rw [Nat.toString_eq_repr, Nat.toList_repr] at h
    exact absurd (Nat.isDigit_of_mem_toDigits (by decide) (by decide) h) (by decide)

/-! ## The identity -/

/-- The run ID of the second message goes on where that of the first one ends: with a colon and a
text that the robot ID of the first message starts with, followed by a colon and the robot ID of the
second one. -/
def ColonMoved (message message' : ActionMessageFields) : Prop :=
  message.tickId = message'.tickId ∧ ∃ moved, message'.runId = message.runId ++ ":" ++ moved ∧
    message.deviceId.val = moved ++ ":" ++ message'.deviceId.val

/-- A colon moved iff the parts before and after it are shifted. -/
lemma colonMoved_iff {message message' : ActionMessageFields} : ColonMoved message message' ↔
    message.tickId = message'.tickId ∧ Joined.Shifted ':' message.runId.toList
      message.deviceId.val.toList message'.runId.toList message'.deviceId.val.toList := by
  have hcolon : ":".toList = [':'] := rfl
  refine and_congr_right fun _ => ⟨?_, ?_⟩
  · rintro ⟨moved, hrun, hdevice⟩
    refine ⟨moved.toList, ?_, ?_⟩
    · rw [hrun]
      simp [hcolon]
    · rw [hdevice]
      simp [hcolon]
  · rintro ⟨moved, hrun, hdevice⟩
    refine ⟨String.ofList moved, String.toList_inj.mp ?_, String.toList_inj.mp ?_⟩
    · simpa [hcolon] using hrun
    · simpa [hcolon] using hdevice

/-- Messages with a moved colon are different actions. -/
lemma ColonMoved.runId_ne {message message' : ActionMessageFields}
    (h : ColonMoved message message') : message.runId ≠ message'.runId :=
  fun heq => (colonMoved_iff.mp h).2.ne (congrArg String.toList heq)

/-- The identity of a message, as a text with two colons. -/
lemma toList_messageId {B : Type} (modelDumpJson : ActionMessageFields → B)
    (message : ActionMessageFields) : (outgoingMessage modelDumpJson message).messageId.toList =
      (message.runId.toList ++ ':' :: message.deviceId.val.toList) ++ ':' ::
        message.tickId.toList := by
  have hcolon : ":".toList = [':'] := rfl
  simp [outgoingMessage, hcolon]

/-- **All pairs of messages that share a `message_id`**: the same action, or a moved colon. -/
theorem messageId_eq_iff {B : Type} (modelDumpJson : ActionMessageFields → B)
    {message message' : ActionMessageFields} (h : Publishable message)
    (h' : Publishable message') :
    (outgoingMessage modelDumpJson message).messageId =
        (outgoingMessage modelDumpJson message').messageId ↔
      message.idempotencyKey = message'.idempotencyKey ∨
        ColonMoved message message' ∨ ColonMoved message' message := by
  obtain ⟨n, hn⟩ := h.tickId
  obtain ⟨n', hn'⟩ := h'.tickId
  have hkey : message.idempotencyKey = message'.idempotencyKey ↔
      (message.runId.toList = message'.runId.toList ∧
        message.deviceId.val.toList = message'.deviceId.val.toList) ∧
        message.tickId = message'.tickId := by
    simp only [ActionMessageFields.idempotencyKey, Prod.mk.injEq, String.toList_inj,
      Subtype.ext_iff, and_assoc]
  rw [← String.toList_inj, toList_messageId, toList_messageId, hkey, colonMoved_iff, colonMoved_iff]
  constructor
  · intro heq
    obtain ⟨hjoin, htick⟩ := Joined.join_last_inj (hn ▸ colon_notMem_tickIdOf n)
      (hn' ▸ colon_notMem_tickIdOf n') heq
    have htick := String.toList_inj.mp htick
    rcases Joined.join_eq_iff.mp hjoin with hfields | hshift | hshift
    · exact .inl ⟨hfields, htick⟩
    · exact .inr (.inl ⟨htick, hshift⟩)
    · exact .inr (.inr ⟨htick.symm, hshift⟩)
  · have hjoin := @Joined.join_eq_iff Char ':' message.runId.toList message.deviceId.val.toList
      message'.runId.toList message'.deviceId.val.toList
    rintro (⟨hfields, htick⟩ | ⟨htick, hshift⟩ | ⟨htick, hshift⟩)
    · rw [hjoin.mpr (.inl hfields), htick]
    · rw [hjoin.mpr (.inr (.inl hshift)), htick]
    · rw [hjoin.mpr (.inr (.inr hshift)), htick]

/-- **Exactly when the `message_id` is the logical identity.** For messages of any two services it
is equal iff the idempotency keys are, unless the messages differ by a colon that moved between the
run ID and the robot ID.

**Proof sketch.** Tick IDs have no colon, so the last part is the same. What is before it splits at
a colon in the same way, or at two different ones (`messageId_eq_iff`), and then the run IDs
differ. -/
theorem messageId_exact {B : Type} (modelDumpJson : ActionMessageFields → B)
    {message message' : ActionMessageFields} (h : Publishable message)
    (h' : Publishable message') :
    ((outgoingMessage modelDumpJson message).messageId =
        (outgoingMessage modelDumpJson message').messageId ↔
      message.idempotencyKey = message'.idempotencyKey) ↔
    ¬ (ColonMoved message message' ∨ ColonMoved message' message) := by
  rw [messageId_eq_iff modelDumpJson h h']
  have hne : ColonMoved message message' ∨ ColonMoved message' message →
      message.idempotencyKey ≠ message'.idempotencyKey := by
    intro hmoved hkey
    have hrun : message.runId = message'.runId :=
      congrArg (fun key : String × RobotId × String => key.1) hkey
    rcases hmoved with hmoved | hmoved
    · exact hmoved.runId_ne hrun
    · exact hmoved.runId_ne hrun.symm
  exact ⟨fun hiff hmoved => hne hmoved (hiff.mp (.inr hmoved)),
    fun hnot => ⟨fun hor => hor.resolve_right hnot, .inl⟩⟩

/-- The first action of a run for a robot. -/
def firstTickAction (runId : String) (deviceId : RobotId) : ActionMessageFields where
  runId
  deviceId
  action := .pause
  tickId := tickIdOf 1
  decisionTimestamp := 0
  sourceStateTimestamp := 0
  reasonCodes := ["no_conflict"]
  reasonContext := ["no_conflict"]
  decisionSource := .failSafe
  grantActive := false

/-- An action of the first tick can be published. -/
lemma publishable_firstTickAction {runId : String} (h : isBlank runId = false)
    (deviceId : RobotId) :
    Publishable (firstTickAction runId deviceId) := ⟨h, 1, rfl⟩

/-- Robot `b:c` of run `a` and robot `c` of run `a:b`: two accepted messages of different robots and
runs share the `message_id` `a:b:c:tick-00000001`. -/
theorem messageId_collision :
    let message := firstTickAction "a" ⟨"b:c", by decide⟩
    let message' := firstTickAction "a:b" ⟨"c", by decide⟩
    Publishable message ∧ Publishable message' ∧ message.postInit = .ok () ∧
      message'.postInit = .ok () ∧
      (outgoingMessage id message).messageId = (outgoingMessage id message').messageId ∧
      message.idempotencyKey ≠ message'.idempotencyKey := by
  refine ⟨publishable_firstTickAction (by decide +kernel) _,
    publishable_firstTickAction (by decide +kernel) _, rfl, rfl, by decide +kernel, by decide +kernel⟩

/-- For robots `c` and `d` of runs `a` and `b` the `message_id` is the logical identity. -/
theorem messageId_exact_plain :
    let message := firstTickAction "a" ⟨"c", by decide⟩
    let message' := firstTickAction "b" ⟨"d", by decide⟩
    ((outgoingMessage id message).messageId = (outgoingMessage id message').messageId ↔
      message.idempotencyKey = message'.idempotencyKey) ↔
        ¬ (ColonMoved message message' ∨ ColonMoved message' message) :=
  messageId_exact id (publishable_firstTickAction (by decide +kernel) _)
    (publishable_firstTickAction (by decide +kernel) _)

/-- Within one run the `message_id` is the logical identity. -/
lemma messageId_eq_iff_of_runId_eq {B : Type} (modelDumpJson : ActionMessageFields → B)
    {message message' : ActionMessageFields} (h : Publishable message) (h' : Publishable message')
    (hrun : message.runId = message'.runId) :
    (outgoingMessage modelDumpJson message).messageId =
        (outgoingMessage modelDumpJson message').messageId ↔
      message.idempotencyKey = message'.idempotencyKey := by
  refine (messageId_exact modelDumpJson h h').mpr ?_
  rintro (hmoved | hmoved)
  · exact hmoved.runId_ne hrun
  · exact hmoved.runId_ne hrun.symm

/-- So it is between runs whose IDs contain no colon, as those that the service draws itself. -/
lemma messageId_eq_iff_of_colon_notMem {B : Type} (modelDumpJson : ActionMessageFields → B)
    {message message' : ActionMessageFields} (h : Publishable message) (h' : Publishable message')
    (hrun : ':' ∉ message.runId.toList) (hrun' : ':' ∉ message'.runId.toList) :
    (outgoingMessage modelDumpJson message).messageId =
        (outgoingMessage modelDumpJson message').messageId ↔
      message.idempotencyKey = message'.idempotencyKey := by
  refine (messageId_exact modelDumpJson h h').mpr ?_
  rintro (hmoved | hmoved)
  · exact hrun' (colonMoved_iff.mp hmoved).2.mem.1
  · exact hrun (colonMoved_iff.mp hmoved).2.mem.1

end CollisionMonitor
