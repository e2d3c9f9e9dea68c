import CollisionMonitor.Lib.LastMax
import CollisionMonitor.ServiceSpec

set_option relaxedAutoImplicit false
set_option autoImplicit false

/-!
# The law of latest states

What the store holds after any sequence of deliveries, which of them were acknowledged, and why
the interleaving of different robots does not matter.

## Main definitions

* `validStates` — the valid states that one robot delivered, with their receive times.
* `Accepts` — a delivery is valid and not older than any valid state of its robot before it.
* `Ingested` — the store, the counter and the dispositions after a sequence of deliveries.

## Main results

* `consumeDelivery_spec` — what one delivery does.
* `consumeStates_latest` — the law for every sequence of deliveries.
-/

namespace CollisionMonitor

open Outcome

/-- The valid states that a robot delivered, in order, each with its own receive time. -/
def validStates (deliveries : List StateDelivery) (robotId : RobotId) : List StoredStateFields :=
  deliveries.filterMap fun delivery =>
    match RobotState.modelValidate delivery.payload with
    | .ok state =>
      if state.deviceId = robotId then some ⟨state, delivery.receivedMonotonicSeconds⟩ else none
    | .error _ => none

/-- After `history` the delivery is valid and at least as recent as every valid state that its
robot delivered before. -/
def Accepts (history : List StateDelivery) (delivery : StateDelivery) : Prop :=
  ∃ state, RobotState.modelValidate delivery.payload = .ok state ∧
    ∀ earlier ∈ validStates history state.deviceId, earlier.state.timestamp ≤ state.timestamp

/-- The source timestamp of a stored state. -/
def sourceTimestamp (stored : StoredStateFields) : ℕ := stored.state.timestamp

/-- What a sequence of deliveries leaves behind. -/
structure Ingested (deliveries : List StateDelivery) (dispositions : List Disposition)
    (store : LatestStateStore) (rejectedStateCount : ℕ) : Prop where
  /-- For each robot the store holds the last received of its valid states with the greatest source
  timestamp, with the receive time of that delivery. -/
  latest : ∀ r stored, store.states.lookup r = some stored ↔
    LastMax sourceTimestamp (validStates deliveries r) stored.val
  /-- Every delivery was settled. -/
  settled : dispositions.length = deliveries.length
  /-- A delivery was acknowledged iff it was acceptable when it arrived, and otherwise rejected
  without requeue. -/
  disposed : ∀ before delivery after, deliveries = before ++ delivery :: after →
    (Accepts before delivery → dispositions[before.length]? = some .acknowledged) ∧
      (¬ Accepts before delivery → dispositions[before.length]? = some (.rejected false))
  /-- The counter counts the rejections. -/
  counted : rejectedStateCount = dispositions.count (.rejected false)

section Step

variable {ω σ γ π : Type}

/-- The valid states with one more delivery. -/
lemma validStates_append_singleton (deliveries : List StateDelivery) (delivery : StateDelivery)
    (r : RobotId) : validStates (deliveries ++ [delivery]) r =
      validStates deliveries r ++ validStates [delivery] r := by
  rw [validStates, List.filterMap_append]
  rfl

/-- A valid state counts for its own robot. -/
lemma validStates_singleton {delivery : StateDelivery} {state : RobotState}
    (h : RobotState.modelValidate delivery.payload = .ok state) (r : RobotId) :
    validStates [delivery] r = if state.deviceId = r then
      [⟨state, delivery.receivedMonotonicSeconds⟩] else [] := by
  rw [validStates, List.filterMap_cons, h]
  dsimp only
  split_ifs <;> rfl

/-- A payload that is rejected counts for nobody. -/
lemma validStates_singleton_invalid {delivery : StateDelivery} {e : PyException}
    (h : RobotState.modelValidate delivery.payload = .error e) (r : RobotId) :
    validStates [delivery] r = [] := by
  rw [validStates, List.filterMap_cons, h]
  rfl

/-- The store holds the latest state of each robot. -/
def HoldsLatest (store : LatestStateStore) (deliveries : List StateDelivery) : Prop :=
  ∀ r stored, store.states.lookup r = some stored ↔
    LastMax sourceTimestamp (validStates deliveries r) stored.val

/-- A time that is not negative can be stored. -/
lemma stored_accepted {state : RobotState} {received : ℚ} (h : 0 ≤ received) :
    StoredStateFields.postInit ⟨state, received⟩ = .ok () :=
  raiseIf_of_not _ (not_lt.mpr h)

/-- A valid state was received with one of the deliveries. -/
lemma received_nonneg {deliveries : List StateDelivery}
    (hclock : ∀ d ∈ deliveries, 0 ≤ d.receivedMonotonicSeconds) {r : RobotId}
    {stored : StoredStateFields} (h : stored ∈ validStates deliveries r) :
    0 ≤ stored.receivedMonotonicSeconds := by
  obtain ⟨d, hd, hsome⟩ := List.mem_filterMap.mp h
  split at hsome
  · split_ifs at hsome
    rw [← Option.some.inj hsome]
    exact hclock d hd
  · cases hsome

/-- A delivery is acceptable iff it is not older than the stored state of its robot. -/
lemma HoldsLatest.accepts_iff {store : LatestStateStore} {deliveries : List StateDelivery}
    (h : HoldsLatest store deliveries)
    (hclock : ∀ d ∈ deliveries, 0 ≤ d.receivedMonotonicSeconds) {delivery : StateDelivery}
    {state : RobotState} (hstate : RobotState.modelValidate delivery.payload = .ok state) :
    Accepts deliveries delivery ↔ ∀ stored, store.states.lookup state.deviceId = some stored →
      stored.val.state.timestamp ≤ state.timestamp := by
  constructor
  · rintro ⟨state', hstate', hle⟩ stored hstored
    obtain rfl := Except.ok.inj (hstate.symm.trans hstate')
    exact hle _ ((h _ _).mp hstored).mem
  · intro hle
    refine ⟨state, hstate, fun earlier hearlier => ?_⟩
    -- the stored state is the greatest of the earlier ones
    obtain ⟨greatest, hgreatest⟩ : ∃ greatest, LastMax sourceTimestamp
      (validStates deliveries state.deviceId) greatest := exists_lastMax (List.ne_nil_of_mem hearlier)
    have hstored := (h state.deviceId ⟨greatest, stored_accepted
      (received_nonneg hclock hgreatest.mem)⟩).mpr hgreatest
    exact (hgreatest.le earlier hearlier).trans (hle _ hstored)

/-- A delivery whose update returned is settled by its result. -/
lemma consumeDelivery_of_update {delivery : StateDelivery} {state : RobotState}
    {service : ServiceState ω σ γ π} {result : StateUpdateResult} {store : LatestStateStore}
    (hstate : RobotState.modelValidate delivery.payload = .ok state)
    (hupdate : service.store.update state delivery.receivedMonotonicSeconds = .ok (result, store)) :
    (consumeDelivery delivery).run service =
      .ok (if result.accepted then .acknowledged else .rejected false)
        { service with
          store
          rejectedStateCount := service.rejectedStateCount + if result.accepted then 0 else 1 } := by
  have hlift : (lift (service.store.update state delivery.receivedMonotonicSeconds) :
      Service ω σ γ π (StateUpdateResult × LatestStateStore)).run service =
        .ok (result, store) service := run_lift_eq_ok.mpr ⟨hupdate, rfl⟩
  have hget : (get : Service ω σ γ π (ServiceState ω σ γ π)).run service =
      .ok service service := rfl
  have hingest : (ingestPayload delivery.receivedMonotonicSeconds delivery.payload).run service =
      .ok { accepted := result.accepted, robotId := some result.robotId.val, reason := result.reason }
        { service with
          store
          rejectedStateCount := service.rejectedStateCount + if result.accepted then 0 else 1 } := by
    unfold ingestPayload
    rw [run_ok_bind hget, hstate]
    dsimp only
    rw [run_ok_bind hlift]
    rfl
  rw [consumeDelivery, run_ok_bind hingest]
  rfl

/-- A state that is not older than the stored one replaces it. -/
lemma update_of_le {store : LatestStateStore} {state : RobotState} {received : ℚ}
    (hreceived : 0 ≤ received) (hle : ∀ existing, store.states.lookup state.deviceId =
      some existing → existing.val.state.timestamp ≤ state.timestamp) :
    ∃ reason, store.update state received =
      .ok ({ accepted := true, robotId := state.deviceId, reason },
        { states := store.states.insert state.deviceId
            ⟨⟨state, received⟩, stored_accepted hreceived⟩ }) := by
  unfold LatestStateStore.update
  rw [validate_of_accepted (stored_accepted hreceived), ok_bind]
  cases hlook : store.states.lookup state.deviceId with
  | none => exact ⟨_, rfl⟩
  | some existing =>
    dsimp only
    rw [if_neg (not_lt.mpr (hle existing hlook))]
    exact ⟨_, rfl⟩

/-- An older state is refused. -/
lemma update_of_lt {store : LatestStateStore} {state : RobotState} {received : ℚ}
    (hreceived : 0 ≤ received) {existing : StoredRobotState}
    (hlook : store.states.lookup state.deviceId = some existing)
    (hlt : state.timestamp < existing.val.state.timestamp) :
    ∃ reason, store.update state received =
      .ok ({ accepted := false, robotId := state.deviceId, reason }, store) := by
  unfold LatestStateStore.update
  rw [validate_of_accepted (stored_accepted hreceived), ok_bind, hlook]
  dsimp only
  rw [if_pos hlt]
  exact ⟨_, rfl⟩

/-- **An acceptable delivery** is stored with its receive time and acknowledged. -/
lemma consumeDelivery_accepted {deliveries : List StateDelivery} {delivery : StateDelivery}
    (hclock : ∀ d ∈ deliveries, 0 ≤ d.receivedMonotonicSeconds)
    (hreceived : 0 ≤ delivery.receivedMonotonicSeconds) {service : ServiceState ω σ γ π}
    (h : HoldsLatest service.store deliveries) (haccepts : Accepts deliveries delivery) :
    ∃ store, (consumeDelivery delivery).run service = .ok .acknowledged { service with store } ∧
      HoldsLatest store (deliveries ++ [delivery]) := by
  obtain ⟨state, hstate, hle⟩ := haccepts
  have hfresh := (h.accepts_iff hclock hstate).mp ⟨state, hstate, hle⟩
  set candidate : StoredRobotState :=
    ⟨⟨state, delivery.receivedMonotonicSeconds⟩, stored_accepted hreceived⟩ with hcandidate
  refine ⟨{ states := service.store.states.insert state.deviceId candidate }, ?_, ?_⟩
  · obtain ⟨reason, hupdate⟩ := update_of_le hreceived hfresh
    exact consumeDelivery_of_update hstate hupdate
  · intro r stored
    rw [validStates_append_singleton, validStates_singleton hstate, Dict.lookup_insert_eq_ite]
    by_cases hr : r = state.deviceId
    · subst hr
      rw [if_pos rfl, if_pos rfl, lastMax_append_singleton]
      constructor
      · intro heq
        rw [← Option.some.inj heq]
        exact .inl ⟨hle, rfl⟩
      · rintro (⟨-, heq⟩ | ⟨hlt, hmax⟩)
        · exact congrArg some (Subtype.ext heq.symm)
        · exact absurd (hle _ hmax.mem) (not_le.mpr hlt)
    · rw [if_neg hr, if_neg (Ne.symm hr), List.append_nil, h]

/-- **Any other delivery** is rejected without requeue and leaves the store as it is. -/
lemma consumeDelivery_rejected {deliveries : List StateDelivery} {delivery : StateDelivery}
    (hclock : ∀ d ∈ deliveries, 0 ≤ d.receivedMonotonicSeconds)
    (hreceived : 0 ≤ delivery.receivedMonotonicSeconds) {service : ServiceState ω σ γ π}
    (h : HoldsLatest service.store deliveries) (hrejects : ¬ Accepts deliveries delivery) :
    (consumeDelivery delivery).run service = .ok (.rejected false)
        { service with rejectedStateCount := service.rejectedStateCount + 1 } ∧
      HoldsLatest service.store (deliveries ++ [delivery]) := by
  cases hstate : RobotState.modelValidate delivery.payload with
  | error e =>
    refine ⟨?_, fun r stored => ?_⟩
    · unfold consumeDelivery ingestPayload
      rw [hstate]
      rfl
    · rw [validStates_append_singleton, validStates_singleton_invalid hstate, List.append_nil, h]
  | ok state =>
    have hstale := (not_congr (h.accepts_iff hclock hstate)).mp hrejects
    push Not at hstale
    obtain ⟨existing, hlook, hlt⟩ := hstale
    obtain ⟨reason, hupdate⟩ := update_of_lt hreceived hlook hlt
    refine ⟨consumeDelivery_of_update hstate hupdate, fun r stored => ?_⟩
    rw [validStates_append_singleton, validStates_singleton hstate]
    by_cases hr : state.deviceId = r
    · subst hr
      rw [if_pos rfl, lastMax_append_singleton, h]
      have hmax := (h _ _).mp hlook
      constructor
      · exact fun hmax' => .inr ⟨hlt.trans_le (hmax'.le _ hmax.mem), hmax'⟩
      · rintro (⟨hle, -⟩ | ⟨-, hmax'⟩)
        · exact absurd (hle _ hmax.mem) (not_le.mpr hlt)
        · exact hmax'
    · rw [if_neg hr, List.append_nil, h]

/-- One more delivery extends what was ingested. -/
lemma Ingested.append {deliveries : List StateDelivery} {dispositions : List Disposition}
    {store store' : LatestStateStore} {count count' : ℕ} {delivery : StateDelivery}
    {disposition : Disposition} (h : Ingested deliveries dispositions store count)
    (hlatest : HoldsLatest store' (deliveries ++ [delivery]))
    (hdisposed : (Accepts deliveries delivery → disposition = .acknowledged) ∧
      (¬ Accepts deliveries delivery → disposition = .rejected false))
    (hcount : count' = count + if disposition = .rejected false then 1 else 0) :
    Ingested (deliveries ++ [delivery]) (dispositions ++ [disposition]) store' count' where
  latest := hlatest
  settled := by rw [List.length_append, List.length_append, h.settled]; rfl
  disposed before d after heq := by
    rcases List.eq_nil_or_concat after with rfl | ⟨after, last, rfl⟩
    · -- the new delivery itself
      obtain ⟨rfl, hlast⟩ := List.append_inj' heq rfl
      obtain rfl := List.singleton_inj.mp hlast
      rw [← h.settled, List.getElem?_concat_length]
      exact ⟨fun ha => congrArg some (hdisposed.1 ha), fun ha => congrArg some (hdisposed.2 ha)⟩
    · rw [List.concat_eq_append, ← List.cons_append, ← List.append_assoc] at heq
      obtain ⟨rfl, -⟩ := List.append_inj' heq rfl
      have hlt : before.length < dispositions.length := by
        rw [h.settled, List.length_append, List.length_cons]
        omega
      rw [List.getElem?_append_left hlt]
      exact h.disposed before d after rfl
  counted := by
    rw [hcount, h.counted, List.count_append, List.count_singleton]
    simp only [beq_iff_eq]

/-- Nothing was delivered to a fresh service. -/
lemma Ingested.fresh : Ingested [] [] {} 0 where
  latest r stored := by
    constructor
    · intro h
      rw [AList.lookup_empty] at h
      cases h
    · rintro ⟨before, after, h, -⟩
      simp [validStates] at h
  settled := rfl
  disposed before d after h := by simp at h
  counted := rfl

/-- **A sequence of deliveries** is ingested by the law, and touches nothing else. -/
lemma consumeStates_spec (deliveries : List StateDelivery)
    (hclock : ∀ d ∈ deliveries, 0 ≤ d.receivedMonotonicSeconds) (service : ServiceState ω σ γ π)
    (hstore : service.store = {}) (hcount : service.rejectedStateCount = 0) :
    Ensures (consumeStates deliveries) service (fun (dispositions : List Disposition) service' =>
      Ingested deliveries dispositions service'.store service'.rejectedStateCount ∧
        service' = { service with
          store := service'.store, rejectedStateCount := service'.rejectedStateCount })
      fun _ => False := by
  refine Ensures.mapM (fun pre (dispositions : List Disposition) (service' : ServiceState ω σ γ π) =>
    Ingested pre dispositions service'.store service'.rejectedStateCount ∧
      service' = { service with
        store := service'.store, rejectedStateCount := service'.rejectedStateCount }) ?_ ?_
  · rw [hstore, hcount]
    exact ⟨.fresh, by rw [← hstore, ← hcount]⟩
  rintro pre delivery post dispositions service' hl ⟨h, hframe⟩
  have hpre : ∀ d ∈ pre, 0 ≤ d.receivedMonotonicSeconds := fun d hd =>
    hclock d (hl ▸ List.mem_append_left _ hd)
  have hreceived : 0 ≤ delivery.receivedMonotonicSeconds := hclock delivery (by simp [hl])
  by_cases haccepts : Accepts pre delivery
  · obtain ⟨store, hrun, hlatest⟩ := consumeDelivery_accepted hpre hreceived h.latest haccepts
    refine Ensures.of_run_ok hrun ⟨h.append hlatest ⟨fun _ => rfl, (absurd haccepts ·)⟩ rfl, ?_⟩
    rw [hframe]
  · obtain ⟨hrun, hlatest⟩ := consumeDelivery_rejected hpre hreceived h.latest haccepts
    refine Ensures.of_run_ok hrun ⟨h.append hlatest ⟨(absurd · haccepts), fun _ => rfl⟩ rfl, ?_⟩
    rw [hframe]

/-- **The law of latest states.** For every sequence of deliveries to a fresh service: the store
holds each robot's latest state, the acceptable deliveries are acknowledged and the others
rejected without requeue and counted; a delivery that is invalid or superseded changes nothing but
the counter; and any other sequence with the same states of each robot leaves the same store.

**Proof sketch.** By induction over the deliveries, the store holds the last maximal valid state of
each robot (`consumeStates_spec`). That state depends only on the valid states of the robot, and so
does the store. -/
theorem consumeStates_latest (deliveries : List StateDelivery)
    (hclock : ∀ d ∈ deliveries, 0 ≤ d.receivedMonotonicSeconds) (service : ServiceState ω σ γ π)
    (hstore : service.store = {}) (hcount : service.rejectedStateCount = 0) :
    ∃ dispositions, ∃ service' : ServiceState ω σ γ π,
      (consumeStates deliveries).run service = .ok dispositions service' ∧
      Ingested deliveries dispositions service'.store service'.rejectedStateCount ∧
      (∀ delivery, 0 ≤ delivery.receivedMonotonicSeconds → ¬ Accepts deliveries delivery →
        (consumeDelivery delivery).run service' = .ok (.rejected false)
          { service' with rejectedStateCount := service'.rejectedStateCount + 1 }) ∧
      ∀ deliveries' : List StateDelivery, (∀ d ∈ deliveries', 0 ≤ d.receivedMonotonicSeconds) →
        (∀ r, validStates deliveries' r = validStates deliveries r) →
        ∃ dispositions', ∃ service'' : ServiceState ω σ γ π,
          (consumeStates deliveries').run service = .ok dispositions' service'' ∧
          ∀ r, service''.store.states.lookup r = service'.store.states.lookup r := by
  obtain ⟨dispositions, service', hrun, h, -⟩ :=
    (consumeStates_spec deliveries hclock service hstore hcount).exists_ok
  refine ⟨dispositions, service', hrun, h, fun delivery hreceived hrejects =>
    (consumeDelivery_rejected hclock hreceived h.latest hrejects).1,
    fun deliveries' hclock' hsame => ?_⟩
  obtain ⟨dispositions', service'', hrun', h', -⟩ :=
    (consumeStates_spec deliveries' hclock' service hstore hcount).exists_ok
  refine ⟨dispositions', service'', hrun', fun r => Option.ext fun stored => ?_⟩
  rw [h'.latest, h.latest, hsame]

end Step

/-- A state of one robot, a malformed payload, and a replay of an older state. -/
def replayedDeliveries : List StateDelivery :=
  let report : StatePayloadFields := {
    deviceId := "a", timestamp := 5, x := 0, y := 0, theta := 0, batteryLevel := 50
    loaded := false, deadline := 0, path := [] }
  [{ payload := .wellTyped report, receivedMonotonicSeconds := 1 },
    { payload := .malformed none, receivedMonotonicSeconds := 2 },
    { payload := .wellTyped { report with timestamp := 3 }, receivedMonotonicSeconds := 3 }]

/-- The malformed payload and the replay are rejected, and the receive time stays the first. -/
theorem consumeStates_latest_replayed : ∃ dispositions, ∃ service' : ServiceState ℕ Store ℕ Unit,
    (consumeStates replayedDeliveries).run { engine := EngineState.initial 0, publisher := () } =
        .ok dispositions service' ∧
      dispositions = [.acknowledged, .rejected false, .rejected false] ∧
      (service'.store.states.lookup ⟨"a", by decide⟩).map
        (fun stored => stored.val.receivedMonotonicSeconds) = some 1 ∧
      Ingested replayedDeliveries dispositions service'.store service'.rejectedStateCount := by
  obtain ⟨dispositions, service', hrun, h, -, -⟩ := consumeStates_latest replayedDeliveries
    (by decide +kernel) ({ engine := EngineState.initial 0, publisher := () } :
      ServiceState ℕ Store ℕ Unit) rfl rfl
  have hsettled : Ensures (consumeStates replayedDeliveries)
      ({ engine := EngineState.initial 0, publisher := () } : ServiceState ℕ Store ℕ Unit)
      (fun dispositions service' => dispositions = [.acknowledged, .rejected false, .rejected false] ∧
        (service'.store.states.lookup ⟨"a", by decide⟩).map
          (fun stored => stored.val.receivedMonotonicSeconds) = some 1)
      fun _ => False := by decide +kernel
  obtain ⟨hdispositions, hreceived⟩ := hsettled.get_ok hrun
  exact ⟨dispositions, service', hrun, hdispositions, hreceived, h⟩

end CollisionMonitor
