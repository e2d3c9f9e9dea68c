import CollisionMonitor.Grants
import CollisionMonitor.HeuristicSpec
import CollisionMonitor.Lib.Triple

set_option relaxedAutoImplicit false
set_option autoImplicit false

/-!
# What preparing a tick does to the grants

Preparing a tick runs the lifecycle of every grant, then settles the remaining grants of each
component oldest first. Both are exact: a grant is released for the first reason that applies to
it, and it is retained iff it and the grants retained before it can be completed to a safe
assignment of the component.

Every statement here has the form "the method returns with this effect, or `E` holds"; `E` is
`True` when raising is allowed and `False` when the coefficients of the searches fit.

## Main definitions

* `Completable` — a group of robots can be resumed in a safe assignment of a component.
* `lifecycleRelease`, `lifecycleRecord` — the lifecycle of one grant.
* `settle` — settling the grants of a component oldest first.
* `GrantManager.Consistent` — the invariant of the manager between ticks.
* `Prepared` — the effect of preparing a tick.

## Main results

* `grantGroupHasSafeCompletion_spec` — the completion check is exact.
* `prepareTick_spec` — preparing a tick has exactly the effect `Prepared`.
-/

namespace CollisionMonitor

open Outcome

/-! ## Completing a group of grants -/

/-- The robot is stale or at its goal in this tick. -/
def Unavailable (m : ConflictModel) (r : RobotId) : Prop :=
  ∃ s, m.snapshots.lookup r = some s ∧ s.unavailable = true

/-- Whether a robot is unavailable can be decided. -/
instance (m : ConflictModel) : DecidablePred (Unavailable m) := fun r =>
  match h : m.snapshots.lookup r with
  | none => isFalse (by
      rintro ⟨s, hs, -⟩
      rw [h] at hs
      cases hs)
  | some s => decidable_of_iff (s.unavailable = true) (by simp [Unavailable, h])

/-- Some safe assignment of the component pauses its unavailable robots and resumes the group. -/
def Completable (m : ConflictModel) (K group : List RobotId) : Prop :=
  ∃ x, Safe (componentConstraints K m) x ∧ (∀ r ∈ K, Unavailable m r → x r = .pause) ∧
    ∀ r ∈ group, x r = .resume

/-- Some safe assignment of the component pauses its unavailable robots and resumes some robot. -/
def Progressive (m : ConflictModel) (K : List RobotId) : Prop :=
  ∃ x, Safe (componentConstraints K m) x ∧ (∀ r ∈ K, Unavailable m r → x r = .pause) ∧
    ∃ r ∈ K, x r = .resume

/-- The assignment pauses the unavailable robots of the component and takes its hard actions. -/
def Obeys (m : ConflictModel) (hard : Dict RobotId Action) (K : List RobotId)
    (x : RobotId → Action) : Prop :=
  (∀ r ∈ K, Unavailable m r → x r = .pause) ∧ ∀ r ∈ K, ∀ a, hard.lookup r = some a → x r = a

/-- The coefficients that a completion check computes stay in the integer range of CP-SAT. -/
def NeutralFit (K : List RobotId) : Prop :=
  ∀ priorities, Dict.collect id neutralPriority K = .ok priorities → CoefficientsFit K priorities

/-- Whether the coefficients fit can be decided. -/
instance (component : List RobotId) (priorities : Dict RobotId PriorityBreakdown) :
    Decidable (CoefficientsFit component priorities) :=
  decidable_of_iff (∀ r ∈ component, ∀ coefficients,
    objectiveCoefficients (sorted component) priorities = .ok coefficients →
      ∀ c ∈ coefficients.lookup r, c ≤ cpSatIntegerLimit) Iff.rfl

/-- Whether neutral coefficients fit can be decided. -/
instance (K : List RobotId) : Decidable (NeutralFit K) :=
  inferInstanceAs (Decidable (∀ priorities, Dict.collect id neutralPriority K = .ok priorities →
    CoefficientsFit K priorities))

section Completion

variable {m : ConflictModel} {K group : List RobotId}

/-- In a component that is observed the unavailable robots are found. -/
lemma unavailableIds_eq (hobs : ∀ r ∈ K, r ∈ m.snapshots) :
    unavailableIds K m = .ok (K.filter fun r => decide (Unavailable m r)) := by
  refine filterM_of_ok fun r hr => ?_
  obtain ⟨s, hs⟩ := Dict.exists_lookup (hobs r hr)
  rw [item_eq_ok.mpr hs, ok_bind, pure_def]
  congr 1
  simp [Unavailable, hs, RobotSnapshot.unavailable, Bool.or_comm]

/-- Every robot has a neutral priority. -/
lemma neutralPriority_total (r : RobotId) :
    ∃ p, neutralPriority r = .ok p ∧ p.val.robotId = r := by
  refine ⟨_, validate_of_accepted ?_, rfl⟩
  rw [PriorityTerms.postInit_eq_ok]
  simp [PriorityTerms.terms, PriorityTerms.expectedSecondary]

/-- The hard actions of a completion check, for a group of available robots. -/
lemma admissible_completionHard {constraints : List PairwiseCompatibility}
    {unavailable : List RobotId} (hdisj : ∀ r ∈ group, r ∉ unavailable) {x : RobotId → Action} :
    Admissible constraints (completionHard unavailable group) x ↔
      Safe constraints x ∧ (∀ r ∈ unavailable, x r = .pause) ∧ ∀ r ∈ group, x r = .resume := by
  have hlook : ∀ r, (completionHard unavailable group).lookup r =
      if r ∈ group then some .resume else if r ∈ unavailable then some .pause else none := by
    intro r
    rw [completionHard, Dict.lookup_update, Dict.lookup_ofKeys, Dict.lookup_ofKeys]
    split_ifs <;> rfl
  refine and_congr_right fun _ => ?_
  constructor
  · intro h
    refine ⟨fun r hr => h r .pause ?_, fun r hr => h r .resume ?_⟩
    · rw [hlook, if_neg fun hg => hdisj r hg hr, if_pos hr]
    · rw [hlook, if_pos hr]
  · rintro ⟨hpause, hresume⟩ r a hra
    rw [hlook] at hra
    split_ifs at hra with hg hu
    · rw [hresume r hg, Option.some.inj hra]
    · rw [hpause r hu, Option.some.inj hra]

/-- The hard assignments of a completion are about the group and the unavailable robots. -/
lemma mem_completionHard {unavailable : List RobotId} {r : RobotId} :
    r ∈ completionHard unavailable group ↔ r ∈ group ∨ r ∈ unavailable := by
  simp [completionHard]

/-- **The completion check is exact**: it holds iff the group can be resumed in a safe assignment
that pauses the unavailable robots.

**Proof sketch.** A group with an unavailable robot has no completion, and the check says so.
Otherwise the heuristic is run with the group resumed and the unavailable robots paused, and it
finds progress exactly if an assignment exists (`solve_spec`). -/
theorem grantGroupHasSafeCompletion_spec {config : MonitorConfig} {E : Prop} (hm : m.WellFormed)
    (hK : K ∈ m.connectedComponents) (hgroup : ∀ r ∈ group, r ∈ K) (hne : group ≠ [])
    (hfit : E ∨ NeutralFit K) :
    Returns (grantGroupHasSafeCompletion config K group m)
      (fun safe => safe = true ↔ Completable m K group) E := by
  set unavailable := K.filter fun r => decide (Unavailable m r) with hunavailable
  have hmem : ∀ r, r ∈ unavailable ↔ r ∈ K ∧ Unavailable m r := fun r => by
    simp [hunavailable]
  unfold grantGroupHasSafeCompletion
  rw [unavailableIds_eq fun r hr => hm.mem_snapshots hK hr, ok_bind]
  split_ifs with hany
  · -- an unavailable robot of the group cannot be resumed
    obtain ⟨r, hr, hru⟩ := List.any_eq_true.mp hany
    rw [decide_eq_true_eq, hmem] at hru
    refine Returns.ok ?_
    simp only [Bool.false_eq_true, false_iff]
    rintro ⟨x, -, hpause, hresume⟩
    have := (hpause r hru.1 hru.2).symm.trans (hresume r hr)
    cases this
  have hdisj : ∀ r ∈ group, r ∉ unavailable := by
    intro r hr hru
    exact hany (List.any_eq_true.mpr ⟨r, hr, decide_eq_true hru⟩)
  obtain ⟨priorities, hpriorities⟩ := Dict.collect_total id neutralPriority K
    fun r _ => by
      obtain ⟨p, hp, -⟩ := neutralPriority_total r
      exact ⟨p, hp⟩
  rw [hpriorities, ok_bind]
  have hinput : ComponentInput K m priorities (completionHard unavailable group) :=
    { nonempty := hm.decomposes.nonempty K hK
      nodup := hm.nodup hK
      observed := fun r hr => hm.mem_snapshots hK hr
      scored := fun r hr => by
        obtain ⟨p, hp, hlook⟩ := Dict.lookup_collect_id hpriorities hr
        obtain ⟨p', hp', hid⟩ := neutralPriority_total r
        rw [hp] at hp'
        obtain rfl := Except.ok.inj hp'
        exact ⟨p, hlook, hid⟩
      hard_mem := fun r hr => by
        rcases mem_completionHard.mp hr with h | h
        · exact hgroup r h
        · exact ((hmem r).mp h).1 }
  refine (Returns.of_runs (fun r hr => solve_spec hr) ?_).bind fun r hr => Returns.ok ?_
  · exact hfit.imp id fun hfit => solve_total hinput (hfit priorities hpriorities)
  · rw [Bool.and_eq_true, and_iff_right_of_imp hr.feasible_of_progress, hr.progress_iff]
    constructor
    · rintro ⟨x, hx, -⟩
      obtain ⟨hsafe, hpause, hresume⟩ := (admissible_completionHard hdisj).mp hx
      exact ⟨x, hsafe, fun r hr hru => hpause r ((hmem r).mpr ⟨hr, hru⟩), hresume⟩
    · rintro ⟨x, hsafe, hpause, hresume⟩
      obtain ⟨r, hr⟩ := List.exists_mem_of_ne_nil _ hne
      refine ⟨x, (admissible_completionHard hdisj).mpr ⟨hsafe, fun r hr => ?_, hresume⟩,
        r, hgroup r hr, hresume r hr⟩
      exact hpause r ((hmem r).mp hr).1 ((hmem r).mp hr).2

end Completion

/-! ## The lifecycle of a grant -/

section Lifecycle

variable (config : MonitorConfig) (m : ConflictModel) (nowMs tick : ℤ)

/-- The reason for which the lifecycle releases the grant of a robot in a tick, if any. -/
def lifecycleRelease (robotId : RobotId) (record : GrantRecordFields) :
    Option GrantReleaseReason :=
  match m.snapshots.lookup robotId with
  | none =>
    if tick - record.lastSeenTick ≥ GrantManager.staleTickLimit config then
      some .staleOrDisappeared
    else none
  | some snapshot =>
    if snapshot.stale = true ∨ nowMs - snapshot.receivedAtMs ≥ config.staleLimitMs then
      some .staleOrDisappeared
    else if snapshot.atGoal = true then some .atGoal
    else if tick - record.acquisitionTick ≥ config.grantMaximumHoldTicks then
      some .maximumLeaseFaultGuard
    else if neighbours m.adjacency robotId = []
        ∧ record.clearanceCounter + 1 ≥ config.grantClearanceReleaseTicks
        ∧ tick - record.acquisitionTick ≥ config.grantMinimumHoldTicks then
      some .conflictCleared
    else none

/-- The record of a grant that the lifecycle keeps. -/
def lifecycleRecord (robotId : RobotId) (record : GrantRecordFields) : GrantRecordFields :=
  if robotId ∈ m.snapshots then
    { record with
      lastSeenTick := tick
      clearanceCounter :=
        if neighbours m.adjacency robotId = [] then record.clearanceCounter + 1 else 0 }
  else record

/-- The grant of a robot after the lifecycle. -/
def lifecycleGrant (robotId : RobotId) (record : GrantRecordFields) : Option GrantRecordFields :=
  if lifecycleRelease config m nowMs tick robotId record = none then
    some (lifecycleRecord m tick robotId record)
  else none

end Lifecycle

/-- A record is accepted iff its ticks are in order and its counter is not negative. -/
lemma GrantRecordFields.postInit_eq_ok {r : GrantRecordFields} : r.postInit = .ok () ↔
    1 ≤ r.acquisitionTick ∧ r.acquisitionTick ≤ r.lastSeenTick ∧ 0 ≤ r.clearanceCounter := by
  simp [GrantRecordFields.postInit, bind_eq_ok]

namespace GrantManager

/-- The fields of the record a robot holds. -/
def record (g : GrantManager) (r : RobotId) : Option GrantRecordFields :=
  (g.activeGrants.lookup r).map Subtype.val

/-- Writing a grant changes the record of its robot only. -/
lemma record_insert (g : GrantManager) (r r' : RobotId) (grant : GrantRecord) :
    ({ g with activeGrants := g.activeGrants.insert r grant } : GrantManager).record r' =
      if r' = r then some grant.val else g.record r' := by
  rw [record, Dict.lookup_insert_eq_ite]
  split_ifs <;> rfl

/-- A robot has an active grant iff it has a record. -/
lemma mem_activeGrants_iff {g : GrantManager} {r : RobotId} :
    r ∈ g.activeGrants ↔ ∃ record, g.record r = some record := by
  rw [← AList.lookup_isSome, record, ← Option.isSome_iff_exists, Option.isSome_map]

/-- A robot without an active grant has no record. -/
lemma record_eq_none {g : GrantManager} {r : RobotId} :
    g.record r = none ↔ r ∉ g.activeGrants := by
  rw [record, Option.map_eq_none_iff, AList.lookup_eq_none]

/-- A record that is kept is valid. -/
lemma valid_of_record {g : GrantManager} {r : RobotId} {record : GrantRecordFields}
    (h : g.record r = some record) : 1 ≤ record.acquisitionTick ∧
      record.acquisitionTick ≤ record.lastSeenTick ∧ 0 ≤ record.clearanceCounter := by
  obtain ⟨⟨fields, hvalid⟩, -, rfl⟩ := Option.map_eq_some_iff.mp h
  exact GrantRecordFields.postInit_eq_ok.mp hvalid

/-- Every record is keyed by its robot and was not seen after the current tick. -/
def RecordsConsistent (g : GrantManager) : Prop :=
  ∀ r record, g.record r = some record → record.robotId = r ∧ record.lastSeenTick ≤ g.tickId

/-- **The invariant of the manager between ticks.** -/
structure Consistent (g : GrantManager) : Prop where
  closed : g.tickOpen = false
  tick_nonneg : 0 ≤ g.tickId
  records : g.RecordsConsistent
  ages_nonneg : ∀ r age, g.waitingAges.lookup r = some age → 0 ≤ age
  mem_actions : ∀ r, r ∈ g.previousActions ↔ r ∈ g.waitingAges

/-- Only the grants and the release events differ. -/
def OnlyGrantsChanged (g g' : GrantManager) : Prop :=
  g' = { g with activeGrants := g'.activeGrants, pendingReleases := g'.pendingReleases }

/-- One change of grants may follow another. -/
lemma OnlyGrantsChanged.trans {g g' g'' : GrantManager} (h : OnlyGrantsChanged g g')
    (h' : OnlyGrantsChanged g' g'') : OnlyGrantsChanged g g'' := by
  unfold OnlyGrantsChanged at *
  rw [h', h]

/-- A change of grants leaves the tick. -/
lemma OnlyGrantsChanged.tickId_eq {g g' : GrantManager} (h : OnlyGrantsChanged g g') :
    g'.tickId = g.tickId := by
  rw [h]

/-- Releasing a grant removes it and nothing else. -/
lemma released_spec (g : GrantManager) (r : RobotId) (reason : GrantReleaseReason) :
    OnlyGrantsChanged g (g.released r reason) ∧
      (∀ r', (g.released r reason).record r' = if r' = r then none else g.record r') ∧
      (g.released r reason).pendingReleases = g.pendingReleases ++
        if r ∈ g.activeGrants then [⟨r, g.tickId, reason⟩] else [] := by
  unfold released
  split_ifs with hmem
  · refine ⟨rfl, fun r' => ?_, rfl⟩
    unfold record
    rw [Dict.lookup_erase_eq_ite]
    split_ifs <;> rfl
  · refine ⟨rfl, fun r' => ?_, by simp⟩
    split_ifs with heq
    · rw [heq, record_eq_none]
      exact hmem
    · rfl

/-- The manager after the grants of `l` were released in order. -/
def releasedAll (g : GrantManager) (l : List (RobotId × GrantReleaseReason)) : GrantManager :=
  l.foldl (fun g release => g.released release.1 release.2) g

/-- Releasing the grants of distinct holders removes these and appends their events. -/
lemma releasedAll_spec {l : List (RobotId × GrantReleaseReason)} (hnd : (l.map Prod.fst).Nodup)
    (g : GrantManager) (hmem : ∀ r ∈ l.map Prod.fst, r ∈ g.activeGrants) :
    OnlyGrantsChanged g (g.releasedAll l) ∧
      (∀ r, (g.releasedAll l).record r = if r ∈ l.map Prod.fst then none else g.record r) ∧
      (g.releasedAll l).pendingReleases = g.pendingReleases ++
        l.map fun release => ⟨release.1, g.tickId, release.2⟩ := by
  induction l generalizing g with
  | nil => exact ⟨rfl, by simp [releasedAll], by simp [releasedAll]⟩
  | cons release l ih =>
    rw [List.map_cons, List.nodup_cons] at hnd
    rw [List.map_cons, List.forall_mem_cons] at hmem
    obtain ⟨hframe, hrecord, hpending⟩ := g.released_spec release.1 release.2
    have hmem' : ∀ r ∈ l.map Prod.fst, r ∈ (g.released release.1 release.2).activeGrants := by
      intro r hr
      have hne : r ≠ release.1 := fun heq => hnd.1 (heq ▸ hr)
      rw [mem_activeGrants_iff, hrecord, if_neg hne, ← mem_activeGrants_iff]
      exact hmem.2 r hr
    obtain ⟨hframe', hrecord', hpending'⟩ := ih hnd.2 _ hmem'
    refine ⟨hframe.trans hframe', fun r => ?_, ?_⟩
    · rw [releasedAll, List.foldl_cons, ← releasedAll, hrecord', hrecord]
      simp only [List.map_cons, List.mem_cons]
      by_cases hhead : r = release.1 <;> by_cases htail : r ∈ l.map Prod.fst <;> simp [hhead, htail]
    · rw [releasedAll, List.foldl_cons, ← releasedAll, hpending', hpending, if_pos hmem.1,
        hframe.tickId_eq, List.map_cons, List.append_assoc]
      rfl

/-! ### One pass of the lifecycle -/

section Reconcile

variable {config : MonitorConfig} {m : ConflictModel} {nowMs : ℤ} {E : Prop}

/-- The effect of the lifecycle on the grants of the robots in `l`. -/
structure Reconciled (config : MonitorConfig) (m : ConflictModel) (nowMs : ℤ) (l : List RobotId)
    (g g' : GrantManager) : Prop where
  frame : OnlyGrantsChanged g g'
  record : ∀ r, g'.record r =
    if r ∈ l then (g.record r).bind (lifecycleGrant config m nowMs g.tickId r) else g.record r
  releases : g'.pendingReleases = g.pendingReleases ++ l.flatMap fun r =>
    (((g.record r).bind (lifecycleRelease config m nowMs g.tickId r)).map fun reason =>
      GrantRelease.mk r g.tickId reason).toList

/-- A grant that the lifecycle releases, from a manager in which only its own record has
changed. -/
lemma reconciled_released {g g' : GrantManager} {r : RobotId} {record : GrantRecordFields}
    {reason : GrantReleaseReason} (hrecord : g.record r = some record)
    (hrelease : lifecycleRelease config m nowMs g.tickId r record = some reason)
    (hframe : OnlyGrantsChanged g g') (hpending : g'.pendingReleases = g.pendingReleases)
    (hother : ∀ r', r' ≠ r → g'.record r' = g.record r') (hholds : r ∈ g'.activeGrants) :
    Reconciled config m nowMs [r] g (g'.released r reason) := by
  obtain ⟨hframe', hrec, hpending'⟩ := g'.released_spec r reason
  refine ⟨hframe.trans hframe', fun r' => ?_, ?_⟩
  · rw [hrec]
    simp only [List.mem_singleton]
    split_ifs with heq
    · rw [heq, hrecord, Option.bind_some, lifecycleGrant, hrelease]
      rfl
    · exact hother r' heq
  · rw [hpending', if_pos hholds, hpending, hframe.tickId_eq]
    simp [hrecord, hrelease]

/-- A grant that the lifecycle keeps, under its updated record. -/
lemma reconciled_kept {g g' : GrantManager} {r : RobotId} {record : GrantRecordFields}
    (hrecord : g.record r = some record)
    (hrelease : lifecycleRelease config m nowMs g.tickId r record = none)
    (hframe : OnlyGrantsChanged g g') (hpending : g'.pendingReleases = g.pendingReleases)
    (hrec : ∀ r', g'.record r' =
      if r' = r then some (lifecycleRecord m g.tickId r record) else g.record r') :
    Reconciled config m nowMs [r] g g' := by
  refine ⟨hframe, fun r' => ?_, ?_⟩
  · rw [hrec]
    simp only [List.mem_singleton]
    split_ifs with heq
    · rw [heq, hrecord, Option.bind_some, lifecycleGrant, if_pos hrelease]
    · rfl
  · simp [hpending, hrecord, hrelease]

/-- The update of an observed robot's record passes the record's own check. -/
lemma lifecycleRecord_valid {g : GrantManager} (hcons : g.RecordsConsistent) {r : RobotId}
    {record : GrantRecordFields} (hrecord : g.record r = some record) (hmem : r ∈ m.snapshots) :
    (lifecycleRecord m g.tickId r record).postInit = .ok () := by
  obtain ⟨hacq, hseen, hcounter⟩ := valid_of_record hrecord
  obtain ⟨-, htick⟩ := hcons r _ hrecord
  rw [GrantRecordFields.postInit_eq_ok, lifecycleRecord, if_pos hmem]
  refine ⟨hacq, hseen.trans htick, ?_⟩
  dsimp only
  split_ifs <;> omega

/-- The updated record, as the code writes it. -/
lemma lifecycleRecord_observed {r : RobotId} (hmem : r ∈ m.snapshots) (tick : ℤ)
    (record : GrantRecordFields) :
    { record with
      lastSeenTick := tick
      clearanceCounter := if (!(neighbours m.adjacency r).isEmpty) = true then 0
        else record.clearanceCounter + 1 } = lifecycleRecord m tick r record := by
  rw [lifecycleRecord, if_pos hmem]
  cases neighbours m.adjacency r <;> rfl

/-- The lifecycle of the grant of an observed robot. -/
lemma lifecycleRelease_observed {tick : ℤ} {r : RobotId} {record : GrantRecordFields}
    {snapshot : RobotSnapshot} (hsnap : m.snapshots.lookup r = some snapshot) :
    lifecycleRelease config m nowMs tick r record =
      if snapshot.stale = true ∨ nowMs - snapshot.receivedAtMs ≥ config.staleLimitMs then
        some .staleOrDisappeared
      else if snapshot.atGoal = true then some .atGoal
      else if tick - record.acquisitionTick ≥ config.grantMaximumHoldTicks then
        some .maximumLeaseFaultGuard
      else if neighbours m.adjacency r = []
          ∧ record.clearanceCounter + 1 ≥ config.grantClearanceReleaseTicks
          ∧ tick - record.acquisitionTick ≥ config.grantMinimumHoldTicks then
        some .conflictCleared
      else none := by
  rw [lifecycleRelease, hsnap]

/-- The test for a cleared conflict, as the code writes it with the updated counter. -/
lemma cleared_iff {r : RobotId} {counter held : ℤ} :
    ((!(!(neighbours m.adjacency r).isEmpty)) = true ∧
      (if (!(neighbours m.adjacency r).isEmpty) = true then 0 else counter + 1) ≥
        config.grantClearanceReleaseTicks ∧
      held ≥ config.grantMinimumHoldTicks) ↔
    neighbours m.adjacency r = [] ∧ counter + 1 ≥ config.grantClearanceReleaseTicks ∧
      held ≥ config.grantMinimumHoldTicks := by
  cases neighbours m.adjacency r <;> simp

/-- **One grant.** The lifecycle of a robot's grant releases it for the first reason that
applies, or updates its record; nothing else changes.

**Proof sketch.** The branches of the method are followed in its order, which is the order of the
cases of `lifecycleRelease`. In every branch the record is removed with that reason, or updated as
`lifecycleRecord` says. -/
lemma reconcileGrant_spec {g : GrantManager} (hcons : g.RecordsConsistent) (r : RobotId) :
    Ensures (reconcileGrant config m nowMs r) g
      (fun _ g' => Reconciled config m nowMs [r] g g') fun _ => E := by
  unfold reconcileGrant
  refine Ensures.bind_get ?_
  cases hlook : g.activeGrants.lookup r with
  | none =>
    have hnone : g.record r = none := by rw [record, hlook]; rfl
    refine Ensures.pure ⟨rfl, fun r' => ?_, ?_⟩
    · simp only [List.mem_singleton]
      split_ifs with heq
      · rw [heq, hnone]
        rfl
      · rfl
    · simp [hnone]
  | some record =>
    have hrecord : g.record r = some record.val := by rw [GrantManager.record, hlook]; rfl
    have hreleased : ∀ reason,
        lifecycleRelease config m nowMs g.tickId r record.val = some reason →
        Reconciled config m nowMs [r] g (g.released r reason) := fun _ hrelease =>
      reconciled_released hrecord hrelease rfl rfl (fun _ _ => rfl)
        (mem_activeGrants_iff.mpr ⟨_, hrecord⟩)
    dsimp only
    cases hsnap : m.snapshots.lookup r with
    | none =>
      dsimp only
      split_ifs with habsent
      · refine Ensures.of_modify (hreleased _ ?_)
        rw [lifecycleRelease, hsnap]
        exact if_pos habsent
      · refine Ensures.pure (reconciled_kept hrecord ?_ rfl rfl fun r' => ?_)
        · rw [lifecycleRelease, hsnap]
          exact if_neg habsent
        · split_ifs with heq
          · rw [heq, hrecord, lifecycleRecord, if_neg (AList.lookup_eq_none.mp hsnap)]
          · rfl
    | some snapshot =>
      have hmem : r ∈ m.snapshots := Dict.mem_of_lookup hsnap
      have hrel : lifecycleRelease config m nowMs g.tickId r record.val = _ :=
        lifecycleRelease_observed hsnap
      dsimp only
      by_cases hstale : snapshot.stale = true ∨ nowMs - snapshot.receivedAtMs ≥ config.staleLimitMs
      · rw [if_pos hstale]
        exact Ensures.of_modify (hreleased _ (by rw [hrel, if_pos hstale]))
      rw [if_neg hstale] at hrel ⊢
      by_cases hgoal : snapshot.atGoal = true
      · rw [if_pos hgoal]
        exact Ensures.of_modify (hreleased _ (by rw [hrel, if_pos hgoal]))
      rw [if_neg hgoal] at hrel ⊢
      by_cases hlease : g.tickId - record.val.acquisitionTick ≥ config.grantMaximumHoldTicks
      · rw [if_pos hlease]
        exact Ensures.of_modify (hreleased _ (by rw [hrel, if_pos hlease]))
      rw [if_neg hlease] at hrel ⊢
      -- the record is updated first, and released afterwards when the conflict has cleared
      have hfields := lifecycleRecord_observed hmem g.tickId record.val
      refine Ensures.bind_lift (P := fun u => u.val = lifecycleRecord m g.tickId r record.val)
        (Returns.of_eq_ok (validate_of_accepted
          (hfields ▸ lifecycleRecord_valid hcons hrecord hmem)) hfields) fun u hu => ?_
      refine Ensures.bind_modify ?_
      have hrec' := fun r' => hu ▸ g.record_insert r r' u
      by_cases hclear : neighbours m.adjacency r = [] ∧
          record.val.clearanceCounter + 1 ≥ config.grantClearanceReleaseTicks ∧
          g.tickId - record.val.acquisitionTick ≥ config.grantMinimumHoldTicks
      · rw [if_pos hclear] at hrel
        rw [if_pos (cleared_iff.mpr hclear)]
        exact Ensures.of_modify <| reconciled_released hrecord hrel rfl rfl
          (fun r' hne => by rw [hrec', if_neg hne])
          (mem_activeGrants_iff.mpr ⟨_, by rw [hrec', if_pos rfl]⟩)
      · rw [if_neg hclear] at hrel
        rw [if_neg fun h => hclear (cleared_iff.mp h)]
        exact Ensures.pure (reconciled_kept hrecord hrel rfl rfl hrec')

/-- Records stay consistent while the tick grows, if each is an old one or was seen now. -/
lemma RecordsConsistent.mono {g g' : GrantManager} (h : g.RecordsConsistent)
    (htick : g.tickId ≤ g'.tickId) (hrec : ∀ r record, g'.record r = some record →
      ∃ record', g.record r = some record' ∧ record.robotId = record'.robotId ∧
        (record.lastSeenTick = record'.lastSeenTick ∨ record.lastSeenTick = g'.tickId)) :
    g'.RecordsConsistent := by
  intro r record hr
  obtain ⟨record', hr', hid, hseen⟩ := hrec r record hr
  obtain ⟨hid', hseen'⟩ := h r record' hr'
  refine ⟨hid.trans hid', ?_⟩
  rcases hseen with hseen | hseen <;> omega

/-- A release keeps the records consistent. -/
lemma RecordsConsistent.released {g : GrantManager} (h : g.RecordsConsistent) (r : RobotId)
    (reason : GrantReleaseReason) : (g.released r reason).RecordsConsistent := by
  obtain ⟨hframe, hrec, -⟩ := g.released_spec r reason
  refine h.mono hframe.tickId_eq.ge fun r' record hr' => ?_
  rw [hrec] at hr'
  split_ifs at hr'
  exact ⟨record, hr', rfl, .inl rfl⟩

/-- A kept record keeps its robot and its acquisition tick. -/
lemma lifecycleGrant_eq_some {tick : ℤ} {r : RobotId} {record record' : GrantRecordFields}
    (h : lifecycleGrant config m nowMs tick r record = some record') :
    lifecycleRelease config m nowMs tick r record = none ∧ record'.robotId = record.robotId ∧
      record'.acquisitionTick = record.acquisitionTick ∧
      (record'.lastSeenTick = record.lastSeenTick ∨ record'.lastSeenTick = tick) := by
  unfold lifecycleGrant at h
  split_ifs at h with hnone
  rw [← Option.some.inj h, lifecycleRecord]
  by_cases hobs : r ∈ m.snapshots
  · rw [if_pos hobs]
    exact ⟨hnone, rfl, rfl, .inr rfl⟩
  · rw [if_neg hobs]
    exact ⟨hnone, rfl, rfl, .inl rfl⟩

/-- So does the reconciliation. -/
lemma Reconciled.consistent {l : List RobotId} {g g' : GrantManager}
    (h : Reconciled config m nowMs l g g') (hcons : g.RecordsConsistent) :
    g'.RecordsConsistent := by
  refine hcons.mono h.frame.tickId_eq.ge fun r record hr => ?_
  rw [h.record] at hr
  split_ifs at hr
  · obtain ⟨record', hrecord', hkept⟩ := Option.bind_eq_some_iff.mp hr
    obtain ⟨-, hid, -, hseen⟩ := lifecycleGrant_eq_some hkept
    rw [h.frame.tickId_eq]
    exact ⟨record', hrecord', hid, hseen⟩
  · exact ⟨record, hr, rfl, .inl rfl⟩

/-- The pass over one more robot. -/
lemma Reconciled.step {l : List RobotId} {r : RobotId} (hr : r ∉ l) {g g' g'' : GrantManager}
    (h : Reconciled config m nowMs l g g') (h' : Reconciled config m nowMs [r] g' g'') :
    Reconciled config m nowMs (l ++ [r]) g g'' where
  frame := h.frame.trans h'.frame
  record r' := by
    rw [h'.record, h.record, h.frame.tickId_eq]
    simp only [List.mem_append, List.mem_singleton]
    by_cases heq : r' = r
    · subst heq
      simp [hr]
    · simp [heq]
  releases := by
    have hrec : g'.record r = g.record r := by rw [h.record, if_neg hr]
    rw [h'.releases, h.releases, h.frame.tickId_eq, List.flatMap_singleton, hrec,
      List.flatMap_append, List.flatMap_singleton, List.append_assoc]

/-- **The lifecycle of all grants**, in robot order. -/
lemma reconcileGrants_spec {g : GrantManager} (hcons : g.RecordsConsistent) {l : List RobotId}
    (hnd : l.Nodup) : Ensures (l.forM (reconcileGrant config m nowMs)) g
      (fun _ g' => Reconciled config m nowMs l g g') fun _ => E := by
  refine Ensures.forM (fun pre g' => Reconciled config m nowMs pre g g')
    ⟨rfl, by simp, by simp⟩ fun pre r post g' hl h => ?_
  have hr : r ∉ pre := by
    rw [hl, List.nodup_append] at hnd
    exact fun hmem => hnd.2.2 r hmem r List.mem_cons_self rfl
  exact (reconcileGrant_spec (h.consistent hcons) r).mono fun _ g'' h' => h.step hr h'

/-- Forgetting the robots that are not observed, for ages and actions with the same keys.

**Proof sketch.** The loop erases the entries of the robots with an age that are not observed; its
invariant says which entries are gone. -/
lemma forgetDisappeared_spec (m : ConflictModel) (g : GrantManager) :
    Ensures (forgetDisappeared m) g (fun _ g' => ∃ ages actions,
      g' = { g with waitingAges := ages, previousActions := actions } ∧
      (∀ r, ages.lookup r = if r ∈ m.snapshots then g.waitingAges.lookup r else none) ∧
      ∀ r, actions.lookup r =
        if r ∈ g.waitingAges ∧ r ∉ m.snapshots then none else g.previousActions.lookup r)
      fun _ => E := by
  unfold forgetDisappeared
  refine Ensures.bind_get ?_
  set gone := g.waitingAges.keys.filter fun r => decide (r ∉ m.snapshots) with hgone
  have hmem : ∀ r, r ∈ gone ↔ r ∈ g.waitingAges ∧ r ∉ m.snapshots := fun r => by
    rw [hgone, List.mem_filter, decide_eq_true_eq, ← AList.mem_keys]
  refine (Ensures.forM (l := gone) (fun pre g' => ∃ ages actions,
    g' = { g with waitingAges := ages, previousActions := actions } ∧
    (∀ r, ages.lookup r = if r ∈ pre then none else g.waitingAges.lookup r) ∧
    ∀ r, actions.lookup r = if r ∈ pre then none else g.previousActions.lookup r)
    ⟨g.waitingAges, g.previousActions, rfl, by simp, by simp⟩ ?_).mono ?_
  · rintro pre r post g' - ⟨ages, actions, rfl, hages, hactions⟩
    refine Ensures.of_modify ⟨ages.erase r, actions.erase r, rfl, fun r' => ?_, fun r' => ?_⟩
    · rw [Dict.lookup_erase_eq_ite, hages]
      simp only [List.mem_append, List.mem_singleton]
      by_cases heq : r' = r <;> simp [heq]
    · rw [Dict.lookup_erase_eq_ite, hactions]
      simp only [List.mem_append, List.mem_singleton]
      by_cases heq : r' = r <;> simp [heq]
  · rintro - g' ⟨ages, actions, rfl, hages, hactions⟩
    refine ⟨ages, actions, rfl, fun r => ?_, fun r => ?_⟩
    · rw [hages]
      by_cases hobs : r ∈ m.snapshots
      · rw [if_pos hobs, if_neg fun h => ((hmem r).mp h).2 hobs]
      · rw [if_neg hobs]
        split_ifs with h
        · rfl
        · exact AList.lookup_eq_none.mpr fun hage => h ((hmem r).mpr ⟨hage, hobs⟩)
    · rw [hactions]
      exact if_congr (hmem r) rfl rfl

end Reconcile

end GrantManager

/-! ## Settling the grants of a component -/

section Settle

variable {m : ConflictModel} {K : List RobotId}

open Classical in
/-- Settle the grants of a component oldest first: a grant is retained iff it can be completed
together with the grants retained before it, else it is released. The result lists the retained
robots and the releases. -/
noncomputable def settle (m : ConflictModel) (K : List RobotId) :
    List RobotId → List RobotId → List RobotId × List (RobotId × GrantReleaseReason)
  | retained, [] => (retained, [])
  | retained, r :: rest =>
    if Completable m K (retained ++ [r]) then settle m K (retained ++ [r]) rest
    else ((settle m K retained rest).1,
      (r, if retained ≠ [] then .componentMergeConflict else .unsafeGeometry) ::
        (settle m K retained rest).2)

/-- The next candidate is kept if the group with it can be completed. -/
lemma settle_of_completable {retained rest : List RobotId} {r : RobotId}
    (h : Completable m K (retained ++ [r])) :
    settle m K retained (r :: rest) = settle m K (retained ++ [r]) rest := by
  rw [settle, if_pos h]

/-- Otherwise it is released, with the reason that fits. -/
lemma settle_of_not_completable {retained rest : List RobotId} {r : RobotId}
    (h : ¬ Completable m K (retained ++ [r])) :
    settle m K retained (r :: rest) = ((settle m K retained rest).1,
      (r, if retained ≠ [] then .componentMergeConflict else .unsafeGeometry) ::
        (settle m K retained rest).2) := by
  rw [settle, if_neg h]

/-- Every grant is either retained or released. -/
lemma settle_perm (retained l : List RobotId) :
    ((settle m K retained l).1 ++ (settle m K retained l).2.map Prod.fst).Perm (retained ++ l) := by
  induction l generalizing retained with
  | nil => simp [settle]
  | cons r l ih =>
    by_cases h : Completable m K (retained ++ [r])
    · rw [settle_of_completable h]
      simpa using ih (retained ++ [r])
    · rw [settle_of_not_completable h, List.map_cons]
      exact List.perm_middle.trans (((ih retained).cons r).trans List.perm_middle.symm)

/-- Who was retained stays so. -/
lemma subset_settle {retained l : List RobotId} {r : RobotId} (hr : r ∈ retained) :
    r ∈ (settle m K retained l).1 := by
  induction l generalizing retained with
  | nil => exact hr
  | cons a l ih =>
    by_cases h : Completable m K (retained ++ [a])
    · rw [settle_of_completable h]
      exact ih (List.mem_append_left _ hr)
    · rw [settle_of_not_completable h]
      exact ih hr

/-- Who is retained was retained or is a candidate. -/
lemma mem_of_mem_settle {retained l : List RobotId} {r : RobotId}
    (hr : r ∈ (settle m K retained l).1) : r ∈ retained ∨ r ∈ l :=
  List.mem_append.mp ((settle_perm retained l).subset (List.mem_append_left _ hr))

/-- The retained grants can be completed together. -/
lemma completable_settle {retained l : List RobotId}
    (h : retained = [] ∨ Completable m K retained) :
    (settle m K retained l).1 = [] ∨ Completable m K (settle m K retained l).1 := by
  induction l generalizing retained with
  | nil => exact h
  | cons r l ih =>
    by_cases hc : Completable m K (retained ++ [r])
    · rw [settle_of_completable hc]
      exact ih (.inr hc)
    · rw [settle_of_not_completable hc]
      exact ih h

end Settle

namespace GrantManager

section Retain

variable {config : MonitorConfig} {m : ConflictModel} {E : Prop}

/-- The grants of a component settled from the state after the lifecycle. -/
noncomputable def settled (after : GrantManager) (m : ConflictModel) (K : List RobotId) :
    List RobotId × List (RobotId × GrantReleaseReason) :=
  settle m K [] ((after.grantCandidates m K).map fun record => record.val.robotId)

/-- The grants retained in a component can be completed together. -/
lemma completable_settled (after : GrantManager) (m : ConflictModel) (K : List RobotId) :
    (after.settled m K).1 = [] ∨ Completable m K (after.settled m K).1 :=
  completable_settle (.inl rfl)

/-- The robots whose grants compete in a component. -/
lemma candidateIds_perm {g : GrantManager} (hcons : g.RecordsConsistent) (K : List RobotId) :
    ((g.grantCandidates m K).map fun record => record.val.robotId).Perm
      (K.filter fun r => decide (neighbours m.adjacency r ≠ []) && decide (r ∈ g.activeGrants)) := by
  have hsort := (sortedBy_perm (fun record : GrantRecord =>
    toLex (record.val.acquisitionTick, record.val.robotId)) ((K.filter fun r =>
      !(neighbours m.adjacency r).isEmpty).filterMap fun r => g.activeGrants.lookup r)).map
        fun record => record.val.robotId
  refine hsort.trans (List.Perm.of_eq ?_)
  clear hsort
  induction K with
  | nil => rfl
  | cons r K ih =>
    cases hadj : neighbours m.adjacency r with
    | nil => simpa [hadj] using ih
    | cons a l =>
      cases hlook : g.activeGrants.lookup r with
      | none =>
        have hnot : r ∉ g.activeGrants := AList.lookup_eq_none.mp hlook
        simpa [hadj, hlook, hnot] using ih
      | some record =>
        have hmem : r ∈ g.activeGrants := Dict.mem_of_lookup hlook
        have hid := (hcons r record.val (by rw [GrantManager.record, hlook]; rfl)).1
        simpa [hadj, hlook, hmem, hid] using ih

/-- **One grant.** It is retained iff it can be completed together with those retained before,
else it is released. -/
lemma retainGrant_spec (hm : m.WellFormed) {K : List RobotId} (hK : K ∈ m.connectedComponents)
    (hfit : E ∨ NeutralFit K) {record : GrantRecord} (hrecord : record.val.robotId ∈ K)
    {retained : List RobotId} (hretained : ∀ r ∈ retained, r ∈ K) (hard : Dict RobotId Action)
    (t : GrantManager) :
    Ensures (retainGrant config m K (hard, retained) record) t (fun state t' =>
      (Completable m K (retained ++ [record.val.robotId]) ∧ t' = t ∧
        state = (hard.insert record.val.robotId .resume, retained ++ [record.val.robotId])) ∨
      (¬ Completable m K (retained ++ [record.val.robotId]) ∧ state = (hard, retained) ∧
        t' = t.released record.val.robotId
          (if retained ≠ [] then .componentMergeConflict else .unsafeGeometry))) fun _ => E := by
  have hgroup : ∀ r ∈ retained ++ [record.val.robotId], r ∈ K := by
    intro r hr
    rcases List.mem_append.mp hr with hr | hr
    · exact hretained r hr
    · rw [List.mem_singleton.mp hr]
      exact hrecord
  unfold retainGrant
  refine Ensures.bind_lift
    (grantGroupHasSafeCompletion_spec hm hK hgroup (by simp) hfit) fun safe hsafe => ?_
  by_cases h : safe = true
  · rw [if_pos h]
    exact Ensures.pure (.inl ⟨hsafe.mp h, rfl, rfl⟩)
  · rw [if_neg h]
    exact Ensures.bind_modify (Ensures.pure (.inr ⟨fun hc => h (hsafe.mpr hc), rfl, rfl⟩))

/-- **The grants of one component** are settled oldest first.

**Proof sketch.** By induction on the records: one step retains or releases its grant
(`retainGrant_spec`), as one step of `settle` does. -/
lemma retainGrant_foldlM (hm : m.WellFormed) {K : List RobotId}
    (hK : K ∈ m.connectedComponents) (hfit : E ∨ NeutralFit K) {l : List GrantRecord}
    (hl : ∀ record ∈ l, record.val.robotId ∈ K) {hard : Dict RobotId Action}
    {retained : List RobotId}
    (hretained : ∀ r ∈ retained, r ∈ K ∧ hard.lookup r = some .resume) (t : GrantManager) :
    Ensures (l.foldlM (retainGrant config m K) (hard, retained)) t (fun result t' =>
      t' = t.releasedAll (settle m K retained (l.map fun record => record.val.robotId)).2 ∧
      ∀ r, result.1.lookup r =
        if r ∈ (settle m K retained (l.map fun record => record.val.robotId)).1 then some .resume
        else hard.lookup r) fun _ => E := by
  induction l generalizing hard retained t with
  | nil =>
    refine Ensures.pure ⟨rfl, fun r => ?_⟩
    rw [List.map_nil, settle]
    dsimp only
    split_ifs with h
    · exact (hretained r h).2
    · rfl
  | cons record l ih =>
    rw [List.forall_mem_cons] at hl
    rw [List.foldlM_cons, List.map_cons]
    refine (retainGrant_spec hm hK hfit hl.1 (fun r hr => (hretained r hr).1) hard t).bind ?_
    rintro state t' (⟨hc, rfl, rfl⟩ | ⟨hc, rfl, rfl⟩)
    · rw [settle_of_completable hc]
      have hretained' : ∀ r ∈ retained ++ [record.val.robotId], r ∈ K ∧
          AList.lookup r (hard.insert record.val.robotId .resume) = some .resume := by
        intro r hr
        rw [Dict.lookup_insert_eq_ite]
        rcases List.mem_append.mp hr with hr | hr
        · refine ⟨(hretained r hr).1, ?_⟩
          rw [(hretained r hr).2, ite_self]
        · rw [List.mem_singleton.mp hr, if_pos rfl]
          exact ⟨hl.1, rfl⟩
      refine (ih hl.2 hretained' t').mono fun result t'' h => ⟨h.1, fun r => ?_⟩
      rw [h.2, Dict.lookup_insert_eq_ite]
      split_ifs with hkept heq
      · rfl
      · exact absurd (subset_settle (by simp [heq])) hkept
      · rfl
    · rw [settle_of_not_completable hc]
      exact ih hl.2 hretained _

/-- Releases one after another. -/
lemma releasedAll_append (g : GrantManager) (l l' : List (RobotId × GrantReleaseReason)) :
    g.releasedAll (l ++ l') = (g.releasedAll l).releasedAll l' := List.foldl_append

/-- Candidates of a component depend on the grants of its robots only. -/
lemma grantCandidates_congr {g g' : GrantManager} {K : List RobotId}
    (h : ∀ r ∈ K, g'.record r = g.record r) : g'.grantCandidates m K = g.grantCandidates m K := by
  unfold grantCandidates
  congr 1
  refine List.filterMap_congr fun r hr => ?_
  exact Option.map_injective Subtype.val_injective (h r (List.mem_filter.mp hr).1)

/-- The candidates of a component are its robots with a conflict and a grant. -/
lemma mem_candidateIds {g : GrantManager} (hcons : g.RecordsConsistent) {K : List RobotId}
    {r : RobotId} : r ∈ (g.grantCandidates m K).map (fun record => record.val.robotId) ↔
      r ∈ K ∧ neighbours m.adjacency r ≠ [] ∧ r ∈ g.activeGrants := by
  rw [(candidateIds_perm hcons K).mem_iff, List.mem_filter, Bool.and_eq_true, decide_eq_true_eq,
    decide_eq_true_eq]

/-- Settling splits the competing grants of a component into the retained and the released. -/
lemma settled_perm {g : GrantManager} (hcons : g.RecordsConsistent) (K : List RobotId) :
    ((g.settled m K).1 ++ (g.settled m K).2.map Prod.fst).Perm
      (K.filter fun r => decide (neighbours m.adjacency r ≠ []) && decide (r ∈ g.activeGrants)) :=
  (settle_perm [] _).trans (candidateIds_perm hcons K)

/-- Each of them is retained or released. -/
lemma mem_settled {g : GrantManager} (hcons : g.RecordsConsistent) {K : List RobotId}
    {r : RobotId} : (r ∈ (g.settled m K).1 ∨ r ∈ (g.settled m K).2.map Prod.fst) ↔
      r ∈ K ∧ neighbours m.adjacency r ≠ [] ∧ r ∈ g.activeGrants := by
  rw [← List.mem_append, (settled_perm hcons K).mem_iff, List.mem_filter, Bool.and_eq_true,
    decide_eq_true_eq, decide_eq_true_eq]

/-- The releases of settling the components in order. -/
noncomputable def settledReleases (after : GrantManager) (m : ConflictModel)
    (components : List (List RobotId)) : List (RobotId × GrantReleaseReason) :=
  components.flatMap fun K => (after.settled m K).2

/-- The robots released while settling disjoint components are distinct grant holders.

**Proof sketch.** A robot that is released while its component is settled is a grant holder of that
component (`mem_settled`), and components are disjoint. -/
lemma settledReleases_spec {g : GrantManager} (hcons : g.RecordsConsistent)
    {components : List (List RobotId)} (hdisj : components.Pairwise List.Disjoint)
    (hnd : ∀ K ∈ components, K.Nodup) :
    ((g.settledReleases m components).map Prod.fst).Nodup ∧
      ∀ r ∈ (g.settledReleases m components).map Prod.fst,
        r ∈ g.activeGrants ∧ ∃ K ∈ components, r ∈ K := by
  have hmem : ∀ r ∈ (g.settledReleases m components).map Prod.fst,
      r ∈ g.activeGrants ∧ ∃ K ∈ components, r ∈ K := by
    intro r hr
    rw [settledReleases, List.map_flatMap, List.mem_flatMap] at hr
    obtain ⟨K, hK, hr⟩ := hr
    obtain ⟨hrK, -, hactive⟩ := (mem_settled hcons).mp (.inr hr)
    exact ⟨hactive, K, hK, hrK⟩
  refine ⟨?_, hmem⟩
  induction components with
  | nil => simp [settledReleases]
  | cons K components ih =>
    rw [List.pairwise_cons] at hdisj
    rw [List.forall_mem_cons] at hnd
    have hcons' : g.settledReleases m (K :: components) =
        (g.settled m K).2 ++ g.settledReleases m components := rfl
    rw [hcons', List.map_append, List.nodup_append]
    refine ⟨?_, ih hdisj.2 hnd.2 ?_, ?_⟩
    · have := (settled_perm hcons K (m := m)).nodup_iff.mpr (hnd.1.filter _)
      exact (List.nodup_append.mp this).2.1
    · intro r hr
      rw [settledReleases, List.map_flatMap, List.mem_flatMap] at hr
      obtain ⟨L, hL, hr⟩ := hr
      obtain ⟨hrL, -, hactive⟩ := (mem_settled hcons).mp (.inr hr)
      exact ⟨hactive, L, hL, hrL⟩
    · rintro r hr r' hr' rfl
      obtain ⟨hrK, -, -⟩ := (mem_settled hcons).mp (.inr hr)
      rw [settledReleases, List.map_flatMap, List.mem_flatMap] at hr'
      obtain ⟨L, hL, hr'⟩ := hr'
      obtain ⟨hrL, -, -⟩ := (mem_settled hcons).mp (.inr hr')
      exact hdisj.1 L hL hrK hrL

/-- **All components** are settled, in order.

**Proof sketch.** The loop goes through the components, and its invariant is that of the statement
for those it has passed. Their releases concern other robots, so the candidates of the next
component are still those of the state after the lifecycle. -/
lemma safeRelevantGrants_spec (hm : m.WellFormed) {after : GrantManager}
    (hcons : after.RecordsConsistent)
    (hfit : E ∨ ∀ K ∈ m.connectedComponents, NeutralFit K) :
    Ensures (safeRelevantGrants config m) after (fun hard t =>
      t = after.releasedAll (after.settledReleases m m.connectedComponents) ∧
      ∀ r, hard.lookup r = if ∃ K ∈ m.connectedComponents, r ∈ (after.settled m K).1 then
        some .resume else none) fun _ => E := by
  classical
  unfold safeRelevantGrants
  refine (Ensures.foldlM (fun pre hard t => t = after.releasedAll (after.settledReleases m pre) ∧
    ∀ r, hard.lookup r = if ∃ K ∈ pre, r ∈ (after.settled m K).1 then some .resume else none)
    ⟨rfl, by simp⟩ ?_).mono fun hard t h => ⟨h.1, fun r => ?_⟩
  · rintro pre K post hard t hl ⟨rfl, hhard⟩
    have hK : K ∈ m.connectedComponents := by simp [hl]
    have hpre : ∀ L ∈ pre, L ∈ m.connectedComponents := fun L hL => by simp [hl, hL]
    have hdisj := hm.decomposes.disjoint
    rw [hl, List.pairwise_append] at hdisj
    obtain ⟨hnd, hmem⟩ := settledReleases_spec (m := m) hcons hdisj.1
      fun L hL => hm.nodup (hpre L hL)
    obtain ⟨-, hrecord, -⟩ := releasedAll_spec hnd after fun r hr => (hmem r hr).1
    have hcand : (after.releasedAll (after.settledReleases m pre)).grantCandidates m K =
        after.grantCandidates m K := by
      refine grantCandidates_congr fun r hr => ?_
      rw [hrecord, if_neg]
      intro hrel
      obtain ⟨-, L, hL, hrL⟩ := hmem r hrel
      exact hdisj.2.2 L hL K List.mem_cons_self hrL hr
    unfold retainGrants
    refine Ensures.bind_get ?_
    rw [hcand]
    have hids : ∀ record ∈ after.grantCandidates m K, record.val.robotId ∈ K := fun record hr =>
      ((mem_candidateIds hcons).mp (List.mem_map_of_mem hr)).1
    refine (retainGrant_foldlM hm hK (hfit.imp id fun h => h K hK) hids
      (fun r hr => absurd hr List.not_mem_nil) _).bind ?_
    rintro result t' ⟨rfl, hresult⟩
    refine Ensures.pure ⟨?_, fun r => ?_⟩
    · rw [settledReleases, settledReleases, List.flatMap_append, List.flatMap_singleton,
        releasedAll_append]
      rfl
    · rw [hresult, hhard]
      change (if r ∈ (after.settled m K).1 then _ else _) = _
      by_cases hnew : r ∈ (after.settled m K).1
      · rw [if_pos hnew, if_pos ⟨K, by simp, hnew⟩]
      · rw [if_neg hnew]
        refine if_congr ⟨fun ⟨L, hL, hr⟩ => ⟨L, by simp [hL], hr⟩, ?_⟩ rfl rfl
        rintro ⟨L, hL, hr⟩
        rcases List.mem_append.mp hL with hL | hL
        · exact ⟨L, hL, hr⟩
        · rw [List.mem_singleton.mp hL] at hr
          exact absurd hr hnew
  · rw [h.2]

end Retain

/-! ## Preparing a tick -/

section Prepare

variable {config : MonitorConfig} {m : ConflictModel} {nowMs : ℤ} {E : Prop}

/-- The invariant of the manager while a tick is open. -/
structure InTick (g : GrantManager) : Prop where
  opened : g.tickOpen = true
  tick_pos : 1 ≤ g.tickId
  records : g.RecordsConsistent
  ages_nonneg : ∀ r age, g.waitingAges.lookup r = some age → 0 ≤ age
  mem_actions : ∀ r, r ∈ g.previousActions ↔ r ∈ g.waitingAges

/-- A change of grants stays inside the tick. -/
lemma InTick.mono {g g' : GrantManager} (h : g.InTick) (hframe : OnlyGrantsChanged g g')
    (hcons : g'.RecordsConsistent) : g'.InTick where
  opened := by rw [hframe]; exact h.opened
  tick_pos := by rw [hframe]; exact h.tick_pos
  records := hcons
  ages_nonneg := by rw [hframe]; exact h.ages_nonneg
  mem_actions := by rw [hframe]; exact h.mem_actions

/-- **The effect of the lifecycle** from the closed state `g`. -/
structure LifecycleDone (config : MonitorConfig) (m : ConflictModel) (nowMs : ℤ)
    (g after : GrantManager) : Prop where
  tick : after.tickId = g.tickId + 1
  inTick : after.InTick
  ages : ∀ r, after.waitingAges.lookup r =
    if r ∈ m.snapshots then g.waitingAges.lookup r else none
  /-- Every grant is kept or released. -/
  lifecycle : ∀ r, after.record r =
    (g.record r).bind (lifecycleGrant config m nowMs (g.tickId + 1) r)
  lifecycleReleases : after.pendingReleases = (sorted g.activeGrants.keys).flatMap fun r =>
    (((g.record r).bind (lifecycleRelease config m nowMs (g.tickId + 1) r)).map fun reason =>
      GrantRelease.mk r (g.tickId + 1) reason).toList

/-- An observed robot whose grant survived the lifecycle is available. -/
lemma LifecycleDone.available {g after : GrantManager} (h : LifecycleDone config m nowMs g after)
    {r : RobotId} (hr : r ∈ after.activeGrants) : ¬ Unavailable m r := by
  rintro ⟨s, hs, hunavailable⟩
  obtain ⟨record, hrecord⟩ := mem_activeGrants_iff.mp hr
  rw [h.lifecycle] at hrecord
  obtain ⟨record', -, hkept⟩ := Option.bind_eq_some_iff.mp hrecord
  obtain ⟨hnone, -⟩ := lifecycleGrant_eq_some hkept
  rw [lifecycleRelease, hs] at hnone
  rcases Bool.or_eq_true_iff.mp hunavailable with hstale | hgoal
  · simp [hstale] at hnone
  · dsimp only at hnone
    split_ifs at hnone

/-- **The lifecycle of a tick**, from a consistent closed state and under any conflict model.

**Proof sketch.** Forgetting the disappeared robots touches ages and actions only. The loop over the
grants that were active does to each of them what `reconcileGrant_spec` says. -/
lemma reconcileLifecycle_spec (m : ConflictModel) {g : GrantManager} (hg : g.Consistent) :
    Ensures (reconcileLifecycle config m nowMs)
      { g with tickId := g.tickId + 1, tickOpen := true, pendingReleases := [] }
      (fun _ after => LifecycleDone config m nowMs g after) fun _ => E := by
  set opened : GrantManager := { g with
    tickId := g.tickId + 1
    tickOpen := true
    pendingReleases := [] } with hopened
  unfold reconcileLifecycle
  refine (forgetDisappeared_spec m opened).bind ?_
  rintro - t ⟨ages, actions, rfl, hages, hactions⟩
  refine Ensures.bind_get ?_
  set observed : GrantManager := { opened with
    waitingAges := ages, previousActions := actions } with hobserved
  have hcons : observed.RecordsConsistent :=
    hg.records.mono (by simp [hobserved, hopened]) fun r record hr => ⟨record, hr, rfl, .inl rfl⟩
  have hobs : observed.InTick :=
    { opened := rfl
      tick_pos := by
        have := hg.tick_nonneg
        change 1 ≤ g.tickId + 1
        omega
      records := hcons
      ages_nonneg := fun r age hr => by
        change ages.lookup r = some age at hr
        rw [hages] at hr
        split_ifs at hr
        exact hg.ages_nonneg r age hr
      mem_actions := fun r => by
        change r ∈ actions ↔ r ∈ ages
        rw [← AList.lookup_isSome, ← AList.lookup_isSome, hactions, hages]
        have hkeys : r ∈ opened.previousActions ↔ r ∈ opened.waitingAges := hg.mem_actions r
        by_cases hobs : r ∈ m.snapshots
        · rw [if_neg fun h => h.2 hobs, if_pos hobs, AList.lookup_isSome, AList.lookup_isSome]
          exact hkeys
        · rw [if_neg hobs]
          split_ifs with hage
          · simp
          · rw [AList.lookup_eq_none.mpr fun h => hage ⟨hkeys.mp h, hobs⟩]
            simp }
  refine (reconcileGrants_spec hcons
    (sorted_nodup.mpr observed.activeGrants.keys_nodup)).mono fun _ after hrec => ?_
  exact
    { tick := hrec.frame.tickId_eq
      inTick := hobs.mono hrec.frame (hrec.consistent hcons)
      ages := fun r => by rw [hrec.frame]; exact hages r
      lifecycle := fun r => by
        rw [hrec.record]
        split_ifs with h
        · rfl
        · have hnone : g.record r = none := by
            rw [record_eq_none]
            exact fun hactive => h (mem_sorted.mpr (AList.mem_keys.mp hactive))
          change g.record r = _
          rw [hnone]
          rfl
      lifecycleReleases := by rw [hrec.releases]; rfl }

/-- **The effect of preparing a tick.** `after` is the state between the lifecycle and the
settling of the components. -/
structure Prepared (config : MonitorConfig) (m : ConflictModel) (nowMs : ℤ)
    (g after g' : GrantManager) (prep : GrantPreparation) : Prop
    extends LifecycleDone config m nowMs g after where
  /-- The components are settled. -/
  settles : g' = { after.releasedAll (after.settledReleases m m.connectedComponents) with
    currentHardAssignments := prep.hardAssignments }
  hard : ∀ r a, prep.hardAssignments.lookup r = some a ↔
    a = .resume ∧ ∃ K ∈ m.connectedComponents, r ∈ (after.settled m K).1
  releases : prep.releasedGrants = g'.pendingReleases

/-- **Preparing a tick** from a consistent closed state. -/
theorem prepareTick_spec (hm : m.WellFormed) {g : GrantManager} (hg : g.Consistent)
    (hnow : nowMs < 0 → E) (hfit : E ∨ ∀ K ∈ m.connectedComponents, NeutralFit K) :
    Ensures (prepareTick config m nowMs) g
      (fun prep g' => ∃ after, Prepared config m nowMs g after g' prep) fun _ => E := by
  unfold prepareTick
  refine Ensures.bind_get (Ensures.bind_lift (Returns.guarded fun h => ?_) fun _ _ => ?_)
  · rw [hg.closed] at h
    cases h
  refine Ensures.bind_lift (Returns.guarded hnow) fun _ _ => Ensures.bind_set ?_
  refine (reconcileLifecycle_spec m hg).bind fun _ after hdone => ?_
  refine (safeRelevantGrants_spec hm hdone.inTick.records hfit).bind ?_
  rintro hard t ⟨rfl, hhard⟩
  refine Ensures.bind_modify (Ensures.bind_get (Ensures.pure ⟨after, ?_⟩))
  exact
    { toLifecycleDone := hdone
      settles := rfl
      hard := fun r a => by
        rw [hhard]
        split_ifs with h <;> simp [h, eq_comm]
      releases := rfl }

/-- **Settling grants under any model** releases some of them, each once and as merged or unsafe,
and every robot with a hard action holds one. -/
structure Shrinks (after : GrantManager) (hard : Dict RobotId Action) (t : GrantManager) :
    Prop where
  releases : ∃ dropped, (dropped.map Prod.fst).Nodup ∧
    (∀ r ∈ dropped.map Prod.fst, r ∈ after.activeGrants) ∧
    (∀ release ∈ dropped, release.2 ≠ .conflictCleared) ∧ t = after.releasedAll dropped
  hard_active : ∀ r ∈ hard, r ∈ after.activeGrants

namespace Shrinks

variable {after t : GrantManager} {hard : Dict RobotId Action} (h : Shrinks after hard t)
include h

/-- Settling changes grants only. -/
lemma frame : OnlyGrantsChanged after t := by
  obtain ⟨dropped, hnd, hheld, -, rfl⟩ := h.releases
  exact (releasedAll_spec hnd after hheld).1

/-- A grant that is left has its old record. -/
lemma record {r : RobotId} (hr : r ∈ t.activeGrants) : t.record r = after.record r := by
  obtain ⟨dropped, hnd, hheld, -, rfl⟩ := h.releases
  have hrecord := (releasedAll_spec hnd after hheld).2.1 r
  split_ifs at hrecord with hdropped
  · exact absurd hr (record_eq_none.mp hrecord)
  · exact hrecord

/-- A grant that is left was held. -/
lemma active {r : RobotId} (hr : r ∈ t.activeGrants) : r ∈ after.activeGrants := by
  rw [mem_activeGrants_iff, ← h.record hr]
  exact mem_activeGrants_iff.mp hr

/-- The records that are left are consistent. -/
lemma records (hcons : after.RecordsConsistent) : t.RecordsConsistent :=
  hcons.mono h.frame.tickId_eq.ge fun _ record hrecord =>
    ⟨record, (h.record (mem_activeGrants_iff.mpr ⟨record, hrecord⟩)).symm.trans hrecord, rfl,
      .inl rfl⟩

/-- Releasing one more grant, if it is still held. -/
lemma released {r : RobotId} {reason : GrantReleaseReason} (hreason : reason ≠ .conflictCleared) :
    Shrinks after hard (t.released r reason) := by
  by_cases hr : r ∈ t.activeGrants
  · obtain ⟨dropped, hnd, hheld, hreasons, rfl⟩ := h.releases
    have hrecord := (releasedAll_spec hnd after hheld).2.1 r
    have hnew : r ∉ dropped.map Prod.fst := fun hdropped => by
      rw [if_pos hdropped, record_eq_none] at hrecord
      exact hrecord hr
    refine ⟨⟨dropped ++ [(r, reason)], ?_, ?_, ?_, ?_⟩, h.hard_active⟩
    · rw [List.map_append, List.nodup_append]
      refine ⟨hnd, List.nodup_singleton _, fun a ha b hb heq => hnew ?_⟩
      rwa [heq, List.mem_singleton.mp hb] at ha
    · rw [List.map_append]
      intro r' hr'
      rcases List.mem_append.mp hr' with hr' | hr'
      · exact hheld r' hr'
      · rw [List.mem_singleton.mp hr']
        exact h.active hr
    · intro release hrelease
      rcases List.mem_append.mp hrelease with hrelease | hrelease
      · exact hreasons release hrelease
      · rw [List.mem_singleton.mp hrelease]
        exact hreason
    · rw [releasedAll, releasedAll, List.foldl_append]
      rfl
  · rw [GrantManager.released, if_neg hr]
    exact h

end Shrinks

/-- A release gives nobody a grant. -/
lemma released_active {g : GrantManager} {r r' : RobotId} {reason : GrantReleaseReason}
    (h : r' ∈ (g.released r reason).activeGrants) : r' ∈ g.activeGrants := by
  obtain ⟨-, hrecord, -⟩ := g.released_spec r reason
  rw [mem_activeGrants_iff] at h ⊢
  rw [hrecord] at h
  split_ifs at h with heq
  · obtain ⟨_, h⟩ := h
    cases h
  · exact h

/-- A candidate holds a grant. -/
lemma active_of_candidate {g : GrantManager} (hcons : g.RecordsConsistent) {K : List RobotId}
    {record : GrantRecord} (h : record ∈ g.grantCandidates m K) :
    record.val.robotId ∈ g.activeGrants := by
  have hmem := (candidateIds_perm hcons K).subset (List.mem_map.mpr ⟨record, h, rfl⟩)
  exact of_decide_eq_true ((Bool.and_eq_true_iff.mp (List.mem_filter.mp hmem).2).2)

/-- Retaining or releasing grants only shrinks them, under any model. -/
lemma safeRelevantGrants_frame (m : ConflictModel) {after : GrantManager}
    (hcons : after.RecordsConsistent) : Ensures (safeRelevantGrants config m) after
      (fun hard t => Shrinks after hard t) fun _ => True := by
  unfold safeRelevantGrants
  refine Ensures.foldlM (fun _ hard t => Shrinks after hard t)
    ⟨⟨[], by simp, by simp, by simp, rfl⟩, fun _ h => by cases h⟩ fun _ K _ hard t _ ht => ?_
  unfold retainGrants
  refine Ensures.bind_get (Ensures.bind (Q := fun state t => Shrinks after state.1 t)
    (Ensures.foldlM (fun _ (state : Dict RobotId Action × List RobotId) t =>
      Shrinks after state.1 t) ht fun pre record post state t' hl ht' => ?_)
        fun _ _ h => Ensures.pure h)
  have hactive : record.val.robotId ∈ after.activeGrants :=
    ht.active (active_of_candidate (ht.records hcons) (by rw [hl]; simp))
  unfold retainGrant
  refine Ensures.bind_lift (P := fun _ => True) (Returns.of_runs (fun _ _ => trivial)
    (.inl trivial)) fun safe _ => ?_
  by_cases hsafe : safe = true
  · rw [if_pos hsafe]
    refine Ensures.pure ⟨ht'.releases, fun r hr => ?_⟩
    rcases (AList.mem_insert _).mp hr with rfl | hr
    · exact hactive
    · exact ht'.hard_active r hr
  · rw [if_neg hsafe]
    refine Ensures.bind_modify (Ensures.pure (ht'.released ?_))
    split_ifs <;> simp

/-- **Preparing a tick under any conflict model**: the lifecycle of the grants, then their
settling. -/
lemma prepareTick_settles (m : ConflictModel) {g : GrantManager} (hg : g.Consistent) :
    Ensures (prepareTick config m nowMs) g
      (fun prep g' => ∃ after t, LifecycleDone config m nowMs g after ∧
        Shrinks after prep.hardAssignments t ∧
        g' = { t with currentHardAssignments := prep.hardAssignments } ∧
        prep.releasedGrants = t.pendingReleases) fun _ => True := by
  unfold prepareTick
  refine Ensures.bind_get (Ensures.bind_lift (Returns.guarded fun _ => trivial) fun _ _ => ?_)
  refine Ensures.bind_lift (Returns.guarded fun _ => trivial) fun _ _ => Ensures.bind_set ?_
  refine (reconcileLifecycle_spec m hg).bind fun _ after hdone => ?_
  refine (safeRelevantGrants_frame m hdone.inTick.records).bind fun hard t ht => ?_
  exact Ensures.bind_modify (Ensures.bind_get (Ensures.pure ⟨after, t, hdone, ht, rfl, rfl⟩))

/-- **Preparing a tick keeps the invariant** under any conflict model. No observed robot that must
not move then holds a grant or has a hard action. -/
theorem prepareTick_frame (m : ConflictModel) {g : GrantManager} (hg : g.Consistent) :
    Ensures (prepareTick config m nowMs) g
      (fun prep g' => g'.InTick ∧ g'.tickId = g.tickId + 1 ∧
        (∀ r ∈ g'.activeGrants, ¬ Unavailable m r) ∧
        (∀ r ∈ prep.hardAssignments, ¬ Unavailable m r) ∧
        (∀ r, g'.waitingAges.lookup r =
          if r ∈ m.snapshots then g.waitingAges.lookup r else none) ∧
        g'.currentHardAssignments = prep.hardAssignments) fun _ => True := by
  refine (prepareTick_settles m hg).mono ?_
  rintro prep _ ⟨after, t, hdone, ht, rfl, -⟩
  have hin := hdone.inTick.mono ht.frame (ht.records hdone.inTick.records)
  refine ⟨?_, ?_, ?_, ?_, fun r => ?_, rfl⟩
  · exact ⟨hin.opened, hin.tick_pos, hin.records, hin.ages_nonneg, hin.mem_actions⟩
  · exact ht.frame.tickId_eq.trans hdone.tick
  · exact fun r hr => hdone.available (ht.active hr)
  · exact fun r hr => hdone.available (ht.hard_active r hr)
  · rw [← hdone.ages, ht.frame]

namespace Prepared

variable {g after g' : GrantManager} {prep : GrantPreparation}
  (h : Prepared config m nowMs g after g' prep) (hm : m.WellFormed)
include h

/-- The hard assignments of the preparation are about the retained grants. -/
lemma mem_hard {r : RobotId} : r ∈ prep.hardAssignments ↔
    ∃ K ∈ m.connectedComponents, r ∈ (after.settled m K).1 := by
  constructor
  · intro hr
    obtain ⟨a, ha⟩ := Dict.exists_lookup hr
    exact ((h.hard r a).mp ha).2
  · intro hr
    exact Dict.mem_of_lookup ((h.hard r .resume).mpr ⟨rfl, hr⟩)

/-- Every robot with a hard action has a grant and an edge, and it is resumed. -/
lemma of_hard {r : RobotId} {a : Action} (hr : prep.hardAssignments.lookup r = some a) :
    a = .resume ∧ neighbours m.adjacency r ≠ [] ∧ r ∈ after.activeGrants := by
  obtain ⟨rfl, K, hK, hsettled⟩ := (h.hard r a).mp hr
  obtain ⟨-, hadj, hactive⟩ := (mem_settled h.inTick.records).mp (.inl hsettled)
  exact ⟨rfl, hadj, hactive⟩

/-- A robot with a hard action is available. -/
lemma hard_available {r : RobotId} (hr : r ∈ prep.hardAssignments) : ¬ Unavailable m r := by
  obtain ⟨a, ha⟩ := Dict.exists_lookup hr
  exact h.available (h.of_hard ha).2.2

include hm

/-- The retained grants of a component are the hard actions of its robots. -/
lemma hard_iff {K : List RobotId} (hK : K ∈ m.connectedComponents) {r : RobotId} (hr : r ∈ K) :
    r ∈ prep.hardAssignments ↔ r ∈ (after.settled m K).1 := by
  rw [h.mem_hard]
  constructor
  · rintro ⟨L, hL, hsettled⟩
    obtain ⟨hrL, -, -⟩ := (mem_settled h.inTick.records).mp (.inl hsettled)
    rwa [hm.component_unique hK hL hr hrL]
  · exact fun hsettled => ⟨K, hK, hsettled⟩

/-- A component with a hard action can progress. -/
lemma progressive_of_hard {K : List RobotId} (hK : K ∈ m.connectedComponents) {r : RobotId}
    (hr : r ∈ K) (hhard : r ∈ prep.hardAssignments) : Progressive m K := by
  have hsettled := (h.hard_iff hm hK hr).mp hhard
  obtain ⟨x, hsafe, hpause, hresume⟩ :=
    (completable_settled after m K).resolve_left (List.ne_nil_of_mem hsettled)
  exact ⟨x, hsafe, hpause, r, hr, hresume r hsettled⟩

/-- **Retained grants never block progress**: if a component can progress at all it can do so
with the hard actions. -/
theorem progressive_iff {K : List RobotId} (hK : K ∈ m.connectedComponents) :
    Progressive m K ↔ ∃ x, Safe (componentConstraints K m) x ∧
      Obeys m prep.hardAssignments K x ∧ ∃ r ∈ K, x r = .resume := by
  have hcomp := completable_settled after m K
  constructor
  · rintro ⟨x, hsafe, hpause, hresume⟩
    by_cases hnil : (after.settled m K).1 = []
    · refine ⟨x, hsafe, ⟨hpause, fun r hr a hra => ?_⟩, hresume⟩
      have hsettled := (h.hard_iff hm hK hr).mp (Dict.mem_of_lookup hra)
      rw [hnil] at hsettled
      cases hsettled
    · obtain ⟨y, hsafe', hpause', hresume'⟩ := hcomp.resolve_left hnil
      obtain ⟨r, hr⟩ := List.exists_mem_of_ne_nil _ hnil
      obtain ⟨hrK, -, -⟩ := (mem_settled h.inTick.records).mp (.inl hr)
      refine ⟨y, hsafe', ⟨hpause', fun r hr a hra => ?_⟩, r, hrK, hresume' r hr⟩
      rw [(h.of_hard hra).1]
      exact hresume' r ((h.hard_iff hm hK hr).mp (Dict.mem_of_lookup hra))
  · rintro ⟨x, hsafe, hobeys, hresume⟩
    exact ⟨x, hsafe, hobeys.1, hresume⟩

/-- Settling changes the grants of robots with an edge only. -/
lemma frame : OnlyGrantsChanged after (after.releasedAll
      (after.settledReleases m m.connectedComponents)) ∧
    ∀ r, g'.record r = if r ∈ (after.settledReleases m m.connectedComponents).map Prod.fst then
      none else after.record r := by
  obtain ⟨hnd, hmem⟩ := settledReleases_spec (m := m) h.inTick.records hm.decomposes.disjoint
    fun K hK => hm.nodup hK
  obtain ⟨hframe, hrecord, -⟩ := releasedAll_spec hnd after fun r hr => (hmem r hr).1
  refine ⟨hframe, fun r => ?_⟩
  rw [h.settles]
  exact hrecord r

/-- The preparation moves the tick on by one. -/
lemma tickId_eq : g'.tickId = g.tickId + 1 := by
  rw [h.settles]
  exact (h.frame hm).1.tickId_eq.trans h.tick

/-- The records are consistent after the preparation. -/
lemma records : g'.RecordsConsistent := by
  refine h.inTick.records.mono ((h.tickId_eq hm).trans h.tick.symm).ge fun r record hr => ?_
  rw [(h.frame hm).2] at hr
  split_ifs at hr
  exact ⟨record, hr, rfl, .inl rfl⟩

/-- The prepared manager has an open tick. -/
lemma prepared_inTick : g'.InTick := by
  have hrecords := h.records hm
  rw [h.settles] at hrecords ⊢
  have hin := h.inTick.mono (h.frame hm).1 hrecords
  exact ⟨hin.opened, hin.tick_pos, hrecords, hin.ages_nonneg, hin.mem_actions⟩

/-- A robot with an edge holds a grant iff its grant was retained. -/
lemma active_iff {r : RobotId} (hr : r ∈ m.snapshots) (hadj : neighbours m.adjacency r ≠ []) :
    r ∈ g'.activeGrants ↔ r ∈ prep.hardAssignments := by
  obtain ⟨K, hK, hrK⟩ := (hm.mem_component_iff r).mp hr
  rw [mem_activeGrants_iff, (h.frame hm).2, h.hard_iff hm hK hrK]
  have hreleased : r ∈ (after.settledReleases m m.connectedComponents).map Prod.fst ↔
      r ∈ (after.settled m K).2.map Prod.fst := by
    rw [settledReleases, List.map_flatMap, List.mem_flatMap]
    constructor
    · rintro ⟨L, hL, hrel⟩
      obtain ⟨hrL, -, -⟩ := (mem_settled h.inTick.records).mp (.inr hrel)
      rwa [hm.component_unique hK hL hrK hrL]
    · exact fun hrel => ⟨K, hK, hrel⟩
  have hperm := settled_perm h.inTick.records K (m := m)
  have hnd := hperm.nodup_iff.mpr ((hm.nodup hK).filter _)
  have hsplit := mem_settled (m := m) h.inTick.records (K := K) (r := r)
  constructor
  · rintro ⟨record, hrecord⟩
    split_ifs at hrecord with hrel
    rcases hsplit.mpr ⟨hrK, hadj, mem_activeGrants_iff.mpr ⟨record, hrecord⟩⟩ with hkept | hrel'
    · exact hkept
    · exact absurd (hreleased.mpr hrel') hrel
  · intro hkept
    obtain ⟨-, -, hactive⟩ := hsplit.mp (.inl hkept)
    rw [if_neg]
    · exact mem_activeGrants_iff.mp hactive
    · intro hrel
      exact (List.nodup_append.mp hnd).2.2 r hkept r (hreleased.mp hrel) rfl

/-- An observed robot that holds a grant after preparation is available. -/
lemma active_available {r : RobotId} (hr : r ∈ g'.activeGrants) : ¬ Unavailable m r := by
  refine h.available ?_
  rw [mem_activeGrants_iff] at hr ⊢
  obtain ⟨record, hrecord⟩ := hr
  rw [(h.frame hm).2] at hrecord
  split_ifs at hrecord
  exact ⟨record, hrecord⟩

end Prepared

end Prepare

end GrantManager

end CollisionMonitor
