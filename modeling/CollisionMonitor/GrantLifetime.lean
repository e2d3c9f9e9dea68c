import CollisionMonitor.Lib.Machine
import CollisionMonitor.Transaction

set_option relaxedAutoImplicit false
set_option autoImplicit false

/-!
# Bounded grant lifetime

Runs of a grant manager through prepared, previewed and committed ticks, each with any conflict
model. A run keeps the models of its ticks, so that a clearance counter can be compared with what
was observed.

## Main definitions

* `Cycle` — one tick that was prepared, previewed and committed.
* `cycleMachine` — a grant manager together with the conflict models of its ticks.
* `clearStreak` — the number of latest observations of a robot in all of which it had no edge.
* `GrantBounds` — the lease and absence limits of one grant.

## Main results

* `Cycle.outcome` — the lifecycle, the settling and the acquisitions of a cycle.
* `cycle_grants` — after every cycle of every run the grants obey the limits, and the cycle reports
  exactly the grants that were lost or replaced.
-/

namespace CollisionMonitor

open Outcome GrantManager

/-! ## Observations of a robot -/

/-- The number of latest observations, the latest first, in all of which the robot had no edge. -/
def clearStreak (r : RobotId) (models : List ConflictModel) : ℕ :=
  ((models.filter fun m => r ∈ m.snapshots).takeWhile fun m =>
    neighbours m.adjacency r = []).length

section Streak

variable {r : RobotId} {m : ConflictModel} {models : List ConflictModel}

/-- A tick without the robot leaves its streak. -/
lemma clearStreak_absent (h : r ∉ m.snapshots) :
    clearStreak r (m :: models) = clearStreak r models := by
  rw [clearStreak, List.filter_cons_of_neg (by simpa using h)]
  rfl

/-- A tick that observes the robot extends its streak or ends it. -/
lemma clearStreak_observed (h : r ∈ m.snapshots) : clearStreak r (m :: models) =
    if neighbours m.adjacency r = [] then clearStreak r models + 1 else 0 := by
  rw [clearStreak, List.filter_cons_of_pos (by simpa using h), List.takeWhile_cons]
  split_ifs with hclear <;> simp_all [clearStreak]

end Streak

/-! ## One cycle -/

section Cycle

variable {config : MonitorConfig} {m : ConflictModel} {g g' : GrantManager}
  {result : GrantDecisionResult}

/-- A tick that was prepared, previewed and committed, each of them without an exception. The
committed decisions need not be the previewed ones. -/
def Cycle (config : MonitorConfig) (m : ConflictModel) (g g' : GrantManager)
    (result : GrantDecisionResult) : Prop :=
  ∃ nowMs prep prepared proposed priorities sources preview previewed committed,
    (prepareTick config m nowMs).run g = .ok prep prepared ∧
    (previewTick config m proposed priorities sources).run prepared = .ok preview previewed ∧
    (commitTick config m committed).run previewed = .ok result g'

/-- The grant of a robot is gone, or replaced by one that was acquired later. -/
def Lost (g g' : GrantManager) (r : RobotId) : Prop :=
  ∃ old, g.record r = some old ∧ (g'.record r = none ∨
    ∃ record, g'.record r = some record ∧ old.acquisitionTick < record.acquisitionTick)

/-- The lifecycle leaves the tick of acquisition. -/
@[simp] lemma acquisitionTick_lifecycleRecord (m : ConflictModel) (tick : ℤ) (r : RobotId)
    (record : GrantRecordFields) :
    (lifecycleRecord m tick r record).acquisitionTick = record.acquisitionTick := by
  unfold lifecycleRecord
  split_ifs <;> rfl

/-- **The effect of a cycle on the grants**: `after` is the manager after the lifecycle and `t` the
one after settling, to which the commit only adds fresh grants. -/
structure CycleDone (config : MonitorConfig) (m : ConflictModel) (nowMs : ℤ)
    (g after t g' : GrantManager) (result : GrantDecisionResult) : Prop
    extends LifecycleDone config m nowMs g after where
  consistent : g'.Consistent
  tickId_eq : g'.tickId = g.tickId + 1
  settles : ∃ hard, Shrinks after hard t
  releases : result.val.releasedGrants = t.pendingReleases
  gains : Gains m t g'

/-- **A cycle from a consistent closed state.** -/
theorem Cycle.outcome (hg : g.Consistent) (h : Cycle config m g g' result) :
    ∃ nowMs after t, CycleDone config m nowMs g after t g' result := by
  obtain ⟨nowMs, prep, prepared, proposed, priorities, sources, preview, previewed, committed,
    hprepare, hpreview, hcommit⟩ := h
  obtain rfl := (previewTick_frame _ _ _ _ _).get_ok hpreview
  obtain ⟨hin, htick, -⟩ := (prepareTick_frame m hg).get_ok hprepare
  obtain ⟨after, t, hdone, ht, rfl, -⟩ := (prepareTick_settles m hg).get_ok hprepare
  obtain ⟨hconsistent, htick', -, -, hreleases, hgains⟩ := (commitTick_frame m hin).get_ok hcommit
  exact ⟨nowMs, after, t, hdone, hconsistent, htick'.trans htick, ⟨_, ht⟩, hreleases, hgains⟩

namespace CycleDone

variable {nowMs : ℤ} {after t : GrantManager}
  (h : CycleDone config m nowMs g after t g' result)
include h

/-- A cycle moves the tick on by one. -/
lemma settled_tick : t.tickId = g.tickId + 1 := by
  obtain ⟨hard, hshrinks⟩ := h.settles
  exact hshrinks.frame.tickId_eq.trans h.tick

/-- A grant after settling is one from before the cycle that the lifecycle kept. -/
lemma of_settled {r : RobotId} {record : GrantRecordFields} (hr : t.record r = some record) :
    ∃ old, g.record r = some old ∧
      lifecycleRelease config m nowMs (g.tickId + 1) r old = none ∧
      record = lifecycleRecord m (g.tickId + 1) r old := by
  obtain ⟨hard, hshrinks⟩ := h.settles
  rw [hshrinks.record (mem_activeGrants_iff.mpr ⟨record, hr⟩), h.lifecycle] at hr
  obtain ⟨old, hold, hkept⟩ := Option.bind_eq_some_iff.mp hr
  refine ⟨old, hold, (lifecycleGrant_eq_some hkept).1, ?_⟩
  rw [lifecycleGrant, if_pos (lifecycleGrant_eq_some hkept).1] at hkept
  exact (Option.some.inj hkept).symm

/-- **A grant after the cycle** was acquired in it, or is one from before it that the lifecycle
kept. -/
lemma record_cases {r : RobotId} {record : GrantRecordFields} (hr : g'.record r = some record) :
    (t.record r = none ∧ record = ⟨r, g.tickId + 1, g.tickId + 1, 0⟩) ∨
      t.record r = some record ∧ ∃ old, g.record r = some old ∧
        lifecycleRelease config m nowMs (g.tickId + 1) r old = none ∧
        record = lifecycleRecord m (g.tickId + 1) r old := by
  rcases h.gains r with hkept | ⟨hnew, -, -, hfresh⟩
  · rw [hkept] at hr
    exact .inr ⟨hr, h.of_settled hr⟩
  · rw [hfresh, freshRecord, h.settled_tick] at hr
    exact .inl ⟨record_eq_none.mpr hnew, (Option.some.inj hr).symm⟩

omit h in
/-- The robots of the events of a lifecycle pass. -/
lemma map_lifecycleEvents (l : List RobotId) (reason : RobotId → Option GrantReleaseReason)
    (tick : ℤ) : (l.flatMap fun r => ((reason r).map fun why =>
      GrantRelease.mk r tick why).toList).map GrantRelease.robotId =
        l.filter fun r => (reason r).isSome := by
  induction l with
  | nil => rfl
  | cons r l ih =>
    rw [List.flatMap_cons, List.map_append, ih]
    cases hreason : reason r with
    | none => rw [List.filter_cons_of_neg (by simp [hreason])]; rfl
    | some why => rw [List.filter_cons_of_pos (by simp [hreason])]; rfl

/-- The releases of a cycle: those of the lifecycle, in robot order, and those of settling. -/
lemma releases_eq : ∃ dropped : List (RobotId × GrantReleaseReason),
    (dropped.map Prod.fst).Nodup ∧ (∀ r ∈ dropped.map Prod.fst, r ∈ after.activeGrants) ∧
    (∀ release ∈ dropped, release.2 ≠ .conflictCleared) ∧
    (∀ r, t.record r = if r ∈ dropped.map Prod.fst then none else after.record r) ∧
    result.val.releasedGrants = ((sorted g.activeGrants.keys).flatMap fun r =>
      (((g.record r).bind (lifecycleRelease config m nowMs (g.tickId + 1) r)).map fun reason =>
        GrantRelease.mk r (g.tickId + 1) reason).toList) ++
      dropped.map fun release => GrantRelease.mk release.1 (g.tickId + 1) release.2 := by
  obtain ⟨hard, hshrinks⟩ := h.settles
  obtain ⟨dropped, hnd, hheld, hreasons, rfl⟩ := hshrinks.releases
  obtain ⟨-, hrecord, hpending⟩ := releasedAll_spec hnd after hheld
  refine ⟨dropped, hnd, hheld, hreasons, hrecord, ?_⟩
  rw [h.releases, hpending, h.lifecycleReleases, h.tick]

/-- A grant is lost to the lifecycle iff this released it. -/
lemma active_after_iff {r : RobotId} : r ∈ after.activeGrants ↔ r ∈ g.activeGrants ∧
    (g.record r).bind (lifecycleRelease config m nowMs (g.tickId + 1) r) = none := by
  rw [mem_activeGrants_iff, mem_activeGrants_iff, h.lifecycle]
  cases g.record r with
  | none => simp
  | some old => simp [lifecycleGrant]

/-- **No robot is released twice in a cycle.** -/
lemma releases_nodup : (result.val.releasedGrants.map GrantRelease.robotId).Nodup := by
  obtain ⟨dropped, hnd, hheld, -, -, heq⟩ := h.releases_eq
  rw [heq, List.map_append, map_lifecycleEvents, List.map_map, List.nodup_append]
  refine ⟨(sorted_nodup.mpr g.activeGrants.keys_nodup).filter _, hnd, fun r hr r' hr' hrr' => ?_⟩
  subst hrr'
  obtain ⟨-, hkept⟩ := h.active_after_iff.mp (hheld r hr')
  rw [List.mem_filter, hkept] at hr
  cases hr.2

/-- **The released robots** held a grant before the cycle and none after settling. -/
lemma mem_releases {r : RobotId} : r ∈ result.val.releasedGrants.map GrantRelease.robotId ↔
    r ∈ g.activeGrants ∧ t.record r = none := by
  obtain ⟨dropped, -, hheld, -, hrecord, heq⟩ := h.releases_eq
  rw [heq, List.map_append, map_lifecycleEvents, List.map_map, List.mem_append, List.mem_filter,
    mem_sorted, AList.mem_keys, hrecord]
  have hdropped : r ∈ dropped.map (GrantRelease.robotId ∘ fun release =>
      GrantRelease.mk release.1 (g.tickId + 1) release.2) ↔ r ∈ dropped.map Prod.fst := Iff.rfl
  have hafter := h.active_after_iff (r := r)
  rw [hdropped, Option.isSome_iff_ne_none]
  split_ifs with hr
  · exact iff_of_true (.inr hr) ⟨(hafter.mp (hheld r hr)).1, rfl⟩
  · rw [record_eq_none, hafter]
    simp only [hr, or_false, not_and, ne_eq]
    exact and_congr_right fun hactive => ⟨fun hne _ => hne, fun hne => hne hactive⟩

/-- Every event carries the new tick, and a cleared conflict was found by the lifecycle. -/
lemma release_spec {release : GrantRelease} (hr : release ∈ result.val.releasedGrants) :
    release.tickId = g.tickId + 1 ∧ (release.reason = .conflictCleared →
      ∃ old, g.record release.robotId = some old ∧ lifecycleRelease config m nowMs (g.tickId + 1)
        release.robotId old = some .conflictCleared) := by
  obtain ⟨dropped, -, -, hreasons, -, heq⟩ := h.releases_eq
  rw [heq, List.mem_append, List.mem_flatMap, List.mem_map] at hr
  rcases hr with ⟨r, -, hr⟩ | ⟨dropped, hmem, rfl⟩
  · obtain ⟨reason, hreason, rfl⟩ := Option.map_eq_some_iff.mp (Option.mem_toList.mp hr)
    refine ⟨rfl, fun hcleared => ?_⟩
    obtain ⟨old, hold, hrel⟩ := Option.bind_eq_some_iff.mp hreason
    exact ⟨old, hold, hrel.trans (congrArg some hcleared)⟩
  · exact ⟨rfl, fun hcleared => absurd hcleared (hreasons _ hmem)⟩

/-- **The releases of a cycle are exactly the grants lost in it.**

**Proof sketch.** A grant that was held and is not settled is lost, or its robot acquired a new one
in this cycle, which has a later acquisition tick. Conversely a settled record keeps its acquisition
tick. -/
lemma mem_releases_iff (hg : g.Consistent) {r : RobotId} :
    r ∈ result.val.releasedGrants.map GrantRelease.robotId ↔ Lost g g' r := by
  rw [h.mem_releases, mem_activeGrants_iff]
  constructor
  · rintro ⟨⟨old, hold⟩, hlost⟩
    refine ⟨old, hold, ?_⟩
    cases hrecord : g'.record r with
    | none => exact .inl rfl
    | some record =>
      refine .inr ⟨record, rfl, ?_⟩
      rcases h.record_cases hrecord with ⟨-, rfl⟩ | ⟨hkept, -⟩
      · obtain ⟨-, hseen, -⟩ := valid_of_record hold
        obtain ⟨-, htick⟩ := hg.records r old hold
        dsimp only
        omega
      · rw [hlost] at hkept
        cases hkept
  · rintro ⟨old, hold, hlost⟩
    refine ⟨⟨old, hold⟩, ?_⟩
    rcases h.gains r with hkept | ⟨hnew, -⟩
    · rw [hkept] at hlost
      rcases hlost with hgone | ⟨record, hrecord, hnewer⟩
      · exact hgone
      · obtain ⟨old', hold', -, rfl⟩ := h.of_settled hrecord
        obtain rfl := Option.some.inj (hold.symm.trans hold')
        rw [acquisitionTick_lifecycleRecord] at hnewer
        exact absurd hnewer (lt_irrefl _)
    · exact record_eq_none.mpr hnew

end CycleDone

end Cycle

/-! ## Runs of cycles -/

/-- A grant manager and the conflict models of its committed ticks, the latest first. -/
structure CycleRun where
  manager : GrantManager
  models : List ConflictModel

/-- **A grant manager run through cycles**, each with any conflict model. -/
def cycleMachine (config : MonitorConfig) : Machine CycleRun where
  init run := run = ⟨{}, []⟩
  step run run' := ∃ m result, Cycle config m run.manager run'.manager result ∧
    run'.models = m :: run.models

/-- **The limits of a grant** after a committed tick. -/
structure GrantBounds (config : MonitorConfig) (m : ConflictModel) (tick : ℤ) (r : RobotId)
    (record : GrantRecordFields) : Prop where
  robot : record.robotId = r
  acquired_pos : 1 ≤ record.acquisitionTick
  acquired_le_seen : record.acquisitionTick ≤ record.lastSeenTick
  seen_le_tick : record.lastSeenTick ≤ tick
  observed : r ∈ m.snapshots → record.lastSeenTick = tick
  absence : tick - record.lastSeenTick < staleTickLimit config
  lease : record.lastSeenTick - record.acquisitionTick < max 1 config.grantMaximumHoldTicks

/-- A grant is younger than the stale limit and the longest hold together. -/
lemma GrantBounds.age {config : MonitorConfig} {m : ConflictModel} {tick : ℤ} {r : RobotId}
    {record : GrantRecordFields} (h : GrantBounds config m tick r record) :
    tick - record.acquisitionTick <
      staleTickLimit config + max 1 config.grantMaximumHoldTicks := by
  have habsence := h.absence
  have hlease := h.lease
  omega

/-- **The invariant of a run.** A grant's clearance counter is the number of its robot's latest
observations since the acquisition in all of which it had no edge. -/
structure Timely (config : MonitorConfig) (run : CycleRun) : Prop where
  consistent : run.manager.Consistent
  lease : ∀ r record, run.manager.record r = some record →
    record.lastSeenTick - record.acquisitionTick < max 1 config.grantMaximumHoldTicks
  streak : ∀ r record, run.manager.record r = some record → record.clearanceCounter =
    clearStreak r (run.models.take (run.manager.tickId - record.acquisitionTick).toNat)

section Runs

variable {config : MonitorConfig} {m : ConflictModel} {run : CycleRun} {g' after t : GrantManager}
  {result : GrantDecisionResult} {nowMs : ℤ}

/-- What keeps a grant alive in a tick: an absent robot was seen recently enough, an observed one
holds it for less than the maximum. -/
lemma kept_of_lifecycle {tick : ℤ} {r : RobotId} {old : GrantRecordFields}
    (h : lifecycleRelease config m nowMs tick r old = none) :
    (r ∉ m.snapshots → tick - old.lastSeenTick < staleTickLimit config) ∧
      (r ∈ m.snapshots → tick - old.acquisitionTick < config.grantMaximumHoldTicks) := by
  unfold lifecycleRelease at h
  cases hsnap : m.snapshots.lookup r with
  | none =>
    rw [hsnap] at h
    dsimp only at h
    split_ifs at h with habsent
    exact ⟨fun _ => not_le.mp habsent,
      fun hobs => absurd hobs (AList.lookup_eq_none.mp hsnap)⟩
  | some snapshot =>
    rw [hsnap] at h
    dsimp only at h
    split_ifs at h with hstale hgoal hlease
    exact ⟨fun habs => absurd (Dict.mem_of_lookup hsnap) habs, fun _ => not_le.mp hlease⟩

/-- The models of a run back to an acquisition, after one more tick. -/
lemma take_since {models : List ConflictModel} {tick acquired : ℤ} (h : acquired ≤ tick) :
    (m :: models).take (tick + 1 - acquired).toNat =
      m :: models.take (tick - acquired).toNat := by
  rw [show (tick + 1 - acquired).toNat = (tick - acquired).toNat + 1 by omega, List.take_succ_cons]

/-- The clearance counter of a kept grant. -/
lemma Timely.streak_kept (hrun : Timely config run) {r : RobotId} {old : GrantRecordFields}
    (hold : run.manager.record r = some old)
    (hobs : r ∈ m.snapshots) (hclear : neighbours m.adjacency r = []) :
    old.clearanceCounter + 1 = clearStreak r
      ((m :: run.models).take (run.manager.tickId + 1 - old.acquisitionTick).toNat) := by
  obtain ⟨-, hseen, -⟩ := valid_of_record hold
  obtain ⟨-, htick⟩ := hrun.consistent.records r old hold
  rw [take_since (hseen.trans htick), clearStreak_observed hobs, if_pos hclear,
    hrun.streak r old hold]
  rfl

namespace CycleDone

variable (h : CycleDone config m nowMs run.manager after t g' result) (hrun : Timely config run)
include h hrun

/-- **The limits after a cycle.** -/
lemma bounds {r : RobotId} {record : GrantRecordFields} (hr : g'.record r = some record) :
    GrantBounds config m g'.tickId r record := by
  obtain ⟨hacquired, hseen, -⟩ := valid_of_record hr
  obtain ⟨hrobot, htick⟩ := h.consistent.records r record hr
  have hlimit : 1 ≤ staleTickLimit config := le_max_left _ _
  rw [h.tickId_eq] at htick ⊢
  rcases h.record_cases hr with ⟨-, rfl⟩ | ⟨-, old, hold, hkept, rfl⟩
  · refine ⟨hrobot, hacquired, hseen, htick, fun _ => rfl, ?_, ?_⟩ <;> dsimp only <;> omega
  · obtain ⟨habsent, hobserved⟩ := kept_of_lifecycle hkept
    by_cases hobs : r ∈ m.snapshots
    · have hlease := hobserved hobs
      rw [lifecycleRecord, if_pos hobs] at *
      refine ⟨hrobot, hacquired, hseen, htick, fun _ => rfl, ?_, ?_⟩ <;> dsimp only <;> omega
    · have habsence := habsent hobs
      rw [lifecycleRecord, if_neg hobs] at *
      exact ⟨hrobot, hacquired, hseen, htick, fun h => absurd h hobs, habsence,
        hrun.lease r old hold⟩

/-- **One cycle keeps the invariant.** -/
lemma timely : Timely config ⟨g', m :: run.models⟩ where
  consistent := h.consistent
  lease _ _ hr := (h.bounds hrun hr).lease
  streak r record hr := by
    change _ = (clearStreak r
      ((m :: run.models).take (g'.tickId - record.acquisitionTick).toNat) : ℤ)
    rw [h.tickId_eq]
    rcases h.record_cases hr with ⟨-, rfl⟩ | ⟨-, old, hold, -, rfl⟩
    · simp [clearStreak]
    · obtain ⟨-, hseen, -⟩ := valid_of_record hold
      obtain ⟨-, htick⟩ := hrun.consistent.records r old hold
      rw [acquisitionTick_lifecycleRecord, lifecycleRecord]
      split_ifs with hobs hclear
      · exact hrun.streak_kept hold hobs hclear
      · rw [take_since (hseen.trans htick), clearStreak_observed hobs, if_neg hclear]
        rfl
      · rw [take_since (hseen.trans htick), clearStreak_absent hobs]
        exact hrun.streak r old hold

end CycleDone

/-- The bounds hold in every run of cycles. -/
lemma timely_of_reachable (h : (cycleMachine config).Reachable run) : Timely config run := by
  refine h.invariant (P := Timely config) ?_ ?_
  · rintro _ rfl
    refine ⟨consistent_new, fun r record hr => ?_, fun r record hr => ?_⟩ <;> cases hr
  · rintro run ⟨g', models⟩ - hrun ⟨m, result, hcycle, rfl⟩
    obtain ⟨nowMs, after, t, hdone⟩ := hcycle.outcome hrun.consistent
    exact hdone.timely hrun

/-- A cleared conflict: the robot's latest observations since the acquisition, at least as many as
configured, all found no edge. -/
lemma CycleDone.cleared (h : CycleDone config m nowMs run.manager after t g' result)
    (hrun : Timely config run) {release : GrantRelease}
    (hr : release ∈ result.val.releasedGrants) (hcleared : release.reason = .conflictCleared) :
    ∃ old, run.manager.record release.robotId = some old ∧
      config.grantClearanceReleaseTicks ≤ clearStreak release.robotId
        ((m :: run.models).take (g'.tickId - old.acquisitionTick).toNat) := by
  obtain ⟨old, hold, hrel⟩ := (h.release_spec hr).2 hcleared
  refine ⟨old, hold, ?_⟩
  unfold lifecycleRelease at hrel
  cases hsnap : m.snapshots.lookup release.robotId with
  | none =>
    rw [hsnap] at hrel
    dsimp only at hrel
    split_ifs at hrel
    cases hrel
  | some snapshot =>
    rw [hsnap] at hrel
    dsimp only at hrel
    split_ifs at hrel with hstale hgoal hlease hclear <;> try cases hrel
    rw [h.tickId_eq, ← hrun.streak_kept hold (Dict.mem_of_lookup hsnap) hclear.1]
    exact hclear.2.1

/-- **Bounded grant lifetime.** After every cycle of every run each grant is kept under its robot
within its lease and absence limits, and so is never older than their sum. The cycle reports the
grants that are gone or replaced by a newer one, each once, and no others; and it reports a cleared
conflict only when enough latest observations since the acquisition found no edge.

**Proof sketch.** The bounds are an invariant of the runs of cycles (`timely_of_reachable`). One
cycle moves the tick on by one, renews or releases every grant that it keeps, and reports what it
released (`Cycle.outcome`). -/
theorem cycle_grants (hreach : (cycleMachine config).Reachable run)
    (hcycle : Cycle config m run.manager g' result) :
    (∀ r record, g'.record r = some record → GrantBounds config m g'.tickId r record ∧
      g'.tickId - record.acquisitionTick <
        staleTickLimit config + max 1 config.grantMaximumHoldTicks) ∧
    (result.val.releasedGrants.map GrantRelease.robotId).Nodup ∧
    (∀ r, r ∈ result.val.releasedGrants.map GrantRelease.robotId ↔ Lost run.manager g' r) ∧
    (∀ release ∈ result.val.releasedGrants, release.tickId = g'.tickId) ∧
    ∀ release ∈ result.val.releasedGrants, release.reason = .conflictCleared →
      ∃ old, run.manager.record release.robotId = some old ∧
        config.grantClearanceReleaseTicks ≤ clearStreak release.robotId
          ((m :: run.models).take (g'.tickId - old.acquisitionTick).toNat) := by
  have hrun := timely_of_reachable hreach
  obtain ⟨nowMs, after, t, hdone⟩ := hcycle.outcome hrun.consistent
  refine ⟨fun r record hr => ?_, hdone.releases_nodup,
    fun r => hdone.mem_releases_iff hrun.consistent, fun release hrelease => ?_,
    fun release hrelease => hdone.cleared hrun hrelease⟩
  · have hbounds := hdone.bounds hrun hr
    exact ⟨hbounds, hbounds.age⟩
  · rw [(hdone.release_spec hrelease).1, hdone.tickId_eq]

end Runs

/-! ## Two robots on a line -/

/-- A cycle at a given time that commits the decisions it was given. -/
def proposedCycle (config : MonitorConfig) (m : ConflictModel) (nowMs : ℤ)
    (decisions : Dict RobotId Action) (priorities : Dict RobotId PriorityBreakdown) :
    Grants GrantDecisionResult := do
  let _ ← prepareTick config m nowMs
  let preview ← previewTick config m decisions priorities none
  commitTick config m preview

/-- A cycle that returns has the parts of a cycle. -/
lemma cycle_of_proposedCycle {config : MonitorConfig} {m : ConflictModel} {nowMs : ℤ}
    {decisions : Dict RobotId Action} {priorities : Dict RobotId PriorityBreakdown}
    {g g' : GrantManager} {result : GrantDecisionResult}
    (h : (proposedCycle config m nowMs decisions priorities).run g = .ok result g') :
    Cycle config m g g' result := by
  obtain ⟨prep, prepared, hprepare, h⟩ := run_bind_eq_ok.mp h
  obtain ⟨preview, previewed, hpreview, hcommit⟩ := run_bind_eq_ok.mp h
  exact ⟨nowMs, prep, prepared, decisions, priorities, none, preview, previewed, preview,
    hprepare, hpreview, hcommit⟩

/-- The first of two approaching robots acquires a grant in the first cycle. The second cycle finds
its state too old and releases the grant, and the robot acquires a newer one in the same tick. -/
theorem cycle_grants_approaching : ∃ run m g' result,
    (cycleMachine defaultConfig).Reachable run ∧ Cycle defaultConfig m run.manager g' result ∧
    Lost run.manager g' robotA ∧ ∃ record, g'.record robotA = some record ∧
      record.acquisitionTick = 2 := by
  obtain ⟨result, g', hrun, hreleased, hacquired⟩ := Ensures.exists_ok (x := do
      let m ← lift (buildConflictModel lineGeometry approaching)
      let priorities ← lift (Dict.collect id neutralPriority [robotA, robotB])
      let decisions := Dict.ofPairs [(robotA, Action.resume), (robotB, Action.pause)]
      let _ ← proposedCycle defaultConfig m 0 decisions priorities
      proposedCycle defaultConfig m 1000000 decisions priorities)
    (s := ({} : GrantManager)) (Q := fun result g' =>
      result.val.releasedGrants.map GrantRelease.robotId = [robotA] ∧
        (g'.record robotA).map GrantRecordFields.acquisitionTick = some 2) (by decide +kernel)
  obtain ⟨m, t, hmodel, hrun⟩ := run_bind_eq_ok.mp hrun
  obtain ⟨-, rfl⟩ := run_lift_eq_ok.mp hmodel
  obtain ⟨priorities, t, hpriorities, hrun⟩ := run_bind_eq_ok.mp hrun
  obtain ⟨-, rfl⟩ := run_lift_eq_ok.mp hpriorities
  obtain ⟨first, g, hfirst, hsecond⟩ := run_bind_eq_ok.mp hrun
  have hreach := Machine.Reachable.step (M := cycleMachine defaultConfig) (t := ⟨g, [m]⟩)
    (.init rfl) ⟨m, first, cycle_of_proposedCycle hfirst, rfl⟩
  obtain ⟨-, -, hlost, -, -⟩ := cycle_grants hreach (cycle_of_proposedCycle hsecond)
  obtain ⟨record, hrecord, htick⟩ := Option.map_eq_some_iff.mp hacquired
  refine ⟨_, m, g', result, hreach, cycle_of_proposedCycle hsecond, (hlost robotA).mp ?_, record,
    hrecord, htick⟩
  rw [hreleased]
  exact List.mem_singleton_self _

end CollisionMonitor
