import CollisionMonitor.RightOfWay
import CollisionMonitor.Progress
import CollisionMonitor.SharedPart

set_option relaxedAutoImplicit false
set_option autoImplicit false

/-!
# Two ticks that share a part of the fleet

Preparing, scoring, solving and previewing a tick give the robots of a shared set the same, when
the conflict models show the same of the set and the grant managers agree on it.

## Main definitions

* `AgreeOn` — two grant managers agree on the robots of a set.
* `PreparedAlike` — two preparations are alike on a set.

## Main results

* `GrantManager.Prepared.alike` — preparing a tick keeps the agreement.
* `Deliberates.agreeUnder` — the preview of a shared component is the same in both ticks.
-/

namespace CollisionMonitor

open Outcome

/-! ## Preparing two ticks -/

section Prepare

variable {config : MonitorConfig} {m m' : ConflictModel} {nowMs : ℤ} {S : Set RobotId}

/-- **Two grant managers agree** on the robots of a set: they are at the same tick, and each robot
has the same grant record, waiting age and previous action. -/
structure AgreeOn (S : Set RobotId) (g g' : GrantManager) : Prop where
  tickId : g.tickId = g'.tickId
  grant : ∀ r ∈ S, g.activeGrants.lookup r = g'.activeGrants.lookup r
  age : ∀ r ∈ S, g.waitingAges.lookup r = g'.waitingAges.lookup r
  action : ∀ r ∈ S, g.previousActions.lookup r = g'.previousActions.lookup r

/-- Managers that agree on some robots have the same records of them. -/
lemma AgreeOn.record {g g' : GrantManager} (h : AgreeOn S g g') {r : RobotId} (hr : r ∈ S) :
    g.record r = g'.record r := by
  rw [GrantManager.record, GrantManager.record, h.grant r hr]

/-- Two preparations are alike on a set: the grants, waiting ages, hard actions and releases of its
robots are the same. -/
structure PreparedAlike (S : Set RobotId) (p p' : GrantManager) (prep prep' : GrantPreparation) :
    Prop where
  record : ∀ r ∈ S, p.record r = p'.record r
  age : ∀ r ∈ S, p.waitingAges.lookup r = p'.waitingAges.lookup r
  hard : ∀ r ∈ S, prep.hardAssignments.lookup r = prep'.hardAssignments.lookup r
  released : ∀ release : GrantRelease, release.robotId ∈ S →
    (release ∈ prep.releasedGrants ↔ release ∈ prep'.releasedGrants)

/-- The lifecycle of a grant depends on the snapshot of its robot and on whether it has an edge. -/
lemma lifecycle_congr {r : RobotId} (hsnap : m.snapshots.lookup r = m'.snapshots.lookup r)
    (hisolated : neighbours m.adjacency r = [] ↔ neighbours m'.adjacency r = []) (tick : ℤ)
    (record : GrantRecordFields) :
    lifecycleRelease config m nowMs tick r record = lifecycleRelease config m' nowMs tick r record ∧
      lifecycleGrant config m nowMs tick r record =
        lifecycleGrant config m' nowMs tick r record := by
  have hrelease : lifecycleRelease config m nowMs tick r record =
      lifecycleRelease config m' nowMs tick r record := by
    unfold lifecycleRelease
    simp only [hsnap, hisolated]
  have hrecord : lifecycleRecord m tick r record = lifecycleRecord m' tick r record := by
    unfold lifecycleRecord
    simp only [Dict.mem_congr hsnap, hisolated]
  unfold lifecycleGrant
  rw [hrelease, hrecord]
  exact ⟨rfl, rfl⟩

namespace GrantManager.Prepared

variable {g after p g' after' p' : GrantManager} {prep prep' : GrantPreparation}

/-- **The releases of a prepared tick**: those of the lifecycle and those of settling. -/
lemma mem_released (h : Prepared config m nowMs g after p prep) (hm : m.WellFormed)
    (release : GrantRelease) : release ∈ prep.releasedGrants ↔ release.tickId = g.tickId + 1 ∧
      ((g.record release.robotId).bind (lifecycleRelease config m nowMs (g.tickId + 1)
          release.robotId) = some release.reason ∨
        ∃ K ∈ m.connectedComponents,
          (release.robotId, release.reason) ∈ (after.settled m K).2) := by
  obtain ⟨r, tick, reason⟩ := release
  rw [h.releases_eq hm, List.mem_append, h.lifecycleReleases, and_or_left]
  refine or_congr ?_ ?_
  · simp only [List.mem_flatMap, Option.mem_toList, Option.map_eq_some_iff, mem_sorted,
      GrantRelease.mk.injEq]
    constructor
    · rintro ⟨q, -, reason', hreason, rfl, rfl, rfl⟩
      exact ⟨rfl, hreason⟩
    · rintro ⟨rfl, hreason⟩
      obtain ⟨record, hrecord, -⟩ := Option.bind_eq_some_iff.mp hreason
      exact ⟨r, AList.mem_keys.mp (mem_activeGrants_iff.mpr ⟨record, hrecord⟩), reason, hreason,
        rfl, rfl, rfl⟩
  · simp only [settledReleases, List.mem_map, List.mem_flatMap, Prod.exists, GrantRelease.mk.injEq]
    constructor
    · rintro ⟨q, reason', ⟨K, hK, hmem⟩, rfl, rfl, rfl⟩
      exact ⟨rfl, K, hK, hmem⟩
    · rintro ⟨rfl, K, hK, hmem⟩
      exact ⟨r, reason, ⟨K, hK, hmem⟩, rfl, rfl, rfl⟩

/-- Preparing does not change the waiting ages of observed robots. -/
lemma age_eq (h : Prepared config m nowMs g after p prep) (hm : m.WellFormed) (r : RobotId) :
    p.waitingAges.lookup r = if r ∈ m.snapshots then g.waitingAges.lookup r else none := by
  rw [← h.ages r, h.settles]
  change (after.releasedAll _).waitingAges.lookup r = _
  rw [(h.frame hm).1]

section Alike

variable (h : Prepared config m nowMs g after p prep)
  (h' : Prepared config m' nowMs g' after' p' prep') (hmodel : SameOn S m m')
  (hagree : AgreeOn S g g')
include h h' hmodel hagree

/-- After the lifecycle the shared robots have the same grants. -/
lemma record_after {r : RobotId} (hr : r ∈ S) : after.record r = after'.record r := by
  rw [h.lifecycle, h'.lifecycle, hagree.record hr, hagree.tickId]
  refine Option.bind_congr fun record _ => ?_
  exact (lifecycle_congr (hmodel.snapshots r hr) (hmodel.isolated r hr) _ record).2

/-- What settling gives a shared robot, it gives it in both models. -/
lemma settled_iff {r : RobotId} (hr : r ∈ S)
    {P : List RobotId × List (RobotId × GrantReleaseReason) → Prop}
    (hP : ∀ K, P (after.settled m K) → r ∈ K) (hP' : ∀ K, P (after'.settled m' K) → r ∈ K) :
    (∃ K ∈ m.connectedComponents, P (after.settled m K)) ↔
      ∃ K ∈ m'.connectedComponents, P (after'.settled m' K) := by
  have hsettled : ∀ K ∈ m.connectedComponents, r ∈ K →
      after.settled m K = after'.settled m' K := by
    intro K hK hrK
    obtain ⟨hinside, hsame⟩ := hmodel.inside K hK ⟨r, hrK, hr⟩
    exact settled_congr hsame fun q hq => h.record_after h' hmodel hagree (hinside q hq)
  constructor
  · rintro ⟨K, hK, hPK⟩
    have hrK := hP K hPK
    exact ⟨K, (hmodel.components K ⟨r, hrK, hr⟩).mp hK, hsettled K hK hrK ▸ hPK⟩
  · rintro ⟨K, hK, hPK⟩
    have hrK := hP' K hPK
    have hK := (hmodel.components K ⟨r, hrK, hr⟩).mpr hK
    exact ⟨K, hK, by rwa [hsettled K hK hrK]⟩

end Alike

/-- **Preparing keeps the agreement**: grants, waiting ages, hard actions and releases of the shared
robots are the same.

**Proof sketch.** The lifecycle treats each robot by itself, and settling each component by itself,
so both give the same for the shared robots. -/
theorem alike (h : Prepared config m nowMs g after p prep)
    (h' : Prepared config m' nowMs g' after' p' prep') (hm : m.WellFormed) (hm' : m'.WellFormed)
    (hmodel : SameOn S m m') (hagree : AgreeOn S g g') : PreparedAlike S p p' prep prep' := by
  have hreleased : ∀ r ∈ S, ∀ reason,
      (∃ K ∈ m.connectedComponents, (r, reason) ∈ (after.settled m K).2) ↔
        ∃ K ∈ m'.connectedComponents, (r, reason) ∈ (after'.settled m' K).2 := by
    intro r hr reason
    refine h.settled_iff h' hmodel hagree hr (P := fun split => (r, reason) ∈ split.2)
      (fun K hmem => ?_) fun K hmem => ?_
    · exact ((mem_settled h.inTick.records).mp (.inr (List.mem_map.mpr ⟨_, hmem, rfl⟩))).1
    · exact ((mem_settled h'.inTick.records).mp (.inr (List.mem_map.mpr ⟨_, hmem, rfl⟩))).1
  refine ⟨fun r hr => ?_, fun r hr => ?_, fun r hr => ?_, fun release hr => ?_⟩
  · rw [(h.frame hm).2, (h'.frame hm').2, h.record_after h' hmodel hagree hr]
    refine if_congr ?_ rfl rfl
    simp only [settledReleases, List.map_flatMap, List.mem_flatMap]
    exact h.settled_iff h' hmodel hagree hr (P := fun split => r ∈ split.2.map Prod.fst)
      (fun K hmem => ((mem_settled h.inTick.records).mp (.inr hmem)).1)
      fun K hmem => ((mem_settled h'.inTick.records).mp (.inr hmem)).1
  · rw [h.age_eq hm, h'.age_eq hm', hagree.age r hr]
    exact if_congr (Dict.mem_congr (hmodel.snapshots r hr)) rfl rfl
  · refine Option.ext fun a => ?_
    rw [h.hard, h'.hard]
    refine and_congr_right fun _ => ?_
    exact h.settled_iff h' hmodel hagree hr (P := fun split => r ∈ split.1)
      (fun K hmem => ((mem_settled h.inTick.records).mp (.inl hmem)).1)
      fun K hmem => ((mem_settled h'.inTick.records).mp (.inl hmem)).1
  · rw [h.mem_released hm, h'.mem_released hm', hagree.record hr, hagree.tickId]
    refine and_congr_right fun _ => or_congr ?_ (hreleased _ hr _)
    rw [Option.bind_congr fun record _ => (lifecycle_congr (hmodel.snapshots _ hr)
      (hmodel.isolated _ hr) _ record).1]

end GrantManager.Prepared

end Prepare

/-! ## Deliberating -/

section TwoTicks

variable {G : Type} {config : MonitorConfig} {geometry : Geometry G} {cpSat : Backend} {nowMs : ℤ}
  {S : Set RobotId} {tick tick' : TickDecision ℕ}
  {g after prepared g' after' prepared' : GrantManager} {solved solved' : Solving}
  {previewed previewed' : GrantManager.Repairing} {K : List RobotId}

namespace Deliberates

variable (h : Deliberates config (shippedCollaborators config geometry fun _ => cpSat) nowMs tick
    prepared solved previewed)
  (hm : tick.conflictModel.WellFormed)
  (hprepared : GrantManager.Prepared config tick.conflictModel nowMs g after prepared
    tick.preparation)

include h hm hprepared

/-- An isolated robot is proposed its policy action. -/
lemma isolated {r : RobotId} (hr : r ∈ tick.conflictModel.isolatedRobots) :
    solved.decisions.lookup r = some (isolatedAction tick.conflictModel r) ∧
      solved.sources.lookup r = some .policy := by
  obtain ⟨call, call', hsolve⟩ := h.solves
  have hproposes : Proposes tick.conflictModel tick.preparation.hardAssignments
      tick.conflictModel.connectedComponents solved :=
    (solveComponents_spec (P := True) hm (fun r hr => hprepared.hard_available hr) call
      (.inl trivial)).get_ok hsolve
  exact hproposes.isolated r hr

/-- A component with a hard action is proposed to resume some robot. -/
lemma resumed (hK : K ∈ tick.conflictModel.connectedComponents)
    (hhard : ∃ r ∈ K, r ∈ tick.preparation.hardAssignments) :
    ∃ r ∈ K, solved.decisions.lookup r = some .resume := by
  obtain ⟨r, hr, hmem⟩ := hhard
  obtain ⟨a, ha⟩ := Dict.exists_lookup hmem
  obtain ⟨rfl, hadj, -⟩ := hprepared.of_hard ha
  obtain ⟨call, call', hsolve⟩ := h.solves
  obtain ⟨decisions, source, hsolution, hown⟩ :=
    solveComponents_own hm hK (hm.two_le_length hK hr hadj) hsolve
  have hobeys := componentSolution_obeys (fun r hr => hm.mem_snapshots hK hr)
    (fun r hr => hprepared.hard_available hr) ((hprepared.progressive_iff hm hK).mp
      (hprepared.progressive_of_hard hm hK hr hmem)) hsolution
  refine ⟨r, hr, ?_⟩
  rw [(hown r hr).1, lookup_eq_actionOf (((componentSolution_decides hsolution).1 r).mpr hr),
    hobeys.2 r hr _ ha]

end Deliberates

variable (h : Deliberates config (shippedCollaborators config geometry fun _ => cpSat) nowMs tick
    prepared solved previewed)
  (h' : Deliberates config (shippedCollaborators config geometry fun _ => cpSat) nowMs tick'
    prepared' solved' previewed')
  (hm : tick.conflictModel.WellFormed) (hm' : tick'.conflictModel.WellFormed)
  (hprepared : GrantManager.Prepared config tick.conflictModel nowMs g after prepared
    tick.preparation)
  (hprepared' : GrantManager.Prepared config tick'.conflictModel nowMs g' after' prepared'
    tick'.preparation)
  (hmodel : SameOn S tick.conflictModel tick'.conflictModel) (hagree : AgreeOn S g g')

include h h' hm hm' hprepared hprepared' hmodel hagree

/-- **The preview of a shared component** is the same in both ticks.

**Proof sketch.** Both previews start from the same proposals: the solutions of the component depend
on it alone (`componentSolution_congr`), and an isolated robot follows the policy. Previewing
depends on the component as well (`validateOrRepairComponents_congr`). -/
theorem Deliberates.agreeUnder (hK : K ∈ tick.conflictModel.connectedComponents)
    (hmeet : ∃ r ∈ K, r ∈ S) : AgreeUnder K previewed previewed' := by
  have hK' := (hmodel.components K hmeet).mp hK
  obtain ⟨hinside, hsame⟩ := hmodel.inside K hK hmeet
  have halike := hprepared.alike hprepared' hm hm' hmodel hagree
  have hhard : ∀ r ∈ K, tick.preparation.hardAssignments.lookup r =
      tick'.preparation.hardAssignments.lookup r := fun r hr => halike.hard r (hinside r hr)
  have hpriorities := scorePriorities_congr hm hm' hK hK' hsame
    (fun r hr => halike.age r (hinside r hr)) (fun r hr => by
      rw [GrantManager.mem_activeGrants_iff, GrantManager.mem_activeGrants_iff,
        halike.record r (hinside r hr)]) h.scores h'.scores
  refine validateOrRepairComponents_congr hm hm' hK hK' hsame hpriorities
    (fun r hr => Dict.mem_congr (hhard r hr)) (fun r hr => ?_) (h.resumed hm hprepared hK)
    h.previews h'.previews
  by_cases hlen : 2 ≤ K.length
  · obtain ⟨_, _, hsolve⟩ := h.solves
    obtain ⟨_, _, hsolve'⟩ := h'.solves
    obtain ⟨decisions, source, hsolution, hown⟩ := solveComponents_own hm hK hlen hsolve
    obtain ⟨decisions', source', hsolution', hown'⟩ := solveComponents_own hm' hK' hlen hsolve'
    rw [componentSolution_congr hsame hpriorities hhard, hsolution'] at hsolution
    obtain ⟨rfl, rfl⟩ := Prod.mk.inj (Except.ok.inj hsolution)
    rw [(hown r hr).1, (hown r hr).2, (hown' r hr).1, (hown' r hr).2]
    exact ⟨rfl, rfl⟩
  · -- an isolated robot follows the policy
    obtain ⟨hdec, hsrc⟩ := h.isolated hm hprepared ((hm.mem_isolated_iff hK hr).mpr hlen)
    obtain ⟨hdec', hsrc'⟩ := h'.isolated hm' hprepared' ((hm'.mem_isolated_iff hK' hr).mpr hlen)
    rw [hdec, hsrc, hdec', hsrc', isolatedAction, isolatedAction]
    refine ⟨congrArg some (if_congr ?_ rfl rfl), rfl⟩
    exact unavailable_congr (hsame.snapshots r hr)

end TwoTicks

end CollisionMonitor
