import CollisionMonitor.ShippedTick

set_option relaxedAutoImplicit false
set_option autoImplicit false

/-!
# Right of way

Grants that survive the lifecycle are settled oldest first in each component, and priorities have
no say in it: a grant is retained whenever it can be completed together with the older retained
ones, and a retained grant always resumes its robot. After a committed tick, grants and movement
coincide.

## Main definitions

* `EngineDecision.Retains` — a grant enters the tick as a hard Resume.
* `OnEdge` — a robot has a conflict edge.

## Main results

* `settle_split` — the fate of one grant, given the older ones.
* `decide_rightOfWay` — retention and release are exact, and retained grants resume.
* `decide_grants_coincide` — the holders with an edge are the resumed robots with an edge.
-/

namespace CollisionMonitor

open Outcome

/-! ## Oldest first -/

section Settle

variable {m : ConflictModel} {K : List RobotId}

/-- Candidates are settled one after another. -/
lemma settle_append (retained pre post : List RobotId) :
    settle m K retained (pre ++ post) = ((settle m K (settle m K retained pre).1 post).1,
      (settle m K retained pre).2 ++ (settle m K (settle m K retained pre).1 post).2) := by
  induction pre generalizing retained with
  | nil => rfl
  | cons r pre ih =>
    by_cases h : Completable m K (retained ++ [r])
    · rw [List.cons_append, settle_of_completable h, settle_of_completable h, ih]
    · rw [List.cons_append, settle_of_not_completable h, settle_of_not_completable h, ih,
        List.cons_append]

/-- **The fate of one grant**, given those before it: it is retained iff it can be completed
together with the retained ones before it, and the reason of its release tells whether there were
any.

**Proof sketch.** Settling the list is settling the part before the grant and going on from there
(`settle_append`). A grant, once retained, stays so, and the ones after it are other robots. -/
lemma settle_split {pre post : List RobotId} {r : RobotId} (hnd : (pre ++ r :: post).Nodup) :
    (∀ q, q ∈ (settle m K [] pre).1 ↔ q ∈ pre ∧ q ∈ (settle m K [] (pre ++ r :: post)).1) ∧
      (r ∈ (settle m K [] (pre ++ r :: post)).1 ↔
        Completable m K ((settle m K [] pre).1 ++ [r])) ∧
      (r ∉ (settle m K [] (pre ++ r :: post)).1 →
        (r, if (settle m K [] pre).1 ≠ [] then GrantReleaseReason.componentMergeConflict
          else .unsafeGeometry) ∈ (settle m K [] (pre ++ r :: post)).2) := by
  have hpre : ∀ q ∈ (settle m K [] pre).1, q ∈ pre := fun q hq =>
    (mem_of_mem_settle hq).resolve_left List.not_mem_nil
  obtain ⟨-, hpost, hdisj⟩ := List.nodup_append.mp hnd
  rw [settle_append]
  dsimp only
  by_cases hcomp : Completable m K ((settle m K [] pre).1 ++ [r])
  · rw [settle_of_completable hcomp]
    have hr : r ∈ (settle m K ((settle m K [] pre).1 ++ [r]) post).1 := subset_settle (by simp)
    refine ⟨fun q => ⟨fun hq => ⟨hpre q hq, subset_settle (by simp [hq])⟩, ?_⟩,
      iff_of_true hr hcomp, fun hnot => absurd hr hnot⟩
    rintro ⟨hq, hkept⟩
    rcases mem_of_mem_settle hkept with hq' | hq'
    · rcases List.mem_append.mp hq' with hbefore | hlast
      · exact hbefore
      · exact absurd (List.mem_singleton.mp hlast) (hdisj q hq r List.mem_cons_self)
    · exact absurd rfl (hdisj q hq q (List.mem_cons_of_mem _ hq'))
  · rw [settle_of_not_completable hcomp]
    have hr : r ∉ (settle m K (settle m K [] pre).1 post).1 := fun hkept => by
      rcases mem_of_mem_settle hkept with hbefore | hlast
      · exact hdisj r (hpre r hbefore) r List.mem_cons_self rfl
      · exact (List.nodup_cons.mp hpost).1 hlast
    refine ⟨fun q => ⟨fun hq => ⟨hpre q hq, subset_settle hq⟩, ?_⟩, iff_of_false hr hcomp,
      fun _ => by simp⟩
    rintro ⟨hq, hkept⟩
    rcases mem_of_mem_settle hkept with hbefore | hlast
    · exact hbefore
    · exact absurd rfl (hdisj q hq q (List.mem_cons_of_mem _ hlast))

end Settle

/-! ## Right of way -/

section RightOfWay

variable {G : Type} {config : MonitorConfig} {geometry : Geometry G} {cpSat : ℕ → Backend}
  {snapshots : List RobotSnapshot} {nowMs : ℤ} {tickId : String}

/-- The grant of the robot was retained: it entered the tick as a hard Resume. -/
def EngineDecision.Retains (d : EngineDecision) (r : RobotId) : Prop :=
  (r, Action.resume.value) ∈ d.tickMetadata.grantHardAssignments

/-- Whether a decision retains a robot can be decided. -/
instance (d : EngineDecision) (r : RobotId) : Decidable (d.Retains r) :=
  inferInstanceAs (Decidable ((r, Action.resume.value) ∈ d.tickMetadata.grantHardAssignments))

/-- The releases that preparing a tick records: those of the lifecycle, then those of settling. -/
lemma GrantManager.Prepared.releases_eq {m : ConflictModel} {g after prepared : GrantManager}
    {prep : GrantPreparation} (h : GrantManager.Prepared config m nowMs g after prepared prep)
    (hm : m.WellFormed) : prep.releasedGrants = after.pendingReleases ++
      (after.settledReleases m m.connectedComponents).map fun release =>
        ⟨release.1, g.tickId + 1, release.2⟩ := by
  obtain ⟨hnd, hmem⟩ := GrantManager.settledReleases_spec (m := m) h.inTick.records
    hm.decomposes.disjoint fun K hK => hm.nodup hK
  obtain ⟨-, -, hpending⟩ := GrantManager.releasedAll_spec hnd after fun r hr => (hmem r hr).1
  rw [h.releases, h.settles, ← h.tick]
  exact hpending

/-- The decision reports the retained grants. -/
lemma ShippedTick.retains_iff {g after prepared : GrantManager} {tick : TickDecision ℕ}
    (h : ShippedTick config geometry snapshots nowMs g tick after prepared) {grantTickId : ℤ}
    {heldAges : Dict RobotId ℤ} {d : EngineDecision}
    (hreport : Reports tick nowMs tickId grantTickId heldAges d) {r : RobotId} :
    EngineDecision.Retains d r ↔ r ∈ tick.preparation.hardAssignments := by
  obtain ⟨_, hmeta⟩ := hreport.metadata
  rw [EngineDecision.Retains, hmeta, TickDecision.metadata]
  simp only [sortedItems, List.mem_map, List.mem_filterMap, Option.map_eq_some_iff, Prod.exists]
  constructor
  · rintro ⟨q, action, ⟨_, -, _, hlook, heq⟩, hpair⟩
    obtain ⟨rfl, rfl⟩ := Prod.mk.inj heq
    obtain ⟨rfl, -⟩ := Prod.mk.inj hpair
    exact Dict.mem_of_lookup hlook
  · intro hr
    obtain ⟨a, ha⟩ := Dict.exists_lookup hr
    obtain ⟨rfl, -, -⟩ := h.prepared.of_hard ha
    exact ⟨r, _, ⟨r, mem_sorted.mpr (AList.mem_keys.mp hr), _, ha, rfl⟩, rfl⟩

/-- **A commit without overrides** is a commit of the prepared manager. -/
lemma CommitsFrom.prepares {tick : TickDecision ℕ} {g g' : GrantManager} (hg : g.Consistent)
    (hm : tick.conflictModel.WellFormed) (h : CommitsFrom config nowMs tick g g')
    (haffected : tick.affected = []) :
    ∃ after prepared preview result,
      GrantManager.Prepared config tick.conflictModel nowMs g after prepared tick.preparation ∧
      preview.val.decisions = tick.decisions ∧
      (GrantManager.commitTick config tick.conflictModel preview).run prepared = .ok result g' ∧
      tick.grantResult = some result := by
  obtain ⟨copy, prepared, previewed, revoked, proposed, proposedSources, preview, result, hclone,
    hprepare, hpreview, hrevoke, hval, hcommit, hresult⟩ := h
  obtain ⟨hcopy, -⟩ := hg.clone hclone
  obtain ⟨after, hprepared⟩ := (GrantManager.prepareTick_spec (E := True) hm hcopy
    (fun _ => trivial) (.inl trivial)).get_ok hprepare
  obtain rfl := (previewTick_frame _ _ _ _ _).get_ok hpreview
  rw [RevokesFrom, if_pos haffected] at hrevoke
  subst hrevoke
  exact ⟨after, revoked, preview, result, hprepared.of_clone hclone, by rw [hval], hcommit, hresult⟩

/-- A committed tick without overrides reports the releases of its preparation. -/
lemma CommitsFrom.releasedGrants {tick : TickDecision ℕ} {g g' : GrantManager}
    (hg : g.Consistent) (hm : tick.conflictModel.WellFormed)
    (h : CommitsFrom config nowMs tick g g') (haffected : tick.affected = []) :
    ∃ result, tick.grantResult = some result ∧
      result.val.releasedGrants = tick.preparation.releasedGrants := by
  obtain ⟨after, prepared, preview, result, hprepared, -, hcommit, hresult⟩ :=
    h.prepares hg hm haffected
  obtain ⟨-, -, -, -, hreleased, -⟩ :=
    (GrantManager.commitTick_frame _ (hprepared.prepared_inTick hm)).get_ok hcommit
  exact ⟨result, hresult, by rw [hreleased, hprepared.releases]⟩

/-- The robots that hold a grant of the component after the lifecycle and have an edge, in the
order in which their grants are settled: by tick of acquisition, then by ID. -/
def contenders (after : GrantManager) (m : ConflictModel) (K : List RobotId) : List RobotId :=
  (after.grantCandidates m K).map fun record => record.val.robotId

/-- **The grants of one component** are settled oldest first: a grant is retained iff some safe
assignment that pauses the unavailable robots resumes its robot and the older retained ones.

**Proof sketch.** Splitting the list of candidates at the robot gives the step of `settle` at which
it is considered (`settle_split`). What has been retained before it is what the decision retains,
and a release in that step is among those that the tick reports. -/
lemma ShippedTick.settles {g after prepared : GrantManager} {tick : TickDecision ℕ}
    (h : ShippedTick config geometry snapshots nowMs g tick after prepared) {grantTickId : ℤ}
    {heldAges : Dict RobotId ℤ} {d : EngineDecision}
    (hreport : Reports tick nowMs tickId grantTickId heldAges d) {K : List RobotId}
    (hK : K ∈ tick.conflictModel.connectedComponents) {pre post : List RobotId} {r : RobotId}
    (hsplit : contenders after tick.conflictModel K = pre ++ r :: post) :
    (d.Retains r ↔ ∃ x, Safe (componentConstraints K tick.conflictModel) x ∧
        (∀ q ∈ K, Unavailable tick.conflictModel q → x q = .pause) ∧
        (∀ q ∈ pre, d.Retains q → x q = .resume) ∧ x r = .resume) ∧
      (¬ d.Retains r → (∃ q ∈ pre, d.Retains q) →
        ⟨r, g.tickId + 1, .componentMergeConflict⟩ ∈ tick.preparation.releasedGrants) ∧
      (¬ d.Retains r → (¬ ∃ q ∈ pre, d.Retains q) →
        ⟨r, g.tickId + 1, .unsafeGeometry⟩ ∈ tick.preparation.releasedGrants) := by
  have hm := h.wellFormed
  have hrecords := h.prepared.inTick.records
  have hnd : (pre ++ r :: post).Nodup := by
    rw [← hsplit]
    exact (GrantManager.candidateIds_perm hrecords K).nodup_iff.mpr ((hm.nodup hK).filter _)
  have hmemK : ∀ q ∈ pre ++ r :: post, q ∈ K := fun q hq => by
    rw [← hsplit] at hq
    exact ((GrantManager.mem_candidateIds hrecords).mp hq).1
  have hsettled : after.settled tick.conflictModel K =
      settle tick.conflictModel K [] (pre ++ r :: post) := by
    rw [← hsplit]
    rfl
  obtain ⟨hbefore, hkept, hreleased⟩ := settle_split (m := tick.conflictModel) (K := K) hnd
  rw [← hsettled] at hbefore hkept hreleased
  have hretains : ∀ q ∈ K, d.Retains q ↔ q ∈ (after.settled tick.conflictModel K).1 :=
    fun q hq => (h.retains_iff hreport).trans (h.prepared.hard_iff hm hK hq)
  have hold : ∀ q, q ∈ (settle tick.conflictModel K [] pre).1 ↔ q ∈ pre ∧ d.Retains q :=
    fun q => (hbefore q).trans
      (and_congr_right fun hq => (hretains q (hmemK q (by simp [hq]))).symm)
  have hrK : r ∈ K := hmemK r (by simp)
  have hrecorded : ∀ reason, (r, reason) ∈ (after.settled tick.conflictModel K).2 →
      ⟨r, g.tickId + 1, reason⟩ ∈ tick.preparation.releasedGrants := fun reason hmem => by
    rw [h.prepared.releases_eq hm]
    exact List.mem_append_right _ (List.mem_map.mpr ⟨_, List.mem_flatMap.mpr ⟨K, hK, hmem⟩, rfl⟩)
  have hany : (settle tick.conflictModel K [] pre).1 ≠ [] ↔ ∃ q ∈ pre, d.Retains q := by
    rw [← List.isEmpty_eq_false_iff, List.isEmpty_eq_false_iff_exists_mem]
    exact exists_congr hold
  rw [hretains r hrK]
  refine ⟨hkept.trans (exists_congr fun x => and_congr_right fun _ => and_congr_right fun _ => ?_),
    fun hnot hyes => ?_, fun hnot hno => ?_⟩
  · simp only [List.forall_mem_append, List.forall_mem_singleton, hold, and_imp]
  · have := hreleased hnot
    rw [if_pos (hany.mpr hyes)] at this
    exact hrecorded _ this
  · have := hreleased hnot
    rw [if_neg fun hne => hno (hany.mp hne)] at this
    exact hrecorded _ this

/-- A new engine after its first call about two approaching robots. -/
def approachingState : EngineState ℕ Store ℕ := finalState ((shippedDecide defaultConfig
  lineGeometry (fun _ => none) approaching 0 "first").run (EngineState.initial 0))

/-- The engine gets there by one tick. -/
lemma approachingState_reachable :
    (shippedMachine defaultConfig lineGeometry fun _ => none).Reachable approachingState :=
  .step (.init ⟨0, rfl⟩) ⟨approaching, 0, "first", rfl⟩

/-- The robot has a conflict edge. -/
def OnEdge (d : EngineDecision) (r : RobotId) : Prop :=
  ∃ e ∈ d.tickMetadata.conflictEdges, e.1 = r ∨ e.2 = r

/-- The robots on an edge are those with neighbours. -/
lemma ConflictModel.WellFormed.onEdge_iff {m : ConflictModel} (hm : m.WellFormed) {r : RobotId} :
    (∃ e ∈ m.edges, e.1 = r ∨ e.2 = r) ↔ neighbours m.adjacency r ≠ [] := by
  constructor
  · rintro ⟨e, he, hor⟩
    obtain ⟨pair, hpair, hforb, rfl⟩ := (hm.mem_edges e).mp he
    rcases hor with rfl | rfl
    · exact List.ne_nil_of_mem ((hm.adjacent_iff _ _).mpr ⟨pair, hpair, hforb, .inl rfl⟩)
    · exact List.ne_nil_of_mem ((hm.adjacent_iff _ _).mpr ⟨pair, hpair, hforb, .inr rfl⟩)
  · intro hne
    obtain ⟨b, hb⟩ := List.exists_mem_of_ne_nil _ hne
    obtain ⟨pair, hpair, hforb, heq | heq⟩ := (hm.adjacent_iff r b).mp hb
    · exact ⟨(r, b), (hm.mem_edges _).mpr ⟨pair, hpair, hforb, heq⟩, .inl rfl⟩
    · exact ⟨(b, r), (hm.mem_edges _).mpr ⟨pair, hpair, hforb, heq⟩, .inr rfl⟩

/-- **Grants and movement coincide.** After a committed tick an observed robot on an edge holds a
grant iff it was resumed, and every observed holder was resumed.

**Proof sketch.** For a robot on an edge, acquisition compares its action with its grant
(`active_iff`). A robot without an edge keeps the grant that it had, and a holder is available, so
the policy for isolated robots resumes it. -/
theorem decide_grants_coincide {state state' : EngineState ℕ Store ℕ}
    (hreach : (shippedMachine config geometry cpSat).Reachable state) {d : EngineDecision}
    (h : (shippedDecide config geometry cpSat snapshots nowMs tickId).run state = .ok d state')
    (hcommitted : d.tickMetadata.stateCommitted = true) :
    (∀ s ∈ observed config nowMs snapshots, OnEdge d s.deviceId →
      (s.deviceId ∈ state'.held.activeGrants ↔ d.returned s.deviceId = .resume)) ∧
    ∀ s ∈ observed config nowMs snapshots, s.deviceId ∈ state'.held.activeGrants →
      d.returned s.deviceId = .resume := by
  obtain ⟨tick, after, prepared, _, _, hstages, hreport, hgrant, hgranted⟩ :=
    shipped_of_reachable hreach h
  have hm := hstages.wellFormed
  have hfinal := hreport.stateCommitted_iff.mp hcommitted
  obtain ⟨result, hresult⟩ := Option.isSome_iff_exists.mp (hgrant.mpr hfinal)
  obtain ⟨-, hgrants, -⟩ := hgranted result hresult
  have hobs : ∀ s ∈ observed config nowMs snapshots, s.deviceId ∈ tick.conflictModel.snapshots :=
    fun s hs => (hstages.represents.mem_snapshots_iff _).mpr ⟨s, hs, rfl⟩
  have hedge : ∀ r, OnEdge d r ↔ neighbours tick.conflictModel.adjacency r ≠ [] := fun r => by
    obtain ⟨_, hmeta⟩ := hreport.metadata
    rw [OnEdge, hmeta]
    exact hm.onEdge_iff
  have hcoincide : ∀ s ∈ observed config nowMs snapshots,
      neighbours tick.conflictModel.adjacency s.deviceId ≠ [] →
      (s.deviceId ∈ state'.held.activeGrants ↔ d.returned s.deviceId = .resume) := by
    intro s hs hadj
    rw [hstages.returned_eq hreport]
    exact hgrants.active_iff hstages.mem_decisions (hstages.committable hfinal) (hobs s hs) hadj
  refine ⟨fun s hs honEdge => hcoincide s hs ((hedge _).mp honEdge), fun s hs hactive => ?_⟩
  by_cases hadj : neighbours tick.conflictModel.adjacency s.deviceId = []
  · -- an isolated holder is available, so the policy resumes it
    have hheld : s.deviceId ∈ prepared.activeGrants := by
      rw [GrantManager.mem_activeGrants_iff] at hactive ⊢
      rwa [hgrants.kept _ fun hacq => hacq.2.2 hadj] at hactive
    have havail := hstages.prepared.active_available hm hheld
    rw [hstages.returned_eq hreport, actionOf_eq (hstages.isolated
      ((hm.mem_isolated _).mpr ⟨hobs s hs, hadj⟩)), isolatedAction, if_neg havail]
  · exact (hcoincide s hs hadj).mp hactive

/-- In a committed tick about two approaching robots, a grant is held iff its robot was resumed. -/
theorem decide_grants_coincide_approaching : ∃ d state', (shippedDecide defaultConfig lineGeometry
      (fun _ => none) approaching 100 "second").run approachingState = .ok d state' ∧
    robotA ∈ state'.held.activeGrants ∧ robotB ∉ state'.held.activeGrants := by
  obtain ⟨d, state', hrun, hcommitted, hedge, hA, hB⟩ := Ensures.exists_ok
    (x := shippedDecide defaultConfig lineGeometry (fun _ => none) approaching 100 "second")
    (s := approachingState) (Q := fun (d : EngineDecision) _ =>
      d.tickMetadata.stateCommitted = true ∧ (robotA, robotB) ∈ d.tickMetadata.conflictEdges ∧
      d.returned robotA = .resume ∧ d.returned robotB = .pause) (by decide +kernel)
  obtain ⟨hcoincide, -⟩ := decide_grants_coincide approachingState_reachable hrun hcommitted
  have hobserved : ∀ t ∈ approaching, ∃ s ∈ observed defaultConfig 100 approaching,
      s.deviceId = t.deviceId := fun t ht => ⟨_, mem_observed.mpr ⟨t, ht, rfl⟩, rfl⟩
  obtain ⟨s, hs, hsA⟩ := hobserved (lineSnapshot robotA 0 3) (by simp [approaching])
  obtain ⟨t, ht, htB⟩ := hobserved (lineSnapshot robotB 5 2) (by simp [approaching])
  refine ⟨d, state', hrun, ?_, fun hB' => ?_⟩
  · have := (hcoincide s hs ⟨_, hedge, .inl hsA.symm⟩).mpr (by rw [hsA]; exact hA)
    rwa [hsA] at this
  · have := (hcoincide t ht ⟨_, hedge, .inr htB.symm⟩).mp (by rw [htB]; exact hB')
    rw [htB] at this
    cases hB.symm.trans this

end RightOfWay

end CollisionMonitor
