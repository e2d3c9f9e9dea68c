import CollisionMonitor.Transaction
import CollisionMonitor.CommitSpec

set_option relaxedAutoImplicit false
set_option autoImplicit false

/-!
# A tick of the shipped engine

With the shipped builder, optimiser, heuristic and grant manager, a tick is described stage by
stage from the state of the held manager. The description is proved once, for ticks that return
and for ticks that must return.

## Main definitions

* `AcceptedCall` — the inputs on which a call must return.
* `ShippedTick` — the stages of a tick that reached its report.

## Main results

* `decideTick_shipped` — every tick has these stages, and an accepted call reaches its report.
* `ShippedTick.unchanged` — the override never changes an action or a source.
* `decide_shipped` — the same for calls of `decide`.
-/

namespace CollisionMonitor

open Outcome

section Shipped

variable {G : Type} {config : MonitorConfig} {geometry : Geometry G} {cpSat : ℕ → Backend}
  {snapshots : List RobotSnapshot} {nowMs : ℤ} {tickId : String}

/-- Every objective coefficient that a tick from the held state `g` computes stays in the integer
range of CP-SAT: the neutral ones of completion checks, and those of the priorities. -/
def CoefficientsInRange (config : MonitorConfig) (geometry : Geometry G)
    (snapshots : List RobotSnapshot) (nowMs : ℤ) (g : GrantManager) : Prop :=
  ∀ m, buildConflictModel geometry (observed config nowMs snapshots) = .ok m →
    ∀ K ∈ m.connectedComponents, NeutralFit K ∧ ∀ copy prep prepared priorities,
      g.clone = .ok copy → (GrantManager.prepareTick config m nowMs).run copy = .ok prep prepared →
      scorePriorities config m prepared.waitingAges prepared.activeGrants nowMs = .ok priorities →
      CoefficientsFit K priorities

/-- Whether the coefficients are in range can be decided. -/
instance (config : MonitorConfig) (geometry : Geometry G) (snapshots : List RobotSnapshot)
    (nowMs : ℤ) (g : GrantManager) :
    Decidable (CoefficientsInRange config geometry snapshots nowMs g) :=
  decidable_of_iff (∀ m, buildConflictModel geometry (observed config nowMs snapshots) = .ok m →
    ∀ K ∈ m.connectedComponents, NeutralFit K ∧ ∀ copy, g.clone = .ok copy → ∀ prep prepared,
      (GrantManager.prepareTick config m nowMs).run copy = .ok prep prepared → ∀ priorities,
      scorePriorities config m prepared.waitingAges prepared.activeGrants nowMs = .ok priorities →
      CoefficientsFit K priorities)
    (forall₂_congr fun _ _ => forall₂_congr fun _ _ => and_congr_right fun _ =>
      ⟨fun h copy prep prepared priorities hclone hprep =>
          h copy hclone prep prepared hprep priorities,
        fun h copy hclone prep prepared hprep priorities =>
          h copy prep prepared priorities hclone hprep⟩)

/-- The inputs on which a call returns: the arguments pass the checks of `decide`, envelopes can be
built, the solver answers as documented, and the coefficients are in range. -/
structure AcceptedCall (config : MonitorConfig) (geometry : Geometry G) (cpSat : ℕ → Backend)
    (snapshots : List RobotSnapshot) (nowMs : ℤ) (tickId : String) (g : GrantManager) : Prop where
  now_nonneg : 0 ≤ nowMs
  tickId_ne : ¬ blank tickId = true
  ids : (snapshots.map RobotSnapshot.deviceId).Nodup
  received : ∀ s ∈ snapshots, 0 ≤ s.receivedAtMs
  envelope : ∀ s ∈ observed config nowMs snapshots, ∀ a,
    ∃ e, geometry.actionEnvelope s a = .ok e
  solver : TrustworthySolver cpSat
  fit : CoefficientsInRange config geometry snapshots nowMs g

/-- **The stages of a tick** from the held state `g`: the model represents the fleet; `after` is
the provisional manager after the lifecycle and `prepared` after settling the components; the
solvers propose actions, the preview resolves every component, and the result is validated. -/
structure ShippedTick (config : MonitorConfig) (geometry : Geometry G)
    (snapshots : List RobotSnapshot) (nowMs : ℤ) (g : GrantManager) (tick : TickDecision ℕ)
    (after prepared : GrantManager) : Prop where
  checked : Checked geometry (observed config nowMs snapshots) tick
  built : buildConflictModel geometry (observed config nowMs snapshots) = .ok tick.conflictModel
  represents : Represents geometry (observed config nowMs snapshots) tick.conflictModel
  prepared : GrantManager.Prepared config tick.conflictModel nowMs g after prepared
    tick.preparation
  mem_priorities : ∀ r, r ∈ tick.priorities ↔ r ∈ tick.conflictModel.snapshots
  solved : ∃ solved, Proposes tick.conflictModel tick.preparation.hardAssignments
      tick.conflictModel.connectedComponents solved ∧
    PreviewOutcome tick.conflictModel tick.preparation.hardAssignments solved.decisions
      tick.preview.val

/-! ## What follows from the stages -/

/-- The components of a represented model partition the fleet. -/
lemma Represents.partitions {ordered : List RobotSnapshot} {m : ConflictModel}
    (h : Represents geometry ordered m) : Partitions ordered m where
  mem_iff := fun r => by rw [← h.mem_snapshots_iff, h.toWellFormed.mem_component_iff]
  unique := fun _ hK _ hL _ => h.toWellFormed.component_unique hK hL

/-- Conflicting robots share a component with several robots. -/
lemma Represents.conflict_component {ordered : List RobotSnapshot} {m : ConflictModel}
    (h : Represents geometry ordered m) {x : RobotId → Action} {i j : RobotId}
    (hconf : ConflictsUnder geometry ordered x i j) :
    ∃ K ∈ m.connectedComponents, i ∈ K ∧ j ∈ K ∧ 2 ≤ K.length := by
  obtain ⟨s, hs, t, ht, rfl, rfl, hlt, hst⟩ := hconf
  obtain ⟨K, hK, hsK⟩ := (h.partitions.mem_iff _).mp ⟨s, hs, rfl⟩
  have htK : t.deviceId ∈ K := by
    by_contra htK
    exact h.separate_pair hK hs ht hlt (fun hiff => htK (hiff.mp hsK)) _ _ hst
  refine ⟨K, hK, hsK, htK, ?_⟩
  have hnd : [s.deviceId, t.deviceId].Nodup := by simp [hlt.ne]
  have hsub : [s.deviceId, t.deviceId] ⊆ K := by
    simp [hsK, htK]
  exact (hnd.subperm hsub).length_le

namespace ShippedTick

variable {g after prepared : GrantManager} {tick : TickDecision ℕ}
  (h : ShippedTick config geometry snapshots nowMs g tick after prepared)
include h

/-- The conflict model of a tick is well formed. -/
lemma wellFormed : tick.conflictModel.WellFormed := h.represents.toWellFormed

/-- Robots conflict under the previewed actions only where no progress is possible. -/
lemma not_progressive {i j : RobotId} (hconf : ConflictsUnder geometry
      (observed config nowMs snapshots) (actionOf tick.preview.val.decisions) i j)
    {K : List RobotId} (hK : K ∈ tick.conflictModel.connectedComponents) (hij : i ∈ K ∨ j ∈ K) :
    2 ≤ K.length ∧ ¬ Progressive tick.conflictModel K := by
  obtain ⟨L, hL, hi, hj, hlen⟩ := h.represents.conflict_component hconf
  have hKL : K = L := by
    rcases hij with hiK | hjK
    · exact h.wellFormed.component_unique hK hL hiK hi
    · exact h.wellFormed.component_unique hK hL hjK hj
  rw [hKL]
  obtain ⟨solved, -, hpreview⟩ := h.solved
  refine ⟨hlen, fun hprog => ?_⟩
  rcases hpreview.resolved L hL hlen with ⟨-, hsafe, -⟩ | ⟨hnot, -⟩
  · obtain ⟨s, hs, t, ht, rfl, rfl, hlt, hst⟩ := hconf
    exact h.represents.safe_pair hsafe hs ht hlt hi hj hst
  · exact hnot hprog

/-- **The override changes nothing**: affected robots are already paused as fail-safe. -/
theorem unchanged (r : RobotId) :
    tick.decisions.lookup r = tick.preview.val.decisions.lookup r ∧
      tick.sources.lookup r = tick.preview.val.decisionSources.lookup r := by
  rw [h.checked.overridden.lookup_decisions, h.checked.overridden.lookup_sources]
  by_cases hr : r ∈ tick.affected
  swap
  · rw [if_neg hr, if_neg hr]
    exact ⟨rfl, rfl⟩
  rw [if_pos hr, if_pos hr]
  obtain ⟨v, hv, K, hK, hrK, hvK⟩ := (h.checked.overridden.mem_affected h.represents.partitions
    h.checked.initial r).mp hr
  have hconf := (h.checked.initial.mem_iff _ _).mp (List.mem_map.mpr ⟨v, hv, rfl⟩)
  obtain ⟨hlen, hnot⟩ := h.not_progressive hconf hK hvK
  obtain ⟨solved, -, hpreview⟩ := h.solved
  rcases hpreview.resolved K hK hlen with ⟨hprog, -⟩ | ⟨-, hpause⟩
  · exact absurd hprog hnot
  · obtain ⟨hact, hsource⟩ := hpause r hrK
    have hmem : r ∈ tick.preview.val.decisions :=
      (hpreview.mem_decisions r).mpr (h.wellFormed.mem_snapshots hK hrK)
    exact ⟨by rw [lookup_eq_actionOf hmem, hact], hsource.symm⟩

/-- The final actions are those of the preview. -/
lemma actionOf_eq : actionOf tick.decisions = actionOf tick.preview.val.decisions := by
  funext r
  rw [actionOf, actionOf, (h.unchanged r).1]

/-- The final decisions are about exactly the observed robots. -/
lemma mem_decisions (r : RobotId) : r ∈ tick.decisions ↔ r ∈ tick.conflictModel.snapshots := by
  rw [h.checked.overridden.validates.mem_decisions, h.represents.mem_snapshots_iff]

/-- Every observed robot has a source. -/
lemma mem_sources (r : RobotId) : r ∈ tick.sources ↔ r ∈ tick.conflictModel.snapshots := by
  obtain ⟨solved, -, hpreview⟩ := h.solved
  rw [← AList.lookup_isSome, (h.unchanged r).2, AList.lookup_isSome]
  exact hpreview.mem_sources r

/-- **Every component with an edge is resolved** by the final decisions. -/
theorem resolved {K : List RobotId} (hK : K ∈ tick.conflictModel.connectedComponents)
    (hlen : 2 ≤ K.length) : Resolved tick.conflictModel tick.preparation.hardAssignments K
      tick.decisions tick.sources := by
  obtain ⟨solved, -, hpreview⟩ := h.solved
  exact (hpreview.resolved K hK hlen).congr fun r _ => h.unchanged r

/-- An isolated robot follows the policy. -/
lemma isolated {r : RobotId} (hr : r ∈ tick.conflictModel.isolatedRobots) :
    tick.decisions.lookup r = some (isolatedAction tick.conflictModel r) := by
  obtain ⟨solved, hproposes, hpreview⟩ := h.solved
  rw [(h.unchanged r).1, hpreview.isolated r ((h.wellFormed.mem_isolated r).mp hr).2]
  exact (hproposes.isolated r hr).1

/-- An unavailable robot is paused. -/
lemma unavailable {r : RobotId} (hr : Unavailable tick.conflictModel r) :
    actionOf tick.decisions r = .pause := by
  obtain ⟨s, hs, -⟩ := id hr
  obtain ⟨K, hK, hrK⟩ := (h.wellFormed.mem_component_iff r).mp (Dict.mem_of_lookup hs)
  by_cases hlen : 2 ≤ K.length
  · rcases h.resolved hK hlen with ⟨-, -, hobeys, -⟩ | ⟨-, hpause⟩
    · exact hobeys.1 r hrK hr
    · exact (hpause r hrK).1
  · have := h.isolated ((h.wellFormed.mem_isolated_iff hK hrK).mpr hlen)
    rw [CollisionMonitor.actionOf_eq this, isolatedAction, if_pos hr]

/-- **A retained grant resumes its robot.** -/
theorem retained_resumes {r : RobotId} (hr : r ∈ tick.preparation.hardAssignments) :
    actionOf tick.decisions r = .resume := by
  obtain ⟨a, ha⟩ := Dict.exists_lookup hr
  obtain ⟨rfl, hadj, -⟩ := h.prepared.of_hard ha
  obtain ⟨K, hK, hsettled⟩ := h.prepared.mem_hard.mp hr
  obtain ⟨hrK, -, -⟩ := (GrantManager.mem_settled h.prepared.inTick.records).mp (.inl hsettled)
  have hlen := h.wellFormed.two_le_length hK hrK hadj
  rcases h.resolved hK hlen with ⟨-, -, hobeys, -⟩ | ⟨hnot, -⟩
  · exact hobeys.2 r hrK _ ha
  · exact absurd (h.prepared.progressive_of_hard h.wellFormed hK hrK hr) hnot

/-- The first validation and the final one agree. -/
lemma violations_iff (i j : RobotId) :
    (i, j) ∈ tick.initialViolations.map GlobalSafetyViolation.robotPair ↔
      (i, j) ∈ tick.finalViolations.map GlobalSafetyViolation.robotPair := by
  rw [h.checked.initial.mem_iff, h.checked.overridden.validates.mem_iff, h.actionOf_eq]

/-- No robot is overridden in a tick whose final validation finds nothing. -/
lemma affected_eq_nil (hfinal : tick.finalViolations = []) : tick.affected = [] := by
  have hinitial : tick.initialViolations = [] := by
    rw [h.checked.initial.eq_nil_iff, ← h.actionOf_eq,
      ← h.checked.overridden.validates.eq_nil_iff]
    exact hfinal
  have := h.checked.overridden.affected_eq
  rw [hinitial] at this
  exact (Except.ok.inj this).symm

/-- **Validated decisions can be committed.** -/
lemma committable (hfinal : tick.finalViolations = []) :
    GrantManager.Committable tick.conflictModel tick.decisions prepared where
  safe := fun K hK _ pair hpair => by
    by_contra hforbidden
    rw [Bool.not_eq_true] at hforbidden
    obtain ⟨s, hs, t, ht, hids, heval⟩ :=
      h.represents.sound pair (mem_componentConstraints.mp hpair).1
    obtain ⟨hI, hJ⟩ := Prod.mk.inj hids
    rw [hI, hJ, heval] at hforbidden
    refine (h.checked.overridden.validates.eq_nil_iff.mp hfinal) s.deviceId t.deviceId
      ⟨s, hs, t, ht, rfl, rfl, ?_, hforbidden⟩
    rw [← hI, ← hJ]
    exact pair.ordered
  unavailable := fun _ hr => h.unavailable hr
  holders := fun r hactive hobs hadj =>
    h.retained_resumes ((h.prepared.active_iff h.wellFormed hobs hadj).mp hactive)

end ShippedTick

/-! ## The stages, one after the other -/

/-- Committing validated decisions acquires a grant for every resumed robot with an edge. -/
lemma commitGrants_shipped {state state' : EngineState ℕ Store ℕ} {ref : ℕ}
    {prepared : GrantManager}
    (hwork : Working state ref prepared state') {m : ConflictModel} (hm : m.WellFormed)
    (hin : prepared.InTick) {decisions : Dict RobotId Action}
    {sources : Dict RobotId DecisionSource} {alarms : List AlarmCode}
    (hdecisions : ∀ r, r ∈ decisions ↔ r ∈ m.snapshots)
    (hsources : ∀ r, r ∈ sources ↔ r ∈ m.snapshots)
    (hcommit : GrantManager.Committable m decisions prepared) {P : Prop}
    (hfit : P ∨ ∀ K ∈ m.connectedComponents, NeutralFit K) :
    Ensures (commitGrants (managerApi config) m ref [] decisions sources alarms) state'
      (fun result state'' => GrantManager.Granted m decisions prepared state''.held ∧
        ∀ r, r ∈ result.val.acquiredGrants ↔ GrantManager.Acquires m decisions prepared r)
      fun _ => P := by
  unfold commitGrants
  rw [if_neg (not_not.mpr rfl)]
  refine Ensures.bind (Q := fun _ s => s = state') (Ensures.pure rfl) ?_
  rintro _ _ rfl
  refine Ensures.bind_lift (Returns.of_eq_ok (validate_of_accepted ?_) rfl)
    fun preview hpreview => ?_
  · refine raiseIf_of_not _ (not_not.mpr (Dict.sameKeys_iff.mpr fun r => ?_))
    rw [← AList.mem_keys, hdecisions, hsources]
  subst hpreview
  refine ((working_method hwork (GrantManager.commitTick_spec hm hin hdecisions hcommit
    hfit)).weaken fun _ h => h.2).bind ?_
  rintro result s ⟨committed, hgranted, hwork'⟩
  refine Ensures.bind_modify (Ensures.pure ?_)
  have hheld : ({ s with grantManager := ref } : EngineState ℕ Store ℕ).held = committed :=
    hwork'.load_ref
  rw [hheld]
  exact hgranted

/-- A copy of the held state is prepared as the held state would be. -/
lemma GrantManager.Prepared.of_clone {m : ConflictModel} {g copy after g' : GrantManager}
    {prep : GrantPreparation} (hclone : g.clone = .ok copy)
    (h : GrantManager.Prepared config m nowMs copy after g' prep) :
    GrantManager.Prepared config m nowMs g after g' prep := by
  obtain ⟨-, -, hcopy⟩ := bind_eq_ok.mp hclone
  obtain rfl := Except.ok.inj hcopy
  exact ⟨⟨h.tick, h.inTick, h.ages, h.lifecycle, h.lifecycleReleases⟩, h.settles, h.hard,
    h.releases⟩

/-- The conflict model of a tick represents the fleet, and exists when all envelopes do. -/
lemma buildConflictModel_returns {ordered : List RobotSnapshot} (hord : Ordered ordered) {P : Prop}
    (htotal : P ∨ ∀ s ∈ ordered, ∀ a, ∃ e, geometry.actionEnvelope s a = .ok e) :
    Returns (buildConflictModel geometry ordered) (fun m =>
      buildConflictModel geometry ordered = .ok m ∧ Represents geometry ordered m) P := by
  refine Returns.of_runs (fun m hbuild => ⟨hbuild, ?_⟩) (htotal.imp id fun henvelope => ?_)
  · have := buildConflictModel_represents hbuild
    rwa [sortedBy_eq_self _ (hord.increasing.imp fun h => h.le)] at this
  · have hnd : (ordered.map RobotSnapshot.deviceId).Nodup :=
      List.pairwise_map.mpr (hord.increasing.imp fun h => h.ne)
    obtain ⟨m, hbuild, -⟩ := buildConflictModel_total hnd henvelope
    exact ⟨m, hbuild⟩

/-- A prepared manager scores every observed robot. -/
lemma GrantManager.InTick.scores {prepared : GrantManager} (hin : prepared.InTick)
    {ordered : List RobotSnapshot} {m : ConflictModel} (hrep : Represents geometry ordered m)
    (hnow : 0 ≤ nowMs) {P : Prop} (hfit : P ∨ ∀ K ∈ m.connectedComponents, ∀ priorities,
      scorePriorities config m prepared.waitingAges prepared.activeGrants nowMs = .ok priorities →
      CoefficientsFit K priorities) :
    ∃ priorities, scorePriorities config m prepared.waitingAges prepared.activeGrants nowMs =
        .ok priorities ∧ (∀ r, r ∈ priorities ↔ r ∈ m.snapshots) ∧
      (P ∨ ∀ K ∈ m.connectedComponents, Scored K priorities) := by
  have hm := hrep.toWellFormed
  obtain ⟨priorities, hscores, hmem, hids⟩ := scorePriorities_total hm
    (fun r s hs => ((hrep.lookup_iff r s).mp hs).2) hnow hin.ages_nonneg prepared.activeGrants
  refine ⟨priorities, hscores, hmem, hfit.imp id fun hfit K hK => ⟨fun r hr => ?_, ?_⟩⟩
  · obtain ⟨p, hp⟩ := Dict.exists_lookup ((hmem r).mpr (hm.mem_snapshots hK hr))
    exact ⟨p, hp, hids r p hp⟩
  · exact hfit K hK priorities hscores

/-- Previewing the proposals for all components resolves them, and leaves the manager alone. -/
lemma Proposes.preview {m : ConflictModel} (hm : m.WellFormed) {g after prepared : GrantManager}
    {preparation : GrantPreparation}
    (hprepared : GrantManager.Prepared config m nowMs g after prepared preparation)
    {solved : Solving}
    (hsolved : Proposes m preparation.hardAssignments m.connectedComponents solved)
    {priorities : Dict RobotId PriorityBreakdown} (hmem : ∀ r, r ∈ priorities ↔ r ∈ m.snapshots)
    {P : Prop} (hscored : P ∨ ∀ K ∈ m.connectedComponents, Scored K priorities) :
    Ensures (GrantManager.previewTick config m solved.decisions priorities (some solved.sources))
      prepared (fun preview g' => g' = prepared ∧
        PreviewOutcome m preparation.hardAssignments solved.decisions preview.val) fun _ => P := by
  have hcover : ∀ r, (r ∈ m.isolatedRobots ∨ ∃ K ∈ m.connectedComponents, r ∈ K) ↔
      r ∈ m.snapshots := fun r => by
    rw [← hm.mem_component_iff]
    exact or_iff_right_of_imp fun hr => ((hm.mem_isolated r).mp hr).1
  have hhard : prepared.currentHardAssignments = preparation.hardAssignments := by
    rw [hprepared.settles]
  exact previewTick_spec hm (hprepared.prepared_inTick hm).opened hhard
    (fun r hr => hprepared.hard_available hr) (fun K hK => hprepared.progressive_iff hm hK)
    (fun r => (hsolved.mem_decisions r).trans (hcover r))
    (fun r => (hsolved.mem_sources r).trans (hcover r)) hmem hsolved.proposal hscored

/-- **The stages of a tick.** Every tick that reaches its report has them, and an accepted call
reaches its report. A committed tick leaves the acquired grants behind.

**Proof sketch.** The body of the tick is followed statement by statement, each with the result
about the method that it calls; `hwork` keeps what the working copy of the grant manager is. Where a
step may raise, an accepted call excludes it. At the end the tick commits if and only if the final
list of violations is empty. -/
theorem decideTick_shipped {state : EngineState ℕ Store ℕ} (hheld : Held state) {P : Prop}
    (htotal : P ∨ AcceptedCall config geometry cpSat snapshots nowMs tickId state.held) :
    Ensures (decideTick config geometry (shippedCollaborators config geometry cpSat)
        (managerApi config) snapshots nowMs tickId) state
      (fun tick state' => ∃ after prepared,
        ShippedTick config geometry snapshots nowMs state.held tick after prepared ∧
        ∀ result, tick.grantResult = some result →
          GrantManager.Granted tick.conflictModel tick.decisions prepared state'.held ∧
          ∀ r, r ∈ result.val.acquiredGrants ↔
            GrantManager.Acquires tick.conflictModel tick.decisions prepared r)
      fun _ => P := by
  have hkept := hheld.kept
  unfold decideTick
  refine Ensures.bind_lift (Returns.guarded fun h => ?_) fun _ hnow => ?_
  · exact htotal.resolve_right fun ht => absurd ht.now_nonneg (not_le.mpr h)
  refine Ensures.bind_lift (Returns.guarded fun h => ?_) fun _ _ => ?_
  · exact htotal.resolve_right fun ht => ht.tickId_ne h
  refine Ensures.bind_lift (normaliseSnapshots_spec config nowMs
    (htotal.imp id fun ht => ⟨ht.ids, ht.received⟩)) fun normalised hnorm => ?_
  obtain ⟨hnorm, hord⟩ := hnorm
  dsimp only
  rw [hnorm]
  -- the model represents the fleet
  refine ((ensures_inWorld (Ensures.lift (buildConflictModel_returns hord
    (htotal.imp id AcceptedCall.envelope)))).weaken fun _ h => h.1).bind ?_
  rintro m _ ⟨⟨hbuild, hrep⟩, world, rfl⟩
  have hm := hrep.toWellFormed
  replace hkept := hkept.inWorld world
  refine Ensures.bind_lift (validateGlobalSafety_spec hord (.inr ⟨fun r => ?_, fun s hs =>
    hrep.envelope s hs _⟩)) fun footprints hfootprints => Ensures.bind_get ?_
  · rw [Dict.mem_ofKeys, List.mem_map]
  refine ((working_clone hheld hkept P).weaken fun _ h => h.2).bind ?_
  rintro ref s₁ ⟨copy, hclone, hwork⟩
  have hcopy := (hheld.consistent.clone hclone).1
  have hneutral : P ∨ ∀ K ∈ m.connectedComponents, NeutralFit K :=
    htotal.imp id fun ht K hK => (ht.fit m hbuild K hK).1
  refine ((working_method hwork ((GrantManager.prepareTick_spec hm hcopy (fun h => absurd h hnow)
    hneutral).and (Ensures.of_runs fun _ _ hrun => hrun))).weaken fun _ h => h.2).bind ?_
  rintro preparation s₂ ⟨prepared, ⟨⟨after, hprepared⟩, hrun⟩, hwork⟩
  replace hprepared := hprepared.of_clone hclone
  have hin := hprepared.prepared_inTick hm
  -- the priorities of the prepared manager
  obtain ⟨priorities, hscores, hmemPriorities, hscored⟩ := hin.scores hrep (not_lt.mp hnow)
    (htotal.imp id fun ht K hK priorities hscores =>
      (ht.fit m hbuild K hK).2 copy preparation prepared priorities hclone hrun hscores)
  have hload := hwork.load_ref
  refine Ensures.bind_get (Ensures.bind_lift (P := fun p => p = priorities)
    (Returns.of_eq_ok ?_ rfl) ?_)
  · change scorePriorities config m (s₂.store.load ref).waitingAges
      (s₂.store.load ref).activeGrants nowMs = _
    rw [hload]
    exact hscores
  intro p hp
  obtain rfl : priorities = p := hp.symm
  -- solving and previewing resolve every component
  refine ((ensures_inWorld (Q := fun solved => Proposes m preparation.hardAssignments
    m.connectedComponents solved) (solveComponents_spec hm (fun r hr => hprepared.hard_available hr)
      _ (htotal.elim .inl fun ht => hscored.imp id fun h => ⟨h, ht.solver⟩))).weaken
        fun _ h => h.1).bind ?_
  rintro solved _ ⟨hsolved, world, rfl⟩
  replace hwork := hwork.inWorld world
  refine ((working_method hwork (hsolved.preview hm hprepared hmemPriorities hscored)).weaken
    fun _ h => h.2).bind ?_
  rintro preview s₃ ⟨previewed, ⟨hpreviewed, hpreview⟩, hwork₃⟩
  subst hpreviewed
  -- the fleet is validated before and after the override
  refine Ensures.bind_lift (validateGlobalSafety_spec hord (.inr ⟨fun r =>
    (hpreview.mem_decisions r).trans (hrep.mem_snapshots_iff r), fun s hs =>
      hrep.envelope s hs _⟩)) fun initialViolations hinitial => ?_
  refine Ensures.bind_lift (overrideAffected_spec hord hinitial (.inr ⟨hrep.partitions,
    fun s hs => hrep.envelope s hs _⟩)) fun result hover => ?_
  obtain ⟨decisions, sources, affected, finalViolations⟩ := result
  dsimp only at hover ⊢
  have hstages : ∀ grantResult, ShippedTick config geometry snapshots nowMs state.held {
      ordered := observed config nowMs snapshots, conflictModel := m, provisionalGrants := ref
      preparation, priorities, diagnostics := solved.diagnostics, preview
      currentFootprintViolations := footprints, initialViolations, finalViolations, affected
      decisions, sources, grantResult } after previewed := fun grantResult =>
    { checked := ⟨rfl, hord, hfootprints, hinitial, hover⟩
      built := hbuild
      represents := hrep
      prepared := hprepared
      mem_priorities := hmemPriorities
      solved := ⟨solved, hsolved, hpreview⟩ }
  by_cases hnil : finalViolations = []
  · rw [if_pos hnil]
    have htick := hstages none
    have hcommit : GrantManager.Committable m decisions previewed := htick.committable hnil
    obtain rfl : affected = [] := htick.affected_eq_nil hnil
    refine Ensures.bind (Q := fun grantResult s => ∀ result, grantResult = some result →
      GrantManager.Granted m decisions previewed s.held ∧ ∀ r, r ∈ result.val.acquiredGrants ↔
        GrantManager.Acquires m decisions previewed r)
      (Ensures.map ((commitGrants_shipped hwork₃ hm hin htick.mem_decisions htick.mem_sources
        hcommit hneutral).mono ?_)) ?_
    · intro result s hgranted result' heq
      rw [← Option.some.inj heq]
      exact hgranted
    · rintro grantResult s hgranted
      exact Ensures.pure ⟨after, previewed, hstages grantResult, hgranted⟩
  · rw [if_neg hnil]
    exact Ensures.pure ⟨after, previewed, hstages none, fun _ h => by cases h⟩

/-- **Reporting never raises**: the report finds an entry for every robot.

**Proof sketch.** Every robot of the tick has an entry in each of the dictionaries that the report
reads, because the stages wrote entries for exactly the observed robots. -/
lemma ShippedTick.report {g after prepared : GrantManager} {tick : TickDecision ℕ}
    (h : ShippedTick config geometry snapshots nowMs g tick after prepared) (tickId : String)
    (grantTickId : ℤ) (heldAges : Dict RobotId ℤ) :
    ∃ d, reportTick config geometry tick nowMs tickId grantTickId heldAges = .ok d ∧
      Reports tick nowMs tickId grantTickId heldAges d := by
  have hobs : ∀ s ∈ tick.ordered, s.deviceId ∈ tick.conflictModel.snapshots := fun s hs => by
    rw [h.checked.ordered_eq] at hs
    exact (h.represents.mem_snapshots_iff _).mpr ⟨s, hs, rfl⟩
  obtain ⟨decisions, hdecisions⟩ := mapM_total (l := tick.ordered)
    (f := reportRobot tick tickId) fun s hs => by
      obtain ⟨source, hsource⟩ := Dict.exists_lookup ((h.mem_sources _).mpr (hobs s hs))
      obtain ⟨priority, hpriority⟩ := Dict.exists_lookup ((h.mem_priorities _).mpr (hobs s hs))
      obtain ⟨action, haction⟩ := Dict.exists_lookup ((h.mem_decisions _).mpr (hobs s hs))
      obtain ⟨K, hK, hsK⟩ := (h.wellFormed.mem_component_iff _).mp (hobs s hs)
      unfold reportRobot reasonData
      dsimp only
      rw [item_eq_ok.mpr hsource, ok_bind, item_eq_ok.mpr (h.represents.partitions.lookup hK hsK),
        item_eq_ok.mpr hpriority, item_eq_ok.mpr haction]
      exact ⟨_, rfl⟩
  have hgeometry : ∃ trace, detailedGeometryTrace config geometry tick.conflictModel =
      .ok trace := by
    unfold detailedGeometryTrace
    split_ifs
    · refine mapM_total fun r hr => ?_
      obtain ⟨s, hs⟩ := Dict.exists_lookup (AList.mem_keys.mpr (mem_sorted.mp hr))
      have hmem := ((h.represents.lookup_iff r s).mp hs).1
      obtain ⟨pause, hpause⟩ := h.represents.envelope s hmem .pause
      obtain ⟨resume, hresume⟩ := h.represents.envelope s hmem .resume
      rw [item_eq_ok.mpr hs, ok_bind, hpause, ok_bind, hresume]
      exact ⟨_, rfl⟩
    · exact ⟨_, rfl⟩
  obtain ⟨trace, htrace⟩ := hgeometry
  refine ⟨_, bind_eq_ok.mpr ⟨decisions, hdecisions, bind_eq_ok.mpr ⟨trace, htrace, rfl⟩⟩, ?_⟩
  exact reportTick_reports (bind_eq_ok.mpr ⟨decisions, hdecisions, bind_eq_ok.mpr
    ⟨trace, htrace, rfl⟩⟩ : reportTick config geometry tick nowMs tickId grantTickId heldAges = _)

/-- **A call of the shipped engine** reports a tick with these stages, and returns on accepted
input. -/
theorem decide_shipped {state : EngineState ℕ Store ℕ} (hheld : Held state) {P : Prop}
    (htotal : P ∨ AcceptedCall config geometry cpSat snapshots nowMs tickId state.held) :
    Ensures (shippedDecide config geometry cpSat snapshots nowMs tickId) state
      (fun d state' => ∃ tick after prepared grantTickId heldAges,
        ShippedTick config geometry snapshots nowMs state.held tick after prepared ∧
        Reports tick nowMs tickId grantTickId heldAges d ∧
        (tick.grantResult.isSome = true ↔ tick.finalViolations = []) ∧
        ∀ result, tick.grantResult = some result →
          CommitsFrom config nowMs tick state.held state'.held ∧
          GrantManager.Granted tick.conflictModel tick.decisions prepared state'.held ∧
          ∀ r, r ∈ result.val.acquiredGrants ↔
            GrantManager.Acquires tick.conflictModel tick.decisions prepared r)
      fun _ => P := by
  unfold shippedDecide CollisionDecisionEngine.decide
  refine ((decideTick_shipped hheld htotal).and (((decideTick_transaction hheld snapshots
    tickId).weaken fun _ _ => trivial).and (decideTick_checked state snapshots nowMs
      tickId))).bind ?_
  rintro tick state' ⟨⟨after, prepared, hstages, hgranted⟩, ⟨-, hcommits⟩, -, hcommitted, -⟩
  refine Ensures.bind_get (Ensures.lift ?_)
  obtain ⟨d, hd, hreport⟩ := hstages.report tickId (state'.store.load tick.provisionalGrants).tickId
    (state'.store.load state'.grantManager).waitingAges
  exact Returns.of_eq_ok hd ⟨tick, after, prepared, _, _, hstages, hreport, hcommitted,
    fun result hresult => ⟨(hcommits (by simp [hresult])).2, hgranted result hresult⟩⟩

/-- What a decision returned in a reachable state reports. -/
lemma shipped_of_reachable {state state' : EngineState ℕ Store ℕ}
    (hreach : (shippedMachine config geometry cpSat).Reachable state) {d : EngineDecision}
    (h : (shippedDecide config geometry cpSat snapshots nowMs tickId).run state =
      .ok d state') :
    ∃ tick after prepared grantTickId heldAges,
      ShippedTick config geometry snapshots nowMs state.held tick after prepared ∧
      Reports tick nowMs tickId grantTickId heldAges d ∧
      (tick.grantResult.isSome = true ↔ tick.finalViolations = []) ∧
      ∀ result, tick.grantResult = some result →
        CommitsFrom config nowMs tick state.held state'.held ∧
        GrantManager.Granted tick.conflictModel tick.decisions prepared state'.held ∧
        ∀ r, r ∈ result.val.acquiredGrants ↔
          GrantManager.Acquires tick.conflictModel tick.decisions prepared r :=
  (decide_shipped (reachable_held hreach) (.inl trivial)).get_ok h

/-- The actions of a reported tick. -/
lemma ShippedTick.returned_eq {g after prepared : GrantManager} {tick : TickDecision ℕ}
    (h : ShippedTick config geometry snapshots nowMs g tick after prepared) {grantTickId : ℤ}
    {heldAges : Dict RobotId ℤ} {d : EngineDecision}
    (hreport : Reports tick nowMs tickId grantTickId heldAges d) :
    d.returned = actionOf tick.decisions := by
  refine hreport.returned_eq ?_
  rw [h.checked.ordered_eq]
  exact h.checked.overridden.validates.mem_decisions

end Shipped

end CollisionMonitor
