import CollisionMonitor.Lib.Machine
import CollisionMonitor.LastDefence

set_option relaxedAutoImplicit false
set_option autoImplicit false

/-!
# A tick is a transaction on the grant manager

The engine prepares, previews and commits on a clone of the manager it holds. Whatever its
collaborators do, a tick that raises or does not commit leaves the held manager as it was, and a
tick that commits replaces it by the result of the four calls on a copy.

## Main definitions

* `EngineState.held` — the state of the manager the engine holds.
* `engineMachine` — an engine that is asked for decisions again and again.
* `Kept` — the engine holds the same manager in the same state.
* `Working` — so it does, while a provisional manager is worked on.
* `CommitsFrom` — the calls of a committed tick, on a copy of the held manager.
* `Deliberates` — the stages of a tick from the prepared manager to the preview.

## Main results

* `decideTick_stages` — the stages and the outcome of a tick, whatever the collaborators are.
* `decideTick_transaction` — the two outcomes of a tick.
* `reachable_held` — the held manager of every reachable state is closed and consistent.
* `decide_transactional` — the two outcomes, for every reachable state.
-/

namespace CollisionMonitor

open Outcome

/-! ## Runs of an engine -/

section Runs

variable {E ω : Type}

/-- The state of the manager that the engine holds. -/
def EngineState.held (state : EngineState ω Store ℕ) : GrantManager :=
  state.store.load state.grantManager

/-- An engine with its own managers that is asked for decisions again and again, on any
arguments. A call may return or raise. -/
def engineMachine (config : MonitorConfig) (geometry : Geometry E) (parts : Collaborators ω) :
    Machine (EngineState ω Store ℕ) where
  init := fun state => ∃ world, state = EngineState.initial world
  step := fun state state' => ∃ snapshots nowMs tickId, state' = finalState
    ((CollisionDecisionEngine.decide config geometry parts (managerApi config) snapshots nowMs
      tickId).run state)

/-- A shipped engine that is asked for decisions again and again. -/
abbrev shippedMachine (config : MonitorConfig) (geometry : Geometry E) (cpSat : ℕ → Backend) :
    Machine (EngineState ℕ Store ℕ) :=
  engineMachine config geometry (shippedCollaborators config geometry cpSat)

/-- The held manager is allocated, closed and consistent. -/
structure Held (state : EngineState ω Store ℕ) : Prop where
  owns : state.store.Owns state.grantManager
  consistent : state.held.Consistent

/-- The engine still holds the manager of `state`, with the same content. -/
structure Kept (state state' : EngineState ω Store ℕ) : Prop where
  grantManager : state'.grantManager = state.grantManager
  owns : state'.store.Owns state.grantManager
  load_eq : state'.store.load state.grantManager = state.held

/-- An engine that is kept holds the same manager. -/
lemma Kept.held_eq {state state' : EngineState ω Store ℕ} (h : Kept state state') :
    state'.held = state.held := by
  unfold EngineState.held
  rw [h.grantManager]
  exact h.load_eq

/-- It holds it still. -/
lemma Kept.held {state state' : EngineState ω Store ℕ} (hheld : Held state)
    (h : Kept state state') : Held state' where
  owns := h.grantManager ▸ h.owns
  consistent := h.held_eq ▸ hheld.consistent

/-- An engine keeps itself. -/
lemma Held.kept {state : EngineState ω Store ℕ} (h : Held state) : Kept state state :=
  ⟨rfl, h.owns, rfl⟩

/-- The rest of the world does not matter. -/
lemma Kept.inWorld {state state' : EngineState ω Store ℕ} (h : Kept state state') (world : ω) :
    Kept state { state' with world } := ⟨h.grantManager, h.owns, h.load_eq⟩

/-- The engine still holds its manager, and the provisional manager at `ref` has the state `g`. -/
structure Working (state : EngineState ω Store ℕ) (ref : ℕ) (g : GrantManager)
    (state' : EngineState ω Store ℕ) : Prop extends Kept state state' where
  owns_ref : state'.store.Owns ref
  separate : state'.store.Separate ref state.grantManager
  load_ref : state'.store.load ref = g

variable {state state' : EngineState ω Store ℕ} {α : Type}

/-- Nor does it to the copy at work. -/
lemma Working.inWorld {ref : ℕ} {g : GrantManager} (h : Working state ref g state') (world : ω) :
    Working state ref g { state' with world } :=
  ⟨h.toKept.inWorld world, h.owns_ref, h.separate, h.load_ref⟩

/-- Cloning gives a provisional manager. -/
lemma working_clone (hheld : Held state) (h : Kept state state') (P : Prop) :
    Ensures (inStore (cloneObject state'.grantManager)) state'
      (fun ref state'' => ∃ copy, state.held.clone = .ok copy ∧ Working state ref copy state'')
      (fun state'' => Kept state state'' ∧ P) := by
  rw [h.grantManager]
  refine ((ensures_inStore (cloneObject_spec h.owns)).mono ?_).weaken ?_
  · rintro ref state'' ⟨store, rfl, howns, hownsRef, hsep, hload, hclone⟩
    rw [h.load_eq] at hclone hload
    exact ⟨_, hclone, ⟨h.grantManager, howns, hload⟩, hownsRef, hsep.symm, rfl⟩
  · rintro state'' ⟨store, -, -, hopen⟩
    rw [h.load_eq, hheld.consistent.closed] at hopen
    cases hopen

/-- A method call on the provisional manager keeps the held one. -/
lemma working_method {ref : ℕ} {g : GrantManager} (h : Working state ref g state')
    {method : Grants α} {Q : α → GrantManager → Prop} {P : Prop}
    (hmethod : Ensures method g Q fun _ => P) :
    Ensures (inStore (onObject ref method)) state'
      (fun a state'' => ∃ g', Q a g' ∧ Working state ref g' state'')
      (fun state'' => Kept state state'' ∧ P) := by
  have hframe : ∀ manager, Kept state { state' with store := state'.store.save ref manager } :=
    fun manager => ⟨h.grantManager, h.owns.save ref manager,
      (Store.load_save_of_separate h.separate manager).trans h.load_eq⟩
  rw [← h.load_ref] at hmethod
  refine ((ensures_inStore (ensures_onObject hmethod)).mono ?_).weaken ?_
  · rintro a state'' ⟨store, rfl, manager, rfl, hQ⟩
    exact ⟨manager, hQ, hframe manager, h.owns_ref.save ref manager, h.separate.save ref manager,
      Store.load_save h.owns_ref manager⟩
  · rintro state'' ⟨store, rfl, manager, rfl, hP⟩
    exact ⟨hframe manager, hP⟩

end Runs

/-! ## One tick -/

section Tick

variable {E ω : Type} {config : MonitorConfig} {geometry : Geometry E} {parts : Collaborators ω}
  {nowMs : ℤ}

/-- Revoking the grants of overridden robots, if there are any. -/
def RevokesFrom (affected : List RobotId) (g g' : GrantManager) : Prop :=
  if affected = [] then g' = g
  else (GrantManager.revokeForSafety affected).run g = .ok ⟨⟩ g'

/-- **The calls of a committed tick**, in order, on a copy of the held state `g`: prepare, preview,
revoke, commit. -/
def CommitsFrom (config : MonitorConfig) (nowMs : ℤ) (tick : TickDecision ℕ)
    (g g' : GrantManager) : Prop :=
  ∃ copy prepared previewed revoked proposed proposedSources preview result,
    g.clone = .ok copy ∧
    (GrantManager.prepareTick config tick.conflictModel nowMs).run copy =
      .ok tick.preparation prepared ∧
    (GrantManager.previewTick config tick.conflictModel proposed tick.priorities
      (some proposedSources)).run prepared = .ok tick.preview previewed ∧
    RevokesFrom tick.affected previewed revoked ∧
    preview.val = { decisions := tick.decisions, decisionSources := tick.sources
                    alarms := tick.preview.val.alarms } ∧
    (GrantManager.commitTick config tick.conflictModel preview).run revoked = .ok result g' ∧
    tick.grantResult = some result

/-- Committing makes the provisional manager the held one. -/
lemma commitGrants_transaction {state state' : EngineState ω Store ℕ} {ref : ℕ} {g : GrantManager}
    (h : Working state ref g state') (m : ConflictModel) (affected : List RobotId)
    (decisions : Dict RobotId Action) (sources : Dict RobotId DecisionSource)
    (alarms : List AlarmCode) :
    Ensures (commitGrants (managerApi config) m ref affected decisions sources alarms) state'
      (fun result state'' => state''.store.Owns state''.grantManager ∧
        ∃ revoked preview, RevokesFrom affected g revoked ∧
          preview.val = { decisions, decisionSources := sources, alarms } ∧
          (GrantManager.commitTick config m preview).run revoked = .ok result state''.held)
      (fun state'' => Kept state state'') := by
  unfold commitGrants
  refine Ensures.bind (Q := fun _ s => ∃ revoked, RevokesFrom affected g revoked ∧
    Working state ref revoked s) ?_ ?_
  · by_cases hnil : affected = []
    · rw [if_neg (not_not.mpr hnil)]
      exact Ensures.pure ⟨g, by rw [RevokesFrom, if_pos hnil], h⟩
    · rw [if_pos hnil]
      refine ((working_method h (Ensures.of_runs fun _ _ hrun => hrun)).mono ?_).weaken
        fun _ h => h.1
      rintro _ s ⟨revoked, hrun, hwork⟩
      exact ⟨revoked, by rw [RevokesFrom, if_neg hnil]; exact hrun, hwork⟩
  · rintro _ s ⟨revoked, hrevoked, hwork⟩
    refine Ensures.bind_lift (Returns.of_runs (Q := fun preview => preview.val =
      { decisions, decisionSources := sources, alarms }) (fun _ hok => val_of_validate hok)
      (.inl hwork.toKept)) fun preview hpreview => ?_
    refine ((working_method hwork (Ensures.of_runs fun _ _ hrun => hrun)).weaken
      fun _ h => h.1).bind ?_
    rintro result s' ⟨committed, hrun, hwork'⟩
    refine Ensures.bind_modify (Ensures.pure ⟨hwork'.owns_ref, revoked, preview, hrevoked,
      hpreview, ?_⟩)
    rw [hrun]
    exact congrArg _ hwork'.load_ref.symm

/-- A new manager is consistent. -/
lemma GrantManager.consistent_new : ({} : GrantManager).Consistent where
  closed := rfl
  tick_nonneg := le_rfl
  records := fun r record hr => by cases hr
  ages_nonneg := fun r age hr => by cases hr
  mem_actions := fun _ => Iff.rfl

/-- A copy of a consistent state is consistent. -/
lemma GrantManager.Consistent.clone {g copy : GrantManager} (hg : g.Consistent)
    (h : g.clone = .ok copy) :
    copy.Consistent ∧ copy.tickId = g.tickId ∧ copy.waitingAges = g.waitingAges := by
  obtain ⟨-, -, h⟩ := bind_eq_ok.mp h
  obtain rfl := Except.ok.inj h
  exact ⟨⟨rfl, hg.tick_nonneg, hg.records, hg.ages_nonneg, hg.mem_actions⟩, rfl, rfl⟩

/-- **What a tick deliberates** with a prepared manager: its scores, the proposals of the solvers,
and their preview. -/
structure Deliberates (config : MonitorConfig) (parts : Collaborators ω) (nowMs : ℤ)
    (tick : TickDecision ℕ) (prepared : GrantManager) (solved : Solving)
    (previewed : GrantManager.Repairing) : Prop where
  scores : scorePriorities config tick.conflictModel prepared.waitingAges prepared.activeGrants
    nowMs = .ok tick.priorities
  solves : ∃ world world', (solveComponents config parts tick.conflictModel tick.priorities
    tick.preparation.hardAssignments).run world = .ok solved world'
  previews : GrantManager.validateOrRepairComponents config tick.conflictModel
    tick.preparation.hardAssignments tick.priorities solved.decisions solved.sources =
      .ok previewed
  decisions : tick.preview.val.decisions = previewed.decisions
  sources : tick.preview.val.decisionSources = previewed.decisionSources

/-- A preview is what repairing the proposals made of them. -/
lemma previewTick_repairs (m : ConflictModel) (proposed : Dict RobotId Action)
    (priorities : Dict RobotId PriorityBreakdown) (sources : Dict RobotId DecisionSource)
    (t : GrantManager) :
    Ensures (GrantManager.previewTick config m proposed priorities (some sources)) t
      (fun preview _ => ∃ previewed, GrantManager.validateOrRepairComponents config m
          t.currentHardAssignments priorities proposed sources = .ok previewed ∧
        preview.val.decisions = previewed.decisions ∧
        preview.val.decisionSources = previewed.decisionSources) fun _ => True := by
  unfold GrantManager.previewTick
  refine Ensures.bind_get (Ensures.bind_lift (Returns.guarded fun _ => trivial) fun _ _ => ?_)
  refine Ensures.bind_lift (Returns.guarded fun _ => trivial) fun _ _ => ?_
  refine Ensures.bind_lift (Returns.guarded fun _ => trivial) fun _ _ => ?_
  refine Ensures.bind_lift (Returns.guarded fun _ => trivial) fun _ _ => ?_
  refine Ensures.bind_lift (Returns.of_runs (fun previewed h => h) (.inl trivial))
    fun previewed hpreviewed => ?_
  refine Ensures.lift (Returns.of_runs (fun preview hpreview => ?_) (.inl trivial))
  rw [val_of_validate hpreview]
  exact ⟨previewed, hpreviewed, rfl, rfl⟩

/-- **The stages and the outcome of a tick.** It deliberates with a copy of the held manager that
it prepared; then it commits, and holds the result of the calls on the copy, or it leaves the held
manager alone.

**Proof sketch.** The body of the tick is followed once, with `hkept` before the manager is cloned
and `hwork` after it. Every statement that may raise leaves the held manager alone, and only the
branch without final violations replaces it. -/
theorem decideTick_stages {state : EngineState ω Store ℕ} (hheld : Held state)
    (snapshots : List RobotSnapshot) (tickId : String) :
    Ensures (decideTick config geometry parts (managerApi config) snapshots nowMs tickId) state
      (fun tick state' =>
        (∃ copy prepared solved previewed, state.held.clone = .ok copy ∧
          (GrantManager.prepareTick config tick.conflictModel nowMs).run copy =
            .ok tick.preparation prepared ∧
          Deliberates config parts nowMs tick prepared solved previewed) ∧
        (tick.grantResult = none → Kept state state') ∧
        (tick.grantResult ≠ none → state'.store.Owns state'.grantManager ∧
          CommitsFrom config nowMs tick state.held state'.held))
      (fun state' => Kept state state') := by
  have hkept := hheld.kept
  unfold decideTick
  refine Ensures.bind_lift (Returns.guarded fun _ => hkept) fun _ _ => ?_
  refine Ensures.bind_lift (Returns.guarded fun _ => hkept) fun _ _ => ?_
  refine Ensures.bind_lift (Returns.of_runs (Q := fun _ => True) (fun _ _ => trivial)
    (.inl hkept)) fun normalised _ => ?_
  refine ((ensures_inWorld (Q := fun _ => True) (Ensures.of_runs fun _ _ _ => trivial)).weaken
    ?_).bind ?_
  · rintro _ ⟨-, world, rfl⟩
    exact hkept.inWorld world
  rintro m _ ⟨-, world, rfl⟩
  replace hkept := hkept.inWorld world
  refine Ensures.bind_lift (Returns.of_runs (Q := fun _ => True) (fun _ _ => trivial)
    (.inl hkept)) fun footprints _ => Ensures.bind_get ?_
  refine ((working_clone hheld hkept False).weaken fun _ h => h.1).bind ?_
  rintro ref s₁ ⟨copy, hclone, hwork⟩
  have hcopy := (hheld.consistent.clone hclone).1
  refine ((working_method hwork ((GrantManager.prepareTick_frame m hcopy).and
    (Ensures.of_runs fun _ _ hrun => hrun))).weaken fun _ h => h.1).bind ?_
  rintro preparation s₂ ⟨prepared, ⟨⟨-, -, -, -, -, hhard⟩, hprepare⟩, hwork⟩
  -- the scores are those of the prepared copy
  refine Ensures.bind_get (Ensures.bind_lift (Returns.of_runs (fun priorities h => h)
    (.inl hwork.toKept)) fun priorities hscores => ?_)
  have hload := hwork.load_ref
  change scorePriorities config m (s₂.store.load ref).waitingAges
    (s₂.store.load ref).activeGrants nowMs = _ at hscores
  rw [hload] at hscores
  refine ((ensures_inWorld (Ensures.of_runs fun solved world' hsolve =>
    (⟨_, world', hsolve⟩ : ∃ world world', (solveComponents config parts m priorities
      preparation.hardAssignments).run world = .ok solved world'))).weaken ?_).bind ?_
  · rintro _ ⟨-, world, rfl⟩
    exact hwork.toKept.inWorld world
  rintro solved _ ⟨hsolve, world, rfl⟩
  replace hwork := hwork.inWorld world
  refine ((working_method hwork ((previewTick_repairs m solved.decisions priorities solved.sources
    prepared).and (Ensures.of_runs fun _ _ hrun => hrun))).weaken fun _ h => h.1).bind ?_
  rintro preview s₃ ⟨previewed, ⟨⟨repaired, hrepairs, hdecisions, hsources⟩, hpreview⟩, hwork⟩
  rw [hhard] at hrepairs
  refine Ensures.bind_lift (Returns.of_runs (Q := fun _ => True) (fun _ _ => trivial)
    (.inl hwork.toKept)) fun initialViolations _ => ?_
  refine Ensures.bind_lift (Returns.of_runs (Q := fun _ => True) (fun _ _ => trivial)
    (.inl hwork.toKept)) fun result _ => ?_
  obtain ⟨decisions, sources, affected, finalViolations⟩ := result
  dsimp only
  by_cases hnil : finalViolations = []
  · rw [if_pos hnil]
    refine Ensures.bind (Q := fun grantResult s => ∃ result revoked committed,
      s.store.Owns s.grantManager ∧ RevokesFrom affected previewed revoked ∧
        committed.val = { decisions, decisionSources := sources, alarms := preview.val.alarms } ∧
        (GrantManager.commitTick config m committed).run revoked = .ok result s.held ∧
        grantResult = some result)
      (Ensures.map ((commitGrants_transaction hwork _ _ _ _ _).mono ?_)) ?_
    · rintro result s ⟨howns, revoked, committed, hrevoked, hcommitted, hrun⟩
      exact ⟨result, revoked, committed, howns, hrevoked, hcommitted, hrun, rfl⟩
    · rintro _ s ⟨result, revoked, committed, howns, hrevoked, hcommitted, hrun, rfl⟩
      exact Ensures.pure ⟨⟨copy, prepared, solved, repaired, hclone, hprepare, hscores, hsolve,
          hrepairs, hdecisions, hsources⟩,
        fun h => (by cases h), fun _ => ⟨howns, copy, prepared, previewed, revoked,
          solved.decisions, solved.sources, committed, result, hclone, hprepare, hpreview,
          hrevoked, hcommitted, hrun, rfl⟩⟩
  · rw [if_neg hnil]
    exact Ensures.pure ⟨⟨copy, prepared, solved, repaired, hclone, hprepare, hscores, hsolve,
      hrepairs, hdecisions, hsources⟩, fun _ => hwork.toKept, fun h => absurd rfl h⟩

/-- **The two outcomes of a tick.** It commits, and then holds the result of the calls on a copy, or
it leaves the held manager alone. -/
theorem decideTick_transaction {state : EngineState ω Store ℕ} (hheld : Held state)
    (snapshots : List RobotSnapshot) (tickId : String) :
    Ensures (decideTick config geometry parts (managerApi config) snapshots nowMs tickId) state
      (fun tick state' => (tick.grantResult = none → Kept state state') ∧
        (tick.grantResult ≠ none → state'.store.Owns state'.grantManager ∧
          CommitsFrom config nowMs tick state.held state'.held))
      (fun state' => Kept state state') :=
  (decideTick_stages hheld snapshots tickId).mono fun _ _ h => h.2

/-- **Every tick deliberates** with a copy of the held manager that it prepared. -/
theorem decideTick_deliberates {state : EngineState ω Store ℕ} (hheld : Held state)
    (snapshots : List RobotSnapshot) (tickId : String) :
    Ensures (decideTick config geometry parts (managerApi config) snapshots nowMs tickId) state
      (fun tick _ => ∃ copy prepared solved previewed, state.held.clone = .ok copy ∧
        (GrantManager.prepareTick config tick.conflictModel nowMs).run copy =
          .ok tick.preparation prepared ∧
        Deliberates config parts nowMs tick prepared solved previewed) fun _ => True :=
  ((decideTick_stages hheld snapshots tickId).mono fun _ _ h => h.1).weaken fun _ _ => trivial

/-- **A commit** restores the invariant, advances the tick by one, remembers the decisions, and
ages the robots of the model from their held ages. -/
theorem CommitsFrom.spec {tick : TickDecision ℕ} {g g' : GrantManager} (hg : g.Consistent)
    (h : CommitsFrom config nowMs tick g g') : g'.Consistent ∧ g'.tickId = g.tickId + 1 ∧
      (∀ r, g'.previousActions.lookup r = tick.decisions.lookup r) ∧
      ∀ r, g'.waitingAges.lookup r = (tick.conflictModel.snapshots.lookup r).map fun snapshot =>
        GrantManager.nextWaitingAge config snapshot (actionOf tick.decisions r)
          ((g.waitingAges.lookup r).getD 0) := by
  obtain ⟨copy, prepared, previewed, revoked, proposed, proposedSources, preview, result, hclone,
    hprepare, hpreview, hrevoke, hval, hcommit, -⟩ := h
  obtain ⟨hcopy, htick, hages⟩ := hg.clone hclone
  obtain ⟨hin, hnext, -, -, hkept, -⟩ := (GrantManager.prepareTick_frame _ hcopy).get_ok hprepare
  obtain rfl := (previewTick_frame _ _ _ _ _).get_ok hpreview
  have hrevoked : revoked.InTick ∧ revoked.tickId = previewed.tickId ∧
      revoked.waitingAges = previewed.waitingAges := by
    unfold RevokesFrom at hrevoke
    split_ifs at hrevoke
    · rw [hrevoke]
      exact ⟨hin, rfl, rfl⟩
    · obtain ⟨hopen, hsame, hwaiting, -⟩ :=
        (GrantManager.revokeForSafety_frame (E := True) _ hin).get_ok hrevoke
      exact ⟨hopen, hsame, hwaiting⟩
  obtain ⟨hcons, hsame, hactions, hnew, -⟩ :=
    (GrantManager.commitTick_frame _ hrevoked.1).get_ok hcommit
  refine ⟨hcons, by omega, fun r => by rw [hactions, hval], fun r => ?_⟩
  rw [hnew, hval, hrevoked.2.2]
  cases hlook : tick.conflictModel.snapshots.lookup r with
  | none => rfl
  | some snapshot => rw [hkept, if_pos (Dict.mem_of_lookup hlook), hages]

variable (config geometry parts nowMs) in
/-- **The outcomes of a call**, from a state that holds a closed consistent manager: a report does
not change what the tick left behind. -/
lemma decide_outcome {state : EngineState ω Store ℕ} (hheld : Held state)
    (snapshots : List RobotSnapshot) (tickId : String) :
    Ensures (CollisionDecisionEngine.decide config geometry parts (managerApi config) snapshots
        nowMs tickId) state
      (fun d state' => ∃ tick, (decideTick config geometry parts (managerApi config) snapshots
          nowMs tickId).run state = .ok tick state' ∧
        (∃ grantTickId heldAges, Reports tick nowMs tickId grantTickId heldAges d) ∧
        (tick.grantResult = none → Kept state state') ∧
        (tick.grantResult ≠ none → state'.store.Owns state'.grantManager ∧
          CommitsFrom config nowMs tick state.held state'.held))
      (fun state' => Kept state state' ∨ ∃ tick, (decideTick config geometry parts
          (managerApi config) snapshots nowMs tickId).run state = .ok tick state' ∧
        tick.grantResult ≠ none ∧ state'.store.Owns state'.grantManager ∧
          CommitsFrom config nowMs tick state.held state'.held) := by
  unfold CollisionDecisionEngine.decide
  refine (((decideTick_transaction hheld snapshots tickId).and
    (Ensures.of_runs fun _ _ hrun => hrun)).weaken fun _ => .inl).bind ?_
  rintro tick state' ⟨hout, hrun⟩
  refine Ensures.bind_get (Ensures.lift (Returns.of_runs (fun d hd =>
    ⟨tick, hrun, ⟨_, _, reportTick_reports hd⟩, hout⟩) (.inl ?_)))
  by_cases hnone : tick.grantResult = none
  · exact .inl (hout.1 hnone)
  · exact .inr ⟨tick, hrun, hnone, hout.2 hnone⟩

/-- **The manager held in a reachable state** is closed and consistent. -/
theorem reachable_held {state : EngineState ω Store ℕ}
    (h : (engineMachine config geometry parts).Reachable state) : Held state := by
  refine h.invariant ?_ ?_
  · rintro _ ⟨world, rfl⟩
    have hload : (EngineState.initial world).held = {} := Store.load_allocate _ _
    refine ⟨Store.owns_allocate _ _, ?_⟩
    rw [hload]
    exact GrantManager.consistent_new
  · rintro state _ - hheld ⟨snapshots, nowMs, tickId, rfl⟩
    have hcommit : ∀ {tick : TickDecision ℕ} {state' : EngineState ω Store ℕ},
        state'.store.Owns state'.grantManager →
        CommitsFrom config nowMs tick state.held state'.held → Held state' :=
      fun howns hcommits => ⟨howns, (hcommits.spec hheld.consistent).1⟩
    refine (decide_outcome _ _ _ _ hheld snapshots tickId).finalState ?_ ?_
    · rintro d state' ⟨tick, -, -, hnone, hsome⟩
      by_cases h : tick.grantResult = none
      · exact (hnone h).held hheld
      · exact hcommit (hsome h).1 (hsome h).2
    · rintro state' (hkept | ⟨tick, -, -, howns, hcommits⟩)
      · exact hkept.held hheld
      · exact hcommit howns hcommits

/-- A tick is reported as committed iff its final validation found nothing. -/
lemma Reports.stateCommitted_iff {tick : TickDecision ℕ} {tickId : String} {grantTickId : ℤ}
    {heldAges : Dict RobotId ℤ} {d : EngineDecision}
    (h : Reports tick nowMs tickId grantTickId heldAges d) :
    d.tickMetadata.stateCommitted = true ↔ tick.finalViolations = [] := by
  obtain ⟨detailedGeometry, hmeta⟩ := h.metadata
  rw [hmeta]
  exact decide_eq_true_iff

/-- **A tick is a transaction.** For every reachable state and every input, and whatever the
builder, the optimiser and the heuristic do: a call that raises before its commit point, or returns
without committing, leaves the held manager as it was. A call that commits replaces it by the
result of the four calls on a copy, remembers exactly the returned actions, and advances the tick
by one. The held manager is always closed.

**Proof sketch.** The four calls on the grant manager go to a copy, and the only step that replaces
the held manager comes after everything that may raise (`decide_outcome`). -/
theorem decide_transactional {state : EngineState ω Store ℕ}
    (hreach : (engineMachine config geometry parts).Reachable state)
    (snapshots : List RobotSnapshot) (nowMs : ℤ) (tickId : String) :
    state.held.tickOpen = false ∧
      (∀ e state', (CollisionDecisionEngine.decide config geometry parts (managerApi config)
          snapshots nowMs tickId).run state = .error e state' →
        (¬ ∃ tick, (decideTick config geometry parts (managerApi config) snapshots nowMs
          tickId).run state = .ok tick state' ∧ tick.grantResult ≠ none) →
        state'.held = state.held) ∧
      (∀ d state', (CollisionDecisionEngine.decide config geometry parts (managerApi config)
          snapshots nowMs tickId).run state = .ok d state' →
        d.tickMetadata.stateCommitted = false → state'.held = state.held) ∧
      ∀ d state', (CollisionDecisionEngine.decide config geometry parts (managerApi config)
          snapshots nowMs tickId).run state = .ok d state' →
        d.tickMetadata.stateCommitted = true → ∃ tick, (decideTick config geometry parts
            (managerApi config) snapshots nowMs tickId).run state = .ok tick state' ∧
          CommitsFrom config nowMs tick state.held state'.held ∧
          (∀ r, state'.held.previousActions.lookup r =
            (d.decisionFor r).map RobotDecision.action) ∧
          state'.held.tickId = state.held.tickId + 1 := by
  have hheld := reachable_held hreach
  have hout := decide_outcome config geometry parts nowMs hheld snapshots tickId
  refine ⟨hheld.consistent.closed, fun e state' hrun hraised => ?_, fun d state' hrun hnot => ?_,
    fun d state' hrun hyes => ?_⟩
  · rcases hout.get_error hrun with hkept | ⟨tick, htick, hsome, -⟩
    · exact hkept.held_eq
    · exact absurd ⟨tick, htick, hsome⟩ hraised
  · obtain ⟨tick, htick, ⟨_, _, hreport⟩, hnone, -⟩ := hout.get_ok hrun
    obtain ⟨-, hcommitted, -⟩ := (decideTick_checked state snapshots nowMs tickId).get_ok htick
    refine (hnone ?_).held_eq
    rw [← Option.not_isSome_iff_eq_none, hcommitted, ← hreport.stateCommitted_iff, hnot]
    simp
  · obtain ⟨tick, htick, ⟨_, _, hreport⟩, -, hsome⟩ := hout.get_ok hrun
    obtain ⟨hchecked, hcommitted, -⟩ :=
      (decideTick_checked state snapshots nowMs tickId).get_ok htick
    obtain ⟨-, hcommits⟩ := hsome <| by
      rw [← Option.isSome_iff_ne_none, hcommitted, ← hreport.stateCommitted_iff, hyes]
    obtain ⟨-, hnext, hactions, -⟩ := hcommits.spec hheld.consistent
    refine ⟨tick, htick, hcommits, fun r => ?_, hnext⟩
    rw [hactions, hreport.lookup_eq]
    rw [hchecked.ordered_eq]
    exact hchecked.overridden.validates.mem_decisions

/-- The first call of a new engine for two approaching robots commits, and raises no alarm. -/
lemma approaching_returns : ∃ d state', (shippedDecide defaultConfig lineGeometry (fun _ => none)
      approaching 0 "first").run (EngineState.initial 0) = .ok d state' ∧
    d.tickMetadata.stateCommitted = true ∧
      AlarmCode.unresolvableWithPauseResume.value ∉ d.tickMetadata.alarms :=
  Ensures.exists_ok (Q := fun (d : EngineDecision) _ => d.tickMetadata.stateCommitted = true ∧
    AlarmCode.unresolvableWithPauseResume.value ∉ d.tickMetadata.alarms) (by decide +kernel)

/-- For two approaching robots the first call of a new engine commits tick one. -/
theorem decide_transactional_approaching : ∃ d state', (shippedDecide defaultConfig lineGeometry
      (fun _ => none) approaching 0 "first").run (EngineState.initial 0) = .ok d state' ∧
    state'.held.tickId = 1 := by
  obtain ⟨d, state', hrun, hcommitted, -⟩ := approaching_returns
  obtain ⟨-, -, -, hcommit⟩ := decide_transactional (.init ⟨0, rfl⟩) approaching 0 "first"
  obtain ⟨-, -, -, -, hnext⟩ := hcommit d state' hrun hcommitted
  exact ⟨d, state', hrun, hnext⟩

end Tick

end CollisionMonitor
