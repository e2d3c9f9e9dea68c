import CollisionMonitor.SharedTick

set_option relaxedAutoImplicit false
set_option autoImplicit false

/-!
# Isolation of a closed part of the fleet

Two engines observe fleets that share the robots of a set, and no edge of either conflict graph
leaves the set. If their grant managers agree on the set, then so do their actions, decision
sources, retained and released grants, and after a commit their managers: what happens outside the
set never influences it.

## Main definitions

* `DecidedCall` — a call that returned, with the tick it decided.
* `SharePart` — two calls share a closed part.
* `SameOutcome` — two decisions are alike on a set.
* `CommittingRun` — a run of calls that all return and commit.

## Main results

* `DecidedCall.lookup_eq`, `DecidedCall.agreeOn` — the decisions of shared robots are the same, and
  the managers agree again.
* `isolation` — calls and runs that share a closed part have the same outcome on it.
-/

namespace CollisionMonitor

open Outcome

section Decide

variable {G : Type} {config : MonitorConfig} {geometry : Geometry G} {cpSat : Backend}
  {S : Set RobotId}

/-- **A call that returned**, with the tick it decided: the stages of the tick, its deliberation and
its report, and what it left behind if it committed. -/
structure DecidedCall (config : MonitorConfig) (geometry : Geometry G) (cpSat : Backend)
    (call : Call) (state state' : EngineState ℕ Store ℕ) (d : EngineDecision)
    (tick : TickDecision ℕ) (after prepared : GrantManager) : Prop where
  decides : (decideTick config geometry (shippedCollaborators config geometry fun _ => cpSat)
    (managerApi config) call.snapshots call.nowMs call.tickId).run state = .ok tick state'
  consistent : state.held.Consistent
  stages : ShippedTick config geometry call.snapshots call.nowMs state.held tick after prepared
  deliberates : ∃ after prepared solved previewed, GrantManager.Prepared config tick.conflictModel
      call.nowMs state.held after prepared tick.preparation ∧
    Deliberates config (shippedCollaborators config geometry fun _ => cpSat) call.nowMs tick
      prepared solved previewed
  reports : ∃ grantTickId heldAges, Reports tick call.nowMs call.tickId grantTickId heldAges d
  committed : tick.grantResult.isSome = true ↔ tick.finalViolations = []
  commits : tick.finalViolations = [] → CommitsFrom config call.nowMs tick state.held state'.held ∧
    GrantManager.Granted tick.conflictModel tick.decisions prepared state'.held

/-- Every call that returned from a reachable state decided a tick. -/
lemma decidedCall {state state' : EngineState ℕ Store ℕ}
    (hreach : (shippedMachine config geometry fun _ => cpSat).Reachable state) {call : Call}
    {d : EngineDecision} (h : (shippedDecide config geometry (fun _ => cpSat) call.snapshots
      call.nowMs call.tickId).run state = .ok d state') :
    ∃ tick after prepared,
      DecidedCall config geometry cpSat call state state' d tick after prepared := by
  have hheld := reachable_held hreach
  obtain ⟨tick, htick, hreport⟩ := decide_eq_ok h
  obtain ⟨after, prepared, hstages, hgranted⟩ :=
    (decideTick_shipped hheld (P := True) (.inl trivial)).get_ok htick
  obtain ⟨-, hcommits⟩ := (decideTick_transaction hheld call.snapshots call.tickId).get_ok htick
  obtain ⟨-, hcommitted, -⟩ :=
    (decideTick_checked state call.snapshots call.nowMs call.tickId).get_ok htick
  obtain ⟨copy, prepared₁, solved, previewed, hclone, hprepare, hdeliberates⟩ :=
    (decideTick_deliberates hheld call.snapshots call.tickId).get_ok htick
  obtain ⟨after₁, hprepared₁⟩ := (GrantManager.prepareTick_spec (E := True) hstages.wellFormed
    (hheld.consistent.clone hclone).1 (fun _ => trivial) (.inl trivial)).get_ok hprepare
  refine ⟨tick, after, prepared, htick, hheld.consistent, hstages,
    ⟨after₁, prepared₁, solved, previewed, hprepared₁.of_clone hclone, hdeliberates⟩,
    ⟨_, _, hreport⟩, hcommitted, fun hfinal => ?_⟩
  obtain ⟨result, hresult⟩ := Option.isSome_iff_exists.mp (hcommitted.mpr hfinal)
  exact ⟨(hcommits (by simp [hresult])).2, (hgranted result hresult).1⟩

section One

variable {call : Call} {state state' : EngineState ℕ Store ℕ} {d : EngineDecision}
  {tick : TickDecision ℕ} {after prepared : GrantManager}
  (h : DecidedCall config geometry cpSat call state state' d tick after prepared)
include h

/-- The final actions and sources are about the observed robots. -/
lemma DecidedCall.observed_iff (r : RobotId) :
    (r ∈ tick.decisions ↔ ∃ s ∈ tick.ordered, s.deviceId = r) ∧
      (r ∈ tick.sources ↔ ∃ s ∈ tick.ordered, s.deviceId = r) := by
  rw [h.stages.mem_decisions, h.stages.mem_sources, h.stages.checked.ordered_eq,
    h.stages.represents.mem_snapshots_iff]
  exact ⟨Iff.rfl, Iff.rfl⟩

/-- A call reports the releases of its tick iff it committed. -/
lemma DecidedCall.releasedGrants : d.tickMetadata.releasedGrants =
    if d.tickMetadata.stateCommitted = true then
      tick.preparation.releasedGrants.map fun release => (release.robotId, release.reason.value)
      else [] := by
  obtain ⟨_, _, hreport⟩ := h.reports
  obtain ⟨_, hmeta⟩ := hreport.metadata
  have hreleased : d.tickMetadata.releasedGrants = (tick.grantResult.map fun result =>
      result.val.releasedGrants.map fun release =>
        (release.robotId, release.reason.value)).getD [] := by
    rw [hmeta]
    rfl
  rw [hreleased]
  split_ifs with hyes
  · have hfinal := hreport.stateCommitted_iff.mp hyes
    obtain ⟨result, hresult, hsame⟩ := (h.commits hfinal).1.releasedGrants h.consistent
      h.stages.wellFormed (h.stages.affected_eq_nil hfinal)
    rw [hresult, ← hsame]
    rfl
  · rw [hreport.stateCommitted_iff, ← h.committed, Option.not_isSome_iff_eq_none] at hyes
    rw [hyes]
    rfl

end One

/-! ## Two calls that share a part -/

/-- **Two calls share a part**: at the same time they show the same snapshots of the robots of the
set, and no edge of either conflict graph leaves it. -/
structure SharePart (config : MonitorConfig) (geometry : Geometry G) (S : Set RobotId)
    (call call' : Call) : Prop where
  nowMs : call.nowMs = call'.nowMs
  snapshots : ∀ s : RobotSnapshot, s.deviceId ∈ S → (s ∈ call.snapshots ↔ s ∈ call'.snapshots)
  closed : ∀ m, buildConflictModel geometry (call.observed config) = .ok m → Closed S m.edges
  closed' : ∀ m, buildConflictModel geometry (call'.observed config) = .ok m → Closed S m.edges

/-- A tick observes the same of the shared robots. -/
lemma SharePart.observed {call call' : Call} (h : SharePart config geometry S call call')
    (s : RobotSnapshot) (hs : s.deviceId ∈ S) :
    s ∈ call.observed config ↔ s ∈ call'.observed config := by
  rw [Call.observed, Call.observed, mem_observed, mem_observed, h.nowMs]
  refine exists_congr fun t => and_congr_left ?_
  rintro rfl
  exact h.snapshots t hs

section Two

variable {call call' : Call} {state state' t t' : EngineState ℕ Store ℕ} {d d' : EngineDecision}
  {tick tick' : TickDecision ℕ} {after prepared after' prepared' : GrantManager}
  (h : DecidedCall config geometry cpSat call state t d tick after prepared)
  (h' : DecidedCall config geometry cpSat call' state' t' d' tick' after' prepared')
  (hshare : SharePart config geometry S call call') (hagree : AgreeOn S state.held state'.held)

include h h' hshare

/-- The conflict models of two calls that share a part. -/
lemma DecidedCall.sameOn : SameOn S tick.conflictModel tick'.conflictModel :=
  sameOn_of_build h.stages.built h.stages.represents h'.stages.built h'.stages.represents
    hshare.observed (hshare.closed _ h.stages.built) (hshare.closed' _ h'.stages.built)

include hagree

/-- The two ticks are prepared alike. -/
lemma DecidedCall.alike :
    PreparedAlike S prepared prepared' tick.preparation tick'.preparation := by
  have hprepared' := h'.stages.prepared
  rw [← hshare.nowMs] at hprepared'
  exact h.stages.prepared.alike hprepared' h.stages.wellFormed h'.stages.wellFormed
    (h.sameOn h' hshare) hagree

/-- **The final actions and sources** of a shared robot are the same. -/
lemma DecidedCall.lookup_eq {r : RobotId} (hr : r ∈ S) :
    tick.decisions.lookup r = tick'.decisions.lookup r ∧
      tick.sources.lookup r = tick'.sources.lookup r := by
  have hmodel := h.sameOn h' hshare
  by_cases hobs : r ∈ tick.conflictModel.snapshots
  · obtain ⟨K, hK, hrK⟩ := (h.stages.wellFormed.mem_component_iff r).mp hobs
    obtain ⟨_, _, _, _, hprepared, hdeliberates⟩ := h.deliberates
    obtain ⟨_, _, _, _, hprepared', hdeliberates'⟩ := h'.deliberates
    rw [← hshare.nowMs] at hprepared' hdeliberates'
    rw [(h.stages.unchanged r).1, (h.stages.unchanged r).2, (h'.stages.unchanged r).1,
      (h'.stages.unchanged r).2, hdeliberates.decisions, hdeliberates.sources,
      hdeliberates'.decisions, hdeliberates'.sources]
    exact hdeliberates.agreeUnder hdeliberates' h.stages.wellFormed h'.stages.wellFormed hprepared
      hprepared' hmodel hagree hK ⟨r, hrK, hr⟩ r hrK
  · -- a robot that is not observed gets no decision
    have hobs' : r ∉ tick'.conflictModel.snapshots := fun hmem =>
      hobs ((Dict.mem_congr (hmodel.snapshots r hr)).mpr hmem)
    rw [AList.lookup_eq_none.mpr (mt (h.stages.mem_decisions r).mp hobs),
      AList.lookup_eq_none.mpr (mt (h.stages.mem_sources r).mp hobs),
      AList.lookup_eq_none.mpr (mt (h'.stages.mem_decisions r).mp hobs'),
      AList.lookup_eq_none.mpr (mt (h'.stages.mem_sources r).mp hobs')]
    exact ⟨rfl, rfl⟩

/-- **After both ticks commit** the held managers agree again.

**Proof sketch.** The same robots of the set acquire grants, with equal fresh records, and all other
grants of the set are kept. Ages and actions follow from the decisions, which agree. -/
lemma DecidedCall.agreeOn (hfinal : tick.finalViolations = [])
    (hfinal' : tick'.finalViolations = []) : AgreeOn S t.held t'.held := by
  have hmodel := h.sameOn h' hshare
  have halike := h.alike h' hshare hagree
  have hm := h.stages.wellFormed
  have hm' := h'.stages.wellFormed
  obtain ⟨hcommits, hgranted⟩ := h.commits hfinal
  obtain ⟨hcommits', hgranted'⟩ := h'.commits hfinal'
  obtain ⟨-, htick, hactions, hages⟩ := hcommits.spec h.consistent
  obtain ⟨-, htick', hactions', hages'⟩ := hcommits'.spec h'.consistent
  have hdecisions : ∀ r ∈ S, tick.decisions.lookup r = tick'.decisions.lookup r := fun r hr =>
    (h.lookup_eq h' hshare hagree hr).1
  refine ⟨by rw [htick, htick', hagree.tickId], fun r hr => ?_, fun r hr => ?_, fun r hr => ?_⟩
  · -- the same robots of the set acquire a grant
    have hacquires : GrantManager.Acquires tick.conflictModel tick.decisions prepared r ↔
        GrantManager.Acquires tick'.conflictModel tick'.decisions prepared' r := by
      rw [GrantManager.Acquires, GrantManager.Acquires, hdecisions r hr, ne_eq, ne_eq,
        hmodel.isolated r hr, GrantManager.mem_activeGrants_iff, GrantManager.mem_activeGrants_iff,
        halike.record r hr]
    have hfresh : prepared.freshRecord r = prepared'.freshRecord r := by
      rw [GrantManager.freshRecord, GrantManager.freshRecord, h.stages.prepared.tickId_eq hm,
        h'.stages.prepared.tickId_eq hm', hagree.tickId]
    refine Option.map_injective Subtype.val_injective ?_
    change t.held.record r = t'.held.record r
    by_cases hacq : GrantManager.Acquires tick.conflictModel tick.decisions prepared r
    · rw [hgranted.gained r hacq, hgranted'.gained r (hacquires.mp hacq), hfresh]
    · rw [hgranted.kept r hacq, hgranted'.kept r (mt hacquires.mpr hacq), halike.record r hr]
  · rw [hages, hages', hmodel.snapshots r hr, hagree.age r hr, actionOf, actionOf,
      hdecisions r hr]
  · rw [hactions, hactions', hdecisions r hr]

end Two

/-- **Two decisions are alike** on a set of robots: the same actions, sources and retained grants,
and the same reported releases if both or neither committed. -/
structure SameOutcome (S : Set RobotId) (d d' : EngineDecision) : Prop where
  actions : ∀ r ∈ S, (d.decisionFor r).map RobotDecision.action =
    (d'.decisionFor r).map RobotDecision.action
  sources : ∀ r ∈ S, d.sourceOf r = d'.sourceOf r
  retained : ∀ r ∈ S, d.Retains r ↔ d'.Retains r
  released : d.tickMetadata.stateCommitted = d'.tickMetadata.stateCommitted → ∀ r ∈ S, ∀ reason,
    (r, reason) ∈ d.tickMetadata.releasedGrants ↔ (r, reason) ∈ d'.tickMetadata.releasedGrants

/-- Calls that share a part, from managers that agree on it, have the same outcome on it. -/
lemma DecidedCall.sameOutcome {call call' : Call} {state state' t t' : EngineState ℕ Store ℕ}
    {d d' : EngineDecision} {tick tick' : TickDecision ℕ}
    {after prepared after' prepared' : GrantManager}
    (h : DecidedCall config geometry cpSat call state t d tick after prepared)
    (h' : DecidedCall config geometry cpSat call' state' t' d' tick' after' prepared')
    (hshare : SharePart config geometry S call call') (hagree : AgreeOn S state.held state'.held) :
    SameOutcome S d d' := by
  have halike := h.alike h' hshare hagree
  obtain ⟨_, _, hreport⟩ := h.reports
  obtain ⟨_, _, hreport'⟩ := h'.reports
  refine ⟨fun r hr => ?_, fun r hr => ?_, fun r hr => ?_, fun hcommitted r hr reason => ?_⟩
  · rw [hreport.lookup_eq fun r => (h.observed_iff r).1,
      hreport'.lookup_eq fun r => (h'.observed_iff r).1]
    exact (h.lookup_eq h' hshare hagree hr).1
  · rw [hreport.sourceOf_eq fun r => (h.observed_iff r).2,
      hreport'.sourceOf_eq fun r => (h'.observed_iff r).2]
    exact (h.lookup_eq h' hshare hagree hr).2
  · rw [h.stages.retains_iff hreport, h'.stages.retains_iff hreport']
    exact Dict.mem_congr (halike.hard r hr)
  · rw [h.releasedGrants, h'.releasedGrants, hcommitted]
    split_ifs
    · simp only [List.mem_map, Prod.mk.injEq]
      constructor
      · rintro ⟨release, hmem, rfl, rfl⟩
        exact ⟨release, (halike.released release hr).mp hmem, rfl, rfl⟩
      · rintro ⟨release, hmem, rfl, rfl⟩
        exact ⟨release, (halike.released release hr).mpr hmem, rfl, rfl⟩
    · exact Iff.rfl

/-- The tick of a call determines a release of a grant. -/
def Releases (config : MonitorConfig) (geometry : Geometry G) (cpSat : Backend) (call : Call)
    (state : EngineState ℕ Store ℕ) (release : GrantRelease) : Prop :=
  ∃ tick t, (decideTick config geometry (shippedCollaborators config geometry fun _ => cpSat)
      (managerApi config) call.snapshots call.nowMs call.tickId).run state = .ok tick t ∧
    release ∈ tick.preparation.releasedGrants

/-- A call that returned releases what its preparation does. -/
lemma DecidedCall.releases_iff {call : Call} {state t : EngineState ℕ Store ℕ} {d : EngineDecision}
    {tick : TickDecision ℕ} {after prepared : GrantManager}
    (h : DecidedCall config geometry cpSat call state t d tick after prepared)
    (release : GrantRelease) : Releases config geometry cpSat call state release ↔
      release ∈ tick.preparation.releasedGrants := by
  constructor
  · rintro ⟨tick', t', hrun, hmem⟩
    rw [h.decides] at hrun
    cases hrun
    exact hmem
  · exact fun hmem => ⟨tick, t, h.decides, hmem⟩

/-- **One tick.** From managers that agree on the set, two calls that share a part decide alike on
it, their ticks release the same grants of it, and their managers agree again if both commit. -/
lemma decide_isolated {state state' t t' : EngineState ℕ Store ℕ} {call call' : Call}
    {d d' : EngineDecision}
    (hreach : (shippedMachine config geometry fun _ => cpSat).Reachable state)
    (hreach' : (shippedMachine config geometry fun _ => cpSat).Reachable state')
    (hagree : AgreeOn S state.held state'.held) (hshare : SharePart config geometry S call call')
    (h : (shippedDecide config geometry (fun _ => cpSat) call.snapshots call.nowMs
      call.tickId).run state = .ok d t)
    (h' : (shippedDecide config geometry (fun _ => cpSat) call'.snapshots call'.nowMs
      call'.tickId).run state' = .ok d' t') :
    SameOutcome S d d' ∧
      (∀ release : GrantRelease, release.robotId ∈ S →
        (Releases config geometry cpSat call state release ↔
          Releases config geometry cpSat call' state' release)) ∧
      (d.tickMetadata.stateCommitted = true → d'.tickMetadata.stateCommitted = true →
        AgreeOn S t.held t'.held) := by
  obtain ⟨tick, after, prepared, hdecided⟩ := decidedCall hreach h
  obtain ⟨tick', after', prepared', hdecided'⟩ := decidedCall hreach' h'
  obtain ⟨_, _, hreport⟩ := hdecided.reports
  obtain ⟨_, _, hreport'⟩ := hdecided'.reports
  refine ⟨hdecided.sameOutcome hdecided' hshare hagree, fun release hr => ?_, fun hyes hyes' => ?_⟩
  · rw [hdecided.releases_iff, hdecided'.releases_iff]
    exact (hdecided.alike hdecided' hshare hagree).released release hr
  · exact hdecided.agreeOn hdecided' hshare hagree (hreport.stateCommitted_iff.mp hyes)
      (hreport'.stateCommitted_iff.mp hyes')

/-- **A run of calls** that all return and commit, with their decisions. -/
inductive CommittingRun (config : MonitorConfig) (geometry : Geometry G) (cpSat : ℕ → Backend) :
    EngineState ℕ Store ℕ → List (Call × EngineDecision) → EngineState ℕ Store ℕ → Prop
  | nil (state : EngineState ℕ Store ℕ) : CommittingRun config geometry cpSat state [] state
  | cons {state t u : EngineState ℕ Store ℕ} {call : Call} {d : EngineDecision}
      {rest : List (Call × EngineDecision)}
      (hrun : (shippedDecide config geometry cpSat call.snapshots call.nowMs call.tickId).run
        state = .ok d t)
      (hcommitted : d.tickMetadata.stateCommitted = true)
      (hrest : CommittingRun config geometry cpSat t rest u) :
      CommittingRun config geometry cpSat state ((call, d) :: rest) u

/-- **Runs.** What happens outside the set never influences it. -/
lemma run_isolated {state state' t t' : EngineState ℕ Store ℕ}
    {run run' : List (Call × EngineDecision)}
    (hreach : (shippedMachine config geometry fun _ => cpSat).Reachable state)
    (hreach' : (shippedMachine config geometry fun _ => cpSat).Reachable state')
    (hagree : AgreeOn S state.held state'.held)
    (h : CommittingRun config geometry (fun _ => cpSat) state run t)
    (h' : CommittingRun config geometry (fun _ => cpSat) state' run' t')
    (hshare : List.Forall₂ (fun x y => SharePart config geometry S x.1 y.1) run run') :
    List.Forall₂ (fun x y => SameOutcome S x.2 y.2) run run' ∧ AgreeOn S t.held t'.held := by
  induction h generalizing state' run' with
  | nil state =>
    cases hshare
    cases h'
    exact ⟨.nil, hagree⟩
  | @cons state s u call d rest hrun hcommitted hrest ih =>
    cases hshare with
    | @cons _ y _ run' hshare hsharerest =>
      cases h' with
      | @cons _ s' _ call' d' _ hrun' hcommitted' hrest' =>
        obtain ⟨hsame, -, hagrees⟩ := decide_isolated hreach hreach' hagree hshare hrun hrun'
        have hnext := hreach.step (t := s) ⟨call.snapshots, call.nowMs, call.tickId, by
          rw [hrun]; rfl⟩
        have hnext' := hreach'.step (t := s') ⟨call'.snapshots, call'.nowMs, call'.tickId, by
          rw [hrun']; rfl⟩
        obtain ⟨hall, hlast⟩ :=
          ih hnext hnext' (hagrees hcommitted hcommitted') hrest' hsharerest
        exact ⟨.cons hsame hall, hlast⟩

/-- **Isolation of a closed part.** From any two reachable states whose managers agree on a set of
robots, and with a solver that is a function of its model: calls that share the set have the same
outcome on it and release the same grants of it, and so do the calls of runs that commit every
tick. The grants that a tick releases are reported, and taken from the held manager, only if it
commits; the reports are compared when both calls commit or neither does.

**Proof sketch.** Calls that share the set build models that agree on it, and the stages of both
ticks are compared one by one (`decide_isolated`). Runs follow by induction over their calls
(`run_isolated`). -/
theorem isolation {state state' : EngineState ℕ Store ℕ}
    (hreach : (shippedMachine config geometry fun _ => cpSat).Reachable state)
    (hreach' : (shippedMachine config geometry fun _ => cpSat).Reachable state')
    (hagree : AgreeOn S state.held state'.held) :
    (∀ call call', SharePart config geometry S call call' → ∀ d d' t t',
      (shippedDecide config geometry (fun _ => cpSat) call.snapshots call.nowMs
        call.tickId).run state = .ok d t →
      (shippedDecide config geometry (fun _ => cpSat) call'.snapshots call'.nowMs
        call'.tickId).run state' = .ok d' t' →
      SameOutcome S d d' ∧
        (∀ release : GrantRelease, release.robotId ∈ S →
          (Releases config geometry cpSat call state release ↔
            Releases config geometry cpSat call' state' release)) ∧
        (d.tickMetadata.stateCommitted = true → d'.tickMetadata.stateCommitted = true →
          AgreeOn S t.held t'.held)) ∧
    ∀ run run' t t', CommittingRun config geometry (fun _ => cpSat) state run t →
      CommittingRun config geometry (fun _ => cpSat) state' run' t' →
      List.Forall₂ (fun x y => SharePart config geometry S x.1 y.1) run run' →
      List.Forall₂ (fun x y => SameOutcome S x.2 y.2) run run' ∧ AgreeOn S t.held t'.held :=
  ⟨fun _ _ hshare _ _ _ _ h h' => decide_isolated hreach hreach' hagree hshare h h',
    fun _ _ _ _ h h' hshare => run_isolated hreach hreach' hagree h h' hshare⟩

/-- A manager agrees with itself. -/
lemma AgreeOn.refl (g : GrantManager) : AgreeOn S g g :=
  ⟨rfl, fun _ _ => rfl, fun _ _ => rfl, fun _ _ => rfl⟩

/-- Robots outside the set may be added to a call. -/
lemma sharePart_append {snapshots others : List RobotSnapshot} {nowMs : ℤ} {tickId tickId' : String}
    (hothers : ∀ s ∈ others, s.deviceId ∉ S)
    (hclosed : ∀ m, buildConflictModel geometry (observed config nowMs snapshots) = .ok m →
      Closed S m.edges)
    (hclosed' : ∀ m, buildConflictModel geometry (observed config nowMs (snapshots ++ others)) =
      .ok m → Closed S m.edges) :
    SharePart config geometry S ⟨snapshots, nowMs, tickId⟩
      ⟨snapshots ++ others, nowMs, tickId'⟩ where
  nowMs := rfl
  snapshots := fun s hs => by
    rw [List.mem_append]
    exact ⟨.inl, fun h => h.resolve_right fun hmem => hothers s hmem hs⟩
  closed := hclosed
  closed' := hclosed'

/-- The first two robots on the line. -/
def firstTwo : Set RobotId := {r | r = robotA ∨ r = robotB}

/-- Two other robots that approach each other far away. -/
def elsewhere : List RobotSnapshot := [lineSnapshot robotC 100 103, lineSnapshot robotD 105 102]

/-- Two ticks about the approaching robots are the same with and without the robots elsewhere. -/
theorem isolation_approaching : ∃ d d' t t', (shippedDecide defaultConfig lineGeometry
      (fun _ => none) approaching 0 "first").run (EngineState.initial 0) = .ok d t ∧
    (shippedDecide defaultConfig lineGeometry (fun _ => none) (approaching ++ elsewhere) 0
      "first").run (EngineState.initial 0) = .ok d' t' ∧
    SameOutcome firstTwo d d' ∧ AgreeOn firstTwo t.held t'.held := by
  have hothers : ∀ s ∈ elsewhere, ¬ (s.deviceId = robotA ∨ s.deviceId = robotB) := by
    decide +kernel
  have hclosed : ∀ m, buildConflictModel lineGeometry (observed defaultConfig 0 approaching) =
      .ok m → ∀ e ∈ m.edges, (e.1 = robotA ∨ e.1 = robotB) ↔ (e.2 = robotA ∨ e.2 = robotB) := by
    decide +kernel
  have hclosed' : ∀ m, buildConflictModel lineGeometry (observed defaultConfig 0
      (approaching ++ elsewhere)) = .ok m →
        ∀ e ∈ m.edges, (e.1 = robotA ∨ e.1 = robotB) ↔ (e.2 = robotA ∨ e.2 = robotB) := by
    decide +kernel
  have hshare : SharePart defaultConfig lineGeometry firstTwo ⟨approaching, 0, "first"⟩
      ⟨approaching ++ elsewhere, 0, "first"⟩ := sharePart_append hothers hclosed hclosed'
  obtain ⟨d, t, hrun, hyes, -⟩ := approaching_returns
  obtain ⟨d', t', hrun', hyes'⟩ := Ensures.exists_ok
    (x := shippedDecide defaultConfig lineGeometry (fun _ => none) (approaching ++ elsewhere) 0
      "first") (s := EngineState.initial 0)
    (Q := fun (d : EngineDecision) _ => d.tickMetadata.stateCommitted = true) (by decide +kernel)
  have hnew : (shippedMachine defaultConfig lineGeometry fun _ => none).Reachable
      (EngineState.initial 0) := .init ⟨0, rfl⟩
  obtain ⟨htick, hruns⟩ := isolation (S := firstTwo) hnew hnew (AgreeOn.refl _)
  obtain ⟨hsame, -, -⟩ := htick _ _ hshare d d' t t' hrun hrun'
  obtain ⟨-, hagree⟩ := hruns _ _ t t' (.cons hrun hyes (.nil t)) (.cons hrun' hyes' (.nil t'))
    (.cons hshare .nil)
  exact ⟨d, d', t, t', hrun, hrun', hsame, hagree⟩

/-- The first robot has arrived at its goal, and the second one approaches it. -/
def arrived : List RobotSnapshot :=
  [{ lineSnapshot robotA 0 0 with state := lineState robotA 0 [], atGoal := true },
    lineSnapshot robotB 5 2]

/-- Two other robots whose footprints overlap far away. -/
def overlapping : List RobotSnapshot := [lineSnapshot robotC 100 103, lineSnapshot robotD 100 103]

/-- **A tick that does not commit reports no releases.** The robots elsewhere overlap, so the tick
about all of them is not committed, and does not report that the grant of the arrived robot is
released. -/
theorem isolation_uncommitted :
    (shippedMachine defaultConfig lineGeometry fun _ => none).Reachable approachingState ∧
    SharePart defaultConfig lineGeometry firstTwo ⟨arrived, 100, "second"⟩
      ⟨arrived ++ overlapping, 100, "second"⟩ ∧
    ∃ d d' t t', (shippedDecide defaultConfig lineGeometry (fun _ => none) arrived 100
        "second").run approachingState = .ok d t ∧
      (shippedDecide defaultConfig lineGeometry (fun _ => none) (arrived ++ overlapping) 100
        "second").run approachingState = .ok d' t' ∧
      robotA ∈ firstTwo ∧
      (robotA, GrantReleaseReason.atGoal.value) ∈ d.tickMetadata.releasedGrants ∧
      (robotA, GrantReleaseReason.atGoal.value) ∉ d'.tickMetadata.releasedGrants := by
  have hothers : ∀ s ∈ overlapping, ¬ (s.deviceId = robotA ∨ s.deviceId = robotB) := by
    decide +kernel
  have hclosed : ∀ m, buildConflictModel lineGeometry (observed defaultConfig 100 arrived) =
      .ok m → ∀ e ∈ m.edges, (e.1 = robotA ∨ e.1 = robotB) ↔ (e.2 = robotA ∨ e.2 = robotB) := by
    decide +kernel
  have hclosed' : ∀ m, buildConflictModel lineGeometry (observed defaultConfig 100
      (arrived ++ overlapping)) = .ok m →
        ∀ e ∈ m.edges, (e.1 = robotA ∨ e.1 = robotB) ↔ (e.2 = robotA ∨ e.2 = robotB) := by
    decide +kernel
  obtain ⟨d, t, hrun, hreleased⟩ := Ensures.exists_ok
    (x := shippedDecide defaultConfig lineGeometry (fun _ => none) arrived 100 "second")
    (s := approachingState) (Q := fun (d : EngineDecision) _ =>
      (robotA, GrantReleaseReason.atGoal.value) ∈ d.tickMetadata.releasedGrants) (by decide +kernel)
  obtain ⟨d', t', hrun', hnone⟩ := Ensures.exists_ok
    (x := shippedDecide defaultConfig lineGeometry (fun _ => none) (arrived ++ overlapping) 100
      "second") (s := approachingState) (Q := fun (d : EngineDecision) _ =>
      (robotA, GrantReleaseReason.atGoal.value) ∉ d.tickMetadata.releasedGrants) (by decide +kernel)
  exact ⟨approachingState_reachable, sharePart_append hothers hclosed hclosed', d, d', t, t', hrun,
    hrun', .inl rfl, hreleased, hnone⟩

end Decide

end CollisionMonitor
