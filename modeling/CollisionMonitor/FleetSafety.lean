import CollisionMonitor.ShippedTick

set_option relaxedAutoImplicit false
set_option autoImplicit false

/-!
# Safety of the shipped engine

Robots conflict under the returned actions exactly where their current footprints overlap, so a
tick commits iff the current footprints are clear.

## Main definitions

* `Clear` — no two robots of a fleet conflict under an assignment of actions.

## Main results

* `decide_safety_exact` — the three reported violation sets agree, and a tick commits iff the
  current footprints are clear.
-/

namespace CollisionMonitor

open Outcome

section Safety

variable {G : Type} {config : MonitorConfig} {geometry : Geometry G} {cpSat : ℕ → Backend}
  {snapshots : List RobotSnapshot} {nowMs : ℤ} {tickId : String}

/-- No two robots of the fleet conflict under the assignment. -/
def Clear (geometry : Geometry G) (ordered : List RobotSnapshot) (x : RobotId → Action) : Prop :=
  ∀ s ∈ ordered, ∀ t ∈ ordered, s.deviceId ≠ t.deviceId →
    ¬ geometry.Conflict s (x s.deviceId) t (x t.deviceId)

/-- Footprints are clear iff no two robots conflict, whatever their order. -/
lemma clear_iff (hgeo : geometry.Conservative) {ordered : List RobotSnapshot}
    {x : RobotId → Action} :
    Clear geometry ordered x ↔ ∀ i j, ¬ ConflictsUnder geometry ordered x i j := by
  constructor
  · rintro hclear i j ⟨s, hs, t, ht, rfl, rfl, hlt, hconf⟩
    exact hclear s hs t ht hlt.ne hconf
  · intro hnone s hs t ht hne hconf
    rcases lt_or_gt_of_ne hne with hlt | hgt
    · exact hnone _ _ ⟨s, hs, t, ht, rfl, rfl, hlt, hconf⟩
    · exact hnone _ _ ⟨t, ht, s, hs, rfl, rfl, hgt, hgeo.symm _ _ _ _ hconf⟩

/-- Robots conflict under the final decisions iff their current footprints overlap: a conflict lies
in a component that is paused throughout, and overlapping footprints leave their component no
safe assignment, so it is paused too. -/
theorem ShippedTick.conflicts_iff (hgeo : geometry.Conservative)
    {g after prepared : GrantManager} {tick : TickDecision ℕ}
    (h : ShippedTick config geometry snapshots nowMs g tick after prepared) (i j : RobotId) :
    ConflictsUnder geometry (observed config nowMs snapshots) (actionOf tick.decisions) i j ↔
      ConflictsUnder geometry (observed config nowMs snapshots) (fun _ => .pause) i j := by
  constructor
  · exact fun hconf => (h.checked.overridden.conflicts_paused hgeo h.represents.partitions
      h.checked.initial hconf).2.2
  · rintro ⟨s, hs, t, ht, rfl, rfl, hlt, hconf⟩
    exact ⟨s, hs, t, ht, rfl, rfl, hlt, hgeo.of_pause (h.represents.envelope s hs _)
      (h.represents.envelope t ht _) hconf⟩

/-- The final validation finds nothing iff the current footprints are clear. -/
lemma ShippedTick.finalViolations_eq_nil_iff (hgeo : geometry.Conservative)
    {g after prepared : GrantManager} {tick : TickDecision ℕ}
    (h : ShippedTick config geometry snapshots nowMs g tick after prepared) :
    tick.finalViolations = [] ↔
      Clear geometry (observed config nowMs snapshots) fun _ => .pause := by
  rw [h.checked.overridden.validates.eq_nil_iff, clear_iff hgeo]
  exact forall₂_congr fun i j => not_congr (h.conflicts_iff hgeo i j)

/-- A tick is reported safe iff its final validation finds nothing. -/
lemma Reports.globalSafetyValid_iff {γ : Type} {tick : TickDecision γ} {grantTickId : ℤ}
    {heldAges : Dict RobotId ℤ} {d : EngineDecision}
    (h : Reports tick nowMs tickId grantTickId heldAges d) :
    d.tickMetadata.globalSafetyValid = true ↔ tick.finalViolations = [] := by
  obtain ⟨_, hmeta⟩ := h.metadata
  rw [hmeta]
  exact decide_eq_true_iff

/-- A call that returns has built the envelopes of every observed robot. -/
lemma decide_envelopes {state state' : EngineState ℕ Store ℕ}
    (hreach : (shippedMachine config geometry cpSat).Reachable state) {d : EngineDecision}
    (h : (shippedDecide config geometry cpSat snapshots nowMs tickId).run state = .ok d state') :
    ∀ s ∈ observed config nowMs snapshots, ∀ a, ∃ e, geometry.actionEnvelope s a = .ok e := by
  obtain ⟨tick, after, prepared, _, _, hstages, -⟩ := shipped_of_reachable hreach h
  exact fun s hs a => hstages.represents.envelope s hs a

/-- **On clear footprints** a tick commits and is reported safe, and its actions do not conflict. -/
lemma decide_clear (hgeo : geometry.Conservative) {state state' : EngineState ℕ Store ℕ}
    (hreach : (shippedMachine config geometry cpSat).Reachable state) {d : EngineDecision}
    (h : (shippedDecide config geometry cpSat snapshots nowMs tickId).run state = .ok d state')
    (hclear : Clear geometry (observed config nowMs snapshots) fun _ => .pause) :
    d.tickMetadata.stateCommitted = true ∧ d.tickMetadata.globalSafetyValid = true ∧
      Clear geometry (observed config nowMs snapshots) d.returned := by
  obtain ⟨tick, after, prepared, _, _, hstages, hreport, -, -⟩ := shipped_of_reachable hreach h
  have hnil := (hstages.finalViolations_eq_nil_iff hgeo).mpr hclear
  refine ⟨hreport.stateCommitted_iff.mpr hnil, hreport.globalSafetyValid_iff.mpr hnil, ?_⟩
  rwa [hstages.returned_eq hreport, clear_iff hgeo,
    ← hstages.checked.overridden.validates.eq_nil_iff]

/-- **Safety and commit are exact.** Whatever CP-SAT answers, the first and the final validation
and the current footprints have the same violations. A tick commits, and is reported safe, exactly
when no two current footprints conflict; then no returned actions conflict and no decision was
overridden.

**Proof sketch.** A tick of a reachable engine has gone through its stages (`shipped_of_reachable`).
The validators list exactly the conflicts under the actions that they are given, and an override
pauses whoever conflicts, so what is left are conflicts of current footprints (`conflicts_iff`). -/
theorem decide_safety_exact (hgeo : geometry.Conservative) {state state' : EngineState ℕ Store ℕ}
    (hreach : (shippedMachine config geometry cpSat).Reachable state) {d : EngineDecision}
    (h : (shippedDecide config geometry cpSat snapshots nowMs tickId).run state =
      .ok d state') :
    (∀ i j, (i, j) ∈ d.tickMetadata.initialGlobalSafetyViolations.map ViolationLog.robotPair ↔
      (i, j) ∈ d.tickMetadata.currentFootprintOverlaps.map ViolationLog.robotPair) ∧
    (∀ i j, (i, j) ∈ d.tickMetadata.finalGlobalSafetyViolations.map ViolationLog.robotPair ↔
      (i, j) ∈ d.tickMetadata.currentFootprintOverlaps.map ViolationLog.robotPair) ∧
    (d.tickMetadata.stateCommitted = true ↔
      Clear geometry (observed config nowMs snapshots) fun _ => .pause) ∧
    (d.tickMetadata.globalSafetyValid = true ↔
      Clear geometry (observed config nowMs snapshots) fun _ => .pause) ∧
    (d.tickMetadata.stateCommitted = true →
      Clear geometry (observed config nowMs snapshots) d.returned ∧
      ∀ decision ∈ d.decisions, "GLOBAL_SAFETY_OVERRIDE" ∉ decision.reasonCodes) := by
  obtain ⟨tick, after, prepared, _, _, hstages, hreport, -, -⟩ := shipped_of_reachable hreach h
  have hreturned := hstages.returned_eq hreport
  have hfinal := hstages.checked.overridden.validates
  obtain ⟨hfoot, hinit, hfin⟩ := hreport.violations
  have hfootprints : ∀ i j, (i, j) ∈ tick.currentFootprintViolations.map
      GlobalSafetyViolation.robotPair ↔
        ConflictsUnder geometry (observed config nowMs snapshots) (fun _ => .pause) i j := by
    intro i j
    rw [hstages.checked.footprints.mem_iff, actionOf_ofKeys_pause]
  have hclear := hstages.finalViolations_eq_nil_iff hgeo
  refine ⟨fun i j => ?_, fun i j => ?_, ?_, hreport.globalSafetyValid_iff.trans hclear,
    fun hcommitted => ⟨?_, ?_⟩⟩
  · rw [hfoot, hinit, hstages.violations_iff, hfinal.mem_iff, hfootprints,
      hstages.conflicts_iff hgeo]
  · rw [hfoot, hfin, hfinal.mem_iff, hfootprints, hstages.conflicts_iff hgeo]
  · rw [hreport.stateCommitted_iff, hclear]
  · rw [hreport.stateCommitted_iff, hclear] at hcommitted
    exact (decide_clear hgeo hreach h hcommitted).2.2
  · rw [hreport.stateCommitted_iff] at hcommitted
    have hnil := hstages.affected_eq_nil hcommitted
    intro decision hdecision
    obtain ⟨s, hs, hok⟩ := hreport.decided decision hdecision
    rw [(reportRobot_eq_ok hok).2.2.2, override_mem_reasons, hnil]
    exact List.not_mem_nil

/-- The actions returned for two approaching robots do not conflict. -/
theorem decide_safety_exact_approaching : ∃ d state', (shippedDecide defaultConfig lineGeometry
      (fun _ => none) approaching 0 "first").run (EngineState.initial 0) = .ok d state' ∧
    Clear lineGeometry (observed defaultConfig 0 approaching) d.returned := by
  obtain ⟨d, state', hrun, hcommitted, -⟩ := approaching_returns
  exact ⟨d, state', hrun, ((decide_safety_exact lineGeometry_conservative (.init ⟨0, rfl⟩)
    hrun).2.2.2.2 hcommitted).1⟩

/-- The two approaching robots are an input that the engine accepts. -/
lemma approaching_accepted : AcceptedCall defaultConfig lineGeometry (fun _ => none) approaching 0
    "first" (EngineState.initial 0).held where
  now_nonneg := le_rfl
  tickId_ne := by decide
  ids := by decide
  received := by decide
  envelope := fun s _ a => ⟨_, rfl⟩
  solver := fun call solve h => nomatch h
  fit := by decide +kernel

end Safety

end CollisionMonitor
