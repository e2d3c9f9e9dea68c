import CollisionMonitor.EngineSpec

set_option relaxedAutoImplicit false
set_option autoImplicit false

/-!
# The last line of defence

After the planner, every tick validates the chosen envelopes of the whole fleet and forces the
components of violating robots to Pause. This is sound for any conflict model, any solver and any
grant manager: pausing some robots after the check never creates a violation, because a robot's
Resume envelope contains its Pause envelope.

## Main definitions

* `Partitions` — the components of a model partition the observed robots.
* `Overridden` — the effect of the override.
* `Checked` — what every tick has validated when it reaches its report.
* `Reports` — what a report says about its tick.

## Main results

* `decideTick_checked` — every tick that reaches its report is checked.
* `decide_lastDefence` — the conflicts of the returned actions are conflicts of current footprints.
-/

namespace CollisionMonitor

open Outcome

/-! ## The override -/

section Override

variable {E : Type} {geometry : Geometry E} {ordered : List RobotSnapshot} {m : ConflictModel}

/-- The components of the model partition exactly the observed robots. -/
structure Partitions (ordered : List RobotSnapshot) (m : ConflictModel) : Prop where
  mem_iff : ∀ r, (∃ s ∈ ordered, s.deviceId = r) ↔ ∃ K ∈ m.connectedComponents, r ∈ K
  unique : ∀ K ∈ m.connectedComponents, ∀ L ∈ m.connectedComponents, ∀ r, r ∈ K → r ∈ L → K = L

/-- A robot is found under its component. -/
lemma Partitions.lookup (h : Partitions ordered m) {K : List RobotId}
    (hK : K ∈ m.connectedComponents) {r : RobotId} (hr : r ∈ K) :
    (componentForRobot m).lookup r = some K :=
  Dict.lookup_ofPairs_blocks h.unique hK hr

/-- The robot shares a component with a robot of a violation. -/
def Affected (m : ConflictModel) (violations : List GlobalSafetyViolation) (r : RobotId) : Prop :=
  ∃ v ∈ violations, ∃ K ∈ m.connectedComponents, r ∈ K ∧ (v.robotI ∈ K ∨ v.robotJ ∈ K)

/-- Both robots of a violation are observed. -/
lemma Validates.violation_observed {decisions : Dict RobotId Action}
    {violations : List GlobalSafetyViolation}
    (h : Validates geometry ordered decisions violations) {v : GlobalSafetyViolation}
    (hv : v ∈ violations) :
    (∃ s ∈ ordered, s.deviceId = v.robotI) ∧ ∃ s ∈ ordered, s.deviceId = v.robotJ := by
  obtain ⟨s, hs, t, ht, hI, hJ, -⟩ := (h.mem_iff _ _).mp (List.mem_map.mpr ⟨v, hv, rfl⟩)
  exact ⟨⟨s, hs, hI⟩, t, ht, hJ⟩

/-- The robots of a violation are affected by it. -/
lemma Partitions.affected (hm : Partitions ordered m) {decisions : Dict RobotId Action}
    {violations : List GlobalSafetyViolation}
    (h : Validates geometry ordered decisions violations) {v : GlobalSafetyViolation}
    (hv : v ∈ violations) : Affected m violations v.robotI ∧ Affected m violations v.robotJ := by
  obtain ⟨hI, hJ⟩ := h.violation_observed hv
  obtain ⟨K, hK, hKI⟩ := (hm.mem_iff _).mp hI
  obtain ⟨L, hL, hLJ⟩ := (hm.mem_iff _).mp hJ
  exact ⟨⟨v, hv, K, hK, hKI, .inl hKI⟩, ⟨v, hv, L, hL, hLJ, .inr hLJ⟩⟩

/-- **The affected robots** are those of the components of violating robots.

**Proof sketch.** Both robots of a violation are observed, so each has exactly one component in the
partition, and the lookup gives it. The result collects these components over all violations. -/
lemma affectedRobots_spec (hm : Partitions ordered m) {decisions : Dict RobotId Action}
    {violations : List GlobalSafetyViolation}
    (h : Validates geometry ordered decisions violations) :
    ∃ affected, affectedRobots violations m = .ok affected ∧
      ∀ r, r ∈ affected ↔ Affected m violations r := by
  have hpair : ∀ v ∈ violations, ∃ robots, (do
      let componentI ← item (componentForRobot m) v.robotI
      let componentJ ← item (componentForRobot m) v.robotJ
      return componentI ++ componentJ) = .ok robots ∧
        ∀ r, r ∈ robots ↔ ∃ K ∈ m.connectedComponents, r ∈ K ∧ (v.robotI ∈ K ∨ v.robotJ ∈ K) := by
    intro v hv
    obtain ⟨hI, hJ⟩ := h.violation_observed hv
    obtain ⟨K, hK, hKI⟩ := (hm.mem_iff _).mp hI
    obtain ⟨L, hL, hLJ⟩ := (hm.mem_iff _).mp hJ
    refine ⟨K ++ L, ?_, fun r => ?_⟩
    · rw [item_eq_ok.mpr (hm.lookup hK hKI), ok_bind, item_eq_ok.mpr (hm.lookup hL hLJ)]
      rfl
    · rw [List.mem_append]
      constructor
      · rintro (hr | hr)
        · exact ⟨K, hK, hr, .inl hKI⟩
        · exact ⟨L, hL, hr, .inr hLJ⟩
      · rintro ⟨K', hK', hr, hv | hv⟩
        · exact .inl (hm.unique K' hK' K hK _ hv hKI ▸ hr)
        · exact .inr (hm.unique K' hK' L hL _ hv hLJ ▸ hr)
  obtain ⟨components, hok⟩ := mapM_total fun v hv => (hpair v hv).imp fun _ h => h.1
  refine ⟨_, by unfold affectedRobots; rw [hok, ok_bind]; rfl, fun r => ?_⟩
  rw [mem_sorted, List.mem_dedup, List.mem_flatten]
  constructor
  · rintro ⟨robots, hrobots, hr⟩
    obtain ⟨v, hv, hok'⟩ := exists_of_mem_mapM hok _ hrobots
    obtain ⟨robots', hok'', hmem⟩ := hpair v hv
    rw [hok'] at hok''
    obtain rfl := Except.ok.inj hok''
    exact ⟨v, hv, (hmem r).mp hr⟩
  · rintro ⟨v, hv, hr⟩
    obtain ⟨robots, hok', hmem⟩ := hpair v hv
    obtain ⟨robots', hrobots', hok''⟩ := exists_mem_of_mapM hok _ hv
    rw [hok'] at hok''
    obtain rfl := Except.ok.inj hok''
    exact ⟨robots, hrobots', (hmem r).mpr hr⟩

/-- **The effect of the override**: affected robots are paused as fail-safe, nothing else changes,
and the result is validated. -/
structure Overridden (geometry : Geometry E) (ordered : List RobotSnapshot) (m : ConflictModel)
    (before : Dict RobotId Action) (sourcesBefore : Dict RobotId DecisionSource)
    (initialViolations : List GlobalSafetyViolation) (decisions : Dict RobotId Action)
    (sources : Dict RobotId DecisionSource) (affected : List RobotId)
    (finalViolations : List GlobalSafetyViolation) : Prop where
  affected_eq : affectedRobots initialViolations m = .ok affected
  lookup_decisions : ∀ r, decisions.lookup r =
    if r ∈ affected then some .pause else before.lookup r
  lookup_sources : ∀ r, sources.lookup r =
    if r ∈ affected then some .failSafe else sourcesBefore.lookup r
  validates : Validates geometry ordered decisions finalViolations

/-- Decisions that pause everybody. -/
lemma actionOf_ofKeys_pause (ks : List RobotId) :
    actionOf (Dict.ofKeys ks fun _ => .pause) = fun _ => .pause := by
  funext r
  rw [actionOf, Dict.lookup_ofKeys]
  split_ifs <;> rfl

/-- **The override** never raises on a partition whose Pause envelopes exist.

**Proof sketch.** Without violations nothing is overridden. Otherwise the decisions of the
affected robots are written over, so they keep their keys, and all envelopes of the second
validation exist. -/
lemma overrideAffected_spec {P : Prop} (hord : Ordered ordered)
    {before : Dict RobotId Action} {sourcesBefore : Dict RobotId DecisionSource}
    {initialViolations : List GlobalSafetyViolation}
    (h : Validates geometry ordered before initialViolations)
    (htotal : P ∨ Partitions ordered m ∧
      ∀ s ∈ ordered, ∃ e, geometry.actionEnvelope s .pause = .ok e) :
    Returns (overrideAffected geometry ordered m before sourcesBefore initialViolations)
      (fun result => Overridden geometry ordered m before sourcesBefore initialViolations result.1
        result.2.1 result.2.2.1 result.2.2.2) P := by
  unfold overrideAffected
  by_cases hnil : initialViolations = []
  · rw [if_pos hnil]
    subst hnil
    exact Returns.ok ⟨rfl, fun r => by simp, fun r => by simp, h⟩
  rw [if_neg hnil]
  refine (Returns.of_runs (Q := fun affected => affectedRobots initialViolations m =
    .ok affected) (fun _ hok => hok) (htotal.imp id fun ht => ?_)).bind fun affected hok => ?_
  · exact (affectedRobots_spec ht.1 h).imp fun _ h => h.1
  have hupdate : ∀ {ν : Type} (d : Dict RobotId ν) (v : ν) (r : RobotId),
      (d.update (Dict.ofKeys affected fun _ => v)).lookup r =
        if r ∈ affected then some v else d.lookup r := by
    intro ν d v r
    rw [Dict.lookup_update, Dict.lookup_ofKeys]
    split_ifs <;> rfl
  refine (validateGlobalSafety_spec hord (htotal.imp id fun ⟨hm, hpause⟩ =>
    ⟨fun r => ?_, fun s hs => ?_⟩)).bind fun finalViolations hfinal =>
      Returns.ok ⟨hok, hupdate _ _, hupdate _ _, hfinal⟩
  · rw [Dict.mem_update, Dict.mem_ofKeys, h.mem_decisions]
    refine or_iff_right_of_imp fun hr => ?_
    obtain ⟨affected', hok', hmem⟩ := affectedRobots_spec hm h
    rw [hok] at hok'
    obtain rfl := Except.ok.inj hok'
    obtain ⟨v, -, K, hK, hrK, -⟩ := (hmem r).mp hr
    exact (hm.mem_iff r).mpr ⟨K, hK, hrK⟩
  · rw [actionOf, hupdate]
    split_ifs
    · exact hpause s hs
    · exact h.envelope s hs

/-- The affected robots of an override. -/
lemma Overridden.mem_affected (hm : Partitions ordered m)
    {before decisions : Dict RobotId Action} {sourcesBefore sources : Dict RobotId DecisionSource}
    {initialViolations finalViolations : List GlobalSafetyViolation} {affected : List RobotId}
    (hbefore : Validates geometry ordered before initialViolations)
    (h : Overridden geometry ordered m before sourcesBefore initialViolations decisions sources
      affected finalViolations) (r : RobotId) :
    r ∈ affected ↔ Affected m initialViolations r := by
  obtain ⟨affected', hok, hmem⟩ := affectedRobots_spec hm hbefore
  rw [h.affected_eq] at hok
  rw [Except.ok.inj hok, hmem]

/-- **Pausing never creates a violation.** The conflicts that remain after the override are
conflicts of Pause envelopes.

Proof sketch. Let `i` and `j` conflict after the override. If neither was changed they conflicted
before, so both are affected, and both are paused. If one was changed, it was paused, and its old
envelope contains the new one: the pair conflicted before, so again both are affected. -/
theorem Overridden.conflicts_paused (hgeo : geometry.Conservative) (hm : Partitions ordered m)
    {before decisions : Dict RobotId Action} {sourcesBefore sources : Dict RobotId DecisionSource}
    {initialViolations finalViolations : List GlobalSafetyViolation} {affected : List RobotId}
    (hbefore : Validates geometry ordered before initialViolations)
    (h : Overridden geometry ordered m before sourcesBefore initialViolations decisions sources
      affected finalViolations) {i j : RobotId}
    (hconf : ConflictsUnder geometry ordered (actionOf decisions) i j) :
    actionOf decisions i = .pause ∧ actionOf decisions j = .pause ∧
      ConflictsUnder geometry ordered (fun _ => .pause) i j := by
  have hact : ∀ r, actionOf decisions r = if r ∈ affected then .pause else actionOf before r := by
    intro r
    rw [actionOf, h.lookup_decisions]
    split_ifs <;> rfl
  -- the old envelope of a robot conflicts with whatever its new envelope conflicts with
  have hgrow : ∀ s ∈ ordered, ∀ t b,
      geometry.Conflict s (actionOf decisions s.deviceId) t b →
        geometry.Conflict s (actionOf before s.deviceId) t b := by
    intro s hs t b hst
    rw [hact] at hst
    split_ifs at hst
    · have henv := hbefore.envelope s hs
      cases hold : actionOf before s.deviceId with
      | pause => exact hst
      | resume =>
        rw [hold] at henv
        exact hgeo.pause_le_resume s t b henv hst
    · exact hst
  obtain ⟨s, hs, t, ht, rfl, rfl, hlt, hst⟩ := hconf
  have hold : ConflictsUnder geometry ordered (actionOf before) s.deviceId t.deviceId :=
    ⟨s, hs, t, ht, rfl, rfl, hlt,
      hgeo.symm _ _ _ _ (hgrow t ht s _ (hgeo.symm _ _ _ _ (hgrow s hs t _ hst)))⟩
  obtain ⟨v, hv, hids⟩ := List.mem_map.mp ((hbefore.mem_iff _ _).mpr hold)
  obtain ⟨hI, hJ⟩ := Prod.mk.inj hids
  have hboth := hm.affected hbefore hv
  rw [hI, hJ, ← h.mem_affected hm hbefore, ← h.mem_affected hm hbefore] at hboth
  have hsp : actionOf decisions s.deviceId = .pause := by rw [hact, if_pos hboth.1]
  have htp : actionOf decisions t.deviceId = .pause := by rw [hact, if_pos hboth.2]
  rw [hsp, htp] at hst
  exact ⟨hsp, htp, s, hs, t, ht, rfl, rfl, hlt, hst⟩

end Override

/-! ## The report -/

section Report

variable {E γ : Type} {config : MonitorConfig} {geometry : Geometry E} {tick : TickDecision γ}
  {nowMs grantTickId : ℤ} {tickId : String} {heldAges : Dict RobotId ℤ} {d : EngineDecision}

/-- The decision returned for a robot. -/
def EngineDecision.decisionFor (d : EngineDecision) (r : RobotId) :
    Option (RobotDecision ReasonMetadata) :=
  d.decisions.find? fun decision => decision.robotId = r

/-- The action returned for a robot, Pause where none is returned. -/
def EngineDecision.returned (d : EngineDecision) (r : RobotId) : Action :=
  ((d.decisionFor r).map RobotDecision.action).getD .pause

/-- The mechanism that decided for a robot. -/
def EngineDecision.sourceOf (d : EngineDecision) (r : RobotId) : Option DecisionSource :=
  (d.decisionFor r).map RobotDecision.decisionSource

/-- **What a report says about its tick**: one decision for each snapshot, in order, and the
metadata of the tick. -/
structure Reports (tick : TickDecision γ) (nowMs : ℤ) (tickId : String) (grantTickId : ℤ)
    (heldAges : Dict RobotId ℤ) (d : EngineDecision) : Prop where
  robots : d.decisions.map RobotDecision.robotId = tick.ordered.map RobotSnapshot.deviceId
  decided : ∀ decision ∈ d.decisions, ∃ snapshot ∈ tick.ordered,
    reportRobot tick tickId snapshot = .ok decision
  metadata : ∃ detailedGeometry,
    d.tickMetadata = tick.metadata nowMs grantTickId heldAges detailedGeometry

/-- A decision is reported as overridden iff its robot was affected. -/
lemma override_mem_reasons {r : RobotId} {s : RobotSnapshot} {source : DecisionSource} :
    "GLOBAL_SAFETY_OVERRIDE" ∈ ((reasons tick r s source).map Prod.fst).eraseDups ↔
      r ∈ tick.affected := by
  have hsource : "GLOBAL_SAFETY_OVERRIDE" ≠ sourceCode source := by cases source <;> decide
  rw [List.mem_eraseDups]
  unfold reasons
  simp only [List.map_append, List.mem_append]
  split_ifs <;> simp [*]

/-- The reported decision of a robot carries its final action and source, and its reasons. -/
lemma reportRobot_eq_ok {snapshot : RobotSnapshot} {decision : RobotDecision ReasonMetadata}
    (h : reportRobot tick tickId snapshot = .ok decision) :
    decision.robotId = snapshot.deviceId ∧
      tick.decisions.lookup snapshot.deviceId = some decision.action ∧
      tick.sources.lookup snapshot.deviceId = some decision.decisionSource ∧
      decision.reasonCodes = ((reasons tick snapshot.deviceId snapshot
        decision.decisionSource).map Prod.fst).eraseDups := by
  obtain ⟨source, hsource, h⟩ := bind_eq_ok.mp h
  obtain ⟨⟨codes, metadata⟩, hreason, h⟩ := bind_eq_ok.mp h
  obtain ⟨action, haction, h⟩ := bind_eq_ok.mp h
  obtain ⟨component, -, hreason⟩ := bind_eq_ok.mp hreason
  obtain ⟨priority, -, hreason⟩ := bind_eq_ok.mp hreason
  obtain ⟨rfl, rfl⟩ := Prod.mk.inj (Except.ok.inj hreason)
  obtain rfl := Except.ok.inj h
  exact ⟨rfl, item_eq_ok.mp haction, item_eq_ok.mp hsource, rfl⟩

/-- Every returned decision reports its tick. -/
lemma reportTick_reports
    (h : reportTick config geometry tick nowMs tickId grantTickId heldAges = .ok d) :
    Reports tick nowMs tickId grantTickId heldAges d := by
  obtain ⟨decisions, hdec, h⟩ := bind_eq_ok.mp h
  obtain ⟨detailedGeometry, -, h⟩ := bind_eq_ok.mp h
  obtain rfl := Except.ok.inj h
  exact
    { robots := map_of_mapM hdec fun _ _ hok => (reportRobot_eq_ok hok).1
      decided := fun decision hmem => by
        obtain ⟨s, hs, hok⟩ := exists_of_mem_mapM hdec _ hmem
        exact ⟨s, hs, hok⟩
      metadata := ⟨detailedGeometry, rfl⟩ }

namespace Reports

variable (h : Reports tick nowMs tickId grantTickId heldAges d)
include h

/-- An observed robot is returned its final action and source. -/
lemma decisionFor {s : RobotSnapshot} (hs : s ∈ tick.ordered) :
    ∃ decision, d.decisionFor s.deviceId = some decision ∧
      tick.decisions.lookup s.deviceId = some decision.action ∧
      tick.sources.lookup s.deviceId = some decision.decisionSource := by
  have hmem : s.deviceId ∈ d.decisions.map RobotDecision.robotId := by
    rw [h.robots]
    exact List.mem_map.mpr ⟨s, hs, rfl⟩
  obtain ⟨decision, hdecision, hid⟩ := List.mem_map.mp hmem
  obtain ⟨found, hfound⟩ := Option.isSome_iff_exists.mp (List.find?_isSome.mpr
    ⟨decision, hdecision, decide_eq_true hid⟩ :
      (d.decisions.find? fun decision => decision.robotId = s.deviceId).isSome = true)
  obtain ⟨snapshot, -, hok⟩ := h.decided found (List.mem_of_find?_eq_some hfound)
  obtain ⟨hrobot, haction, hsource, -⟩ := reportRobot_eq_ok hok
  have hid' : found.robotId = s.deviceId := by simpa using List.find?_some hfound
  have hsame : snapshot.deviceId = s.deviceId := hrobot.symm.trans hid'
  rw [← hsame]
  exact ⟨found, hsame ▸ hfound, haction, hsource⟩

/-- A robot that was not observed is returned nothing. -/
lemma decisionFor_eq_none {r : RobotId} (hr : ¬ ∃ s ∈ tick.ordered, s.deviceId = r) :
    d.decisionFor r = none := by
  refine List.find?_eq_none.mpr fun decision hdecision heq => hr ?_
  obtain ⟨s, hs, hok⟩ := h.decided decision hdecision
  exact ⟨s, hs, (reportRobot_eq_ok hok).1.symm.trans (by simpa using heq)⟩

/-- The decisions returned for the robots carry their final actions. -/
lemma lookup_eq (hkeys : ∀ r, r ∈ tick.decisions ↔ ∃ s ∈ tick.ordered, s.deviceId = r)
    (r : RobotId) : (d.decisionFor r).map RobotDecision.action = tick.decisions.lookup r := by
  by_cases hr : ∃ s ∈ tick.ordered, s.deviceId = r
  · obtain ⟨s, hs, rfl⟩ := hr
    obtain ⟨decision, hfor, haction, -⟩ := h.decisionFor hs
    rw [hfor, haction]
    rfl
  · rw [h.decisionFor_eq_none hr, AList.lookup_eq_none.mpr fun hmem => hr ((hkeys r).mp hmem)]
    rfl

/-- They carry their final sources. -/
lemma sourceOf_eq (hkeys : ∀ r, r ∈ tick.sources ↔ ∃ s ∈ tick.ordered, s.deviceId = r)
    (r : RobotId) : d.sourceOf r = tick.sources.lookup r := by
  rw [EngineDecision.sourceOf]
  by_cases hr : ∃ s ∈ tick.ordered, s.deviceId = r
  · obtain ⟨s, hs, rfl⟩ := hr
    obtain ⟨decision, hfor, -, hsource⟩ := h.decisionFor hs
    rw [hfor, hsource]
    rfl
  · rw [h.decisionFor_eq_none hr, AList.lookup_eq_none.mpr fun hmem => hr ((hkeys r).mp hmem)]
    rfl

/-- **The returned actions** are the final ones. -/
lemma returned_eq (hkeys : ∀ r, r ∈ tick.decisions ↔ ∃ s ∈ tick.ordered, s.deviceId = r) :
    d.returned = actionOf tick.decisions := by
  funext r
  rw [EngineDecision.returned, h.lookup_eq hkeys, actionOf]

/-- The logged violations are those of the tick. -/
lemma violations :
    d.tickMetadata.currentFootprintOverlaps.map ViolationLog.robotPair =
        tick.currentFootprintViolations.map GlobalSafetyViolation.robotPair ∧
      d.tickMetadata.initialGlobalSafetyViolations.map ViolationLog.robotPair =
        tick.initialViolations.map GlobalSafetyViolation.robotPair ∧
      d.tickMetadata.finalGlobalSafetyViolations.map ViolationLog.robotPair =
        tick.finalViolations.map GlobalSafetyViolation.robotPair := by
  obtain ⟨detailedGeometry, hmeta⟩ := h.metadata
  rw [hmeta]
  simp only [TickDecision.metadata, List.map_map]
  exact ⟨rfl, rfl, rfl⟩

end Reports

end Report

/-! ## Every tick is checked -/

section Checked

variable {E ω σ γ : Type} {config : MonitorConfig} {geometry : Geometry E}
  {parts : Collaborators ω} {api : GrantManagerApi σ γ}

/-- **What a tick has validated** when it reaches its report. -/
structure Checked (geometry : Geometry E) (ordered : List RobotSnapshot) (tick : TickDecision γ) :
    Prop where
  ordered_eq : tick.ordered = ordered
  isOrdered : Ordered ordered
  footprints : Validates geometry ordered
    (Dict.ofKeys (ordered.map RobotSnapshot.deviceId) fun _ => .pause)
    tick.currentFootprintViolations
  initial : Validates geometry ordered tick.preview.val.decisions tick.initialViolations
  overridden : Overridden geometry ordered tick.conflictModel tick.preview.val.decisions
    tick.preview.val.decisionSources tick.initialViolations tick.decisions tick.sources
    tick.affected tick.finalViolations

/-- **Every tick that reaches its report is checked**, whatever the collaborators do.

**Proof sketch.** The body of the tick is followed statement by statement. Nothing is used of the
calls to the collaborators and to the grant manager, and what remains are the three validations, the
override and the condition of the commit. -/
theorem decideTick_checked (state : EngineState ω σ γ) (snapshots : List RobotSnapshot)
    (nowMs : ℤ) (tickId : String) :
    Ensures (decideTick config geometry parts api snapshots nowMs tickId) state
      (fun tick _ => Checked geometry (observed config nowMs snapshots) tick ∧
        (tick.grantResult.isSome = true ↔ tick.finalViolations = []) ∧
        ∃ world world', (parts.conflictModelBuilder (observed config nowMs snapshots) config).run
          world = .ok tick.conflictModel world') fun _ => True := by
  unfold decideTick
  refine Ensures.bind_lift (Returns.guarded fun _ => trivial) fun _ _ => ?_
  refine Ensures.bind_lift (Returns.guarded fun _ => trivial) fun _ _ => ?_
  refine Ensures.bind_lift (normaliseSnapshots_spec config nowMs
    (.inl trivial)) fun normalised hnorm => ?_
  obtain ⟨hnorm, hord⟩ := hnorm
  dsimp only
  rw [hnorm]
  refine ((ensures_inWorld (Ensures.of_runs fun m world' hbuilt =>
    (⟨_, world', hbuilt⟩ : ∃ world world', (parts.conflictModelBuilder
      (observed config nowMs snapshots) config).run world = .ok m world'))).weaken
        fun _ _ => trivial).bind fun m s₁ hbuilt => ?_
  refine Ensures.bind_lift (validateGlobalSafety_spec hord (.inl trivial))
    fun footprints hfootprints => Ensures.bind_get ?_
  refine Ensures.bind_any fun provisional s₂ => Ensures.bind_any fun preparation s₃ => ?_
  refine Ensures.bind_get (Ensures.bind_lift (Returns.of_runs (Q := fun _ => True)
    (fun _ _ => trivial) (.inl trivial)) fun priorities _ => ?_)
  refine Ensures.bind_any fun solved s₄ => Ensures.bind_any fun preview s₅ => ?_
  refine Ensures.bind_lift (validateGlobalSafety_spec hord (.inl trivial))
    fun initialViolations hinitial => ?_
  refine Ensures.bind_lift (overrideAffected_spec hord hinitial (.inl trivial))
    fun result hover => ?_
  refine Ensures.bind (Q := fun grantResult _ =>
    grantResult.isSome = true ↔ result.2.2.2 = []) ?_ fun grantResult s₆ hcommit => ?_
  · split_ifs with hnil
    · exact Ensures.map (Ensures.of_runs fun _ _ _ => by simp [hnil])
    · exact Ensures.pure (by simp [hnil])
  refine Ensures.pure ⟨?_, hcommit, hbuilt.1⟩
  exact
    { ordered_eq := rfl
      isOrdered := hord
      footprints := hfootprints
      initial := hinitial
      overridden := hover }

/-- The builder returns models whose components partition the robots it was given. -/
def PartitioningBuilder (config : MonitorConfig) (parts : Collaborators ω) : Prop :=
  ∀ ordered world m world', (parts.conflictModelBuilder ordered config).run world = .ok m world' →
    Partitions ordered m

/-- Every returned decision reports a tick that was decided, and the report changes nothing. -/
lemma decide_eq_ok {state state' : EngineState ω σ γ} {snapshots : List RobotSnapshot} {nowMs : ℤ}
    {tickId : String} {d : EngineDecision}
    (h : (CollisionDecisionEngine.decide config geometry parts api snapshots nowMs tickId).run
      state = .ok d state') :
    ∃ tick, (decideTick config geometry parts api snapshots nowMs tickId).run state =
        .ok tick state' ∧
      Reports tick nowMs tickId (api.tickId tick.provisionalGrants state'.store)
        (api.waitingAges state'.grantManager state'.store) d := by
  obtain ⟨tick, s, htick, h⟩ := run_bind_eq_ok.mp h
  obtain ⟨s', s'', hget, h⟩ := run_bind_eq_ok.mp h
  cases hget
  obtain ⟨hreport, rfl⟩ := run_lift_eq_ok.mp h
  exact ⟨tick, htick, reportTick_reports hreport⟩

/-- A call that returns has observed distinct robots. -/
lemma nodup_of_decide {state state' : EngineState ω σ γ} {snapshots : List RobotSnapshot}
    {nowMs : ℤ} {tickId : String} {d : EngineDecision}
    (h : (CollisionDecisionEngine.decide config geometry parts api snapshots nowMs tickId).run
      state = .ok d state') : (snapshots.map RobotSnapshot.deviceId).Nodup := by
  obtain ⟨tick, htick, -⟩ := decide_eq_ok h
  obtain ⟨hchecked, -⟩ := (decideTick_checked state snapshots nowMs tickId).get_ok htick
  have hnd := hchecked.isOrdered.increasing.map RobotSnapshot.deviceId fun _ _ hlt => ne_of_lt hlt
  rw [map_deviceId_observed] at hnd
  exact ((sortedBy_perm _ _).map _).nodup_iff.mp hnd

/-- **The last line of defence.** Under any model whose components partition the fleet, and any
optimiser, heuristic and grant manager, a tick that returns decides each robot once, lists exactly
the conflicts of the returned actions, and the only conflicts left are those of current
footprints.

**Proof sketch.** Nothing is used of the collaborators: the checks that `decide` makes itself
(`decideTick_checked`) list the conflicts of the final actions, and the override has paused both
robots of every pair that conflicted before it (`conflicts_paused`). -/
theorem decide_lastDefence (hgeo : geometry.Conservative)
    (hbuilder : PartitioningBuilder config parts) (state state' : EngineState ω σ γ)
    (snapshots : List RobotSnapshot) (nowMs : ℤ) (tickId : String) (d : EngineDecision)
    (h : (CollisionDecisionEngine.decide config geometry parts api snapshots nowMs tickId).run
      state = .ok d state') :
    (d.decisions.map RobotDecision.robotId).Pairwise (· < ·) ∧
      (d.decisions.map RobotDecision.robotId).Perm (snapshots.map RobotSnapshot.deviceId) ∧
      (∀ i j, (i, j) ∈ d.tickMetadata.finalGlobalSafetyViolations.map ViolationLog.robotPair ↔
        ConflictsUnder geometry (observed config nowMs snapshots) d.returned i j) ∧
      (∀ i j, ConflictsUnder geometry (observed config nowMs snapshots) d.returned i j →
        d.returned i = .pause ∧ d.returned j = .pause ∧
          ConflictsUnder geometry (observed config nowMs snapshots) (fun _ => .pause) i j) ∧
      ((∀ i j, ¬ ConflictsUnder geometry (observed config nowMs snapshots) (fun _ => .pause) i j) →
        ∀ i j, ¬ ConflictsUnder geometry (observed config nowMs snapshots) d.returned i j) := by
  obtain ⟨tick, htick, hreport⟩ := decide_eq_ok h
  obtain ⟨hchecked, -, _, _, hbuilt⟩ :=
    (decideTick_checked state snapshots nowMs tickId).get_ok htick
  have hm := hbuilder _ _ _ _ hbuilt
  have hreturned : d.returned = actionOf tick.decisions := hreport.returned_eq <| by
    rw [hchecked.ordered_eq]
    exact hchecked.overridden.validates.mem_decisions
  have hpaused : ∀ i j, ConflictsUnder geometry (observed config nowMs snapshots) d.returned i j →
      d.returned i = .pause ∧ d.returned j = .pause ∧
        ConflictsUnder geometry (observed config nowMs snapshots) (fun _ => .pause) i j := by
    intro i j hconf
    rw [hreturned] at hconf ⊢
    exact hchecked.overridden.conflicts_paused hgeo hm hchecked.initial hconf
  refine ⟨?_, ?_, fun i j => ?_, hpaused, fun hnone i j hconf => hnone i j (hpaused i j hconf).2.2⟩
  · rw [hreport.robots, hchecked.ordered_eq, List.pairwise_map]
    exact hchecked.isOrdered.increasing
  · rw [hreport.robots, hchecked.ordered_eq, map_deviceId_observed]
    exact (sortedBy_perm _ _).map _
  · rw [hreport.violations.2.2, hreturned]
    exact hchecked.overridden.validates.mem_iff i j

end Checked

/-! ## A builder that sees no conflicts -/

/-- The model of a builder that drops every constraint: each robot is isolated. -/
def blindModel (ordered : List RobotSnapshot) : ConflictModel where
  snapshots := Dict.ofPairs (ordered.map fun s => (s.deviceId, s))
  pairwiseConstraints := []
  noGoodConstraints := []
  edges := []
  adjacency := Dict.ofKeys (ordered.map RobotSnapshot.deviceId) fun _ => []
  isolatedRobots := ordered.map RobotSnapshot.deviceId
  connectedComponents := ordered.map fun s => [s.deviceId]

/-- The shipped optimiser and heuristic with a builder that sees no conflicts. -/
def blindCollaborators : Collaborators ℕ :=
  { shippedCollaborators defaultConfig lineGeometry (fun _ => none) with
    conflictModelBuilder := fun ordered _ => pure (blindModel ordered) }

/-- The builder without conflicts partitions the robots. -/
lemma blind_partitioning : PartitioningBuilder defaultConfig blindCollaborators := by
  rintro ordered world m world' h
  cases h
  refine ⟨fun r => ?_, fun K hK L hL r hrK hrL => ?_⟩
  · simp [blindModel, eq_comm]
  · obtain ⟨s, -, rfl⟩ := List.mem_map.mp hK
    obtain ⟨t, -, rfl⟩ := List.mem_map.mp hL
    rw [List.mem_singleton.mp hrK] at hrL
    rw [List.mem_singleton.mp hrL]

/-- The blind builder resumes both approaching robots; the override leaves no conflict. -/
theorem decide_lastDefence_blind : ∃ d state', (CollisionDecisionEngine.decide defaultConfig
      lineGeometry blindCollaborators (managerApi defaultConfig) approaching 0 "first").run
        (EngineState.initial 0) = .ok d state' ∧
    d.tickMetadata.initialGlobalSafetyViolations ≠ [] ∧
    ∀ i j, ¬ ConflictsUnder lineGeometry (observed defaultConfig 0 approaching) d.returned i j := by
  obtain ⟨d, state', hrun, hinitial, hfinal⟩ := Ensures.exists_ok
    (x := CollisionDecisionEngine.decide defaultConfig lineGeometry blindCollaborators
      (managerApi defaultConfig) approaching 0 "first") (s := EngineState.initial 0)
    (Q := fun d _ => d.tickMetadata.initialGlobalSafetyViolations.map ViolationLog.robotPair ≠ [] ∧
      d.tickMetadata.finalGlobalSafetyViolations.map ViolationLog.robotPair = [])
    (by decide +kernel)
  refine ⟨d, state', hrun, fun h => hinitial (by rw [h]; rfl), fun i j hconf => ?_⟩
  obtain ⟨-, -, hlisted, -⟩ := decide_lastDefence lineGeometry_conservative blind_partitioning
    _ _ _ _ _ _ hrun
  have hmem := (hlisted i j).mpr hconf
  rw [hfinal] at hmem
  exact List.not_mem_nil hmem

end CollisionMonitor
