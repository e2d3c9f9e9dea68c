import CollisionMonitor.RightOfWay

set_option relaxedAutoImplicit false
set_option autoImplicit false

/-!
# Explanations of decisions

The reason codes that a decision carries say why its robot is paused or resumed. They are true, they
explain every Resume of a committed tick in exactly one way, and none of them is ever repeated.

## Main definitions

* `Sourced` — the policy decides exactly the isolated robots, and a fail-safe robot is paused.
* `Explained` — when each reason code is given, and what follows from it.

## Main results

* `decide_explained` — every decision of every tick is explained.
-/

namespace CollisionMonitor

open Outcome

/-! ## Sources -/

section Sources

variable {G : Type} {config : MonitorConfig} {geometry : Geometry G} {cpSat : ℕ → Backend}
  {m : ConflictModel} {hard : Dict RobotId Action} {priorities : Dict RobotId PriorityBreakdown}
  {decisions : Dict RobotId Action} {sources : Dict RobotId DecisionSource} {K : List RobotId}

/-- The policy decides exactly the isolated robots, and a robot that no validated assignment
decides is paused. -/
structure Sourced (m : ConflictModel) (decisions : Dict RobotId Action)
    (sources : Dict RobotId DecisionSource) : Prop where
  policy : ∀ r, sources.lookup r = some .policy ↔ r ∈ m.isolatedRobots
  failSafe : ∀ r, sources.lookup r = some .failSafe → decisions.lookup r = some .pause

/-- Decisions of a component, with a source of their own, leave the isolated robots to the
policy. -/
lemma Sourced.overwrite (h : Sourced m decisions sources) {new : Dict RobotId Action}
    {source : DecisionSource} (hsource : source ≠ .policy)
    (hnew : ∀ r ∈ new, r ∉ m.isolatedRobots)
    (hpause : source = .failSafe → ∀ r ∈ new, new.lookup r = some .pause) :
    Sourced m (decisions.update new)
      (sources.update (Dict.ofKeys new.keys fun _ => source)) := by
  have hkeys : ∀ r, r ∈ Dict.ofKeys new.keys (fun _ => source) ↔ r ∈ new := fun r => by
    rw [Dict.mem_ofKeys, ← AList.mem_keys]
  have hin : ∀ r ∈ new, (sources.update (Dict.ofKeys new.keys fun _ => source)).lookup r =
      some source := fun r hr => by
    rw [Dict.lookup_update_of_mem ((hkeys r).mpr hr),
      Dict.lookup_ofKeys_of_mem (AList.mem_keys.mp hr)]
  have hout : ∀ r, r ∉ new → (sources.update (Dict.ofKeys new.keys fun _ => source)).lookup r =
      sources.lookup r := fun r hr =>
    Dict.lookup_update_of_notMem fun hmem => hr ((hkeys r).mp hmem)
  constructor
  · intro r
    by_cases hr : r ∈ new
    · rw [hin r hr]
      exact iff_of_false (fun heq => hsource (Option.some.inj heq)) (hnew r hr)
    · rw [hout r hr]
      exact h.policy r
  · intro r hr
    by_cases hmem : r ∈ new
    · rw [hin r hmem] at hr
      rw [Dict.lookup_update_of_mem hmem]
      exact hpause (Option.some.inj hr) r hmem
    · rw [hout r hmem] at hr
      rw [Dict.lookup_update_of_notMem hmem]
      exact h.failSafe r hr

/-- A result of the heuristic without progress pauses the robots that it decides. -/
lemma Solves.paused {constraints : List PairwiseCompatibility} {result : HeuristicFields}
    (h : Solves K constraints hard result) (hfeasible : result.feasible = true)
    (hsource : result.decisionSource = .failSafe) :
    ∀ r ∈ result.decisions, result.decisions.lookup r = some .pause := by
  obtain ⟨hkeys, hadmissible⟩ := h.decides hfeasible
  have hstuck : ¬ result.progressMade = true := fun hprogress => by
    rw [h.source, if_pos hprogress] at hsource
    cases hsource
  intro r hr
  rw [lookup_eq_actionOf hr]
  refine congrArg some (Action.ne_resume_iff.mp fun hresume => hstuck (h.progress_iff.mpr ?_))
  exact ⟨_, hadmissible, r, (hkeys r).mp hr, hresume⟩

/-- The robots of a component with several robots are not isolated. -/
lemma ConflictModel.WellFormed.not_isolated (hm : m.WellFormed) (hK : K ∈ m.connectedComponents)
    (hlen : 2 ≤ K.length) {new : Dict RobotId Action} (hkeys : ∀ r, r ∈ new ↔ r ∈ K) :
    ∀ r ∈ new, r ∉ m.isolatedRobots := fun r hr hisolated =>
  (hm.mem_isolated_iff hK ((hkeys r).mp hr)).mp hisolated hlen

/-- Solving one component.

**Proof sketch.** By cases as in the source. Each branch overwrites the entries of its component
with one source, and a component of several robots has no isolated one. -/
lemma solveComponent_sourced (hm : m.WellFormed) (hK : K ∈ m.connectedComponents)
    {solved : Solving} (h : Sourced m solved.decisions solved.sources) (call : ℕ) :
    Ensures (solveComponent config (shippedCollaborators config geometry cpSat) m priorities hard
      solved K) call (fun solved' _ => Sourced m solved'.decisions solved'.sources)
      fun _ => True := by
  unfold solveComponent
  by_cases hlen : 2 ≤ K.length
  swap
  · obtain ⟨r, rfl, hr⟩ := hm.eq_singleton hK hlen
    rw [if_pos (by simpa [isolatedComponent] using hr)]
    exact Ensures.pure h
  rw [if_neg (not_isolatedComponent hlen)]
  refine Ensures.bind_lift (Returns.of_runs (Q := fun _ => True) (fun _ _ => trivial)
    (.inl trivial)) fun d _ => ?_
  refine Ensures.bind (Q := fun (exactResult : Option OptimisationResult) _ =>
    ∀ result ∈ exactResult, result.val.feasible = true → ∀ r, r ∈ result.val.decisions ↔ r ∈ K) ?_
    fun exactResult call' hexact => ?_
  · split_ifs
    · refine Ensures.map (Ensures.bind_get (Ensures.bind_set (Ensures.lift
        (Returns.of_runs (fun result hok result' hmem => ?_) (.inl trivial)))))
      obtain rfl := Option.some.inj hmem
      exact fun hfeasible => (optimise_decisions hok hfeasible).1
    · exact Ensures.pure (by simp)
  split
  · rename_i result hfilter
    obtain ⟨hmem, hfeasible⟩ := Option.filter_eq_some_iff.mp hfilter
    exact Ensures.pure (h.overwrite (fun heq => (by cases heq))
      (hm.not_isolated hK hlen (hexact result hmem hfeasible)) fun heq => (by cases heq))
  · refine Ensures.bind (Q := fun (result : HeuristicResult) _ =>
      Solves K (componentConstraints K m) d result.val) ?_ fun result _ hsolves => ?_
    · exact Ensures.lift (Returns.of_runs (fun result hok => solve_spec hok) (.inl trivial))
    · dsimp only
      split_ifs with hfeasible
      · refine Ensures.pure (h.overwrite ?_ (hm.not_isolated hK hlen (hsolves.decides hfeasible).1)
          (hsolves.paused hfeasible))
        rw [hsolves.source]
        split_ifs <;> decide
      · exact Ensures.pure (h.overwrite (fun heq => (by cases heq))
          (hm.not_isolated hK hlen fun r => Dict.mem_ofKeys) fun _ r hr =>
            Dict.lookup_ofKeys_of_mem (Dict.mem_ofKeys.mp hr))

/-- Solving the components. -/
lemma solveComponents_sourced (hm : m.WellFormed) (call : ℕ) :
    Ensures (solveComponents config (shippedCollaborators config geometry cpSat) m priorities hard)
      call (fun solved _ => Sourced m solved.decisions solved.sources) fun _ => True := by
  unfold solveComponents
  obtain ⟨isolated, hok, hisolated⟩ := decideIsolated_spec hard
    fun r hr => ((hm.mem_isolated r).mp hr).1
  have hpolicy : ∀ r source, isolated.sources.lookup r = some source → r ∈ m.isolatedRobots :=
    fun r source hr => by
      simpa using (hisolated.mem_sources r).mp (Dict.mem_of_lookup hr)
  refine Ensures.bind_lift (Returns.of_eq_ok hok rfl) fun _ heq => ?_
  subst heq
  refine Ensures.foldlM (fun _ (solved : Solving) _ =>
    Sourced m solved.decisions solved.sources) ?_ ?_
  · refine ⟨fun r => ⟨hpolicy r _, fun hr => (hisolated.isolated r hr).2⟩, fun r hr => ?_⟩
    cases hr.symm.trans (hisolated.isolated r (hpolicy r _ hr)).2
  · intro pre K post solved call hl h
    exact solveComponent_sourced hm (by simp [hl]) h call

/-- Previewing the components.

**Proof sketch.** By an invariant over the components. A repaired component gets a source of its
own, and it has no isolated robot. -/
lemma validateOrRepairComponents_sourced (hm : m.WellFormed)
    (h : Sourced m decisions sources) : Returns (GrantManager.validateOrRepairComponents config m
      hard priorities decisions sources)
      (fun state => Sourced m state.decisions state.decisionSources) True := by
  unfold GrantManager.validateOrRepairComponents
  refine Returns.foldlM (fun _ (state : GrantManager.Repairing) =>
    Sourced m state.decisions state.decisionSources) h ?_
  intro pre K post state hl h
  have hK : K ∈ m.connectedComponents := by simp [hl]
  unfold GrantManager.validateOrRepairComponent
  by_cases hlen : 2 ≤ K.length
  swap
  · rw [if_pos ((any_neighbours_iff hm hK).mpr hlen)]
    exact Returns.ok h
  rw [if_neg fun h => (any_neighbours_iff hm hK).mp h hlen]
  refine (Returns.of_runs (Q := fun _ => True) (fun _ _ => trivial) (.inl trivial)).bind
    fun copied _ => ?_
  split_ifs
  · refine (Returns.of_runs (Q := fun _ => True) (fun _ _ => trivial) (.inl trivial)).bind
      fun unavailable _ => ?_
    refine (Returns.of_runs (fun repair hok => solve_spec hok) (.inl trivial)).bind
      fun repair hrepair => ?_
    split_ifs with hprogress
    · obtain ⟨hfeasible, -⟩ := Bool.and_eq_true_iff.mp hprogress
      exact Returns.ok (h.overwrite (fun heq => (by cases heq))
        (hm.not_isolated hK hlen (hrepair.decides hfeasible).1) fun heq => (by cases heq))
    · exact Returns.ok (h.overwrite (fun heq => (by cases heq))
        (hm.not_isolated hK hlen fun r => Dict.mem_ofKeys) fun _ r hr =>
          Dict.lookup_ofKeys_of_mem (Dict.mem_ofKeys.mp hr))
  · exact (Returns.of_runs (Q := fun _ => True) (fun _ _ => trivial) (.inl trivial)).bind
      fun _ _ => Returns.ok h

end Sources

/-! ## Reason codes -/

/-- A list without duplicates has none to erase. -/
lemma eraseDups_of_nodup {l : List String} (h : l.Nodup) : l.eraseDups = l := by
  induction l with
  | nil => rfl
  | cons a l ih =>
    obtain ⟨ha, hl⟩ := List.nodup_cons.mp h
    have hfilter : l.filter (fun b => !b == a) = l :=
      List.filter_eq_self.mpr fun b hb => by simpa using ne_of_mem_of_not_mem hb ha
    rw [List.eraseDups_cons, hfilter, ih hl]

/-- The codes that explain a Resume. -/
def resumeCodes : List String :=
  ["ISOLATED_ACTIVE_RESUME", "RIGHT_OF_WAY_GRANT_ACQUIRED", "ACTIVE_GRANT_RESUME"]

/-- The three codes that explain a Resume. -/
lemma mem_resumeCodes {code : String} : code ∈ resumeCodes ↔ code = "ISOLATED_ACTIVE_RESUME" ∨
    code = "RIGHT_OF_WAY_GRANT_ACQUIRED" ∨ code = "ACTIVE_GRANT_RESUME" := by
  simp [resumeCodes]

/-- **One code for each Resume.** A robot that is resumed in a committed tick is free, or it retains
a grant, or it acquires one. -/
lemma existsUnique_resumeCode {α : Type} {fleet : List α} {conflicts : α → Prop}
    {codes : List String} {available committed resumed retains : Prop}
    (hisolated : "ISOLATED_ACTIVE_RESUME" ∈ codes ↔ available ∧ ∀ t ∈ fleet, ¬ conflicts t)
    (hgrant : "RIGHT_OF_WAY_GRANT_ACQUIRED" ∈ codes ↔
      committed ∧ resumed ∧ (∃ t ∈ fleet, conflicts t) ∧ ¬ retains)
    (hkept : "ACTIVE_GRANT_RESUME" ∈ codes ↔ retains)
    (hconflict : retains → ∃ t ∈ fleet, conflicts t) (havailable : available)
    (hcommitted : committed) (hresumed : resumed) :
    ∃! code, code ∈ resumeCodes ∧ code ∈ codes := by
  by_cases hfree : ∀ t ∈ fleet, ¬ conflicts t
  · refine ⟨_, ⟨mem_resumeCodes.mpr (.inl rfl), hisolated.mpr ⟨havailable, hfree⟩⟩, ?_⟩
    rintro code ⟨hcode, hmem⟩
    rcases mem_resumeCodes.mp hcode with rfl | rfl | rfl
    · rfl
    · obtain ⟨t, ht, hconf⟩ := (hgrant.mp hmem).2.2.1
      exact absurd hconf (hfree t ht)
    · obtain ⟨t, ht, hconf⟩ := hconflict (hkept.mp hmem)
      exact absurd hconf (hfree t ht)
  by_cases hr : retains
  · refine ⟨_, ⟨mem_resumeCodes.mpr (.inr (.inr rfl)), hkept.mpr hr⟩, ?_⟩
    rintro code ⟨hcode, hmem⟩
    rcases mem_resumeCodes.mp hcode with rfl | rfl | rfl
    · exact absurd (hisolated.mp hmem).2 hfree
    · exact absurd hr (hgrant.mp hmem).2.2.2
    · rfl
  push Not at hfree
  refine ⟨_, ⟨mem_resumeCodes.mpr (.inr (.inl rfl)),
    hgrant.mpr ⟨hcommitted, hresumed, hfree, hr⟩⟩, ?_⟩
  rintro code ⟨hcode, hmem⟩
  rcases mem_resumeCodes.mp hcode with rfl | rfl | rfl
  · obtain ⟨t, ht, hconf⟩ := hfree
    exact absurd hconf ((hisolated.mp hmem).2 t ht)
  · rfl
  · exact absurd (hkept.mp hmem) hr

section Reasons

variable {γ : Type} {tick : TickDecision γ} {r : RobotId} {s : RobotSnapshot}
  {source : DecisionSource}

/-- A conditional reason gives its code iff its condition holds. -/
lemma mem_reason {p : Prop} [Decidable p] {code given context : String} :
    code ∈ (if p then [(given, context)] else []).map Prod.fst ↔ p ∧ code = given := by
  split_ifs with h <;> simp [h]

/-- It gives no other code, and its own only once. -/
lemma reason_sublist {p : Prop} [Decidable p] {given context : String} :
    ((if p then [(given, context)] else []).map Prod.fst).Sublist [given] := by
  split_ifs <;> simp

/-- **When a code is given.** -/
lemma mem_reasons {code : String} : code ∈ (reasons tick r s source).map Prod.fst ↔
    (s.stale = true ∧ code = "STALE_STATIC_OBSTACLE" ∨
      (s.stale = false ∧ s.atGoal = true) ∧ code = "AT_GOAL_PAUSE" ∨
      (s.unavailable = false ∧ r ∈ tick.conflictModel.isolatedRobots) ∧
        code = "ISOLATED_ACTIVE_RESUME") ∨
    code = sourceCode source ∨
    (∃ result ∈ tick.grantResult, r ∈ result.val.acquiredGrants) ∧
      code = "RIGHT_OF_WAY_GRANT_ACQUIRED" ∨
    tick.preparation.hardAssignments.lookup r = some .resume ∧ code = "ACTIVE_GRANT_RESUME" ∨
    r ∈ tick.affected ∧ code = "GLOBAL_SAFETY_OVERRIDE" := by
  unfold reasons
  rw [List.map_append, List.map_append, List.map_append, List.map_append]
  simp only [List.mem_append, mem_reason]
  refine (or_assoc.trans (or_assoc.trans or_assoc)).trans (or_congr ?_ (or_congr ?_ Iff.rfl))
  · cases hstale : s.stale
    · cases hgoal : s.atGoal
      · simp [mem_reason, hstale, hgoal]
      · simp [hstale, hgoal]
    · simp [hstale]
  · exact List.mem_singleton

/-- No code is given twice. -/
lemma nodup_reasons : ((reasons tick r s source).map Prod.fst).Nodup := by
  have hsublist : ((reasons tick r s source).map Prod.fst).Sublist
      (["STALE_STATIC_OBSTACLE", "AT_GOAL_PAUSE", "ISOLATED_ACTIVE_RESUME"] ++
        [sourceCode source] ++ ["RIGHT_OF_WAY_GRANT_ACQUIRED"] ++ ["ACTIVE_GRANT_RESUME"] ++
        ["GLOBAL_SAFETY_OVERRIDE"]) := by
    unfold reasons
    rw [List.map_append, List.map_append, List.map_append, List.map_append]
    refine (((List.Sublist.append ?_ (List.Sublist.refl _)).append reason_sublist).append
      reason_sublist).append reason_sublist
    split_ifs <;> simp
  refine hsublist.nodup ?_
  cases source <;> decide

/-- The context has a line for each code. -/
lemma reportRobot_context {tickId : String} {decision : RobotDecision ReasonMetadata}
    (h : reportRobot tick tickId s = .ok decision) :
    decision.reasonCodes = (reasons tick s.deviceId s decision.decisionSource).map Prod.fst ∧
      decision.diagnosticMetadata.reasonContext =
        (reasons tick s.deviceId s decision.decisionSource).map Prod.snd := by
  obtain ⟨source, hsource, h⟩ := bind_eq_ok.mp h
  obtain ⟨⟨codes, metadata⟩, hreason, h⟩ := bind_eq_ok.mp h
  obtain ⟨action, haction, h⟩ := bind_eq_ok.mp h
  obtain ⟨component, -, hreason⟩ := bind_eq_ok.mp hreason
  obtain ⟨priority, -, hreason⟩ := bind_eq_ok.mp hreason
  obtain ⟨rfl, rfl⟩ := Prod.mk.inj (Except.ok.inj hreason)
  obtain rfl := Except.ok.inj h
  exact ⟨eraseDups_of_nodup nodup_reasons, rfl⟩

/-- No other code is that of a source. -/
lemma sourceCode_notMem : sourceCode source ∉ ["STALE_STATIC_OBSTACLE", "AT_GOAL_PAUSE",
    "ISOLATED_ACTIVE_RESUME", "RIGHT_OF_WAY_GRANT_ACQUIRED", "ACTIVE_GRANT_RESUME",
    "GLOBAL_SAFETY_OVERRIDE"] := by
  cases source <;> decide

/-- A decision carries the code of its source, and of no other one. -/
lemma sourceCode_mem_reasons {source' : DecisionSource} :
    sourceCode source' ∈ (reasons tick r s source).map Prod.fst ↔ source = source' := by
  have hother : sourceCode source' ∉ _ := sourceCode_notMem
  have hsame : sourceCode source' = sourceCode source ↔ source = source' := by
    cases source <;> cases source' <;> decide
  simp only [List.mem_cons, List.not_mem_nil, or_false, not_or] at hother
  rw [mem_reasons, hsame]
  tauto

/-- When each code is given that is not of a source. -/
lemma reasons_conditions :
    ("STALE_STATIC_OBSTACLE" ∈ (reasons tick r s source).map Prod.fst ↔ s.stale = true) ∧
    ("AT_GOAL_PAUSE" ∈ (reasons tick r s source).map Prod.fst ↔
      s.stale = false ∧ s.atGoal = true) ∧
    ("ISOLATED_ACTIVE_RESUME" ∈ (reasons tick r s source).map Prod.fst ↔
      s.unavailable = false ∧ r ∈ tick.conflictModel.isolatedRobots) ∧
    ("RIGHT_OF_WAY_GRANT_ACQUIRED" ∈ (reasons tick r s source).map Prod.fst ↔
      ∃ result ∈ tick.grantResult, r ∈ result.val.acquiredGrants) ∧
    ("ACTIVE_GRANT_RESUME" ∈ (reasons tick r s source).map Prod.fst ↔
      tick.preparation.hardAssignments.lookup r = some .resume) ∧
    ("GLOBAL_SAFETY_OVERRIDE" ∈ (reasons tick r s source).map Prod.fst ↔ r ∈ tick.affected) := by
  have hother : sourceCode source ∉ _ := sourceCode_notMem
  simp only [List.mem_cons, List.not_mem_nil, or_false, not_or, eq_comm] at hother
  obtain ⟨hstale, hgoal, hisolated, hgrant, hkept, hover⟩ := hother
  simp only [mem_reasons]
  simp [hstale, hgoal, hisolated, hgrant, hkept, hover]

end Reasons

/-! ## Explained decisions -/

section Explained

variable {G : Type} {config : MonitorConfig} {geometry : Geometry G} {cpSat : ℕ → Backend}
  {snapshots : List RobotSnapshot} {nowMs : ℤ} {tickId : String}

/-- Two robots conflict under some actions, compared in the order of their IDs. -/
def InConflict (geometry : Geometry G) (s t : RobotSnapshot) : Prop :=
  s.deviceId < t.deviceId ∧ (∃ a b, geometry.Conflict s a t b) ∨
    t.deviceId < s.deviceId ∧ ∃ a b, geometry.Conflict t a s b

/-- **When each reason code is given** for a robot of the fleet, and what follows from it. -/
structure Explained (geometry : Geometry G) (fleet : List RobotSnapshot) (held : GrantManager)
    (d : EngineDecision) (s : RobotSnapshot) (decision : RobotDecision ReasonMetadata) : Prop where
  distinct : decision.reasonCodes.Nodup
  contexts : decision.diagnosticMetadata.reasonContext.length = decision.reasonCodes.length
  source : ∀ source, sourceCode source ∈ decision.reasonCodes ↔ decision.decisionSource = source
  stale : "STALE_STATIC_OBSTACLE" ∈ decision.reasonCodes ↔ s.stale = true
  goal : "AT_GOAL_PAUSE" ∈ decision.reasonCodes ↔ s.stale = false ∧ s.atGoal = true
  policy : "DIRECT_POLICY_DECISION" ∈ decision.reasonCodes ↔ ∀ t ∈ fleet, ¬ InConflict geometry s t
  isolated : "ISOLATED_ACTIVE_RESUME" ∈ decision.reasonCodes ↔
    s.unavailable = false ∧ ∀ t ∈ fleet, ¬ InConflict geometry s t
  acquired : "RIGHT_OF_WAY_GRANT_ACQUIRED" ∈ decision.reasonCodes ↔
    d.tickMetadata.stateCommitted = true ∧ decision.action = .resume ∧
      (∃ t ∈ fleet, InConflict geometry s t) ∧ ¬ d.Retains s.deviceId
  retained : "ACTIVE_GRANT_RESUME" ∈ decision.reasonCodes ↔ d.Retains s.deviceId
  retains : d.Retains s.deviceId → s.deviceId ∈ held.activeGrants ∧
    ∃ t ∈ fleet, InConflict geometry s t
  override : "GLOBAL_SAFETY_OVERRIDE" ∈ decision.reasonCodes →
    d.tickMetadata.stateCommitted = false ∧ decision.decisionSource = .failSafe
  paused : ("STALE_STATIC_OBSTACLE" ∈ decision.reasonCodes ∨
    "AT_GOAL_PAUSE" ∈ decision.reasonCodes ∨ "FAIL_SAFE_PAUSE" ∈ decision.reasonCodes) →
      decision.action = .pause
  resumed : (∃ code ∈ resumeCodes, code ∈ decision.reasonCodes) → decision.action = .resume
  explained : d.tickMetadata.stateCommitted = true → decision.action = .resume →
    ∃! code, code ∈ resumeCodes ∧ code ∈ decision.reasonCodes

/-- A robot is isolated iff it conflicts with no other robot.

**Proof sketch.** An edge at the robot is a pair with a forbidden assignment, which is a conflict of
the two robots under some actions. Every two robots in order have such a pair, so both directions
follow. -/
lemma Represents.isolated_iff {ordered : List RobotSnapshot} {m : ConflictModel}
    (h : Represents geometry ordered m) {s : RobotSnapshot} (hs : s ∈ ordered) :
    s.deviceId ∈ m.isolatedRobots ↔ ∀ t ∈ ordered, ¬ InConflict geometry s t := by
  have hm := h.toWellFormed
  have hpair : ∀ {s t : RobotSnapshot} {pair : PairwiseCompatibility},
      Evaluates geometry s t pair → (pair.forbiddenAssignments ≠ [] ↔
        ∃ a b, geometry.Conflict s a t b) := fun {s t pair} heval => by
    rw [PairwiseCompatibility.forbiddenAssignments_ne_nil]
    exact exists_congr fun a => exists_congr fun b => heval.2 a b
  have hlt : ∀ {s t : RobotSnapshot} {pair : PairwiseCompatibility},
      Evaluates geometry s t pair → s.deviceId < t.deviceId := fun {s t pair} heval => by
    obtain ⟨hI, hJ⟩ := Prod.mk.inj heval.1
    rw [← hI, ← hJ]
    exact pair.ordered
  rw [hm.mem_isolated, and_iff_right ((h.mem_snapshots_iff _).mpr ⟨s, hs, rfl⟩), ← not_iff_not]
  refine hm.onEdge_iff.symm.trans ?_
  push Not
  constructor
  · rintro ⟨e, he, hor⟩
    obtain ⟨pair, hmem, hforb, rfl⟩ := (hm.mem_edges e).mp he
    obtain ⟨s', hs', t, ht, heval⟩ := h.sound pair hmem
    rw [heval.1] at hor
    rcases hor with hsame | hsame
    · obtain rfl := eq_of_deviceId_eq h.increasing hs' hs hsame
      exact ⟨t, ht, .inl ⟨hlt heval, (hpair heval).mp hforb⟩⟩
    · obtain rfl := eq_of_deviceId_eq h.increasing ht hs hsame
      exact ⟨s', hs', .inr ⟨hlt heval, (hpair heval).mp hforb⟩⟩
  · rintro ⟨t, ht, ⟨hst, hconf⟩ | ⟨hts, hconf⟩⟩
    · obtain ⟨pair, hmem, heval⟩ := h.complete s hs t ht hst
      exact ⟨_, (hm.mem_edges _).mpr ⟨pair, hmem, (hpair heval).mpr hconf, heval.1⟩, .inl rfl⟩
    · obtain ⟨pair, hmem, heval⟩ := h.complete t ht s hs hts
      exact ⟨_, (hm.mem_edges _).mpr ⟨pair, hmem, (hpair heval).mpr hconf, heval.1⟩, .inr rfl⟩

/-- Final decisions whose sources tell the truth. -/
lemma ShippedTick.sourced {g after prepared : GrantManager} {tick : TickDecision ℕ}
    (h : ShippedTick config geometry snapshots nowMs g tick after prepared) {copy : GrantManager}
    {solved : Solving} {previewed : GrantManager.Repairing}
    (hdeliberates : Deliberates config (shippedCollaborators config geometry cpSat) nowMs tick
      copy solved previewed) : Sourced tick.conflictModel tick.decisions tick.sources := by
  obtain ⟨world, world', hsolves⟩ := hdeliberates.solves
  have hsolved := (solveComponents_sourced h.wellFormed world).get_ok hsolves
  have hpreviewed := (validateOrRepairComponents_sourced h.wellFormed hsolved).get
    hdeliberates.previews
  rw [← hdeliberates.decisions, ← hdeliberates.sources] at hpreviewed
  refine ⟨fun r => ?_, fun r => ?_⟩
  · rw [(h.unchanged r).2]
    exact hpreviewed.policy r
  · rw [(h.unchanged r).1, (h.unchanged r).2]
    exact hpreviewed.failSafe r

/-- A robot is on an edge iff it conflicts with another robot. -/
lemma ShippedTick.neighbours_iff {g after prepared : GrantManager} {tick : TickDecision ℕ}
    (h : ShippedTick config geometry snapshots nowMs g tick after prepared) {s : RobotSnapshot}
    (hs : s ∈ observed config nowMs snapshots) :
    neighbours tick.conflictModel.adjacency s.deviceId ≠ [] ↔
      ∃ t ∈ observed config nowMs snapshots, InConflict geometry s t := by
  have hobs : s.deviceId ∈ tick.conflictModel.snapshots :=
    (h.represents.mem_snapshots_iff _).mpr ⟨s, hs, rfl⟩
  rw [← not_iff_not, not_not]
  push Not
  rw [← h.represents.isolated_iff hs, h.wellFormed.mem_isolated, and_iff_right hobs]

/-- A grant is acquired iff the tick commits and resumes a robot that conflicts with another one
and retains no grant. -/
lemma ShippedTick.acquires_iff {g after prepared : GrantManager} {tick : TickDecision ℕ}
    (h : ShippedTick config geometry snapshots nowMs g tick after prepared) {grantTickId : ℤ}
    {heldAges : Dict RobotId ℤ} {d : EngineDecision}
    (hreport : Reports tick nowMs tickId grantTickId heldAges d)
    (hcommitted : tick.grantResult.isSome = true ↔ tick.finalViolations = [])
    (hacquired : ∀ result, tick.grantResult = some result → ∀ r, r ∈ result.val.acquiredGrants ↔
      GrantManager.Acquires tick.conflictModel tick.decisions prepared r)
    {s : RobotSnapshot} (hs : s ∈ observed config nowMs snapshots) {action : Action}
    (haction : tick.decisions.lookup s.deviceId = some action) :
    (∃ result ∈ tick.grantResult, s.deviceId ∈ result.val.acquiredGrants) ↔
      d.tickMetadata.stateCommitted = true ∧ action = .resume ∧
        (∃ t ∈ observed config nowMs snapshots, InConflict geometry s t) ∧
          ¬ d.Retains s.deviceId := by
  have hobs : s.deviceId ∈ tick.conflictModel.snapshots :=
    (h.represents.mem_snapshots_iff _).mpr ⟨s, hs, rfl⟩
  rw [hreport.stateCommitted_iff, ← hcommitted, ← h.neighbours_iff hs, h.retains_iff hreport]
  constructor
  · rintro ⟨result, hresult, hmem⟩
    obtain ⟨hlookup, hnew, hadj⟩ := (hacquired result hresult _).mp hmem
    refine ⟨Option.isSome_iff_exists.mpr ⟨result, hresult⟩,
      Option.some.inj (haction.symm.trans hlookup), hadj, fun hhard => hnew ?_⟩
    exact (h.prepared.active_iff h.wellFormed hobs hadj).mpr hhard
  · rintro ⟨hsome, rfl, hadj, hnew⟩
    obtain ⟨result, hresult⟩ := Option.isSome_iff_exists.mp hsome
    refine ⟨result, hresult, (hacquired result hresult _).mpr
      ⟨haction, fun hactive => hnew ?_, hadj⟩⟩
    exact (h.prepared.active_iff h.wellFormed hobs hadj).mp hactive

/-- A retained grant was held before, and its robot conflicts with another one. -/
lemma ShippedTick.of_retains {g after prepared : GrantManager} {tick : TickDecision ℕ}
    (h : ShippedTick config geometry snapshots nowMs g tick after prepared) {r : RobotId}
    (hr : r ∈ tick.preparation.hardAssignments) :
    tick.preparation.hardAssignments.lookup r = some .resume ∧
      neighbours tick.conflictModel.adjacency r ≠ [] ∧ r ∈ g.activeGrants := by
  obtain ⟨a, ha⟩ := Dict.exists_lookup hr
  obtain ⟨rfl, hadj, hactive⟩ := h.prepared.of_hard ha
  refine ⟨ha, hadj, ?_⟩
  obtain ⟨record, hrecord⟩ := GrantManager.mem_activeGrants_iff.mp hactive
  rw [h.prepared.lifecycle] at hrecord
  obtain ⟨record, hheld, -⟩ := Option.bind_eq_some_iff.mp hrecord
  exact GrantManager.mem_activeGrants_iff.mpr ⟨record, hheld⟩

/-- **The decision of one robot is explained.**

**Proof sketch.** The reason codes of a report are those of its source and of six conditions
(`reasons_conditions`). Each of the conditions is translated with what the stages say about it, and
the remaining parts are read off these equivalences. -/
lemma ShippedTick.explained {g after prepared : GrantManager} {tick : TickDecision ℕ}
    (h : ShippedTick config geometry snapshots nowMs g tick after prepared) {grantTickId : ℤ}
    {heldAges : Dict RobotId ℤ} {d : EngineDecision}
    (hreport : Reports tick nowMs tickId grantTickId heldAges d)
    (hsourced : Sourced tick.conflictModel tick.decisions tick.sources)
    (hcommitted : tick.grantResult.isSome = true ↔ tick.finalViolations = [])
    (hacquired : ∀ result, tick.grantResult = some result → ∀ r, r ∈ result.val.acquiredGrants ↔
      GrantManager.Acquires tick.conflictModel tick.decisions prepared r)
    {s : RobotSnapshot} (hs : s ∈ observed config nowMs snapshots)
    {decision : RobotDecision ReasonMetadata} (hok : reportRobot tick tickId s = .ok decision) :
    Explained geometry (observed config nowMs snapshots) g d s decision := by
  obtain ⟨-, haction, hsource, -⟩ := reportRobot_eq_ok hok
  obtain ⟨hcodes, hcontext⟩ := reportRobot_context hok
  have hact : actionOf tick.decisions s.deviceId = decision.action :=
    CollisionMonitor.actionOf_eq haction
  have hretains := h.retains_iff hreport (r := s.deviceId)
  have hpolicy := h.represents.isolated_iff hs
  have hsourceCode : ∀ source, sourceCode source ∈ decision.reasonCodes ↔
      decision.decisionSource = source := fun source => by
    rw [hcodes, sourceCode_mem_reasons]
  obtain ⟨hstale, hgoal, hisolated, hgrant, hkept, hover⟩ :=
    @reasons_conditions _ tick s.deviceId s decision.decisionSource
  rw [← hcodes] at hstale hgoal hisolated hgrant hkept hover
  replace hgrant := hgrant.trans (h.acquires_iff hreport hcommitted hacquired hs haction)
  replace hkept := hkept.trans ⟨fun hlook => hretains.mpr (Dict.mem_of_lookup hlook),
    fun hr => (h.of_retains (hretains.mp hr)).1⟩
  rw [hpolicy] at hisolated
  have hconflict : d.Retains s.deviceId → s.deviceId ∈ g.activeGrants ∧
      ∃ t ∈ observed config nowMs snapshots, InConflict geometry s t := fun hr => by
    obtain ⟨-, hadj, hactive⟩ := h.of_retains (hretains.mp hr)
    exact ⟨hactive, (h.neighbours_iff hs).mp hadj⟩
  have hpaused : s.unavailable = true → decision.action = .pause := fun hs' => by
    rw [← hact]
    exact h.unavailable ⟨s, (h.represents.lookup_iff _ s).mpr ⟨hs, rfl⟩, hs'⟩
  refine
    { distinct := hcodes ▸ nodup_reasons
      contexts := by rw [hcodes, hcontext, List.length_map, List.length_map]
      source := hsourceCode
      stale := hstale
      goal := hgoal
      policy := ?_
      isolated := hisolated
      acquired := hgrant
      retained := hkept
      retains := hconflict
      override := ?_
      paused := ?_
      resumed := ?_
      explained := ?_ }
  · refine (hsourceCode .policy).trans ?_
    rw [← hpolicy, ← hsourced.policy, hsource, Option.some.injEq]
  · intro hmem
    have haffected := hover.mp hmem
    refine ⟨?_, ?_⟩
    · rw [Bool.eq_false_iff, Ne, hreport.stateCommitted_iff]
      intro hfinal
      rw [h.affected_eq_nil hfinal] at haffected
      cases haffected
    · have hforced := h.checked.overridden.lookup_sources s.deviceId
      rw [if_pos haffected, hsource] at hforced
      exact Option.some.inj hforced
  · rintro (hmem | hmem | hmem)
    · exact hpaused (by simp [RobotSnapshot.unavailable, hstale.mp hmem])
    · exact hpaused (by simp [RobotSnapshot.unavailable, (hgoal.mp hmem).2])
    · have hfailSafe := (hsourceCode .failSafe).mp hmem
      rw [hfailSafe] at hsource
      exact Option.some.inj (haction.symm.trans (hsourced.failSafe _ hsource))
  · rintro ⟨code, hcode, hmem⟩
    rcases mem_resumeCodes.mp hcode with rfl | rfl | rfl
    · obtain ⟨havailable, hfree⟩ := hisolated.mp hmem
      have hfollows := h.isolated (hpolicy.mpr hfree)
      rw [isolatedAction, if_neg] at hfollows
      · exact Option.some.inj (haction.symm.trans hfollows)
      · rintro ⟨s', hs', hunavailable⟩
        obtain rfl := Option.some.inj (hs'.symm.trans ((h.represents.lookup_iff _ s).mpr ⟨hs, rfl⟩))
        exact Bool.false_ne_true (havailable.symm.trans hunavailable)
    · exact (hgrant.mp hmem).2.1
    · rw [← hact]
      exact h.retained_resumes (hretains.mp (hkept.mp hmem))
  · intro hyes hresume
    have havailable : s.unavailable = false := by
      by_contra hunavailable
      cases hresume.symm.trans (hpaused (Bool.not_eq_false _ ▸ hunavailable))
    exact existsUnique_resumeCode hisolated hgrant hkept (fun hr => (hconflict hr).2) havailable
      hyes hresume

/-- **Every decision is explained.** In every reachable state, every decision that a tick returns is
about an observed robot, and its reason codes are true: each is given exactly when its condition
holds, none twice, and each with a line of context. A stale, arrived or fail-safe robot is paused; a
robot is overridden only in a tick that does not commit; and a Resume of a committed tick has one
explanation: the robot conflicts with no other one, it retains its grant, or it acquires one.

**Proof sketch.** The report of a tick gives each decision the reasons of its stages
(`ShippedTick.explained`), and each stage knows the condition under which it decided. -/
theorem decide_explained {state state' : EngineState ℕ Store ℕ}
    (hreach : (shippedMachine config geometry cpSat).Reachable state) {d : EngineDecision}
    (h : (shippedDecide config geometry cpSat snapshots nowMs tickId).run state = .ok d state') :
    ∀ decision ∈ d.decisions, ∃ s ∈ observed config nowMs snapshots,
      s.deviceId = decision.robotId ∧
      Explained geometry (observed config nowMs snapshots) state.held d s decision := by
  have hheld := reachable_held hreach
  obtain ⟨tick, htick, hreport⟩ := decide_eq_ok h
  obtain ⟨after, prepared, hstages, hgranted⟩ :=
    (decideTick_shipped hheld (P := True) (.inl trivial)).get_ok htick
  obtain ⟨copy, copied, solved, previewed, -, -, hdeliberates⟩ :=
    (decideTick_deliberates hheld snapshots tickId).get_ok htick
  obtain ⟨-, hcommitted, -⟩ := (decideTick_checked state snapshots nowMs tickId).get_ok htick
  intro decision hmem
  obtain ⟨s, hs, hok⟩ := hreport.decided decision hmem
  rw [hstages.checked.ordered_eq] at hs
  exact ⟨s, hs, (reportRobot_eq_ok hok).1.symm, hstages.explained hreport
    (hstages.sourced hdeliberates) hcommitted (fun result hresult => (hgranted result hresult).2)
    hs hok⟩

/-- The first robot retains its grant in the second tick, which is the only explanation of its
Resume, and the second robot is paused. -/
theorem decide_explained_approaching : ∃ d state', (shippedDecide defaultConfig lineGeometry
      (fun _ => none) approaching 100 "second").run approachingState = .ok d state' ∧
    ∃ decision ∈ d.decisions, decision.robotId = robotA ∧
      "ACTIVE_GRANT_RESUME" ∈ decision.reasonCodes ∧
      "RIGHT_OF_WAY_GRANT_ACQUIRED" ∉ decision.reasonCodes := by
  obtain ⟨d, state', hrun, decision, hmem, hrobot, hretains⟩ := Ensures.exists_ok
    (x := shippedDecide defaultConfig lineGeometry (fun _ => none) approaching 100 "second")
    (s := approachingState) (Q := fun (d : EngineDecision) _ => ∃ decision ∈ d.decisions,
      decision.robotId = robotA ∧ d.Retains robotA) (by decide +kernel)
  obtain ⟨s, -, hs, hexplained⟩ := decide_explained approachingState_reachable hrun decision hmem
  have hretained : d.Retains s.deviceId := by
    rw [hs, hrobot]
    exact hretains
  exact ⟨d, state', hrun, decision, hmem, hrobot, hexplained.retained.mpr hretained,
    fun hgrant => (hexplained.acquired.mp hgrant).2.2.2 hretained⟩

end Explained

end CollisionMonitor
