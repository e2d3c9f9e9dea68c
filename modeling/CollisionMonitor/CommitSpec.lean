import CollisionMonitor.GrantSpec

set_option relaxedAutoImplicit false
set_option autoImplicit false

/-!
# What previewing and committing a tick do

Previewing repairs every all-Pause component that can progress and marks the others as fail-safe,
so that afterwards each component with an edge either progresses safely or cannot progress at all.
Committing then gives a grant to every resumed robot with an edge: the decisions themselves show
that the completion check of an acquisition cannot fail.

## Main definitions

* `Proposal` — what the component solvers propose for a component.
* `Resolved` — the outcome of previewing a component.

## Main results

* `previewTick_spec` — previewing resolves every component with an edge.
* `commitTick_spec` — after committing, grants and Resume actions coincide on robots with an edge.
* `commitTick_frame`, `prepareTick_frame` — the invariant survives a tick under any conflict model.
-/

namespace CollisionMonitor

open Outcome

/-! ## Hard actions of a component -/

section Hard

variable {m : ConflictModel} {hard : Dict RobotId Action} {K : List RobotId}

/-- The priorities cover the component, each under its own robot, and its coefficients fit. -/
structure Scored (K : List RobotId) (priorities : Dict RobotId PriorityBreakdown) : Prop where
  scored : ∀ r ∈ K, ∃ p, priorities.lookup r = some p ∧ p.val.robotId = r
  fit : CoefficientsFit K priorities

/-- A dictionary of the unavailable robots' Pause and the hard actions of a component. -/
def CombinesHard (m : ConflictModel) (hard : Dict RobotId Action) (K : List RobotId)
    (d : Dict RobotId Action) : Prop :=
  ∀ r a, d.lookup r = some a ↔
    r ∈ K ∧ (Unavailable m r ∧ a = .pause ∨ hard.lookup r = some a)

/-- The combined hard assignments are about robots of the component. -/
lemma CombinesHard.mem {d : Dict RobotId Action} (h : CombinesHard m hard K d) :
    ∀ r ∈ d, r ∈ K := by
  intro r hr
  obtain ⟨a, ha⟩ := Dict.exists_lookup hr
  exact ((h r a).mp ha).1

/-- Admissible under the combined actions means safe and obedient. -/
lemma CombinesHard.admissible_iff {d : Dict RobotId Action} (h : CombinesHard m hard K d)
    {constraints : List PairwiseCompatibility} {x : RobotId → Action} :
    Admissible constraints d x ↔ Safe constraints x ∧ Obeys m hard K x := by
  refine and_congr_right fun _ => ?_
  constructor
  · intro hx
    exact ⟨fun r hr hu => hx r .pause ((h r _).mpr ⟨hr, .inl ⟨hu, rfl⟩⟩),
      fun r hr a hra => hx r a ((h r a).mpr ⟨hr, .inr hra⟩)⟩
  · rintro ⟨hpause, hobeys⟩ r a hra
    obtain ⟨hr, ⟨hu, rfl⟩ | hra⟩ := (h r a).mp hra
    · exact hpause r hr hu
    · exact hobeys r hr a hra

/-- With scored priorities they are an input of the component's solvers. -/
lemma CombinesHard.input (hm : m.WellFormed) (hK : K ∈ m.connectedComponents)
    {d : Dict RobotId Action} (h : CombinesHard m hard K d)
    {priorities : Dict RobotId PriorityBreakdown} (hscored : Scored K priorities) :
    ComponentInput K m priorities d where
  nonempty := hm.decomposes.nonempty K hK
  nodup := hm.nodup hK
  observed := fun _ hr => hm.mem_snapshots hK hr
  scored := hscored.scored
  hard_mem := h.mem

/-- The heuristic under combined actions: feasible iff some safe assignment is obedient. -/
lemma CombinesHard.canProgress_iff {d : Dict RobotId Action} (h : CombinesHard m hard K d)
    {constraints : List PairwiseCompatibility} : CanProgress K constraints d ↔
      ∃ x, Safe constraints x ∧ Obeys m hard K x ∧ ∃ r ∈ K, x r = .resume := by
  refine exists_congr fun x => ?_
  rw [h.admissible_iff, and_assoc]

/-- Safety and obedience depend on the robots of the component only. -/
lemma safe_obeys_congr {x y : RobotId → Action} (hxy : ∀ r ∈ K, x r = y r)
    (h : Safe (componentConstraints K m) x ∧ Obeys m hard K x) :
    Safe (componentConstraints K m) y ∧ Obeys m hard K y := by
  refine ⟨h.1.congr fun pair hpair => ?_, fun r hr hu => ?_, fun r hr a hra => ?_⟩
  · obtain ⟨hI, hJ⟩ := componentConstraints_inside K m pair hpair
    exact ⟨hxy _ hI, hxy _ hJ⟩
  · rw [← hxy r hr]
    exact h.2.1 r hr hu
  · rw [← hxy r hr]
    exact h.2.2 r hr a hra

end Hard

/-! ## Previewing a component -/

section Preview

variable {config : MonitorConfig} {m : ConflictModel} {hard : Dict RobotId Action}
  {priorities : Dict RobotId PriorityBreakdown} {K : List RobotId} {E : Prop}

/-- What the solvers propose for a component: safe obedient actions, or Pause throughout. -/
def Proposal (m : ConflictModel) (hard : Dict RobotId Action) (K : List RobotId)
    (x : RobotId → Action) : Prop :=
  (Safe (componentConstraints K m) x ∧ Obeys m hard K x) ∨ ∀ r ∈ K, x r = .pause

/-- **The outcome of previewing a component**: a component that can progress does so safely and
obediently; one that cannot is paused as fail-safe. -/
def Resolved (m : ConflictModel) (hard : Dict RobotId Action) (K : List RobotId)
    (decisions : Dict RobotId Action) (sources : Dict RobotId DecisionSource) : Prop :=
  (Progressive m K ∧ Safe (componentConstraints K m) (actionOf decisions) ∧
    Obeys m hard K (actionOf decisions) ∧ ∃ r ∈ K, actionOf decisions r = .resume) ∨
  (¬ Progressive m K ∧ ∀ r ∈ K, actionOf decisions r = .pause ∧
    sources.lookup r = some .failSafe)

/-- A component has an edge iff it has several robots. -/
lemma any_neighbours_iff (hm : m.WellFormed) (hK : K ∈ m.connectedComponents) :
    (K.length < 2 ∨ ¬ K.any fun r => !(neighbours m.adjacency r).isEmpty) ↔ ¬ 2 ≤ K.length := by
  constructor
  · rintro (h | h) hlen
    · omega
    · obtain ⟨r, hr⟩ := List.exists_mem_of_ne_nil _ (hm.decomposes.nonempty K hK)
      refine h (List.any_eq_true.mpr ⟨r, hr, ?_⟩)
      simpa using hm.neighbours_ne_nil hK hlen hr
  · intro hlen
    exact .inl (by omega)

/-- The hard actions of a component, as the preview copies them. -/
lemma lookup_componentHard (hard : Dict RobotId Action) (K : List RobotId) (r : RobotId)
    (a : Action) :
    (Dict.ofPairs ((hard.entries.filter fun entry => entry.1 ∈ K).map fun entry =>
      (entry.1, entry.2))).lookup r = some a ↔ r ∈ K ∧ hard.lookup r = some a := by
  have hnd : (((hard.entries.filter fun entry => entry.1 ∈ K).map fun entry =>
      (entry.1, entry.2)).map Prod.fst).Nodup := by
    rw [List.map_map]
    exact hard.nodupKeys.sublist List.filter_sublist
  rw [Dict.lookup_ofPairs hnd, List.mem_map]
  constructor
  · rintro ⟨⟨r', a'⟩, hmem, heq⟩
    obtain ⟨rfl, rfl⟩ := Prod.mk.inj heq
    obtain ⟨hentry, hK⟩ := List.mem_filter.mp hmem
    exact ⟨of_decide_eq_true hK, AList.mem_lookup_iff.mpr hentry⟩
  · rintro ⟨hK, hra⟩
    exact ⟨⟨r, a⟩, List.mem_filter.mpr ⟨AList.mem_lookup_iff.mp hra, decide_eq_true hK⟩, rfl⟩

/-- The hard actions of a repair, when only available robots have hard actions. -/
lemma combinesHard_repair (havail : ∀ r ∈ hard, ¬ Unavailable m r)
    {componentHard : Dict RobotId Action}
    (hcomp : ∀ r a, componentHard.lookup r = some a ↔ r ∈ K ∧ hard.lookup r = some a) :
    CombinesHard m hard K ((Dict.ofKeys (K.filter fun r => decide (Unavailable m r)) fun _ =>
      Action.pause).update componentHard) := by
  intro r a
  rw [Dict.lookup_update, Dict.lookup_ofKeys]
  have hmem : r ∈ K.filter (fun r => decide (Unavailable m r)) ↔ r ∈ K ∧ Unavailable m r := by
    simp
  cases hlook : componentHard.lookup r with
  | some b =>
    obtain ⟨hrK, hrb⟩ := (hcomp r b).mp hlook
    have hnot := havail r (Dict.mem_of_lookup hrb)
    simp [hrK, hrb, hnot]
  | none =>
    rw [Option.none_or]
    have hnone : r ∈ K → hard.lookup r = none := by
      intro hrK
      rw [Option.eq_none_iff_forall_not_mem]
      intro b hb
      rw [(hcomp r b).mpr ⟨hrK, hb⟩] at hlook
      cases hlook
    by_cases hrK : r ∈ K
    · by_cases hu : Unavailable m r
      · rw [if_pos (hmem.mpr ⟨hrK, hu⟩)]
        simp [hrK, hu, hnone hrK, eq_comm]
      · rw [if_neg fun h => hu (hmem.mp h).2]
        simp [hrK, hu, hnone hrK]
    · rw [if_neg fun h => hrK (hmem.mp h).1]
      simp [hrK]

/-- The decisions and their sources cover the observed robots. -/
def Covers (m : ConflictModel) (state : GrantManager.Repairing) : Prop :=
  (∀ r, r ∈ state.decisions ↔ r ∈ m.snapshots) ∧
    ∀ r, r ∈ state.decisionSources ↔ r ∈ m.snapshots

/-- Overwriting decisions of observed robots keeps every robot covered. -/
lemma Covers.overwrite {state : GrantManager.Repairing} (h : Covers m state)
    {d : Dict RobotId Action} (hd : ∀ r ∈ d, r ∈ m.snapshots) (source : DecisionSource) :
    Covers m (state.overwrite d source) := by
  constructor
  · intro r
    change r ∈ state.decisions.update d ↔ _
    rw [Dict.mem_update, h.1 r]
    exact or_iff_right_of_imp (hd r)
  · intro r
    change r ∈ state.decisionSources.update (Dict.ofKeys d.keys fun _ => source) ↔ _
    rw [Dict.mem_update, h.2 r, Dict.mem_ofKeys, ← AList.mem_keys]
    exact or_iff_right_of_imp (hd r)

/-- Overwriting is invisible outside the keys written. -/
lemma lookup_overwrite_of_notMem (state : GrantManager.Repairing) {d : Dict RobotId Action}
    (source : DecisionSource) {r : RobotId} (hr : r ∉ d) :
    (state.overwrite d source).decisions.lookup r = state.decisions.lookup r ∧
      (state.overwrite d source).decisionSources.lookup r = state.decisionSources.lookup r := by
  refine ⟨Dict.lookup_update_of_notMem hr, Dict.lookup_update_of_notMem ?_⟩
  rwa [Dict.mem_ofKeys, ← AList.mem_keys]

/-- An overwritten robot has its new decision and its new source. -/
lemma lookup_overwrite_of_mem (state : GrantManager.Repairing) {d : Dict RobotId Action}
    (source : DecisionSource) {r : RobotId} (hr : r ∈ d) :
    (state.overwrite d source).decisions.lookup r = d.lookup r ∧
      (state.overwrite d source).decisionSources.lookup r = some source := by
  have hkey : r ∈ d.keys := AList.mem_keys.mp hr
  refine ⟨Dict.lookup_update_of_mem hr, ?_⟩
  exact (Dict.lookup_update_of_mem (Dict.mem_ofKeys.mpr hkey)).trans
    (Dict.lookup_ofKeys_of_mem hkey)

/-- The effect of previewing one component on the decisions, sources and alarms. -/
structure Previewed (m : ConflictModel) (hard : Dict RobotId Action) (K : List RobotId)
    (state state' : GrantManager.Repairing) : Prop where
  covers : Covers m state'
  outside : ∀ r, r ∉ K → state'.decisions.lookup r = state.decisions.lookup r ∧
    state'.decisionSources.lookup r = state.decisionSources.lookup r
  isolated : ¬ 2 ≤ K.length → state' = state
  resolved : 2 ≤ K.length → Resolved m hard K state'.decisions state'.decisionSources
  alarm : .unresolvableWithPauseResume ∈ state'.alarms ↔
    .unresolvableWithPauseResume ∈ state.alarms ∨ 2 ≤ K.length ∧ ¬ Progressive m K

/-- The hard actions of the repair search: Pause for unavailable robots, under the grants. -/
abbrev repairHard (m : ConflictModel) (hard : Dict RobotId Action) (K : List RobotId) :
    Dict RobotId Action :=
  (Dict.ofKeys (K.filter fun r => decide (Unavailable m r)) fun _ => Action.pause).update
    (Dict.ofPairs ((hard.entries.filter fun entry => entry.1 ∈ K).map
      fun entry => (entry.1, entry.2)))

/-- **The repair search** makes progress iff progress is possible, and then obeys the grants. -/
lemma repairSearch_spec (hm : m.WellFormed) (hK : K ∈ m.connectedComponents)
    (havail : ∀ r ∈ hard, ¬ Unavailable m r)
    (hprogress : Progressive m K ↔ ∃ x, Safe (componentConstraints K m) x ∧ Obeys m hard K x ∧
      ∃ r ∈ K, x r = .resume) (hscored : E ∨ Scored K priorities) :
    Returns (solve config K m priorities (repairHard m hard K)) (fun repair =>
      ((repair.val.feasible && repair.val.progressMade) = true ↔ Progressive m K) ∧
      (Progressive m K → (∀ r, r ∈ repair.val.decisions ↔ r ∈ K) ∧
        Safe (componentConstraints K m) (actionOf repair.val.decisions) ∧
        Obeys m hard K (actionOf repair.val.decisions) ∧
        ∃ r ∈ K, actionOf repair.val.decisions r = .resume)) E := by
  have hcombines := combinesHard_repair havail (lookup_componentHard hard K)
  refine Returns.of_runs (fun repair hsolve => ?_) (hscored.imp id fun hscored =>
    solve_total (hcombines.input hm hK hscored) hscored.fit)
  have hrepair := solve_spec hsolve
  have hprog : repair.val.progressMade = true ↔ Progressive m K := by
    rw [hrepair.progress_iff, hcombines.canProgress_iff, hprogress]
  refine ⟨?_, fun hcan => ?_⟩
  · rw [Bool.and_eq_true, and_iff_right_of_imp hrepair.feasible_of_progress, hprog]
  · have hmade := hprog.mpr hcan
    obtain ⟨hkeys, hadm⟩ := hrepair.decides (hrepair.feasible_of_progress hmade)
    obtain ⟨hsafe, hobeys⟩ := hcombines.admissible_iff.mp hadm
    exact ⟨hkeys, hsafe, hobeys, hrepair.resumes hmade⟩

/-- **A proposal that resumes some robot** passes the checks of the preview. -/
lemma proposal_valid {decisions copied : Dict RobotId Action}
    (hlookup : ∀ r ∈ K, copied.lookup r = decisions.lookup r) (hkeys : ∀ r, r ∈ copied ↔ r ∈ K)
    (hproposal : Proposal m hard K (actionOf decisions)) (hpaused : ¬ allPause copied = true) :
    Safe (componentConstraints K m) (actionOf decisions) ∧ Obeys m hard K (actionOf decisions) ∧
      (∃ r ∈ K, actionOf decisions r = .resume) ∧
      validateComponentDecisions K copied (componentConstraints K m)
        (Dict.ofPairs ((hard.entries.filter fun entry => entry.1 ∈ K).map
          fun entry => (entry.1, entry.2))) = .ok () := by
  have haction : ∀ r ∈ K, actionOf copied r = actionOf decisions r := fun r hr => by
    rw [actionOf, actionOf, hlookup r hr]
  have hresumed : ∃ r ∈ K, actionOf decisions r = .resume := by
    by_contra hnone
    push Not at hnone
    refine hpaused (allPause_iff.mpr fun r a hra => ?_)
    have hr := (hkeys r).mp (Dict.mem_of_lookup hra)
    rw [← Action.ne_resume_iff, ← actionOf_eq hra, haction r hr]
    exact hnone r hr
  rcases hproposal with hsafe | hpause
  swap
  · obtain ⟨r, hr, hact⟩ := hresumed
    rw [hpause r hr] at hact
    cases hact
  refine ⟨hsafe.1, hsafe.2, hresumed, ?_⟩
  refine (validateComponentDecisions_eq_ok (componentConstraints_inside K m) fun r hr => ?_).mpr
    ⟨hkeys, (safe_obeys_congr (fun r hr => (haction r hr).symm) hsafe).1, fun r a hra => ?_⟩
  · obtain ⟨a, ha⟩ := Dict.exists_lookup hr
    exact ((lookup_componentHard hard K r a).mp ha).1
  · obtain ⟨hr, hra⟩ := (lookup_componentHard hard K r a).mp hra
    rw [haction r hr]
    exact hsafe.2.2 r hr a hra

/-- **Previewing one component.**

**Proof sketch.** By cases as in the source. A component without an edge is left alone. One that is
paused throughout is given to the repair search, which succeeds exactly if the component can
progress. Otherwise the proposal was that of a solver, so its validation succeeds and nothing
changes. -/
lemma validateOrRepairComponent_spec (hm : m.WellFormed) (hK : K ∈ m.connectedComponents)
    (havail : ∀ r ∈ hard, ¬ Unavailable m r)
    (hprogress : Progressive m K ↔ ∃ x, Safe (componentConstraints K m) x ∧ Obeys m hard K x ∧
      ∃ r ∈ K, x r = .resume)
    {state : GrantManager.Repairing} (hcovers : Covers m state)
    (hproposal : 2 ≤ K.length → Proposal m hard K (actionOf state.decisions))
    (hscored : E ∨ Scored K priorities) :
    Returns (GrantManager.validateOrRepairComponent config m hard priorities state K)
      (fun state' => Previewed m hard K state state') E := by
  unfold GrantManager.validateOrRepairComponent
  by_cases hlen : 2 ≤ K.length
  swap
  · rw [if_pos ((any_neighbours_iff hm hK).mpr hlen)]
    exact Returns.ok ⟨hcovers, fun r _ => ⟨rfl, rfl⟩, fun _ => rfl, fun h => absurd h hlen,
      by simp [hlen]⟩
  rw [if_neg fun h => (any_neighbours_iff hm hK).mp h hlen]
  dsimp only
  -- the copied decisions of the component
  have hobs : ∀ r ∈ K, r ∈ m.snapshots := fun r hr => hm.mem_snapshots hK hr
  obtain ⟨copied, hcollect⟩ := Dict.collect_total id
    (item state.decisions) K fun r hr => by
      obtain ⟨a, ha⟩ := Dict.exists_lookup ((hcovers.1 r).mpr (hobs r hr))
      exact ⟨a, item_eq_ok.mpr ha⟩
  have hlookup : ∀ r ∈ K, copied.lookup r = state.decisions.lookup r := by
    intro r hr
    obtain ⟨a, ha, hlook⟩ := Dict.lookup_collect_id hcollect hr
    rw [hlook, item_eq_ok.mp ha]
  have hkeys : ∀ r, r ∈ copied ↔ r ∈ K := fun r => by
    rw [Dict.mem_collect hcollect]
    simp
  rw [hcollect, ok_bind]
  by_cases hpaused : allPause copied = true
  · -- an all-Pause component: the repair search decides
    rw [if_pos hpaused, unavailableIds_eq hobs, ok_bind]
    refine (repairSearch_spec hm hK havail hprogress hscored).bind fun repair hrepair => ?_
    obtain ⟨hboth, hdecides⟩ := hrepair
    by_cases hcan : Progressive m K
    · rw [if_pos (hboth.mpr hcan)]
      obtain ⟨hwrites, hsafe, hobeys, r₀, hr₀, hresume⟩ := hdecides hcan
      have hwritten : ∀ r ∈ K, actionOf (state.overwrite repair.val.decisions .repair).decisions r =
          actionOf repair.val.decisions r := fun r hr => by
        rw [actionOf, actionOf, (lookup_overwrite_of_mem state .repair ((hwrites r).mpr hr)).1]
      have hadm := safe_obeys_congr (fun r hr => (hwritten r hr).symm) ⟨hsafe, hobeys⟩
      exact Returns.ok
        { covers := hcovers.overwrite (fun r hr => hobs r ((hwrites r).mp hr)) .repair
          outside := fun r hr => lookup_overwrite_of_notMem state .repair
            fun hmem => hr ((hwrites r).mp hmem)
          isolated := fun h => absurd hlen h
          resolved := fun _ =>
            .inl ⟨hcan, hadm.1, hadm.2, r₀, hr₀, by rw [hwritten r₀ hr₀, hresume]⟩
          alarm := by simp [hcan, GrantManager.Repairing.overwrite] }
    · rw [if_neg fun h => hcan (hboth.mp h)]
      have hmem : ∀ r, r ∈ Dict.ofKeys K (fun _ => Action.pause) ↔ r ∈ K := fun r => Dict.mem_ofKeys
      refine Returns.ok
        { covers := hcovers.overwrite (fun r hr => hobs r ((hmem r).mp hr)) .failSafe
          outside := fun r hr => lookup_overwrite_of_notMem state .failSafe
            fun h => hr ((hmem r).mp h)
          isolated := fun h => absurd hlen h
          resolved := fun _ => .inr ⟨hcan, fun r hr => ?_⟩
          alarm := ?_ }
      · obtain ⟨hdec, hsrc⟩ := lookup_overwrite_of_mem state .failSafe ((hmem r).mpr hr)
        refine ⟨actionOf_eq ?_, hsrc⟩
        rw [hdec, Dict.lookup_ofKeys_of_mem hr]
      · dsimp only
        split_ifs with halarm
        · simp [halarm, hlen, hcan]
        · simp [hlen, hcan]
  · -- some robot is resumed: the proposal was safe and obedient
    rw [if_neg hpaused]
    obtain ⟨hsafe, hobeys, hresumed, hvalid⟩ :=
      proposal_valid hlookup hkeys (hproposal hlen) hpaused
    have hcan : Progressive m K := hprogress.mpr ⟨_, hsafe, hobeys, hresumed⟩
    rw [hvalid, ok_bind]
    exact Returns.ok ⟨hcovers, fun r _ => ⟨rfl, rfl⟩, fun _ => rfl,
      fun _ => .inl ⟨hcan, hsafe, hobeys, hresumed⟩, by simp [hcan]⟩

/-- The outcome of a component depends on its own decisions and sources only. -/
lemma Resolved.congr {decisions decisions' : Dict RobotId Action}
    {sources sources' : Dict RobotId DecisionSource} (h : Resolved m hard K decisions sources)
    (hsame : ∀ r ∈ K, decisions'.lookup r = decisions.lookup r ∧
      sources'.lookup r = sources.lookup r) : Resolved m hard K decisions' sources' := by
  have haction : ∀ r ∈ K, actionOf decisions r = actionOf decisions' r := fun r hr => by
    rw [actionOf, actionOf, (hsame r hr).1]
  rcases h with ⟨hcan, hsafe, hobeys, r, hr, hresume⟩ | ⟨hcan, hpause⟩
  · obtain ⟨hsafe', hobeys'⟩ := safe_obeys_congr haction ⟨hsafe, hobeys⟩
    exact .inl ⟨hcan, hsafe', hobeys', r, hr, by rw [← haction r hr, hresume]⟩
  · refine .inr ⟨hcan, fun r hr => ?_⟩
    rw [← haction r hr, (hsame r hr).2]
    exact hpause r hr

/-- **The outcome of previewing a tick.** -/
structure PreviewOutcome (m : ConflictModel) (hard proposed : Dict RobotId Action)
    (preview : GrantPreviewFields) : Prop where
  mem_decisions : ∀ r, r ∈ preview.decisions ↔ r ∈ m.snapshots
  mem_sources : ∀ r, r ∈ preview.decisionSources ↔ r ∈ m.snapshots
  resolved : ∀ K ∈ m.connectedComponents, 2 ≤ K.length →
    Resolved m hard K preview.decisions preview.decisionSources
  isolated : ∀ r, neighbours m.adjacency r = [] →
    preview.decisions.lookup r = proposed.lookup r
  alarm : .unresolvableWithPauseResume ∈ preview.alarms ↔
    ∃ K ∈ m.connectedComponents, 2 ≤ K.length ∧ ¬ Progressive m K

/-- **Previewing resolves every component with an edge.**

**Proof sketch.** By an invariant over the components that were previewed. Components are disjoint,
so previewing one keeps what was settled for the others, and its proposal is still there when its
turn comes. -/
theorem validateOrRepairComponents_spec (hm : m.WellFormed)
    (havail : ∀ r ∈ hard, ¬ Unavailable m r)
    (hprogress : ∀ K ∈ m.connectedComponents, (Progressive m K ↔ ∃ x,
      Safe (componentConstraints K m) x ∧ Obeys m hard K x ∧ ∃ r ∈ K, x r = .resume))
    {proposed : Dict RobotId Action} {sources : Dict RobotId DecisionSource}
    (hproposed : ∀ r, r ∈ proposed ↔ r ∈ m.snapshots)
    (hsources : ∀ r, r ∈ sources ↔ r ∈ m.snapshots)
    (hproposal : ∀ K ∈ m.connectedComponents, 2 ≤ K.length → Proposal m hard K (actionOf proposed))
    (hscored : E ∨ ∀ K ∈ m.connectedComponents, Scored K priorities) :
    Returns (GrantManager.validateOrRepairComponents config m hard priorities proposed sources)
      (fun state => PreviewOutcome m hard proposed
        { decisions := state.decisions, decisionSources := state.decisionSources
          alarms := state.alarms }) E := by
  unfold GrantManager.validateOrRepairComponents
  refine (Returns.foldlM (fun pre (state : GrantManager.Repairing) => Covers m state ∧
    (∀ K ∈ pre, 2 ≤ K.length → Resolved m hard K state.decisions state.decisionSources) ∧
    (∀ r, (∀ K ∈ pre, 2 ≤ K.length → r ∉ K) →
      state.decisions.lookup r = proposed.lookup r) ∧
    (.unresolvableWithPauseResume ∈ state.alarms ↔
      ∃ K ∈ pre, 2 ≤ K.length ∧ ¬ Progressive m K))
    ⟨⟨hproposed, hsources⟩, by simp, by simp, by simp⟩ ?_).mono ?_
  · rintro pre K post state hl ⟨hcovers, hresolved, huntouched, halarm⟩
    have hK : K ∈ m.connectedComponents := by simp [hl]
    have hdisj := hm.decomposes.disjoint
    rw [hl, List.pairwise_append] at hdisj
    have hother : ∀ L ∈ pre, ∀ r ∈ K, r ∉ L := fun L hL r hr hrL =>
      hdisj.2.2 L hL K List.mem_cons_self hrL hr
    refine (validateOrRepairComponent_spec hm hK havail (hprogress K hK) hcovers (fun hlen => ?_)
      (hscored.imp id fun h => h K hK)).mono fun state' h => ?_
    · -- the component still has its proposal
      have hsame : ∀ r ∈ K, actionOf proposed r = actionOf state.decisions r := fun r hr => by
        rw [actionOf, actionOf, huntouched r fun L hL _ => hother L hL r hr]
      rcases hproposal K hK hlen with hsafe | hpause
      · exact .inl (safe_obeys_congr hsame hsafe)
      · exact .inr fun r hr => by rw [← hsame r hr, hpause r hr]
    · refine ⟨h.covers, fun L hL hlen => ?_, fun r hr => ?_, ?_⟩
      · rcases List.mem_append.mp hL with hL | hL
        · exact (hresolved L hL hlen).congr fun r hr =>
            h.outside r fun hrK => hother L hL r hrK hr
        · rw [List.mem_singleton.mp hL] at hlen ⊢
          exact h.resolved hlen
      · by_cases hlen : 2 ≤ K.length
        · rw [(h.outside r (hr K (by simp) hlen)).1]
          exact huntouched r fun L hL => hr L (by simp [hL])
        · rw [h.isolated hlen]
          exact huntouched r fun L hL => hr L (by simp [hL])
      · rw [h.alarm, halarm]
        simp only [List.mem_append, List.mem_singleton, or_and_right, exists_or, exists_eq_left]
  · rintro state ⟨hcovers, hresolved, huntouched, halarm⟩
    exact
      { mem_decisions := hcovers.1
        mem_sources := hcovers.2
        resolved := hresolved
        isolated := fun r hr => huntouched r fun K hK hlen hrK =>
          hm.neighbours_ne_nil hK hlen hrK hr
        alarm := halarm }

/-- **Previewing a tick** leaves the manager alone and resolves every component. -/
theorem previewTick_spec (hm : m.WellFormed) {t : GrantManager} (hopen : t.tickOpen = true)
    (hhard : t.currentHardAssignments = hard) (havail : ∀ r ∈ hard, ¬ Unavailable m r)
    (hprogress : ∀ K ∈ m.connectedComponents, (Progressive m K ↔ ∃ x,
      Safe (componentConstraints K m) x ∧ Obeys m hard K x ∧ ∃ r ∈ K, x r = .resume))
    {proposed : Dict RobotId Action} {sources : Dict RobotId DecisionSource}
    (hproposed : ∀ r, r ∈ proposed ↔ r ∈ m.snapshots)
    (hsources : ∀ r, r ∈ sources ↔ r ∈ m.snapshots)
    (hpriorities : ∀ r, r ∈ priorities ↔ r ∈ m.snapshots)
    (hproposal : ∀ K ∈ m.connectedComponents, 2 ≤ K.length → Proposal m hard K (actionOf proposed))
    (hscored : E ∨ ∀ K ∈ m.connectedComponents, Scored K priorities) :
    Ensures (GrantManager.previewTick config m proposed priorities (some sources)) t
      (fun preview t' => t' = t ∧ PreviewOutcome m hard proposed preview.val) fun _ => E := by
  have hkeys : ∀ {ν : Type} (d : Dict RobotId ν), (∀ r, r ∈ d ↔ r ∈ m.snapshots) →
      ¬ ¬ d.SameKeys m.snapshots.keys := fun d hd => by
    rw [not_not, Dict.sameKeys_iff]
    exact fun r => by rw [hd r, AList.mem_keys]
  subst hhard
  unfold GrantManager.previewTick
  refine Ensures.bind_get (Ensures.bind_lift (Returns.guarded fun h => ?_) fun _ _ => ?_)
  · rw [hopen] at h
    cases h
  refine Ensures.bind_lift (Returns.guarded fun h => absurd h (hkeys _ hproposed)) fun _ _ => ?_
  refine Ensures.bind_lift (Returns.guarded fun h => absurd h (hkeys _ hpriorities)) fun _ _ => ?_
  refine Ensures.bind_lift (Returns.guarded fun h => absurd h (hkeys _ hsources)) fun _ _ => ?_
  refine Ensures.bind_lift (validateOrRepairComponents_spec hm havail hprogress hproposed
    hsources hproposal hscored) fun state hstate => ?_
  refine Ensures.lift (Returns.of_eq_ok (validate_of_accepted ?_) ⟨rfl, hstate⟩)
  refine raiseIf_of_not _ ?_
  rw [not_not, Dict.sameKeys_iff]
  intro r
  rw [← AList.mem_keys]
  exact (hstate.mem_decisions r).trans (hstate.mem_sources r).symm

/-- Previewing never changes the manager, whatever it is given. -/
lemma previewTick_frame (m : ConflictModel) (proposed : Dict RobotId Action)
    (priorities : Dict RobotId PriorityBreakdown) (sources : Option (Dict RobotId DecisionSource))
    (t : GrantManager) :
    Ensures (GrantManager.previewTick config m proposed priorities sources) t
      (fun _ t' => t' = t) fun _ => True := by
  unfold GrantManager.previewTick
  refine Ensures.bind_get (Ensures.bind_lift (Returns.guarded fun _ => trivial) fun _ _ => ?_)
  refine Ensures.bind_lift (Returns.guarded fun _ => trivial) fun _ _ => ?_
  refine Ensures.bind_lift (Returns.guarded fun _ => trivial) fun _ _ => ?_
  refine Ensures.bind_lift (Returns.guarded fun _ => trivial) fun _ _ => ?_
  refine Ensures.bind_lift (Returns.of_runs (Q := fun _ => True) (fun _ _ => trivial)
    (.inl trivial)) fun _ _ => ?_
  exact Ensures.lift (Returns.of_runs (fun _ _ => rfl) (.inl trivial))

end Preview

namespace GrantManager

/-! ## Acquiring grants -/

section Acquire

variable {config : MonitorConfig} {m : ConflictModel} {E : Prop}

/-- A grant acquired in the current tick. -/
def freshRecord (t : GrantManager) (r : RobotId) : GrantRecordFields where
  robotId := r
  acquisitionTick := t.tickId
  lastSeenTick := t.tickId

/-- A resumed robot with an edge that holds no grant yet. -/
def Acquires (m : ConflictModel) (decisions : Dict RobotId Action) (t : GrantManager)
    (r : RobotId) : Prop :=
  decisions.lookup r = some .resume ∧ r ∉ t.activeGrants ∧ neighbours m.adjacency r ≠ []

/-- The final decisions of a tick, as acquisition needs them: safe in every component with an
edge, with unavailable robots paused and grant holders resumed. -/
structure Committable (m : ConflictModel) (decisions : Dict RobotId Action) (t : GrantManager) :
    Prop where
  safe : ∀ K ∈ m.connectedComponents, 2 ≤ K.length →
    Safe (componentConstraints K m) (actionOf decisions)
  unavailable : ∀ r, Unavailable m r → actionOf decisions r = .pause
  holders : ∀ r ∈ t.activeGrants, r ∈ m.snapshots → neighbours m.adjacency r ≠ [] →
    actionOf decisions r = .resume

/-- A robot is found under its component. -/
lemma lookup_componentByRobot (hm : m.WellFormed) {K : List RobotId}
    (hK : K ∈ m.connectedComponents) {r : RobotId} (hr : r ∈ K) :
    (componentByRobot m).lookup r = some K :=
  Dict.lookup_ofPairs_blocks (fun _ hK' _ hL _ => hm.component_unique hK' hL) hK hr

/-- The list of acquired grants and the state, after the robots in `l` had their turn. -/
structure Acquired (m : ConflictModel) (decisions : Dict RobotId Action) (t : GrantManager)
    (l acquired : List RobotId) (t' : GrantManager) : Prop where
  frame : t' = { t with activeGrants := t'.activeGrants }
  mem_acquired : ∀ r, r ∈ acquired ↔ r ∈ l ∧ Acquires m decisions t r
  gained : ∀ r ∈ l, Acquires m decisions t r → t'.record r = some (t.freshRecord r)
  kept : ∀ r, ¬ (r ∈ l ∧ Acquires m decisions t r) → t'.record r = t.record r

/-- After the pass the active grants are the old ones and those that were acquired. -/
lemma Acquired.mem_iff {decisions : Dict RobotId Action} {t t' : GrantManager}
    {l acquired : List RobotId} (h : Acquired m decisions t l acquired t') {r : RobotId} :
    r ∈ t'.activeGrants ↔ r ∈ t.activeGrants ∨ r ∈ l ∧ Acquires m decisions t r := by
  by_cases hnew : r ∈ l ∧ Acquires m decisions t r
  · rw [mem_activeGrants_iff, h.gained r hnew.1 hnew.2]
    simp [hnew]
  · rw [mem_activeGrants_iff, h.kept r hnew, ← mem_activeGrants_iff]
    simp [hnew]

/-- A robot that acquires nothing leaves the grants as they are. -/
lemma Acquired.skipped {decisions : Dict RobotId Action} {t t' : GrantManager}
    {l acquired : List RobotId} (h : Acquired m decisions t l acquired t') {r : RobotId}
    (hnot : ¬ Acquires m decisions t r) : Acquired m decisions t (l ++ [r]) acquired t' := by
  refine ⟨h.frame, fun r' => ?_, fun r' hr' hacq => ?_,
    fun r' hr' => h.kept r' fun hl => hr' ⟨by simp [hl.1], hl.2⟩⟩
  · rw [h.mem_acquired, List.mem_append, List.mem_singleton]
    refine and_congr_left fun hacq => (or_iff_left ?_).symm
    rintro rfl
    exact hnot hacq
  · rcases List.mem_append.mp hr' with hr' | hr'
    · exact h.gained r' hr' hacq
    · rw [List.mem_singleton.mp hr'] at hacq
      exact absurd hacq hnot

/-- A robot that acquires a grant gains a fresh record. -/
lemma Acquired.acquired {decisions : Dict RobotId Action} {t t' : GrantManager}
    {l acquired : List RobotId} (h : Acquired m decisions t l acquired t') {r : RobotId}
    (hacquires : Acquires m decisions t r) {record : GrantRecord}
    (hrec : record.val = t.freshRecord r) :
    Acquired m decisions t (l ++ [r]) (acquired ++ [r])
      { t' with activeGrants := t'.activeGrants.insert r record } := by
  refine ⟨?_, fun r' => ?_, fun r' hr' hacq => ?_, fun r' hr' => ?_⟩
  · rw [h.frame]
  · rw [List.mem_append, h.mem_acquired, List.mem_append, or_and_right]
    refine or_congr_right ?_
    rw [List.mem_singleton]
    exact ⟨fun heq => ⟨heq, heq ▸ hacquires⟩, fun heq => heq.1⟩
  · rw [GrantManager.record_insert]
    split_ifs with heq
    · rw [heq, hrec]
    · refine h.gained r' ((List.mem_append.mp hr').resolve_right ?_) hacq
      simpa using heq
  · rw [GrantManager.record_insert, if_neg]
    · exact h.kept r' fun hl => hr' ⟨by simp [hl.1], hl.2⟩
    · rintro rfl
      exact hr' ⟨by simp, hacquires⟩

/-- The holders of a component and one more resumed robot of it are all resumed, so the decisions
themselves complete them. -/
lemma Acquired.completable (hm : m.WellFormed) {decisions : Dict RobotId Action}
    {t t' : GrantManager} {l acquired : List RobotId} (h : Acquired m decisions t l acquired t')
    (hcommit : Committable m decisions t) {K : List RobotId} (hK : K ∈ m.connectedComponents)
    (hlen : 2 ≤ K.length) {r : RobotId} (hrK : r ∈ K) (hres : decisions.lookup r = some .resume) :
    (∀ r' ∈ (sorted t'.activeGrants.keys).filter (fun r => decide (r ∈ K)) ++ [r], r' ∈ K) ∧
      Completable m K
        ((sorted t'.activeGrants.keys).filter (fun r => decide (r ∈ K)) ++ [r]) := by
  have hmem : ∀ r' ∈ (sorted t'.activeGrants.keys).filter (fun r => decide (r ∈ K)) ++ [r],
      r' ∈ K ∧ actionOf decisions r' = .resume := by
    intro r' hr'
    rcases List.mem_append.mp hr' with hr' | hr'
    · obtain ⟨hkey, hK'⟩ := List.mem_filter.mp hr'
      have hrK' := of_decide_eq_true hK'
      rw [mem_sorted, ← AList.mem_keys, h.mem_iff] at hkey
      refine ⟨hrK', ?_⟩
      rcases hkey with hold | ⟨-, hacq⟩
      · exact hcommit.holders r' hold (hm.mem_snapshots hK hrK') (hm.neighbours_ne_nil hK hlen hrK')
      · exact actionOf_eq hacq.1
    · rw [List.mem_singleton.mp hr']
      exact ⟨hrK, actionOf_eq hres⟩
  exact ⟨fun r' hr' => (hmem r' hr').1, actionOf decisions, hcommit.safe K hK hlen,
    fun r' _ hu => hcommit.unavailable r' hu, fun r' hr' => (hmem r' hr').2⟩

/-- **One acquisition.** Every robot that should acquire a grant does: the decisions themselves
complete the group.

**Proof sketch.** By cases as in the source. The guards skip exactly the robots that do not acquire.
For the others the committed decisions complete the group together with the grants of their
component, so the completion check succeeds and the record is new. -/
lemma acquireGrant_spec (hm : m.WellFormed) {decisions : Dict RobotId Action} {t t' : GrantManager}
    {l : List RobotId} {r : RobotId} (htick : 1 ≤ t.tickId) (hr : r ∉ l) (hobs : r ∈ m.snapshots)
    (hcommit : Committable m decisions t) (hfit : E ∨ ∀ K ∈ m.connectedComponents, NeutralFit K)
    {acquired : List RobotId} (h : Acquired m decisions t l acquired t') :
    Ensures (acquireGrant config m (componentByRobot m) decisions acquired r) t'
      (fun acquired' t'' => Acquired m decisions t (l ++ [r]) acquired' t'') fun _ => E := by
  have hactive : r ∈ t'.activeGrants ↔ r ∈ t.activeGrants := by
    rw [h.mem_iff]
    simp [hr]
  unfold acquireGrant
  refine Ensures.bind_get ?_
  split_ifs with hdone
  · refine Ensures.pure (h.skipped ?_)
    rintro ⟨hres, hnew, -⟩
    exact hdone.elim (fun hne => hne hres) fun hact => hnew (hactive.mp hact)
  push Not at hdone
  obtain ⟨s, hs⟩ := Dict.exists_lookup hobs
  refine Ensures.bind_lift (P := fun snapshot => snapshot = s)
    (Returns.of_eq_ok (item_eq_ok.mpr hs) rfl) fun snapshot hsnapshot => ?_
  rw [hsnapshot]
  split_ifs with hunable
  · refine Ensures.pure (h.skipped ?_)
    rintro ⟨hres, -, hadj⟩
    rcases hunable with hgoal | hstale | hnone
    · have := hcommit.unavailable r ⟨_, hs, by simp [hgoal]⟩
      rw [actionOf_eq hres] at this
      cases this
    · have := hcommit.unavailable r ⟨_, hs, by simp [hstale]⟩
      rw [actionOf_eq hres] at this
      cases this
    · exact hadj hnone
  push Not at hunable
  have hacquires : Acquires m decisions t r :=
    ⟨hdone.1, fun hact => hdone.2 (hactive.mpr hact), hunable.2.2⟩
  obtain ⟨K, hK, hrK⟩ := (hm.mem_component_iff r).mp hobs
  have hlen := hm.two_le_length hK hrK hunable.2.2
  refine Ensures.bind_lift (P := fun component => component = K)
    (Returns.of_eq_ok (item_eq_ok.mpr (lookup_componentByRobot hm hK hrK)) rfl)
    fun component hcomponent => ?_
  dsimp only
  rw [hcomponent, sorted_eq_self (hm.decomposes.increasing _ hK)]
  obtain ⟨hgroup, hcomplete⟩ := h.completable hm hcommit hK hlen hrK hdone.1
  refine Ensures.bind_lift (grantGroupHasSafeCompletion_spec hm hK hgroup (by simp)
    (hfit.imp id fun h => h K hK)) fun safe hsafe => ?_
  rw [hsafe.mpr hcomplete]
  have htick' : t'.tickId = t.tickId := by rw [h.frame]
  have hvalid : (t.freshRecord r).postInit = .ok () := by
    rw [GrantRecordFields.postInit_eq_ok]
    exact ⟨htick, le_rfl, le_rfl⟩
  refine Ensures.bind_lift (P := fun record => record.val = t.freshRecord r) ?_
    fun record hrec => ?_
  · rw [htick']
    exact Returns.of_eq_ok (validate_of_accepted hvalid) rfl
  exact Ensures.bind_set (Ensures.pure (h.acquired hacquires hrec))

/-- **Every resumed robot with an edge acquires a grant.** -/
lemma acquireGrants_spec (hm : m.WellFormed) {decisions : Dict RobotId Action} {t : GrantManager}
    (htick : 1 ≤ t.tickId) (hkeys : ∀ r, r ∈ decisions ↔ r ∈ m.snapshots)
    (hcommit : Committable m decisions t)
    (hfit : E ∨ ∀ K ∈ m.connectedComponents, NeutralFit K) :
    Ensures (acquireGrants config m decisions) t
      (fun acquired t' => Acquired m decisions t (sorted decisions.keys) acquired t')
      fun _ => E := by
  have hnd : (sorted decisions.keys).Nodup := sorted_nodup.mpr decisions.keys_nodup
  unfold acquireGrants
  refine Ensures.foldlM (fun pre acquired t' => Acquired m decisions t pre acquired t')
    ⟨rfl, by simp, by simp, fun _ _ => rfl⟩ fun pre r post acquired t' hl h => ?_
  have hr : r ∉ pre := by
    rw [hl, List.nodup_append] at hnd
    exact fun hmem => hnd.2.2 r hmem r List.mem_cons_self rfl
  have hobs : r ∈ m.snapshots := by
    rw [← hkeys r, AList.mem_keys, ← mem_sorted, hl]
    simp
  exact acquireGrant_spec hm htick hr hobs hcommit hfit h

end Acquire

/-! ## Fairness -/

section Commit

variable {config : MonitorConfig} {m : ConflictModel} {E : Prop}

/-- **The effect of the fairness update**: exactly the observed robots have a waiting age and a
previous action, which is the one decided. -/
structure Aged (config : MonitorConfig) (m : ConflictModel) (decisions : Dict RobotId Action)
    (t t' : GrantManager) : Prop where
  frame : t' = { t with waitingAges := t'.waitingAges, previousActions := t'.previousActions }
  ages : ∀ r, t'.waitingAges.lookup r = (m.snapshots.lookup r).map fun snapshot =>
    nextWaitingAge config snapshot (actionOf decisions r) ((t.waitingAges.lookup r).getD 0)
  actions : ∀ r, t'.previousActions.lookup r =
    if r ∈ m.snapshots then decisions.lookup r else none

/-- The fairness update ages every observed robot and forgets the others.

**Proof sketch.** First the disappeared robots are forgotten (`forgetDisappeared_spec`). The loop
then writes the age and the action of each observed robot once, and the invariant of the loop says
which robots it has passed. -/
lemma updateFairness_spec {decisions : Dict RobotId Action} {t : GrantManager}
    (hkeys : ∀ r, r ∈ m.snapshots → r ∈ decisions)
    (hactions : ∀ r, r ∈ t.previousActions ↔ r ∈ t.waitingAges) :
    Ensures (updateFairness config m decisions) t
      (fun _ t' => Aged config m decisions t t') fun _ => E := by
  have hnd : (sorted m.snapshots.keys).Nodup := sorted_nodup.mpr m.snapshots.keys_nodup
  have hmem : ∀ r, r ∈ sorted m.snapshots.keys ↔ r ∈ m.snapshots := fun r => by
    rw [mem_sorted, AList.mem_keys]
  unfold updateFairness
  refine (forgetDisappeared_spec m t).bind ?_
  rintro - t₁ ⟨ages, actions, rfl, hages, hactions₁⟩
  refine (Ensures.forM (l := sorted m.snapshots.keys) (fun pre t' => t' = { t with
      waitingAges := t'.waitingAges, previousActions := t'.previousActions } ∧
    (∀ r, t'.waitingAges.lookup r = if r ∈ pre then (m.snapshots.lookup r).map fun snapshot =>
      nextWaitingAge config snapshot (actionOf decisions r) ((t.waitingAges.lookup r).getD 0)
      else ages.lookup r) ∧
    ∀ r, t'.previousActions.lookup r =
      if r ∈ pre then decisions.lookup r else actions.lookup r)
    ⟨rfl, by simp, by simp⟩ ?_).mono ?_
  · rintro pre r post t' hl ⟨hframe, hage, haction⟩
    have hr : r ∉ pre := by
      rw [hl, List.nodup_append] at hnd
      exact fun hpre => hnd.2.2 r hpre r List.mem_cons_self rfl
    have hobs : r ∈ m.snapshots := (hmem r).mp (by rw [hl]; simp)
    obtain ⟨s, hs⟩ := Dict.exists_lookup hobs
    unfold updateRobotFairness
    refine Ensures.bind_lift (P := fun snapshot => snapshot = s)
      (Returns.of_eq_ok (item_eq_ok.mpr hs) rfl) fun snapshot hsnapshot => ?_
    refine Ensures.bind_lift (P := fun action => action = actionOf decisions r)
      (Returns.of_eq_ok (item_eq_ok.mpr (lookup_eq_actionOf (hkeys r hobs))) rfl)
      fun action haction' => ?_
    have hold : t'.waitingAges.lookup r = t.waitingAges.lookup r := by
      rw [hage, if_neg hr, hages, if_pos hobs]
    refine Ensures.of_modify ⟨by rw [hframe], fun r' => ?_, fun r' => ?_⟩
    · rw [Dict.lookup_insert_eq_ite]
      simp only [List.mem_append, List.mem_singleton]
      by_cases heq : r' = r
      · rw [if_pos heq, if_pos (Or.inr heq), heq, hs, hsnapshot, haction', hold]
        rfl
      · simp [heq, hage]
    · rw [Dict.lookup_insert_eq_ite, haction]
      simp only [List.mem_append, List.mem_singleton]
      by_cases heq : r' = r
      · rw [if_pos heq, if_pos (Or.inr heq), heq, haction', lookup_eq_actionOf (hkeys r hobs)]
      · simp [heq]
  · rintro - t' ⟨hframe, hage, haction⟩
    refine ⟨hframe, fun r => ?_, fun r => ?_⟩
    · rw [hage]
      split_ifs with hr
      · rfl
      · have hobs : r ∉ m.snapshots := fun h => hr ((hmem r).mpr h)
        rw [hages, if_neg hobs, AList.lookup_eq_none.mpr hobs]
        rfl
    · rw [haction, hactions₁]
      by_cases hobs : r ∈ m.snapshots
      · rw [if_pos ((hmem r).mpr hobs), if_pos hobs]
      · rw [if_neg fun h => hobs ((hmem r).mp h), if_neg hobs]
        split_ifs with hage'
        · rfl
        · exact AList.lookup_eq_none.mpr fun h => hage' ⟨(hactions r).mp h, hobs⟩

/-! ## Committing -/

/-- Closing a tick that returns clears its flag. -/
lemma closing_run_ok {α : Type} {x : Grants α} {t t' : GrantManager} {a : α}
    (hx : x.run t = .ok a t') : (closing x).run t = .ok a { t' with tickOpen := false } := by
  rw [EStateM.run, closing, hx]

/-- Closing a tick that raises clears its flag as well. -/
lemma closing_run_error {α : Type} {x : Grants α} {t t' : GrantManager} {e : PyException}
    (hx : x.run t = .error e t') :
    (closing x).run t = .error e { t' with tickOpen := false } := by
  rw [EStateM.run, closing, hx]

/-- Closing a tick after a method that returned or raised. -/
lemma ensures_closing {α : Type} {x : Grants α} {t : GrantManager} {Q : α → GrantManager → Prop}
    (h : Ensures x t (fun a t' => Q a { t' with tickOpen := false }) fun _ => E) :
    Ensures (closing x) t Q fun _ => E := by
  unfold Ensures at *
  cases hx : x.run t with
  | ok a t' =>
    rw [hx] at h
    rw [closing_run_ok hx]
    exact h
  | error e t' =>
    rw [hx] at h
    rw [closing_run_error hx]
    exact h

/-- Every robot keeps its grant, or has gained a fresh one while it was observed and available. -/
def Gains (m : ConflictModel) (t t' : GrantManager) : Prop :=
  ∀ r, t'.record r = t.record r ∨ r ∉ t.activeGrants ∧ r ∈ m.snapshots ∧ ¬ Unavailable m r ∧
    t'.record r = some (t.freshRecord r)

/-- A grant that is active afterwards was active before, or its robot is available. -/
lemma Gains.active {t t' : GrantManager} (h : Gains m t t') {r : RobotId}
    (hr : r ∈ t'.activeGrants) : r ∈ t.activeGrants ∨ ¬ Unavailable m r := by
  rcases h r with hkept | ⟨-, -, havail, -⟩
  · rw [mem_activeGrants_iff, hkept, ← mem_activeGrants_iff] at hr
    exact .inl hr
  · exact .inr havail

/-- Grants that are gained have consistent records. -/
lemma Gains.consistent {t t' : GrantManager} (h : Gains m t t') (htick : t'.tickId = t.tickId)
    (hcons : t.RecordsConsistent) : t'.RecordsConsistent := by
  intro r record hrecord
  rw [htick]
  rcases h r with hkept | ⟨-, -, -, hfresh⟩
  · exact hcons r record (hkept.symm.trans hrecord)
  · obtain rfl := Option.some.inj (hfresh.symm.trans hrecord)
    exact ⟨rfl, le_rfl⟩

/-- Acquisition changes the grants only, under any conflict model.

**Proof sketch.** By an invariant over the decisions. One acquisition skips its robot or inserts a
fresh record, and it inserts one only for an observed robot that is available and holds no grant. -/
lemma acquireGrants_frame (m : ConflictModel) (decisions : Dict RobotId Action) (t : GrantManager) :
    Ensures (acquireGrants config m decisions) t
      (fun _ t' => t' = { t with activeGrants := t'.activeGrants } ∧ Gains m t t')
      fun _ => True := by
  have hany : ∀ {α : Type} (x : Except PyException α), Returns x (fun _ => True) True :=
    fun x => Returns.of_runs (fun _ _ => trivial) (.inl trivial)
  unfold acquireGrants
  refine Ensures.foldlM (fun _ _ (t' : GrantManager) =>
    t' = { t with activeGrants := t'.activeGrants } ∧ Gains m t t')
    ⟨rfl, fun _ => .inl rfl⟩ fun _ r _ acquired t' _ h => ?_
  unfold acquireGrant
  refine Ensures.bind_get ?_
  split_ifs with hskip
  · exact Ensures.pure h
  refine Ensures.bind_lift (Returns.of_runs (Q := fun s => m.snapshots.lookup r = some s)
    (fun _ hs => item_eq_ok.mp hs) (.inl trivial)) fun snapshot hs => ?_
  split_ifs with hidle
  · exact Ensures.pure h
  refine Ensures.bind_lift (hany _) fun component _ => Ensures.bind_lift (hany _) fun safe _ => ?_
  split_ifs
  · exact Ensures.pure h
  refine Ensures.bind_lift (P := fun record => record.val = t'.freshRecord r)
    (Returns.of_runs (fun record hrecord => val_of_validate hrecord) (.inl trivial))
    fun record hrecord => Ensures.bind_set (Ensures.pure ⟨by rw [h.1], fun r' => ?_⟩)
  rw [GrantManager.record_insert]
  split_ifs with heq
  · subst heq
    have hnew : r' ∉ t'.activeGrants := fun hactive => hskip (.inr hactive)
    have hfree : r' ∉ t.activeGrants := by
      rcases h.2 r' with hkept | ⟨hfree, -⟩
      · rwa [← record_eq_none, ← hkept, record_eq_none]
      · exact hfree
    refine .inr ⟨hfree, Dict.mem_of_lookup hs, ?_, ?_⟩
    · rintro ⟨s, hs', hunavailable⟩
      obtain rfl := Option.some.inj (hs.symm.trans hs')
      exact hidle ((Bool.or_eq_true_iff.mp hunavailable).elim (.inr <| .inl ·) .inl)
    · rw [hrecord, h.1]
      rfl
  · exact h.2 r'

/-- The invariant after a commit: the fairness update restores it.

**Proof sketch.** The new ages are not negative, and ages and actions have the same keys, those of
the observed robots. -/
lemma Aged.consistent {decisions : Dict RobotId Action} {t t' : GrantManager}
    (h : Aged config m decisions t t') (hkeys : ∀ r, r ∈ m.snapshots → r ∈ decisions)
    (htick : 0 ≤ t.tickId) (hcons : t.RecordsConsistent)
    (hages : ∀ r age, t.waitingAges.lookup r = some age → 0 ≤ age) :
    ({ t' with tickOpen := false } : GrantManager).Consistent where
  closed := rfl
  tick_nonneg := by
    rw [h.frame]
    exact htick
  records := by
    rw [h.frame]
    exact hcons
  ages_nonneg := by
    intro r age hr
    change t'.waitingAges.lookup r = some age at hr
    rw [h.ages] at hr
    obtain ⟨s, -, rfl⟩ := Option.map_eq_some_iff.mp hr
    have hcap : 0 ≤ config.priorityWaitingAgeCapTicks :=
      (nonNegative_settings config).2.2.2.2.2.1
    have hold : 0 ≤ (t.waitingAges.lookup r).getD 0 := by
      cases hlook : t.waitingAges.lookup r with
      | none => exact le_rfl
      | some age => exact hages r age hlook
    unfold nextWaitingAge
    split_ifs <;> omega
  mem_actions := by
    intro r
    change r ∈ t'.previousActions ↔ r ∈ t'.waitingAges
    rw [← AList.lookup_isSome, ← AList.lookup_isSome, h.actions, h.ages, Option.isSome_map,
      AList.lookup_isSome]
    split_ifs with hobs
    · rw [AList.lookup_isSome]
      exact iff_of_true (hkeys r hobs) hobs
    · simp [hobs]

/-- The decisions of a preview that passed the check cover the observed robots. -/
lemma sameKeys_snapshots {decisions : Dict RobotId Action}
    (h : decisions.SameKeys m.snapshots.keys) : ∀ r, r ∈ decisions ↔ r ∈ m.snapshots := fun r => by
  rw [Dict.sameKeys_iff.mp h r, AList.mem_keys]

/-- **Committing restores the invariant** under any conflict model, and the previous actions are
then the committed decisions.

**Proof sketch.** Acquisition changes grants only (`acquireGrants_frame`), and the fairness update
restores the invariant and writes the actions that were committed (`updateFairness_spec`). -/
theorem commitTick_frame (m : ConflictModel) {preview : GrantDecisionPreview} {t : GrantManager}
    (ht : t.InTick) : Ensures (commitTick config m preview) t
      (fun result t' => t'.Consistent ∧ t'.tickId = t.tickId ∧
        (∀ r, t'.previousActions.lookup r = preview.val.decisions.lookup r) ∧
        (∀ r, t'.waitingAges.lookup r = (m.snapshots.lookup r).map fun snapshot =>
          nextWaitingAge config snapshot (actionOf preview.val.decisions r)
            ((t.waitingAges.lookup r).getD 0)) ∧
        result.val.releasedGrants = t.pendingReleases ∧ Gains m t t') fun _ => True := by
  unfold commitTick
  refine Ensures.bind_get (Ensures.bind_lift (Returns.guarded fun _ => trivial) fun _ _ => ?_)
  refine Ensures.bind_lift (Returns.guarded fun _ => trivial) fun _ hsame => ?_
  have hkeys := sameKeys_snapshots (not_not.mp hsame)
  refine ensures_closing ((acquireGrants_frame m _ t).bind fun acquired t₁ h₁ => ?_)
  have hactions : ∀ r, r ∈ t₁.previousActions ↔ r ∈ t₁.waitingAges := by
    rw [h₁.1]
    exact ht.mem_actions
  refine (updateFairness_spec (fun r => (hkeys r).mpr) hactions).bind fun _ t₂ h₂ => ?_
  refine Ensures.bind_get (Ensures.lift (Returns.of_runs (fun result hresult => ?_)
    (.inl trivial)))
  have hpos := ht.tick_pos
  have htick : t₁.tickId = t.tickId := by rw [h₁.1]
  refine ⟨h₂.consistent (fun r => (hkeys r).mpr) (by omega) (h₁.2.consistent htick ht.records) ?_,
    ?_, fun r => ?_, fun r => ?_, ?_, fun r => ?_⟩
  · rw [h₁.1]
    exact ht.ages_nonneg
  · change t₂.tickId = t.tickId
    rw [h₂.frame, ← htick]
  · change t₂.previousActions.lookup r = _
    rw [h₂.actions]
    split_ifs with hobs
    · rfl
    · exact (AList.lookup_eq_none.mpr fun h => hobs ((hkeys r).mp h)).symm
  · change t₂.waitingAges.lookup r = _
    rw [h₂.ages, h₁.1]
  · rw [val_of_validate hresult]
    change t₂.pendingReleases = _
    rw [h₂.frame, h₁.1]
  · change t₂.record r = _ ∨ _ ∧ _ ∧ _ ∧ t₂.record r = _
    rw [h₂.frame]
    exact h₁.2 r

/-- **The grants after a commit**: every acquisition succeeded and every other grant is kept. -/
structure Granted (m : ConflictModel) (decisions : Dict RobotId Action) (t t' : GrantManager) :
    Prop where
  gained : ∀ r, Acquires m decisions t r → t'.record r = some (t.freshRecord r)
  kept : ∀ r, ¬ Acquires m decisions t r → t'.record r = t.record r

/-- **Grants and Resume actions coincide** on the observed robots with an edge. -/
theorem Granted.active_iff {decisions : Dict RobotId Action} {t t' : GrantManager}
    (h : Granted m decisions t t') (hkeys : ∀ r, r ∈ decisions ↔ r ∈ m.snapshots)
    (hcommit : Committable m decisions t) {r : RobotId} (hr : r ∈ m.snapshots)
    (hadj : neighbours m.adjacency r ≠ []) :
    r ∈ t'.activeGrants ↔ actionOf decisions r = .resume := by
  by_cases hacq : Acquires m decisions t r
  · rw [mem_activeGrants_iff, h.gained r hacq, actionOf_eq hacq.1]
    exact iff_of_true ⟨_, rfl⟩ rfl
  · rw [mem_activeGrants_iff, h.kept r hacq, ← mem_activeGrants_iff]
    constructor
    · exact fun hactive => hcommit.holders r hactive hr hadj
    · intro hresume
      by_contra hnot
      refine hacq ⟨?_, hnot, hadj⟩
      rw [lookup_eq_actionOf ((hkeys r).mpr hr), hresume]

/-- **Committing** safe decisions gives a grant to every resumed robot with an edge, and lists the
new ones.

**Proof sketch.** The guards pass, acquisition gains what should be gained (`acquireGrants_spec`),
and the fairness update touches no grant. -/
theorem commitTick_spec (hm : m.WellFormed) {preview : GrantDecisionPreview} {t : GrantManager}
    (ht : t.InTick) (hkeys : ∀ r, r ∈ preview.val.decisions ↔ r ∈ m.snapshots)
    (hcommit : Committable m preview.val.decisions t)
    (hfit : E ∨ ∀ K ∈ m.connectedComponents, NeutralFit K) :
    Ensures (commitTick config m preview) t
      (fun result t' => Granted m preview.val.decisions t t' ∧
        ∀ r, r ∈ result.val.acquiredGrants ↔ Acquires m preview.val.decisions t r) fun _ => E := by
  have hsame : preview.val.decisions.SameKeys m.snapshots.keys :=
    Dict.sameKeys_iff.mpr fun r => by rw [hkeys r, AList.mem_keys]
  unfold commitTick
  refine Ensures.bind_get (Ensures.bind_lift (Returns.guarded fun h => ?_) fun _ _ => ?_)
  · rw [ht.opened] at h
    cases h
  refine Ensures.bind_lift (Returns.guarded fun h => absurd hsame h) fun _ _ => ?_
  refine ensures_closing ((acquireGrants_spec hm ht.tick_pos hkeys hcommit hfit).bind ?_)
  intro acquired t₁ h₁
  have hactions : ∀ r, r ∈ t₁.previousActions ↔ r ∈ t₁.waitingAges := by
    rw [h₁.frame]
    exact ht.mem_actions
  refine (updateFairness_spec (fun r => (hkeys r).mpr) hactions).bind fun _ t₂ h₂ => ?_
  have hrecord : ∀ r, ({ t₂ with tickOpen := false } : GrantManager).record r = t₁.record r := by
    intro r
    change t₂.record r = _
    rw [h₂.frame]
    rfl
  have hmem : ∀ r, Acquires m preview.val.decisions t r → r ∈ sorted preview.val.decisions.keys :=
    fun r hacq => by
      rw [mem_sorted, ← AList.mem_keys]
      exact Dict.mem_of_lookup hacq.1
  -- the preview passed the same check on its sources
  have hsources := not_not.mp (raiseIf_eq_ok.mp preview.property)
  refine Ensures.bind_get (Ensures.lift (Returns.of_eq_ok (validate_of_accepted ?_)
    ⟨⟨fun r hacq => ?_, fun r hacq => ?_⟩, fun r => ?_⟩))
  · exact raiseIf_of_not _ (not_not.mpr hsources)
  · rw [hrecord]
    exact h₁.gained r (hmem r hacq) hacq
  · rw [hrecord]
    exact h₁.kept r fun h => hacq h.2
  · exact (h₁.mem_acquired r).trans (and_iff_right_of_imp (hmem r))

/-- Revoking grants keeps the invariant of an open tick. -/
lemma revokeForSafety_frame (robotIds : List RobotId) {t : GrantManager} (ht : t.InTick) :
    Ensures (revokeForSafety robotIds) t
      (fun _ t' => t'.InTick ∧ t'.tickId = t.tickId ∧ t'.waitingAges = t.waitingAges ∧
        ∀ r ∈ t'.activeGrants, r ∈ t.activeGrants) fun _ => E := by
  unfold revokeForSafety
  refine Ensures.bind_get (Ensures.bind_lift (Returns.guarded fun h => ?_) fun _ _ => ?_)
  · rw [ht.opened] at h
    cases h
  refine Ensures.forM (fun _ (t' : GrantManager) => t'.InTick ∧ t'.tickId = t.tickId ∧
      t'.waitingAges = t.waitingAges ∧ ∀ r ∈ t'.activeGrants, r ∈ t.activeGrants)
    ⟨ht, rfl, rfl, fun _ hr => hr⟩ fun _ r _ t' _ h => ?_
  obtain ⟨hframe, -, -⟩ := t'.released_spec r .unsafeGeometry
  refine Ensures.of_modify ⟨h.1.mono hframe (h.1.records.released r _),
    hframe.tickId_eq.trans h.2.1, ?_, fun r' hr' => h.2.2.2 r' (released_active hr')⟩
  rw [← h.2.2.1, hframe]

end Commit

end GrantManager

end CollisionMonitor
