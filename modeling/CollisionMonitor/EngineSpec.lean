import CollisionMonitor.Engine
import CollisionMonitor.CommitSpec

set_option relaxedAutoImplicit false
set_option autoImplicit false

/-!
# The stages of a tick

What the pure stages of the engine return and when they raise: normalising snapshots, validating
the fleet, expanding violations to components, scoring, and solving the components.

## Main definitions

* `ConflictsUnder` — two robots conflict under an assignment of actions.
* `Validates` — the violations list exactly the conflicts of the decisions.
* `Proposes` — what solving the components proposes.

## Main results

* `validateGlobalSafety_spec` — global validation is exact.
* `scorePriorities_total` — scoring a represented tick never raises.
* `solveComponents_spec` — every component gets a safe obedient proposal, or Pause throughout.
-/

namespace CollisionMonitor

open Outcome

/-! ## Snapshots -/

section Snapshots

/-- Normalising returns iff the IDs are distinct and the receive times are not negative. -/
lemma normaliseSnapshots_eq_ok {snapshots ordered : List RobotSnapshot} :
    normaliseSnapshots snapshots = .ok ordered ↔
      ordered = sortedBy RobotSnapshot.deviceId snapshots ∧
        (ordered.Pairwise fun s t => s.deviceId < t.deviceId) ∧
        ∀ s ∈ ordered, 0 ≤ s.receivedAtMs := by
  unfold normaliseSnapshots
  rw [bind_eq_ok]
  simp only [bind_eq_ok, forM_raiseIf_eq_ok, not_lt]
  constructor
  · rintro ⟨_, hreceived, _, hne, heq⟩
    obtain rfl := Except.ok.inj heq
    exact ⟨rfl, pairwise_lt_of_zip_tail (pairwise_sortedBy _ _) hne, hreceived⟩
  · rintro ⟨rfl, hlt, hreceived⟩
    exact ⟨⟨⟩, hreceived, ⟨⟩, fun p hp => (rel_of_mem_zip_tail hlt p hp).ne, rfl⟩

/-- A list of snapshots as normalising leaves it. -/
structure Ordered (ordered : List RobotSnapshot) : Prop where
  increasing : ordered.Pairwise fun s t => s.deviceId < t.deviceId
  received : ∀ s ∈ ordered, 0 ≤ s.receivedAtMs

/-- Ordered snapshots are normal already. -/
lemma Ordered.normalise {ordered : List RobotSnapshot} (h : Ordered ordered) :
    normaliseSnapshots ordered = .ok ordered :=
  normaliseSnapshots_eq_ok.mpr
    ⟨(sortedBy_eq_self _ (h.increasing.imp fun h => h.le)).symm, h.increasing, h.received⟩

variable {config : MonitorConfig} {nowMs : ℤ}

/-- The snapshots as a tick sees them: in the order of their IDs, with derived staleness. -/
def observed (config : MonitorConfig) (nowMs : ℤ) (snapshots : List RobotSnapshot) :
    List RobotSnapshot :=
  deriveStaleness config nowMs (sortedBy RobotSnapshot.deviceId snapshots)

/-- A tick sees each given robot once, changed in its stale flag only. -/
lemma mem_observed {snapshots : List RobotSnapshot} {s : RobotSnapshot} :
    s ∈ observed config nowMs snapshots ↔ ∃ t ∈ snapshots, s = { t with
      stale := t.stale || decide (nowMs - t.receivedAtMs ≥ config.staleLimitMs) } := by
  unfold observed deriveStaleness
  rw [List.mem_map]
  simp only [mem_sortedBy, eq_comm]

/-- Observation keeps the IDs and sorts them. -/
lemma map_deviceId_observed {snapshots : List RobotSnapshot} :
    (observed config nowMs snapshots).map RobotSnapshot.deviceId =
      (sortedBy RobotSnapshot.deviceId snapshots).map RobotSnapshot.deviceId := by
  unfold observed deriveStaleness
  rw [List.map_map]
  rfl

/-- **Normalising** returns on distinct IDs and non-negative receive times, and staleness is
derived on the ordered list. -/
lemma normaliseSnapshots_spec (config : MonitorConfig) (nowMs : ℤ)
    {snapshots : List RobotSnapshot} {P : Prop}
    (htotal : P ∨ (snapshots.map RobotSnapshot.deviceId).Nodup ∧
      ∀ s ∈ snapshots, 0 ≤ s.receivedAtMs) :
    Returns (normaliseSnapshots snapshots) (fun normalised =>
      deriveStaleness config nowMs normalised = observed config nowMs snapshots ∧
        Ordered (observed config nowMs snapshots)) P := by
  refine Returns.of_runs (fun normalised hok => ?_) (htotal.imp id fun ⟨hnd, hreceived⟩ => ?_)
  · obtain ⟨rfl, hlt, hreceived⟩ := normaliseSnapshots_eq_ok.mp hok
    refine ⟨rfl, ?_, fun s hs => ?_⟩
    · unfold observed deriveStaleness
      rw [List.pairwise_map]
      exact hlt
    · obtain ⟨t, ht, rfl⟩ := mem_observed.mp hs
      exact hreceived t ((mem_sortedBy _ _).mpr ht)
  · exact ⟨_, normaliseSnapshots_eq_ok.mpr ⟨rfl, pairwise_sortedBy_lt hnd, fun s hs =>
      hreceived s ((mem_sortedBy _ _).mp hs)⟩⟩

end Snapshots

/-! ## Global validation -/

section Validate

variable {E : Type} {geometry : Geometry E} {ordered : List RobotSnapshot}

/-- The robots `i < j` are observed and their envelopes conflict under the assignment. -/
def ConflictsUnder (geometry : Geometry E) (ordered : List RobotSnapshot) (x : RobotId → Action)
    (i j : RobotId) : Prop :=
  ∃ s ∈ ordered, ∃ t ∈ ordered, s.deviceId = i ∧ t.deviceId = j ∧ i < j ∧
    geometry.Conflict s (x i) t (x j)

/-- **The violations of the decisions** are exactly their conflicts. -/
structure Validates (geometry : Geometry E) (ordered : List RobotSnapshot)
    (decisions : Dict RobotId Action) (violations : List GlobalSafetyViolation) : Prop where
  mem_decisions : ∀ r, r ∈ decisions ↔ ∃ s ∈ ordered, s.deviceId = r
  envelope : ∀ s ∈ ordered, ∃ e, geometry.actionEnvelope s (actionOf decisions s.deviceId) = .ok e
  mem_iff : ∀ i j, (i, j) ∈ violations.map GlobalSafetyViolation.robotPair ↔
    ConflictsUnder geometry ordered (actionOf decisions) i j
  actions : ∀ v ∈ violations, decisions.lookup v.robotI = some v.actionI ∧
    decisions.lookup v.robotJ = some v.actionJ

/-- There is no violation iff no two robots conflict. -/
lemma Validates.eq_nil_iff {decisions : Dict RobotId Action}
    {violations : List GlobalSafetyViolation}
    (h : Validates geometry ordered decisions violations) :
    violations = [] ↔ ∀ i j, ¬ ConflictsUnder geometry ordered (actionOf decisions) i j := by
  constructor
  · rintro rfl i j hconf
    cases (h.mem_iff i j).mpr hconf
  · intro hnone
    by_contra hne
    obtain ⟨v, hv⟩ := List.exists_mem_of_ne_nil _ hne
    exact hnone v.robotI v.robotJ ((h.mem_iff _ _).mp (List.mem_map.mpr ⟨v, hv, rfl⟩))

/-- The comparison of one pair finds a violation, with the actions of its robots, iff their
envelopes conflict. -/
lemma checkPair_spec {decisions : Dict RobotId Action} {envelopes : Dict RobotId E}
    {s t : RobotSnapshot} {e f : E}
    (hs : decisions.lookup s.deviceId = some (actionOf decisions s.deviceId))
    (ht : decisions.lookup t.deviceId = some (actionOf decisions t.deviceId))
    (he : geometry.actionEnvelope s (actionOf decisions s.deviceId) = .ok e)
    (hf : geometry.actionEnvelope t (actionOf decisions t.deviceId) = .ok f)
    (hel : envelopes.lookup s.deviceId = some e) (hfl : envelopes.lookup t.deviceId = some f) :
    ∃ found, checkPair geometry decisions envelopes (s, t) = .ok found ∧
      (found.isSome = true ↔ geometry.Conflict s (actionOf decisions s.deviceId) t
        (actionOf decisions t.deviceId)) ∧
      ∀ v, found = some v → v.robotPair = (s.deviceId, t.deviceId) ∧
        decisions.lookup v.robotI = some v.actionI ∧
        decisions.lookup v.robotJ = some v.actionJ := by
  rw [Geometry.conflict_iff he hf]
  unfold checkPair
  dsimp only
  rw [item_eq_ok.mpr hel, ok_bind, item_eq_ok.mpr hfl, ok_bind, item_eq_ok.mpr hs,
    item_eq_ok.mpr ht]
  split_ifs with hconf
  · refine ⟨_, rfl, by simp [hconf], fun v hv => ?_⟩
    obtain rfl := Option.some.inj hv
    exact ⟨rfl, hs, ht⟩
  · exact ⟨none, rfl, by simp [hconf], fun v hv => by cases hv⟩

/-- **Global validation is exact.** It returns on decisions for exactly the observed robots whose
envelopes can be built, and lists their conflicts.

**Proof sketch.** The dictionary of envelopes has that of every robot under its action. Comparing
one pair records a violation exactly if the two envelopes conflict (`checkPair_spec`), and the loop
goes through all pairs in order. -/
theorem validateGlobalSafety_spec {decisions : Dict RobotId Action} {P : Prop}
    (hord : Ordered ordered)
    (htotal : P ∨ (∀ r, r ∈ decisions ↔ ∃ s ∈ ordered, s.deviceId = r) ∧
      ∀ s ∈ ordered, ∃ e, geometry.actionEnvelope s (actionOf decisions s.deviceId) = .ok e) :
    Returns (validateGlobalSafety geometry ordered decisions)
      (Validates geometry ordered decisions) P := by
  have hlt := hord.increasing
  unfold validateGlobalSafety
  rw [hord.normalise, ok_bind]
  have hkeysIff : decisions.SameKeys (ordered.map RobotSnapshot.deviceId) ↔
      ∀ r, r ∈ decisions ↔ ∃ s ∈ ordered, s.deviceId = r := by
    rw [Dict.sameKeys_iff]
    simp only [List.mem_map]
  refine (Returns.guarded fun h => ?_).bind fun _ hkeys => ?_
  · exact htotal.resolve_right fun ht => h (hkeysIff.mpr ht.1)
  rw [not_not, hkeysIff] at hkeys
  have hlook : ∀ s ∈ ordered, decisions.lookup s.deviceId =
      some (actionOf decisions s.deviceId) := fun s hs =>
    lookup_eq_actionOf ((hkeys _).mpr ⟨s, hs, rfl⟩)
  have hitem : ∀ s ∈ ordered, (do geometry.actionEnvelope s (← item decisions s.deviceId)) =
      geometry.actionEnvelope s (actionOf decisions s.deviceId) := fun s hs => by
    rw [item_eq_ok.mpr (hlook s hs), ok_bind]
  refine (Returns.of_runs (x := Dict.collect RobotSnapshot.deviceId _ ordered)
    (Q := fun envelopes => ∀ s ∈ ordered, ∃ e, geometry.actionEnvelope s
      (actionOf decisions s.deviceId) = .ok e ∧ envelopes.lookup s.deviceId = some e)
    (fun envelopes hok s hs => ?_) ?_).bind fun envelopes henv => ?_
  · obtain ⟨e, he, hel⟩ := Dict.lookup_collect hok
      (List.pairwise_map.mpr (hlt.imp fun h => h.ne)) hs
    exact ⟨e, (hitem s hs).symm.trans he, hel⟩
  · refine htotal.imp id fun ht => Dict.collect_total _ _ _ fun s hs => ?_
    obtain ⟨e, he⟩ := ht.2 s hs
    exact ⟨e, (hitem s hs).trans he⟩
  -- every pair is compared, and a violation is recorded iff its envelopes conflict
  have hcheck : ∀ s ∈ ordered, ∀ t ∈ ordered, ∃ found,
      checkPair geometry decisions envelopes (s, t) = .ok found ∧
        (found.isSome = true ↔ geometry.Conflict s (actionOf decisions s.deviceId) t
          (actionOf decisions t.deviceId)) ∧
        ∀ v, found = some v → v.robotPair = (s.deviceId, t.deviceId) ∧
          decisions.lookup v.robotI = some v.actionI ∧
          decisions.lookup v.robotJ = some v.actionJ := by
    intro s hs t ht
    obtain ⟨e, he, hel⟩ := henv s hs
    obtain ⟨f, hf, hfl⟩ := henv t ht
    exact checkPair_spec (hlook s hs) (hlook t ht) he hf hel hfl
  obtain ⟨found, hfound⟩ := mapM_total (f := checkPair geometry decisions envelopes)
    (l := combinations ordered) fun p hp => by
      obtain ⟨hs, ht, -⟩ := (mem_combinations hlt).mp hp
      exact (hcheck _ hs _ ht).imp fun _ h => h.1
  rw [hfound, ok_bind]
  have hmem : ∀ v, v ∈ found.filterMap id ↔ some v ∈ found := fun v => by simp
  refine Returns.ok ⟨hkeys, fun s hs => (henv s hs).imp fun e he => he.1, fun i j => ?_,
    fun v hv => ?_⟩
  · rw [List.mem_map]
    constructor
    · rintro ⟨v, hv, hids⟩
      obtain ⟨⟨s, t⟩, hp, hok⟩ := exists_of_mem_mapM hfound _ ((hmem v).mp hv)
      obtain ⟨hs, ht, hst⟩ := (mem_combinations hlt).mp hp
      obtain ⟨_, hok', hconf, hpair⟩ := hcheck s hs t ht
      obtain rfl := Except.ok.inj (hok.symm.trans hok')
      obtain ⟨rfl, rfl⟩ := Prod.mk.inj ((hpair v rfl).1.symm.trans hids)
      exact ⟨s, hs, t, ht, rfl, rfl, hst, hconf.mp rfl⟩
    · rintro ⟨s, hs, t, ht, rfl, rfl, hst, hconf⟩
      have hp := (mem_combinations hlt).mpr ⟨hs, ht, hst⟩
      obtain ⟨found', hfound', hok⟩ := exists_mem_of_mapM hfound _ hp
      obtain ⟨_, hok', hconf', hpair⟩ := hcheck s hs t ht
      obtain rfl := Except.ok.inj (hok.symm.trans hok')
      obtain ⟨v, rfl⟩ := Option.isSome_iff_exists.mp (hconf'.mpr hconf)
      exact ⟨v, (hmem v).mpr hfound', (hpair v rfl).1⟩
  · obtain ⟨⟨s, t⟩, hp, hok⟩ := exists_of_mem_mapM hfound _ ((hmem v).mp hv)
    obtain ⟨hs, ht, -⟩ := (mem_combinations hlt).mp hp
    obtain ⟨_, hok', -, hpair⟩ := hcheck s hs t ht
    obtain rfl := Except.ok.inj (hok.symm.trans hok')
    exact (hpair v rfl).2

end Validate

/-! ## Calls of collaborators and managers -/

section Lift

variable {ω σ γ α : Type} {state : EngineState ω σ γ}

/-- A collaborator changes its own state only. -/
lemma ensures_inWorld {x : EStateM PyException ω α} {Q : α → Prop} {P : Prop}
    (h : Ensures x state.world (fun a _ => Q a) fun _ => P) :
    Ensures (inWorld x) state (fun a state' => Q a ∧ ∃ world, state' = { state with world })
      (fun state' => P ∧ ∃ world, state' = { state with world }) :=
  (h.zoom.mono fun _ _ ⟨world, hs, ha⟩ => ⟨ha, world, hs⟩).weaken
    fun _ ⟨world, hs, hP⟩ => ⟨hP, world, hs⟩

/-- A manager call changes the store only. -/
lemma ensures_inStore {x : EStateM PyException σ α} {Q : α → σ → Prop} {P : σ → Prop}
    (h : Ensures x state.store Q P) :
    Ensures (inStore x) state
      (fun a state' => ∃ store, state' = { state with store } ∧ Q a store)
      (fun state' => ∃ store, state' = { state with store } ∧ P store) :=
  h.zoom

end Lift

/-! ## Priorities -/

section Score

variable {config : MonitorConfig} {m : ConflictModel} {nowMs : ℤ}

/-- **Scoring a tick never raises**, and gives each observed robot its own priority.

**Proof sketch.** Every observed robot has a non-negative age, so each component can be scored
(`scoreComponentPriorities_total`). The loop collects the scores of the components, which together
are those of the observed robots. -/
theorem scorePriorities_total (hm : m.WellFormed)
    (hids : ∀ r s, m.snapshots.lookup r = some s → s.deviceId = r) (hnow : 0 ≤ nowMs)
    {waitingAges : Dict RobotId ℤ} (hages : ∀ r age, waitingAges.lookup r = some age → 0 ≤ age)
    (activeGrants : Dict RobotId GrantRecord) :
    ∃ scores, scorePriorities config m waitingAges activeGrants nowMs = .ok scores ∧
      (∀ r, r ∈ scores ↔ r ∈ m.snapshots) ∧
      ∀ r p, scores.lookup r = some p → p.val.robotId = r := by
  unfold scorePriorities
  dsimp only
  set ages := Dict.ofKeys m.snapshots.keys fun r => (waitingAges.lookup r).getD 0 with hagesDef
  have hage : ∀ r ∈ m.snapshots, ∃ age, ages.lookup r = some age ∧ 0 ≤ age := by
    intro r hr
    refine ⟨_, Dict.lookup_ofKeys_of_mem (AList.mem_keys.mp hr), ?_⟩
    cases hlook : waitingAges.lookup r with
    | none => exact le_rfl
    | some age => exact hages r age hlook
  obtain ⟨scores, hok, hmem, hid⟩ := (Returns.foldlM (E := False)
    (l := m.connectedComponents) (b := (∅ : Dict RobotId PriorityBreakdown))
    (f := fun scores component => do
      return scores.update (← scoreComponentPriorities config component m nowMs ages
        activeGrants.keys))
    (fun pre scores => (∀ r, r ∈ scores ↔ ∃ K ∈ pre, r ∈ K) ∧
      ∀ r p, scores.lookup r = some p → p.val.robotId = r) (by simp) (by
        rintro pre K post scores hl ⟨hmem, hid⟩
        have hK : K ∈ m.connectedComponents := by simp [hl]
        obtain ⟨new, hnew, hnewMem, hnewId⟩ := scoreComponentPriorities_total config
          hm.pairs_nodup hids hnow activeGrants.keys (hm.decomposes.nonempty K hK) (hm.nodup hK)
          (fun r hr => hm.mem_snapshots hK hr) (fun r hr => hage r (hm.mem_snapshots hK hr))
        rw [hnew, ok_bind]
        refine Returns.ok ⟨fun r => ?_, fun r p hp => ?_⟩
        · rw [Dict.mem_update, hnewMem, hmem]
          simp [or_comm, or_and_right, exists_or]
        · rw [Dict.lookup_update] at hp
          cases hlook : new.lookup r with
          | none =>
            rw [hlook, Option.none_or] at hp
            exact hid r p hp
          | some q =>
            rw [hlook, Option.some_or] at hp
            rw [← Option.some.inj hp]
            exact (hnewId r q hlook).1)).exists_ok
  refine ⟨scores, hok, fun r => ?_, hid⟩
  rw [hmem, hm.mem_component_iff]

end Score

/-! ## Solving the components -/

section Solve

variable {config : MonitorConfig} {m : ConflictModel} {hard : Dict RobotId Action}
  {K : List RobotId} {P : Prop}

/-- The hard actions of a component combine the unavailable robots' Pause with the grants.

**Proof sketch.** The loop starts from the grants of the component and overwrites the unavailable
robots (the invariant of `Returns.foldlM`). A robot with a grant is available, so the two kinds of
entries do not meet. -/
lemma componentHardAssignments_spec (hobs : ∀ r ∈ K, r ∈ m.snapshots)
    (havail : ∀ r ∈ hard, ¬ Unavailable m r) :
    ∃ d, componentHardAssignments K m hard = .ok d ∧ CombinesHard m hard K d := by
  unfold componentHardAssignments
  set granted : Dict RobotId Action := Dict.ofPairs (K.filterMap fun r =>
    (hard.lookup r).map fun a => (r, a)) with hgranted
  have hfst : ∀ p ∈ K.filterMap (fun r => (hard.lookup r).map fun a => (r, a)),
      p.1 ∈ K ∧ hard.lookup p.1 = some p.2 := by
    intro p hp
    obtain ⟨r, hr, heq⟩ := List.mem_filterMap.mp hp
    obtain ⟨a, ha, rfl⟩ := Option.map_eq_some_iff.mp heq
    exact ⟨hr, ha⟩
  have hlookup : ∀ r a, granted.lookup r = some a ↔ r ∈ K ∧ hard.lookup r = some a := by
    intro r a
    constructor
    · exact fun h => hfst _ (Dict.mem_of_lookup_ofPairs h)
    · rintro ⟨hr, hra⟩
      have hmem : r ∈ granted := by
        rw [hgranted, Dict.mem_ofPairs, List.mem_map]
        exact ⟨(r, a), List.mem_filterMap.mpr ⟨r, hr, by rw [hra]; rfl⟩, rfl⟩
      obtain ⟨b, hb⟩ := Dict.exists_lookup hmem
      rw [hb, ← hra, (hfst _ (Dict.mem_of_lookup_ofPairs hb)).2]
  obtain ⟨d, hok, hd⟩ := (Returns.foldlM (E := False) (l := K) (b := granted)
    (f := fun hardAssignments robotId => do
      let snapshot ← item m.snapshots robotId
      return if snapshot.stale || snapshot.atGoal then hardAssignments.insert robotId .pause
        else hardAssignments)
    (fun pre d => ∀ r, d.lookup r =
      if r ∈ pre ∧ Unavailable m r then some .pause else granted.lookup r) (by simp) (by
        intro pre r post d hl hd
        obtain ⟨s, hs⟩ := Dict.exists_lookup (hobs r (by simp [hl]))
        have hu : Unavailable m r ↔ (s.stale || s.atGoal) = true := by simp [Unavailable, hs]
        rw [item_eq_ok.mpr hs, ok_bind]
        refine Returns.ok fun r' => ?_
        simp only [List.mem_append, List.mem_singleton]
        split_ifs with hstale hmem hmem
        · rw [Dict.lookup_insert_eq_ite, hd]
          by_cases heq : r' = r
          · rw [if_pos heq]
          · rw [if_neg heq, if_pos ⟨hmem.1.resolve_right heq, hmem.2⟩]
        · rw [Dict.lookup_insert_eq_ite, hd, if_neg, if_neg]
          · exact fun h => hmem ⟨.inl h.1, h.2⟩
          · rintro rfl
            exact hmem ⟨.inr rfl, hu.mpr hstale⟩
        · rw [hd, if_pos]
          refine ⟨hmem.1.resolve_right ?_, hmem.2⟩
          rintro rfl
          exact hstale (hu.mp hmem.2)
        · rw [hd, if_neg]
          exact fun h => hmem ⟨.inl h.1, h.2⟩)).exists_ok
  refine ⟨d, hok, fun r a => ?_⟩
  rw [hd]
  by_cases hr : r ∈ K
  · by_cases hu : Unavailable m r
    · have hnone : hard.lookup r = none := AList.lookup_eq_none.mpr fun h => havail r h hu
      simp [hr, hu, hnone, eq_comm]
    · rw [if_neg fun h => hu h.2, hlookup]
      simp [hr, hu]
  · rw [if_neg fun h => hr h.1, hlookup]
    simp [hr]

/-- The action of an isolated robot: Resume unless it is unavailable. -/
def isolatedAction (m : ConflictModel) (r : RobotId) : Action :=
  if Unavailable m r then .pause else .resume

/-- **What solving has decided** once the components in `done` are solved: isolated robots follow
the policy, and each solved component has a safe obedient proposal or is paused. -/
structure Proposes (m : ConflictModel) (hard : Dict RobotId Action) (done : List (List RobotId))
    (solved : Solving) : Prop where
  mem_decisions : ∀ r, r ∈ solved.decisions ↔ r ∈ m.isolatedRobots ∨ ∃ K ∈ done, r ∈ K
  mem_sources : ∀ r, r ∈ solved.sources ↔ r ∈ m.isolatedRobots ∨ ∃ K ∈ done, r ∈ K
  isolated : ∀ r ∈ m.isolatedRobots, solved.decisions.lookup r = some (isolatedAction m r) ∧
    solved.sources.lookup r = some .policy
  proposal : ∀ K ∈ done, 2 ≤ K.length → Proposal m hard K (actionOf solved.decisions)

/-- The isolated robots get their policy actions.

**Proof sketch.** The invariant of the loop says that the robots passed have their policy action and
no other robot has an entry. -/
lemma decideIsolated_spec (hard : Dict RobotId Action)
    (hobs : ∀ r ∈ m.isolatedRobots, r ∈ m.snapshots) :
    ∃ solved, m.isolatedRobots.foldlM (decideIsolated m) {} = .ok solved ∧
      Proposes m hard [] solved := by
  obtain ⟨solved, hok, hdec, hsrc⟩ := (Returns.foldlM (E := False) (f := decideIsolated m)
    (l := m.isolatedRobots) (b := {})
    (fun pre solved => (∀ r, solved.decisions.lookup r =
        if r ∈ pre then some (isolatedAction m r) else none) ∧
      ∀ r, solved.sources.lookup r = if r ∈ pre then some .policy else none) (by simp) (by
        rintro pre r post solved hl ⟨hdec, hsrc⟩
        obtain ⟨s, hs⟩ := Dict.exists_lookup (hobs r (by simp [hl]))
        have haction : (if s.stale || s.atGoal then Action.pause else .resume) =
            isolatedAction m r := if_congr (by simp [Unavailable, hs]) rfl rfl
        unfold decideIsolated
        rw [item_eq_ok.mpr hs, ok_bind, haction]
        refine Returns.ok ⟨fun r' => ?_, fun r' => ?_⟩
        · rw [Dict.lookup_insert_eq_ite, hdec]
          by_cases heq : r' = r
          · simp [heq]
          · simp [heq]
        · rw [Dict.lookup_insert_eq_ite, hsrc]
          by_cases heq : r' = r
          · simp [heq]
          · simp [heq])).exists_ok
  refine ⟨solved, hok, fun r => ?_, fun r => ?_, fun r hr => ?_, by simp⟩
  · rw [← AList.lookup_isSome, hdec]
    simp
  · rw [← AList.lookup_isSome, hsrc]
    simp
  · rw [hdec, hsrc, if_pos hr, if_pos hr]
    exact ⟨rfl, rfl⟩

/-- Taking the decisions of a component keeps what was decided about the others.

**Proof sketch.** The update writes the entries of the component and no other. Components are
disjoint, so the earlier proposals are untouched, and the isolated robots are not in the
component. -/
lemma Proposes.take (hm : m.WellFormed) {done : List (List RobotId)} {solved : Solving}
    (h : Proposes m hard done solved) (hdone : ∀ L ∈ done, L ∈ m.connectedComponents)
    (hK : K ∈ m.connectedComponents) (hlen : 2 ≤ K.length) (hnew : ∀ L ∈ done, L ≠ K)
    (decisions : Dict RobotId Action) (hkeys : ∀ r, r ∈ decisions ↔ r ∈ K)
    (hprop : Proposal m hard K (actionOf decisions)) (source : DecisionSource)
    (diagnostic : ComponentDiagnostic) :
    Proposes m hard (done ++ [K]) (solved.take decisions source diagnostic) := by
  have hsrcKeys : ∀ r, r ∈ Dict.ofKeys decisions.keys (fun _ => source) ↔ r ∈ K := fun r => by
    rw [Dict.mem_ofKeys, ← AList.mem_keys, hkeys]
  have hin : ∀ r ∈ K, (solved.take decisions source diagnostic).decisions.lookup r =
      decisions.lookup r := fun r hr => Dict.lookup_update_of_mem ((hkeys r).mpr hr)
  have hout : ∀ r, r ∉ K → (solved.take decisions source diagnostic).decisions.lookup r =
        solved.decisions.lookup r ∧
      (solved.take decisions source diagnostic).sources.lookup r = solved.sources.lookup r :=
    fun r hr => ⟨Dict.lookup_update_of_notMem fun hmem => hr ((hkeys r).mp hmem),
      Dict.lookup_update_of_notMem fun hmem => hr ((hsrcKeys r).mp hmem)⟩
  refine ⟨fun r => ?_, fun r => ?_, fun r hr => ?_, fun L hL hlenL => ?_⟩
  · change r ∈ solved.decisions.update decisions ↔ _
    rw [Dict.mem_update, h.mem_decisions, hkeys]
    simp only [List.mem_append, List.mem_singleton, or_and_right, exists_or, exists_eq_left]
    rw [or_comm, or_assoc]
  · change r ∈ solved.sources.update _ ↔ _
    rw [Dict.mem_update, h.mem_sources, hsrcKeys]
    simp only [List.mem_append, List.mem_singleton, or_and_right, exists_or, exists_eq_left]
    rw [or_comm, or_assoc]
  · have hrK : r ∉ K := fun hrK => (hm.mem_isolated_iff hK hrK).mp hr hlen
    rw [(hout r hrK).1, (hout r hrK).2]
    exact h.isolated r hr
  · have hcongr : ∀ {x y : RobotId → Action}, (∀ r ∈ L, x r = y r) → Proposal m hard L x →
        Proposal m hard L y := by
      intro x y hxy hx
      rcases hx with hsafe | hpause
      · exact .inl (safe_obeys_congr hxy hsafe)
      · exact .inr fun r hr => by rw [← hxy r hr, hpause r hr]
    rcases List.mem_append.mp hL with hL | hL
    · refine hcongr (fun r hr => ?_) (h.proposal L hL hlenL)
      have hrK : r ∉ K := fun hrK => hnew L hL (hm.component_unique (hdone L hL) hK hr hrK)
      rw [actionOf, actionOf, (hout r hrK).1]
    · obtain rfl := List.mem_singleton.mp hL
      exact hcongr (fun r hr => by rw [actionOf, actionOf, hin r hr]) hprop

variable {G : Type} {geometry : Geometry G} {cpSat : ℕ → Backend}
  {priorities : Dict RobotId PriorityBreakdown}

/-- Every answer of the solver is one that CP-SAT is documented to give. -/
def TrustworthySolver (cpSat : ℕ → Backend) : Prop :=
  ∀ call solve, cpSat call = some solve → ∀ model, (solve model).Trustworthy model

/-- A component with several robots is not an isolated robot. -/
lemma not_isolatedComponent (hlen : 2 ≤ K.length) : ¬ isolatedComponent m K = true := by
  unfold isolatedComponent
  split
  · simp at hlen
  · simp

/-- **Solving one component.**

**Proof sketch.** By cases as in the source. A component of one robot has been decided before.
Otherwise the exact result is taken if it is feasible, then the heuristic one, and both are
admissible (`optimise_decisions`, `solve_spec`). The remaining case pauses all robots. -/
lemma solveComponent_spec (hm : m.WellFormed) (havail : ∀ r ∈ hard, ¬ Unavailable m r)
    {done : List (List RobotId)} {solved : Solving} {call : ℕ}
    (h : Proposes m hard done solved) (hdone : ∀ L ∈ done, L ∈ m.connectedComponents)
    (hK : K ∈ m.connectedComponents) (hnew : ∀ L ∈ done, L ≠ K)
    (htotal : P ∨ Scored K priorities ∧ TrustworthySolver cpSat) :
    Ensures (solveComponent config (shippedCollaborators config geometry cpSat) m priorities hard
      solved K) call (fun solved' _ => Proposes m hard (done ++ [K]) solved') fun _ => P := by
  unfold solveComponent
  by_cases hlen : 2 ≤ K.length
  swap
  · -- an isolated robot was decided before
    obtain ⟨r, rfl, hr⟩ := hm.eq_singleton hK hlen
    rw [if_pos (by simpa [isolatedComponent] using hr)]
    refine Ensures.pure ⟨fun r' => ?_, fun r' => ?_, h.isolated, fun L hL hlenL => ?_⟩
    · rw [h.mem_decisions]
      simp only [List.mem_append, List.mem_singleton, or_and_right, exists_or, exists_eq_left]
      exact ⟨fun h => h.imp_right .inl, fun h => h.elim .inl (·.elim .inr (· ▸ .inl hr))⟩
    · rw [h.mem_sources]
      simp only [List.mem_append, List.mem_singleton, or_and_right, exists_or, exists_eq_left]
      exact ⟨fun h => h.imp_right .inl, fun h => h.elim .inl (·.elim .inr (· ▸ .inl hr))⟩
    · rcases List.mem_append.mp hL with hL | hL
      · exact h.proposal L hL hlenL
      · rw [List.mem_singleton.mp hL] at hlenL
        exact absurd hlenL hlen
  rw [if_neg (not_isolatedComponent hlen)]
  obtain ⟨d, hd, hcombines⟩ := componentHardAssignments_spec (K := K)
    (fun r hr => hm.mem_snapshots hK hr) havail
  refine Ensures.bind_lift (Returns.of_eq_ok hd rfl) fun _ hd' => ?_
  subst hd'
  have htake := h.take hm hdone hK hlen hnew
  -- an exact result that is feasible was checked by the optimiser
  refine Ensures.bind (Q := fun (exactResult : Option OptimisationResult) _ =>
    ∀ result ∈ exactResult, result.val.feasible = true → (∀ r, r ∈ result.val.decisions ↔ r ∈ K) ∧
      Admissible (componentConstraints K m) d (actionOf result.val.decisions)) ?_
    fun exactResult call' hexact => ?_
  · split_ifs
    · refine Ensures.map (Ensures.bind_get (Ensures.bind_set (Ensures.lift
        (Returns.of_runs (fun result hok result' hmem => ?_) ?_))))
      · obtain rfl := Option.some.inj hmem
        exact optimise_decisions hok
      · exact htotal.imp id fun ht => optimise_total (hcombines.input hm hK ht.1) ht.1.fit
          fun solve hsolve => ht.2 _ solve hsolve
    · exact Ensures.pure (by simp)
  split
  · rename_i result hfilter
    obtain ⟨hmem, hfeas⟩ := Option.filter_eq_some_iff.mp hfilter
    obtain ⟨hkeys, hadm⟩ := hexact result hmem hfeas
    exact Ensures.pure (htake _ hkeys (.inl (hcombines.admissible_iff.mp hadm)) _ _)
  · refine Ensures.bind (Q := fun (result : HeuristicResult) _ =>
      Solves K (componentConstraints K m) d result.val) ?_ fun result _ hsolves => ?_
    · refine Ensures.lift (Returns.of_runs (fun result hok => solve_spec hok) ?_)
      exact htotal.imp id fun ht => solve_total (hcombines.input hm hK ht.1) ht.1.fit
    · dsimp only
      split_ifs with hfeas
      · obtain ⟨hkeys, hadm⟩ := hsolves.decides hfeas
        exact Ensures.pure (htake _ hkeys (.inl (hcombines.admissible_iff.mp hadm)) _ _)
      · refine Ensures.pure (htake _ (fun r => Dict.mem_ofKeys) (.inr fun r hr => ?_) _ _)
        exact actionOf_eq (Dict.lookup_ofKeys_of_mem hr)

/-- **Solving the components** proposes safe obedient actions or Pause for each of them. -/
theorem solveComponents_spec (hm : m.WellFormed) (havail : ∀ r ∈ hard, ¬ Unavailable m r)
    (call : ℕ) (htotal : P ∨ (∀ K ∈ m.connectedComponents, Scored K priorities) ∧
      TrustworthySolver cpSat) :
    Ensures (solveComponents config (shippedCollaborators config geometry cpSat) m priorities hard)
      call (fun solved _ => Proposes m hard m.connectedComponents solved) fun _ => P := by
  unfold solveComponents
  obtain ⟨isolated, hok, hisolated⟩ := decideIsolated_spec hard
    fun r hr => ((hm.mem_isolated r).mp hr).1
  refine Ensures.bind_lift (Returns.of_eq_ok hok rfl) fun _ heq => ?_
  subst heq
  refine Ensures.foldlM (fun pre solved _ => Proposes m hard pre solved) hisolated ?_
  intro pre K post solved call hl h
  have hdisj := hm.decomposes.disjoint
  rw [hl, List.pairwise_append] at hdisj
  have hK : K ∈ m.connectedComponents := by simp [hl]
  refine solveComponent_spec hm havail h (fun L hL => by simp [hl, hL]) hK ?_
    (htotal.imp id fun ht => ⟨ht.1 K hK, ht.2⟩)
  rintro L hL rfl
  obtain ⟨r, hr⟩ := List.exists_mem_of_ne_nil _ (hm.decomposes.nonempty L hK)
  exact hdisj.2.2 L hL L List.mem_cons_self hr hr

end Solve

end CollisionMonitor
