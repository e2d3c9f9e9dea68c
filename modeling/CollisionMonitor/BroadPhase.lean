import CollisionMonitor.CommitSpec
import CollisionMonitor.SharedPart

set_option relaxedAutoImplicit false
set_option autoImplicit false

/-!
# Replacing the candidate pairs

The builder takes its candidate pairs from a generator. A generator that leaves out only pairs whose
four action combinations are all safe gives the same model up to such pairs, in whatever order,
orientation and multiplicity it yields the others; and nothing that decides reads such pairs.

## Main definitions

* `BroadPhase` — a list of candidates that misses no conflicting pair.
* `ConflictModel.prune` — the model without the pairs that are safe throughout.
* `SameConflicts` — two models differ by pairs that are safe throughout.

## Main results

* `buildConflictModelWith_prune` — with a broad phase the builder returns the same pruned model.
* `solve_prune`, `optimise_prune`, `prepareTick_prune`, … — decisions depend on the pruned model.
* `broadPhase_exact` — the models, and what is decided on them, are the same.
-/

namespace CollisionMonitor

open Outcome

/-! ## Pairs that are safe throughout -/

/-- Some action combination of the pair is unsafe. -/
def PairwiseCompatibility.conflicting (pair : PairwiseCompatibility) : Bool :=
  !pair.forbiddenAssignments.isEmpty

/-- A pair conflicts iff some combination of actions is unsafe. -/
lemma PairwiseCompatibility.conflicting_iff {pair : PairwiseCompatibility} :
    pair.conflicting = true ↔ ∃ a b, pair.isSafe a b = false := by
  rw [← forbiddenAssignments_ne_nil, conflicting, Bool.not_eq_true', List.isEmpty_eq_false_iff]

/-- A pair without a conflict forbids nothing. -/
lemma PairwiseCompatibility.noGoodConstraints_of_safe {pair : PairwiseCompatibility}
    (h : pair.conflicting = false) : pair.noGoodConstraints = [] := by
  rw [conflicting, Bool.not_eq_false', List.isEmpty_iff] at h
  rw [noGoodConstraints, h]
  rfl

/-- The model without the pairs that are safe throughout. -/
def ConflictModel.prune (m : ConflictModel) : ConflictModel :=
  { m with pairwiseConstraints := m.pairwiseConstraints.filter PairwiseCompatibility.conflicting }

/-! ## Decisions depend on the pruned model -/

section Prune

variable {config : MonitorConfig} {constraints : List PairwiseCompatibility}

/-- Pairs that are safe throughout have no no-goods. -/
lemma componentNoGoods_conflicting (constraints : List PairwiseCompatibility) :
    componentNoGoods (constraints.filter PairwiseCompatibility.conflicting) =
      componentNoGoods constraints := by
  unfold componentNoGoods
  induction constraints with
  | nil => rfl
  | cons pair constraints ih =>
    cases h : pair.conflicting with
    | true => rw [List.filter_cons_of_pos h, List.flatMap_cons, List.flatMap_cons, ih]
    | false =>
      rw [List.filter_cons_of_neg (by simp [h]), List.flatMap_cons,
        PairwiseCompatibility.noGoodConstraints_of_safe h, ih]
      rfl

/-- Pruning keeps the conflicting pairs inside a component. -/
lemma componentConstraints_prune (K : List RobotId) (m : ConflictModel) :
    componentConstraints K m.prune =
      (componentConstraints K m).filter PairwiseCompatibility.conflicting := by
  unfold componentConstraints ConflictModel.prune
  rw [List.filter_filter, List.filter_filter]
  exact List.filter_congr fun pair _ => Bool.and_comm _ _

/-- A pair that a robot can clear is conflicting. -/
lemma clearanceOpportunityCount_conflicting (r : RobotId)
    (constraints : List PairwiseCompatibility) :
    clearanceOpportunityCount r (constraints.filter PairwiseCompatibility.conflicting) =
      clearanceOpportunityCount r constraints := by
  unfold clearanceOpportunityCount
  rw [List.countP_filter]
  refine List.countP_congr fun pair _ => ?_
  rw [Bool.and_eq_true, and_iff_left_iff_imp, canClear, PairwiseCompatibility.conflicting]
  split_ifs with h
  · simp
  all_goals simp [h]

/-- **Scores** depend on the pruned model. -/
theorem scoreComponentPriorities_prune (K : List RobotId) (m : ConflictModel) (nowMs : ℤ)
    (ages : Dict RobotId ℤ) (active : List RobotId) :
    scoreComponentPriorities config K m.prune nowMs ages active =
      scoreComponentPriorities config K m nowMs ages active := by
  unfold scoreComponentPriorities scoreRobotPriority
  simp only [componentConstraints_prune, clearanceOpportunityCount_conflicting]
  rfl

/-- **Validation** depends on the conflicting pairs. -/
theorem validateComponentDecisions_conflicting (K : List RobotId) (decisions : Dict RobotId Action)
    (constraints : List PairwiseCompatibility) (hard : Dict RobotId Action) :
    validateComponentDecisions K decisions
        (constraints.filter PairwiseCompatibility.conflicting) hard =
      validateComponentDecisions K decisions constraints hard := by
  unfold validateComponentDecisions
  rw [componentNoGoods_conflicting]

/-- The escape from all-Pause does not see pairs without a conflict. -/
lemma escapeLoop_conflicting (K : List RobotId) (clauses : List BinaryClause)
    (constraints : List PairwiseCompatibility) (hard : Dict RobotId Action)
    (base : BinaryAssignment) (candidates : List RobotId) :
    escapeLoop K clauses (constraints.filter PairwiseCompatibility.conflicting) hard base
        candidates = escapeLoop K clauses constraints hard base candidates := by
  induction candidates with
  | nil => rfl
  | cons r candidates ih =>
    unfold escapeLoop
    simp only [ih, validateComponentDecisions_conflicting]

/-- **The heuristic** depends on the pruned model. -/
theorem solve_prune (K : List RobotId) (m : ConflictModel)
    (priorities : Dict RobotId PriorityBreakdown) (hard : Dict RobotId Action) :
    solve config K m.prune priorities hard = solve config K m priorities hard := by
  unfold solve buildClauses greedyDecisions repairPass failSafeResult
  simp only [componentConstraints_prune, componentNoGoods_conflicting, escapeLoop_conflicting,
    validateComponentDecisions_conflicting]
  rfl

/-- **The exact optimiser** depends on the pruned model. -/
theorem optimise_prune (cpSat : Backend) (K : List RobotId) (m : ConflictModel)
    (priorities : Dict RobotId PriorityBreakdown) (hard : Dict RobotId Action) :
    optimise config cpSat K m.prune priorities hard =
      optimise config cpSat K m priorities hard := by
  unfold optimise acceptAnswer
  simp only [componentConstraints_prune, componentNoGoods_conflicting,
    validateComponentDecisions_conflicting]
  rfl

/-- Nor does the completion of a group of grants. -/
lemma grantGroupHasSafeCompletion_prune (K group : List RobotId) (m : ConflictModel) :
    grantGroupHasSafeCompletion config K group m.prune =
      grantGroupHasSafeCompletion config K group m := by
  unfold grantGroupHasSafeCompletion
  simp only [solve_prune]
  rfl

/-- **Preparing a tick** depends on the pruned model. -/
theorem prepareTick_prune (m : ConflictModel) (nowMs : ℤ) :
    GrantManager.prepareTick config m.prune nowMs = GrantManager.prepareTick config m nowMs := by
  have hretain : GrantManager.retainGrant config m.prune = GrantManager.retainGrant config m := by
    funext K state record
    unfold GrantManager.retainGrant
    simp only [grantGroupHasSafeCompletion_prune]
  have hretains : GrantManager.retainGrants config m.prune =
      GrantManager.retainGrants config m := by
    funext hard K
    unfold GrantManager.retainGrants
    rw [hretain]
    rfl
  unfold GrantManager.prepareTick GrantManager.safeRelevantGrants
  rw [hretains]
  rfl

/-- **Previewing a tick** depends on the pruned model. -/
theorem previewTick_prune (m : ConflictModel) (proposed : Dict RobotId Action)
    (priorities : Dict RobotId PriorityBreakdown) (sources : Option (Dict RobotId DecisionSource)) :
    GrantManager.previewTick config m.prune proposed priorities sources =
      GrantManager.previewTick config m proposed priorities sources := by
  have hcomponent : ∀ hard, GrantManager.validateOrRepairComponent config m.prune hard priorities =
      GrantManager.validateOrRepairComponent config m hard priorities := by
    intro hard
    funext state K
    unfold GrantManager.validateOrRepairComponent
    simp only [componentConstraints_prune, validateComponentDecisions_conflicting, solve_prune]
    rfl
  unfold GrantManager.previewTick GrantManager.validateOrRepairComponents
  simp only [hcomponent]
  rfl

/-- **Committing a tick** depends on the pruned model. -/
theorem commitTick_prune (m : ConflictModel) (preview : GrantDecisionPreview) :
    GrantManager.commitTick config m.prune preview = GrantManager.commitTick config m preview := by
  have hacquire : GrantManager.acquireGrant config m.prune =
      GrantManager.acquireGrant config m := by
    funext byRobot decisions acquired r
    unfold GrantManager.acquireGrant
    simp only [grantGroupHasSafeCompletion_prune]
    rfl
  unfold GrantManager.commitTick GrantManager.acquireGrants
  rw [hacquire]
  rfl

end Prune

/-! ## The builder with a broad phase -/

section Build

variable {G : Type} {geometry : Geometry G} {ordered : List RobotSnapshot}

/-- The candidate is the pair of two snapshots, in either orientation. -/
def IsPair (candidate : RobotSnapshot × RobotSnapshot) (s t : RobotSnapshot) : Prop :=
  (candidate.1.deviceId = s.deviceId ∧ candidate.2.deviceId = t.deviceId) ∨
    candidate.1.deviceId = t.deviceId ∧ candidate.2.deviceId = s.deviceId

/-- **A broad phase** yields pairs of distinct known robots, and among them every pair with a
conflicting action combination. -/
structure BroadPhase (geometry : Geometry G) (ordered : List RobotSnapshot)
    (candidates : List (RobotSnapshot × RobotSnapshot)) : Prop where
  known : ∀ candidate ∈ candidates, candidate.1.deviceId ≠ candidate.2.deviceId ∧
    candidate.1.deviceId ∈ ordered.map RobotSnapshot.deviceId ∧
    candidate.2.deviceId ∈ ordered.map RobotSnapshot.deviceId
  conflicting : ∀ s ∈ ordered, ∀ t ∈ ordered, s.deviceId < t.deviceId →
    (∃ a b, geometry.Conflict s a t b) → ∃ candidate ∈ candidates, IsPair candidate s t

/-- A candidate of a broad phase is an ordered pair of the snapshots. -/
lemma BroadPhase.isPair {candidates : List (RobotSnapshot × RobotSnapshot)}
    (h : BroadPhase geometry ordered candidates) {candidate : RobotSnapshot × RobotSnapshot}
    (hc : candidate ∈ candidates) :
    ∃ s ∈ ordered, ∃ t ∈ ordered, s.deviceId < t.deviceId ∧ IsPair candidate s t := by
  obtain ⟨hne, hI, hJ⟩ := h.known candidate hc
  obtain ⟨s, hs, hsid⟩ := List.mem_map.mp hI
  obtain ⟨t, ht, htid⟩ := List.mem_map.mp hJ
  rcases lt_or_gt_of_ne hne with hlt | hlt
  · exact ⟨s, hs, t, ht, by rwa [hsid, htid], .inl ⟨hsid.symm, htid.symm⟩⟩
  · exact ⟨t, ht, s, hs, by rwa [hsid, htid], .inr ⟨hsid.symm, htid.symm⟩⟩

/-- All pairs of the snapshots are a broad phase. -/
lemma broadPhase_combinations (hlt : ordered.Pairwise fun s t => s.deviceId < t.deviceId) :
    BroadPhase geometry ordered (combinations ordered) where
  known := by
    rintro ⟨s, t⟩ hc
    obtain ⟨hs, ht, hst⟩ := (mem_combinations hlt).mp hc
    exact ⟨hst.ne, List.mem_map_of_mem hs, List.mem_map_of_mem ht⟩
  conflicting s hs t ht hst _ :=
    ⟨(s, t), (mem_combinations hlt).mpr ⟨hs, ht, hst⟩, .inl ⟨rfl, rfl⟩⟩

/-- Of a candidate only the IDs are read, and these in either order. -/
lemma addCandidate_eq (hlt : ordered.Pairwise fun s t => s.deviceId < t.deviceId)
    (cache : Dict RobotId (Action → G)) (d : Dict (RobotId × RobotId) PairwiseCompatibility)
    {candidate : RobotSnapshot × RobotSnapshot} {s t : RobotSnapshot} (hs : s ∈ ordered)
    (ht : t ∈ ordered) (hst : s.deviceId < t.deviceId) (hpair : IsPair candidate s t) :
    addCandidate geometry (Dict.ofPairs (ordered.map fun s => (s.deviceId, s))) cache d candidate =
      addCandidate geometry (Dict.ofPairs (ordered.map fun s => (s.deviceId, s))) cache d
        (s, t) := by
  have hS := Dict.mem_of_lookup ((lookup_snapshotsById hlt s.deviceId s).mpr ⟨hs, rfl⟩)
  have hT := Dict.mem_of_lookup ((lookup_snapshotsById hlt t.deviceId t).mpr ⟨ht, rfl⟩)
  obtain ⟨a, b⟩ := candidate
  unfold addCandidate
  dsimp only
  rcases hpair with ⟨ha, hb⟩ | ⟨ha, hb⟩
  · dsimp only at ha hb
    rw [ha, hb]
  · dsimp only at ha hb
    rw [ha, hb, raiseIf_of_not _ hst.ne', raiseIf_of_not _ hst.ne,
      raiseIf_of_not _ (by simp [hS, hT]), raiseIf_of_not _ (by simp [hS, hT]),
      if_neg hst.not_ge, if_pos hst.le]

/-- A candidate determines the IDs of its ordered pair. -/
lemma IsPair.unique {candidate : RobotSnapshot × RobotSnapshot} {s t s' t' : RobotSnapshot}
    (h : IsPair candidate s t) (hst : s.deviceId < t.deviceId) (h' : IsPair candidate s' t')
    (hst' : s'.deviceId < t'.deviceId) :
    (s.deviceId, t.deviceId) = (s'.deviceId, t'.deviceId) := by
  rcases h with ⟨hs, ht⟩ | ⟨ht, hs⟩ <;> rcases h' with ⟨hs', ht'⟩ | ⟨ht', hs'⟩
  · rw [← hs, ← ht, hs', ht']
  · rw [← hs, ← ht, ht', hs'] at hst
    exact absurd hst hst'.not_gt
  · rw [← hs, ← ht, hs', ht'] at hst
    exact absurd hst hst'.not_gt
  · rw [← hs, ← ht, hs', ht']

/-- **The loop over the candidates** of a broad phase returns records of pairs, and has evaluated
each candidate in the orientation of its IDs. -/
lemma BroadPhase.evaluated {candidates : List (RobotSnapshot × RobotSnapshot)}
    (h : BroadPhase geometry ordered candidates)
    (hlt : ordered.Pairwise fun s t => s.deviceId < t.deviceId)
    {cache : Dict RobotId (Action → G)} (hcache : Caches geometry ordered cache) :
    ∃ d, candidates.foldlM (addCandidate geometry
        (Dict.ofPairs (ordered.map fun s => (s.deviceId, s))) cache) ∅ = .ok d ∧
      ComparedEntries geometry ordered d ∧ ∃ done, Evaluated geometry ordered done d ∧
        ∀ c ∈ candidates, ∃ pair ∈ done, pair.1.deviceId < pair.2.deviceId ∧
          IsPair c pair.1 pair.2 := by
  refine foldlM_total (fun pre d => ComparedEntries geometry ordered d ∧ ∃ done,
    Evaluated geometry ordered done d ∧ ∀ c ∈ pre, ∃ pair ∈ done,
      pair.1.deviceId < pair.2.deviceId ∧ IsPair c pair.1 pair.2)
    ⟨fun key pair hkey => (by cases hkey), [], ⟨by simp, by simp⟩, by simp⟩ ?_
  rintro pre c post d hl ⟨hentries, done, hdone, hpairs⟩
  have hc : c ∈ candidates := by
    rw [hl]
    simp
  obtain ⟨s, hs, t, ht, hst, hpair⟩ := h.isPair hc
  obtain ⟨d', hd', hdone'⟩ := addCandidate_spec hlt hcache hdone hs ht hst
  refine ⟨d', (addCandidate_eq hlt cache d hs ht hst hpair).trans hd',
    addCandidate_compared hlt hcache hentries hs ht hst hd', done ++ [(s, t)], hdone',
    fun c' hc' => ?_⟩
  rcases List.mem_append.mp hc' with hc' | hc'
  · obtain ⟨pair, hmem, hrest⟩ := hpairs c' hc'
    exact ⟨pair, List.mem_append_left _ hmem, hrest⟩
  · obtain rfl := List.mem_singleton.mp hc'
    exact ⟨(s, t), by simp, hst, hpair⟩

/-- **The listed constraints** of a broad phase are records of pairs in the order of their IDs, and
all conflicting pairs are among them. -/
lemma BroadPhase.constraints {candidates : List (RobotSnapshot × RobotSnapshot)}
    (h : BroadPhase geometry ordered candidates)
    (hlt : ordered.Pairwise fun s t => s.deviceId < t.deviceId)
    {cache : Dict RobotId (Action → G)} (hcache : Caches geometry ordered cache) :
    ∃ d, candidates.foldlM (addCandidate geometry
        (Dict.ofPairs (ordered.map fun s => (s.deviceId, s))) cache) ∅ = .ok d ∧
      (((sortedBy toLex d.keys).filterMap fun key => d.lookup key).Pairwise
        fun p q => toLex p.robotPair < toLex q.robotPair) ∧
      (∀ pair ∈ (sortedBy toLex d.keys).filterMap fun key => d.lookup key,
        ∃ s ∈ ordered, ∃ t ∈ ordered, Compared geometry s t pair) ∧
      ∀ s ∈ ordered, ∀ t ∈ ordered, ∀ pair, Compared geometry s t pair →
        pair.conflicting = true →
        pair ∈ (sortedBy toLex d.keys).filterMap fun key => d.lookup key := by
  obtain ⟨d, hd, hentries, done, hdone, hpairs⟩ := h.evaluated hlt hcache
  refine ⟨d, hd, hentries.increasing, fun pair hpair => ?_,
    fun s hs t ht pair hcompared hconf => ?_⟩
  · obtain ⟨key, hkey⟩ := mem_listedConstraints.mp hpair
    obtain ⟨s, hs, t, ht, -, hcompared⟩ := hentries key pair hkey
    exact ⟨s, hs, t, ht, hcompared⟩
  · obtain ⟨hst, -⟩ := id hcompared
    obtain ⟨a, b, hunsafe⟩ := PairwiseCompatibility.conflicting_iff.mp hconf
    obtain ⟨c, hc, hpair⟩ := h.conflicting s hs t ht hst
      ⟨a, b, (hcompared.conflict_iff a b).mp hunsafe⟩
    obtain ⟨oriented, hmem, hlt', hpair'⟩ := hpairs c hc
    obtain ⟨pair', hkey⟩ := Dict.exists_lookup (hdone.2 oriented hmem)
    rw [← hpair.unique hst hpair' hlt'] at hkey
    obtain ⟨s', hs', t', ht', hids, hcompared'⟩ := hentries _ pair' hkey
    obtain ⟨hsid, htid⟩ := Prod.mk.inj hids
    obtain rfl := eq_of_deviceId_eq hlt hs hs' hsid
    obtain rfl := eq_of_deviceId_eq hlt ht ht' htid
    rw [hcompared.unique hcompared']
    exact mem_listedConstraints.mpr ⟨_, hkey⟩

/-- Two broad phases list the same conflicting constraints. -/
lemma listed_conflicting_eq {l l' : List PairwiseCompatibility}
    (hl : l.Pairwise fun p q => toLex p.robotPair < toLex q.robotPair)
    (hl' : l'.Pairwise fun p q => toLex p.robotPair < toLex q.robotPair)
    (hsub : ∀ pair ∈ l, pair.conflicting = true → pair ∈ l')
    (hsub' : ∀ pair ∈ l', pair.conflicting = true → pair ∈ l) :
    l.filter PairwiseCompatibility.conflicting = l'.filter PairwiseCompatibility.conflicting := by
  refine increasing_eq (hl.filter _) (hl'.filter _) fun pair => ?_
  rw [List.mem_filter, List.mem_filter]
  exact and_congr_left fun hconf => ⟨fun h => hsub pair h hconf, fun h => hsub' pair h hconf⟩

/-- What the builder does with the listed constraints. -/
def finishModel (snapshotsById : Dict RobotId RobotSnapshot)
    (pairwiseConstraints : List PairwiseCompatibility) : Except PyException ConflictModel := do
  let edges := (pairwiseConstraints.filter PairwiseCompatibility.conflicting).map
    PairwiseCompatibility.robotPair
  let adjacency ← buildAdjacency snapshotsById.keys edges
  let isolatedRobots := (sorted adjacency.keys).filter fun robotId =>
    (neighbours adjacency robotId).isEmpty
  let connectedComponents ← decomposeConnectedComponents adjacency
  return {
    snapshots := snapshotsById
    pairwiseConstraints
    noGoodConstraints := componentNoGoods pairwiseConstraints
    edges, adjacency, isolatedRobots, connectedComponents }

/-- The builder, with the pairs it evaluates as one step. -/
lemma buildConflictModelWith_eq
    (generate : List RobotSnapshot → List (RobotSnapshot × RobotSnapshot))
    (snapshots : List RobotSnapshot) :
    buildConflictModelWith geometry generate snapshots = (do
      let ordered ← normaliseModelSnapshots snapshots
      let byId := Dict.ofPairs (ordered.map fun s => (s.deviceId, s))
      let envelopes ← buildEnvelopeCache geometry ordered
      let d ← (generate ordered).foldlM (addCandidate geometry byId envelopes) ∅
      finishModel byId ((sortedBy toLex d.keys).filterMap fun key => d.lookup key)) := rfl

/-- The pruned model is made from the conflicting constraints. -/
lemma finishModel_prune (byId : Dict RobotId RobotSnapshot)
    (constraints : List PairwiseCompatibility) :
    ConflictModel.prune <$> finishModel byId constraints =
      finishModel byId (constraints.filter PairwiseCompatibility.conflicting) := by
  unfold finishModel
  simp only [componentNoGoods_conflicting, List.filter_filter, Bool.and_self, map_bind]
  rfl

/-- **With a broad phase the builder returns the same pruned model**, or raises the same exception,
for any order of the snapshots.

**Proof sketch.** Normalising sorts the snapshots, so both builders start from the same list and
cache. A generator that leaves out only pairs that cannot conflict gives the same conflicting
constraints in the same order (`listed_conflicting_eq`), and the pruned model is built from
these. -/
theorem buildConflictModelWith_prune
    {generate : List RobotSnapshot → List (RobotSnapshot × RobotSnapshot)}
    {snapshots permuted : List RobotSnapshot}
    (hnd : (snapshots.map RobotSnapshot.deviceId).Nodup) (hperm : permuted.Perm snapshots)
    (hgen : BroadPhase geometry (sortedBy RobotSnapshot.deviceId snapshots)
      (generate (sortedBy RobotSnapshot.deviceId snapshots))) :
    ConflictModel.prune <$> buildConflictModelWith geometry generate permuted =
      ConflictModel.prune <$> buildConflictModel geometry
        (sortedBy RobotSnapshot.deviceId snapshots) := by
  have hlt : (sortedBy RobotSnapshot.deviceId snapshots).Pairwise fun s t =>
      s.deviceId < t.deviceId := pairwise_sortedBy_lt hnd
  have hlt' : (sortedBy RobotSnapshot.deviceId permuted).Pairwise fun s t =>
      s.deviceId < t.deviceId := pairwise_sortedBy_lt ((hperm.map _).nodup_iff.mpr hnd)
  have hself := sortedBy_eq_self RobotSnapshot.deviceId (hlt.imp fun h => h.le)
  have hsame : sortedBy RobotSnapshot.deviceId permuted =
      sortedBy RobotSnapshot.deviceId snapshots :=
    eq_of_pairwise_of_mem_iff (fun _ _ h => h.not_gt) hlt' hlt fun s => by
      rw [mem_sortedBy, mem_sortedBy, hperm.mem_iff]
  rw [hsame] at hlt'
  set ordered := sortedBy RobotSnapshot.deviceId snapshots
  have hnorm : normaliseModelSnapshots permuted = .ok ordered :=
    normaliseModelSnapshots_eq_ok.mpr ⟨hsame.symm, hlt⟩
  have hnorm' : normaliseModelSnapshots ordered = .ok ordered :=
    normaliseModelSnapshots_eq_ok.mpr ⟨hself.symm, hlt⟩
  rw [buildConflictModel, buildConflictModelWith_eq, buildConflictModelWith_eq, hnorm, hnorm',
    ok_bind, ok_bind]
  dsimp only
  cases hcache : buildEnvelopeCache geometry ordered with
  | error e => rfl
  | ok cache =>
    have hcaches := caches_of_buildEnvelopeCache hlt hcache
    obtain ⟨d, hd, hincreasing, hsound, hcomplete⟩ := hgen.constraints hlt hcaches
    obtain ⟨d', hd', hincreasing', hsound', hcomplete'⟩ :=
      (broadPhase_combinations hlt : BroadPhase geometry ordered _).constraints hlt hcaches
    rw [ok_bind, ok_bind, hd, allPairsCandidates, hself, hd', ok_bind, ok_bind, finishModel_prune,
      finishModel_prune]
    refine congrArg _ (listed_conflicting_eq hincreasing hincreasing' ?_ ?_)
    · intro pair hpair hconf
      obtain ⟨s, hs, t, ht, hcompared⟩ := hsound pair hpair
      exact hcomplete' s hs t ht pair hcompared hconf
    · intro pair hpair hconf
      obtain ⟨s, hs, t, ht, hcompared⟩ := hsound' pair hpair
      exact hcomplete s hs t ht pair hcompared hconf

end Build

/-! ## Models that differ by safe pairs -/

/-- **Two models differ by pairs that are safe throughout**, and agree on everything else. -/
structure SameConflicts (m m' : ConflictModel) : Prop where
  snapshots : m.snapshots = m'.snapshots
  edges : m.edges = m'.edges
  adjacency : m.adjacency = m'.adjacency
  isolatedRobots : m.isolatedRobots = m'.isolatedRobots
  connectedComponents : m.connectedComponents = m'.connectedComponents
  noGoodConstraints : m.noGoodConstraints = m'.noGoodConstraints
  conflicting : m.pairwiseConstraints.filter PairwiseCompatibility.conflicting =
    m'.pairwiseConstraints.filter PairwiseCompatibility.conflicting
  safe_of_difference : ∀ pair, ¬ (pair ∈ m.pairwiseConstraints ↔ pair ∈ m'.pairwiseConstraints) →
    ∀ a b, pair.isSafe a b = true

section Same

variable {m m' : ConflictModel}

/-- Models that are pruned to the same model have the same conflicts. -/
lemma sameConflicts_of_prune (h : m.prune = m'.prune) : SameConflicts m m' := by
  obtain ⟨hsnapshots, hconf, hnoGoods, hedges, hadjacency, hisolated, hcomponents⟩ :=
    ConflictModel.mk.inj h
  refine ⟨hsnapshots, hedges, hadjacency, hisolated, hcomponents, hnoGoods, hconf,
    fun pair hdiff a b => ?_⟩
  by_contra hunsafe
  have hpair := PairwiseCompatibility.conflicting_iff.mpr ⟨a, b, Bool.not_eq_true _ ▸ hunsafe⟩
  have hmem : pair ∈ m.prune.pairwiseConstraints ↔ pair ∈ m'.prune.pairwiseConstraints := by
    rw [h]
  simp only [ConflictModel.prune, List.mem_filter, hpair, and_true] at hmem
  exact hdiff hmem

/-- Validation against any part of the constraints. -/
lemma SameConflicts.validate (h : SameConflicts m m') (keep : PairwiseCompatibility → Bool)
    (K : List RobotId) (decisions : Dict RobotId Action) (hard : Dict RobotId Action) :
    validateComponentDecisions K decisions (m.pairwiseConstraints.filter keep) hard =
      validateComponentDecisions K decisions (m'.pairwiseConstraints.filter keep) hard := by
  have hcomm : ∀ l : List PairwiseCompatibility,
      (l.filter keep).filter PairwiseCompatibility.conflicting =
        (l.filter PairwiseCompatibility.conflicting).filter keep := fun l => by
    rw [List.filter_filter, List.filter_filter]
    exact List.filter_congr fun pair _ => Bool.and_comm _ _
  rw [← validateComponentDecisions_conflicting, hcomm, h.conflicting, ← hcomm,
    validateComponentDecisions_conflicting]

end Same

/-- **A broad phase replaces the all-pairs generator** without changing a decision. For snapshots
with distinct IDs in any order both builders raise the same exception, or return models that differ
by pairs that are safe throughout; then scores, both solvers, validation and the grant manager give
the same results on both.

**Proof sketch.** Both models are the same after pruning the pairs that are safe throughout
(`buildConflictModelWith_prune`), and everything downstream gives on a model what it gives on the
pruned one. -/
theorem broadPhase_exact {G : Type} {geometry : Geometry G}
    {generate : List RobotSnapshot → List (RobotSnapshot × RobotSnapshot)}
    {snapshots permuted : List RobotSnapshot}
    (hnd : (snapshots.map RobotSnapshot.deviceId).Nodup) (hperm : permuted.Perm snapshots)
    (hgen : BroadPhase geometry (sortedBy RobotSnapshot.deviceId snapshots)
      (generate (sortedBy RobotSnapshot.deviceId snapshots))) :
    (∃ e, buildConflictModelWith geometry generate permuted = .error e ∧
      buildConflictModel geometry (sortedBy RobotSnapshot.deviceId snapshots) = .error e) ∨
    ∃ m m', buildConflictModelWith geometry generate permuted = .ok m ∧
      buildConflictModel geometry (sortedBy RobotSnapshot.deviceId snapshots) = .ok m' ∧
      SameConflicts m m' ∧
      ∀ config : MonitorConfig,
        (∀ K nowMs ages active, scoreComponentPriorities config K m nowMs ages active =
          scoreComponentPriorities config K m' nowMs ages active) ∧
        (∀ K priorities hard, solve config K m priorities hard =
          solve config K m' priorities hard) ∧
        (∀ cpSat K priorities hard, optimise config cpSat K m priorities hard =
          optimise config cpSat K m' priorities hard) ∧
        (∀ keep K decisions hard,
          validateComponentDecisions K decisions (m.pairwiseConstraints.filter keep) hard =
            validateComponentDecisions K decisions (m'.pairwiseConstraints.filter keep) hard) ∧
        (∀ nowMs, GrantManager.prepareTick config m nowMs =
          GrantManager.prepareTick config m' nowMs) ∧
        (∀ proposed priorities sources,
          GrantManager.previewTick config m proposed priorities sources =
            GrantManager.previewTick config m' proposed priorities sources) ∧
        ∀ preview, GrantManager.commitTick config m preview =
          GrantManager.commitTick config m' preview := by
  have hprune := buildConflictModelWith_prune hnd hperm hgen
  cases hm : buildConflictModelWith geometry generate permuted with
  | error e =>
    cases hm' : buildConflictModel geometry (sortedBy RobotSnapshot.deviceId snapshots) with
    | error e' =>
      rw [hm, hm'] at hprune
      exact .inl ⟨e, rfl, congrArg Except.error (Except.error.inj hprune).symm⟩
    | ok m' =>
      rw [hm, hm'] at hprune
      cases hprune
  | ok m =>
    cases hm' : buildConflictModel geometry (sortedBy RobotSnapshot.deviceId snapshots) with
    | error e' =>
      rw [hm, hm'] at hprune
      cases hprune
    | ok m' =>
      rw [hm, hm'] at hprune
      have heq : m.prune = m'.prune := Except.ok.inj hprune
      have hsame := sameConflicts_of_prune heq
      refine .inr ⟨m, m', rfl, rfl, hsame, fun config => ⟨fun K nowMs ages active => ?_,
        fun K priorities hard => ?_, fun cpSat K priorities hard => ?_, hsame.validate,
        fun nowMs => ?_, fun proposed priorities sources => ?_, fun preview => ?_⟩⟩
      · rw [← scoreComponentPriorities_prune, heq, scoreComponentPriorities_prune]
      · rw [← solve_prune, heq, solve_prune]
      · rw [← optimise_prune, heq, optimise_prune]
      · rw [← prepareTick_prune, heq, prepareTick_prune]
      · rw [← previewTick_prune, heq, previewTick_prune]
      · rw [← commitTick_prune, heq, commitTick_prune]

/-! ## Two approaching robots and a distant one -/

/-- The only conflicting pair of the three robots, twice and in both orientations. -/
def nearCandidates (_ : List RobotSnapshot) : List (RobotSnapshot × RobotSnapshot) :=
  [(lineSnapshot robotB 5 2, lineSnapshot robotA 0 3),
    (lineSnapshot robotA 0 3, lineSnapshot robotB 5 2)]

/-- The near pair is the only one that a generator may not leave out. -/
lemma broadPhase_near : BroadPhase lineGeometry (sortedBy RobotSnapshot.deviceId distantThird)
    (nearCandidates (sortedBy RobotSnapshot.deviceId distantThird)) where
  known := by decide +kernel
  conflicting := by
    rintro s hs t ht hlt ⟨a, b, hconf⟩
    rw [mem_sortedBy] at hs ht
    simp only [distantThird, approaching, List.cons_append, List.nil_append, List.mem_cons,
      List.not_mem_nil, or_false] at hs ht
    have hconf := (Geometry.conflict_iff rfl rfl).mp hconf
    rcases hs with rfl | rfl | rfl <;> rcases ht with rfl | rfl | rfl
    case inr.inl.inr.inr | inl.inr.inr =>
      -- the third robot is out of reach
      exfalso
      revert hconf
      cases a <;> cases b <;> decide +kernel
    case inl.inr.inl => exact ⟨_, List.mem_cons_self, .inr ⟨rfl, rfl⟩⟩
    all_goals exact absurd hlt (by decide)

/-- The builder evaluates one pair instead of three, with the same conflicts. -/
theorem broadPhase_exact_near : ∃ m m',
    buildConflictModelWith lineGeometry nearCandidates distantThird.reverse = .ok m ∧
    buildConflictModel lineGeometry (sortedBy RobotSnapshot.deviceId distantThird) = .ok m' ∧
    m.pairwiseConstraints.length = 1 ∧ m'.pairwiseConstraints.length = 3 ∧ SameConflicts m m' := by
  obtain ⟨m, hm, hone⟩ := Returns.exists_ok
    (x := buildConflictModelWith lineGeometry nearCandidates distantThird.reverse)
    (Q := fun m => m.pairwiseConstraints.length = 1) (by decide +kernel)
  obtain ⟨m', hm', hthree⟩ := Returns.exists_ok
    (x := buildConflictModel lineGeometry (sortedBy RobotSnapshot.deviceId distantThird))
    (Q := fun m => m.pairwiseConstraints.length = 3) (by decide +kernel)
  rcases broadPhase_exact (by decide) distantThird.reverse_perm broadPhase_near with
    ⟨e, he, -⟩ | ⟨n, n', hn, hn', hsame, -⟩
  · rw [hm] at he
    cases he
  · obtain rfl := Except.ok.inj (hm.symm.trans hn)
    obtain rfl := Except.ok.inj (hm'.symm.trans hn')
    exact ⟨m, m', hm, hm', hone, hthree, hsame⟩

end CollisionMonitor
