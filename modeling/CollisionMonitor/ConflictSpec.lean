import CollisionMonitor.Components

set_option relaxedAutoImplicit false
set_option autoImplicit false

/-!
# What the shipped conflict model records

For snapshots with distinct IDs whose envelopes can be built, `buildConflictModel` returns a model
that records exactly the conflicting envelope pairs, and every model it returns is of this kind.

## Main definitions

* `Represents` — the conflict model records the conflicts of a snapshot list.
* `Safe`, `Admissible` — an assignment of actions realises no forbidden pair of a list of
  constraints, and takes given hard actions.

## Main results

* `buildConflictModel_total` — the builder returns, and the model represents the snapshots.
* `buildConflictModel_represents` — every returned model represents its snapshots.
* `Represents.safe_pair` — a safe component assignment has no conflicting envelopes.
-/

namespace CollisionMonitor

open Outcome

section Safe

/-- The assignment realises no pair of actions that a constraint forbids. -/
def Safe (constraints : List PairwiseCompatibility) (x : RobotId → Action) : Prop :=
  ∀ pair ∈ constraints, pair.isSafe (x pair.robotI) (x pair.robotJ) = true

/-- The assignment is safe and takes the hard actions. -/
def Admissible (constraints : List PairwiseCompatibility) (hard : Dict RobotId Action)
    (x : RobotId → Action) : Prop :=
  Safe constraints x ∧ ∀ r a, hard.lookup r = some a → x r = a

/-- The action of a robot, Pause where a dictionary has none. -/
def actionOf (decisions : Dict RobotId Action) (r : RobotId) : Action :=
  (decisions.lookup r).getD .pause

/-- The action of a robot that has a decision. -/
lemma actionOf_eq {decisions : Dict RobotId Action} {r : RobotId} {a : Action}
    (h : decisions.lookup r = some a) : actionOf decisions r = a := by
  rw [actionOf, h, Option.getD_some]

/-- The decision of a robot that has one. -/
lemma lookup_eq_actionOf {decisions : Dict RobotId Action} {r : RobotId} (h : r ∈ decisions) :
    decisions.lookup r = some (actionOf decisions r) := by
  obtain ⟨a, ha⟩ := Dict.exists_lookup h
  rw [ha, actionOf_eq ha]

/-- Safety depends on the robots of the constraints only. -/
lemma Safe.congr {constraints : List PairwiseCompatibility} {x y : RobotId → Action}
    (h : Safe constraints x)
    (hxy : ∀ pair ∈ constraints, x pair.robotI = y pair.robotI ∧ x pair.robotJ = y pair.robotJ) :
    Safe constraints y := by
  intro pair hpair
  rw [← (hxy pair hpair).1, ← (hxy pair hpair).2]
  exact h pair hpair

/-- The keys of a conflict model fit together: its constraints relate distinct pairs of its
robots, and the components are those of its graph. -/
structure ConflictModel.WellFormed (m : ConflictModel) : Prop where
  /-- Constraints are about observed robots. -/
  observed : ∀ pair ∈ m.pairwiseConstraints, pair.robotI ∈ m.snapshots ∧ pair.robotJ ∈ m.snapshots
  /-- No pair of robots has two constraints. -/
  pairs_nodup : (m.pairwiseConstraints.map PairwiseCompatibility.robotPair).Nodup
  /-- The edges are the pairs with a forbidden assignment. -/
  mem_edges : ∀ e, e ∈ m.edges ↔
    ∃ pair ∈ m.pairwiseConstraints, pair.forbiddenAssignments ≠ [] ∧ pair.robotPair = e
  /-- The robots of the graph are the observed ones. -/
  mem_adjacency : ∀ r, r ∈ m.adjacency ↔ r ∈ m.snapshots
  /-- Two robots are adjacent iff some pair of their actions is forbidden. -/
  adjacent_iff : ∀ a b, b ∈ neighbours m.adjacency a ↔ ∃ pair ∈ m.pairwiseConstraints,
    pair.forbiddenAssignments ≠ [] ∧ (pair.robotPair = (a, b) ∨ pair.robotPair = (b, a))
  /-- The isolated robots are those without neighbours. -/
  mem_isolated : ∀ r, r ∈ m.isolatedRobots ↔ r ∈ m.snapshots ∧ neighbours m.adjacency r = []
  /-- The components are the connected components of the graph. -/
  decomposes : Decomposes m.adjacency m.connectedComponents

end Safe

section Represents

variable {E : Type} (geometry : Geometry E)

/-- The record of an ordered pair of snapshots: an action pair is unsafe iff the envelopes
conflict. -/
def Evaluates (s t : RobotSnapshot) (pair : PairwiseCompatibility) : Prop :=
  pair.robotPair = (s.deviceId, t.deviceId) ∧
    ∀ a b, pair.isSafe a b = false ↔ geometry.Conflict s a t b

/-- The model records the conflicts of a strictly increasing snapshot list. -/
structure Represents (ordered : List RobotSnapshot) (m : ConflictModel) : Prop
    extends m.WellFormed where
  /-- The snapshots have increasing IDs. -/
  increasing : ordered.Pairwise fun s t => s.deviceId < t.deviceId
  /-- The model holds exactly these snapshots, by ID. -/
  lookup_iff : ∀ r s, m.snapshots.lookup r = some s ↔ s ∈ ordered ∧ s.deviceId = r
  /-- Every envelope can be built. -/
  envelope : ∀ s ∈ ordered, ∀ a, ∃ e, geometry.actionEnvelope s a = .ok e
  /-- Every constraint evaluates a pair of snapshots. -/
  sound : ∀ pair ∈ m.pairwiseConstraints, ∃ s ∈ ordered, ∃ t ∈ ordered,
    Evaluates geometry s t pair
  /-- Every pair of snapshots is evaluated. -/
  complete : ∀ s ∈ ordered, ∀ t ∈ ordered, s.deviceId < t.deviceId →
    ∃ pair ∈ m.pairwiseConstraints, Evaluates geometry s t pair

end Represents

/-! ## The stages of the builder -/

section Build

variable {E : Type} {geometry : Geometry E}

/-- Snapshots in strict order are determined by their IDs. -/
lemma eq_of_deviceId_eq {ordered : List RobotSnapshot}
    (h : ordered.Pairwise fun s t => s.deviceId < t.deviceId) {s t : RobotSnapshot}
    (hs : s ∈ ordered) (ht : t ∈ ordered) (hst : s.deviceId = t.deviceId) : s = t := by
  have hnd : (ordered.map RobotSnapshot.deviceId).Nodup :=
    List.pairwise_map.mpr (h.imp fun hlt => hlt.ne)
  exact List.inj_on_of_nodup_map hnd hs ht hst

/-- A snapshot is found under its ID, and only there. -/
lemma lookup_snapshotsById {ordered : List RobotSnapshot}
    (h : ordered.Pairwise fun s t => s.deviceId < t.deviceId) (r : RobotId) (s : RobotSnapshot) :
    (Dict.ofPairs (ordered.map fun s => (s.deviceId, s))).lookup r = some s ↔
      s ∈ ordered ∧ s.deviceId = r := by
  have hnd : ((ordered.map fun s => (s.deviceId, s)).map Prod.fst).Nodup := by
    rw [List.map_map]
    exact List.pairwise_map.mpr (h.imp fun hlt => hlt.ne)
  rw [Dict.lookup_ofPairs hnd, List.mem_map]
  constructor
  · rintro ⟨t, ht, heq⟩
    obtain ⟨rfl, rfl⟩ := Prod.mk.inj heq
    exact ⟨ht, rfl⟩
  · rintro ⟨hs, rfl⟩
    exact ⟨s, hs, rfl⟩

/-- Normalising returns iff the IDs are distinct, and gives the list in increasing ID order. -/
lemma normaliseModelSnapshots_eq_ok {snapshots ordered : List RobotSnapshot} :
    normaliseModelSnapshots snapshots = .ok ordered ↔
      ordered = sortedBy RobotSnapshot.deviceId snapshots ∧
        ordered.Pairwise fun s t => s.deviceId < t.deviceId := by
  unfold normaliseModelSnapshots
  rw [bind_eq_ok]
  constructor
  · rintro ⟨_, hne, heq⟩
    obtain rfl := Except.ok.inj heq
    rw [forM_raiseIf_eq_ok] at hne
    exact ⟨rfl, pairwise_lt_of_zip_tail (pairwise_sortedBy _ _) hne⟩
  · rintro ⟨rfl, hlt⟩
    refine ⟨⟨⟩, ?_, rfl⟩
    rw [forM_raiseIf_eq_ok]
    exact fun p hp => (rel_of_mem_zip_tail hlt p hp).ne

/-- The envelopes of a robot are those of its two actions. -/
lemma robotEnvelopes_eq_ok {s : RobotSnapshot} {env : Action → E} :
    robotEnvelopes geometry s = .ok env ↔ ∀ a, geometry.actionEnvelope s a = .ok (env a) := by
  unfold robotEnvelopes
  simp only [bind_eq_ok]
  constructor
  · rintro ⟨p, hp, q, hq, heq⟩ a
    obtain rfl := Except.ok.inj heq
    cases a with
    | pause => exact hp
    | resume => exact hq
  · intro h
    refine ⟨_, h .pause, _, h .resume, ?_⟩
    rw [pure_def]
    congr 1
    funext a
    cases a <;> rfl

/-- The cache holds both envelopes of every snapshot. -/
def Caches (geometry : Geometry E) (ordered : List RobotSnapshot)
    (cache : Dict RobotId (Action → E)) : Prop :=
  ∀ s ∈ ordered, ∃ env, cache.lookup s.deviceId = some env ∧
    ∀ a, geometry.actionEnvelope s a = .ok (env a)

/-- A cache that was built holds both envelopes of every snapshot. -/
lemma caches_of_buildEnvelopeCache {ordered : List RobotSnapshot}
    (h : ordered.Pairwise fun s t => s.deviceId < t.deviceId)
    {cache : Dict RobotId (Action → E)} (hok : buildEnvelopeCache geometry ordered = .ok cache) :
    Caches geometry ordered cache := by
  intro s hs
  obtain ⟨env, henv, hlook⟩ :=
    Dict.lookup_collect hok (List.pairwise_map.mpr (h.imp fun hlt => hlt.ne)) hs
  exact ⟨env, hlook, robotEnvelopes_eq_ok.mp henv⟩

/-- The cache is built when every envelope can be built. -/
lemma buildEnvelopeCache_total {ordered : List RobotSnapshot}
    (henv : ∀ s ∈ ordered, ∀ a, ∃ e, geometry.actionEnvelope s a = .ok e) :
    ∃ cache, buildEnvelopeCache geometry ordered = .ok cache := by
  refine Dict.collect_total _ _ _ fun s hs => ?_
  obtain ⟨p, hp⟩ := henv s hs .pause
  obtain ⟨q, hq⟩ := henv s hs .resume
  rw [robotEnvelopes, hp, ok_bind, hq]
  exact ⟨_, rfl⟩

/-- Comparing cached envelopes evaluates the pair. -/
lemma compareEnvelopes_spec {ordered : List RobotSnapshot} {cache : Dict RobotId (Action → E)}
    (hcache : Caches geometry ordered cache) {s t : RobotSnapshot} (hs : s ∈ ordered)
    (ht : t ∈ ordered) (hlt : s.deviceId < t.deviceId) :
    ∃ pair, compareEnvelopes geometry s.deviceId t.deviceId hlt cache = .ok pair ∧
      Evaluates geometry s t pair := by
  obtain ⟨envS, hS, henvS⟩ := hcache s hs
  obtain ⟨envT, hT, henvT⟩ := hcache t ht
  unfold compareEnvelopes
  rw [item_eq_ok.mpr hS, ok_bind, item_eq_ok.mpr hT, ok_bind]
  refine ⟨_, rfl, rfl, fun a b => ?_⟩
  rw [Geometry.conflict_iff (henvS a) (henvT b)]
  simp [PairwiseCompatibility.isSafe]

/-- What the evaluated pairs are after the candidates `pre`: every entry evaluates its key, and
no candidate is missing. -/
def Evaluated (geometry : Geometry E) (ordered : List RobotSnapshot)
    (pre : List (RobotSnapshot × RobotSnapshot))
    (d : Dict (RobotId × RobotId) PairwiseCompatibility) : Prop :=
  (∀ key pair, d.lookup key = some pair → ∃ s ∈ ordered, ∃ t ∈ ordered,
    key = (s.deviceId, t.deviceId) ∧ Evaluates geometry s t pair) ∧
  ∀ candidate ∈ pre, (candidate.1.deviceId, candidate.2.deviceId) ∈ d

/-- **One candidate.** A pair of snapshots in ID order is evaluated, or was already.

**Proof sketch.** If the pair has an entry nothing changes. Otherwise the cached envelopes are
compared (`compareEnvelopes_spec`) and the result is inserted. -/
lemma addCandidate_spec {ordered : List RobotSnapshot}
    (hlt : ordered.Pairwise fun s t => s.deviceId < t.deviceId)
    {cache : Dict RobotId (Action → E)} (hcache : Caches geometry ordered cache)
    {pre : List (RobotSnapshot × RobotSnapshot)}
    {d : Dict (RobotId × RobotId) PairwiseCompatibility} (h : Evaluated geometry ordered pre d)
    {s t : RobotSnapshot} (hs : s ∈ ordered) (ht : t ∈ ordered) (hst : s.deviceId < t.deviceId) :
    ∃ d', addCandidate geometry (Dict.ofPairs (ordered.map fun s => (s.deviceId, s))) cache d
        (s, t) = .ok d' ∧ Evaluated geometry ordered (pre ++ [(s, t)]) d' := by
  have hS := (lookup_snapshotsById hlt s.deviceId s).mpr ⟨hs, rfl⟩
  have hT := (lookup_snapshotsById hlt t.deviceId t).mpr ⟨ht, rfl⟩
  unfold addCandidate
  dsimp only
  rw [raiseIf_of_not _ hst.ne, ok_bind,
    raiseIf_of_not _ (by simp [Dict.mem_of_lookup hS, Dict.mem_of_lookup hT]), ok_bind,
    if_pos hst.le]
  by_cases hmem : (s.deviceId, t.deviceId) ∈ d
  · refine ⟨d, by rw [if_pos hmem]; rfl, h.1, fun candidate hc => ?_⟩
    rcases List.mem_append.mp hc with hc | hc
    · exact h.2 candidate hc
    · rw [List.mem_singleton.mp hc]
      exact hmem
  · obtain ⟨pair, hpair, heval⟩ := compareEnvelopes_spec hcache hs ht hst
    have hcompute : evaluateCachedPair geometry s t cache = .ok pair := by
      rw [evaluateCachedPair, dif_pos hst]
      exact hpair
    refine ⟨d.insert (s.deviceId, t.deviceId) pair, ?_, fun key pair' hkey => ?_,
      fun candidate hc => ?_⟩
    · rw [if_neg hmem, item_eq_ok.mpr hS, ok_bind, item_eq_ok.mpr hT, ok_bind, hcompute]
      rfl
    · rw [Dict.lookup_insert_eq_ite] at hkey
      split_ifs at hkey with heq
      · obtain rfl := Option.some.inj hkey
        exact ⟨s, hs, t, ht, heq, heval⟩
      · exact h.1 key pair' hkey
    · rw [AList.mem_insert]
      rcases List.mem_append.mp hc with hc | hc
      · exact .inr (h.2 candidate hc)
      · rw [List.mem_singleton.mp hc]
        exact .inl rfl

/-- The loop over all pairs returns, having evaluated each pair of snapshots in ID order. -/
lemma evaluated_allPairs {ordered : List RobotSnapshot}
    (hlt : ordered.Pairwise fun s t => s.deviceId < t.deviceId)
    {cache : Dict RobotId (Action → E)} (hcache : Caches geometry ordered cache) :
    ∃ d, (allPairsCandidates ordered).foldlM (addCandidate geometry
        (Dict.ofPairs (ordered.map fun s => (s.deviceId, s))) cache) ∅ = .ok d ∧
      Evaluated geometry ordered (combinations ordered) d := by
  have hself : sortedBy RobotSnapshot.deviceId ordered = ordered :=
    sortedBy_eq_self _ (hlt.imp fun h => h.le)
  rw [allPairsCandidates, hself]
  refine foldlM_total (Evaluated geometry ordered) ⟨by simp, by simp⟩ ?_
  rintro pre ⟨s, t⟩ post d hl h
  have hmem : (s, t) ∈ combinations ordered := by
    rw [hl]
    simp
  obtain ⟨hs, ht, hst⟩ := (mem_combinations hlt).mp hmem
  exact addCandidate_spec hlt hcache h hs ht hst

end Build

section Main

variable {E : Type} {geometry : Geometry E}

/-- The constraints listed from the evaluated pairs, in key order. -/
lemma mem_listedConstraints {d : Dict (RobotId × RobotId) PairwiseCompatibility}
    {pair : PairwiseCompatibility} :
    pair ∈ (sortedBy toLex d.keys).filterMap (fun key => d.lookup key) ↔
      ∃ key, d.lookup key = some pair := by
  rw [List.mem_filterMap]
  constructor
  · rintro ⟨key, -, h⟩
    exact ⟨key, h⟩
  · rintro ⟨key, h⟩
    exact ⟨key, by rw [mem_sortedBy]; exact AList.mem_keys.mp (Dict.mem_of_lookup h), h⟩

/-- If every entry is keyed by its pair, the listed constraints have distinct pairs. -/
lemma nodup_listedConstraints {d : Dict (RobotId × RobotId) PairwiseCompatibility}
    (h : ∀ key pair, d.lookup key = some pair → pair.robotPair = key) :
    (((sortedBy toLex d.keys).filterMap fun key => d.lookup key).map
      PairwiseCompatibility.robotPair).Nodup := by
  have hkeys : (sortedBy toLex d.keys).Nodup := (sortedBy_perm _ _).nodup_iff.mpr d.keys_nodup
  rw [List.Nodup, List.pairwise_map, List.pairwise_filterMap]
  refine hkeys.imp fun {key key'} hne pair hpair pair' hpair' => ?_
  rw [h key pair hpair, h key' pair' hpair']
  exact hne

/-- **The builder is total on constructible envelopes.** For distinct IDs and envelopes that can
be built it returns, and its model represents the snapshots.

**Proof sketch.** Each stage of the builder returns on what the one before it gives: the cache on
the envelopes, the evaluation on the cache, the adjacency on the edges of observed pairs, and the
decomposition on an undirected graph. The model represents the snapshots, because the dictionary of
evaluated pairs has an entry for every two robots in order. -/
theorem buildConflictModel_total {snapshots : List RobotSnapshot}
    (hnd : (snapshots.map RobotSnapshot.deviceId).Nodup)
    (henv : ∀ s ∈ snapshots, ∀ a, ∃ e, geometry.actionEnvelope s a = .ok e) :
    ∃ m, buildConflictModel geometry snapshots = .ok m ∧
      Represents geometry (sortedBy RobotSnapshot.deviceId snapshots) m := by
  set ordered := sortedBy RobotSnapshot.deviceId snapshots with hordered
  have hlt : ordered.Pairwise fun s t => s.deviceId < t.deviceId := pairwise_sortedBy_lt hnd
  replace henv : ∀ s ∈ ordered, ∀ a, ∃ e, geometry.actionEnvelope s a = .ok e := fun s hs =>
    henv s ((mem_sortedBy _ _).mp hs)
  obtain ⟨cache, hcacheOk⟩ := buildEnvelopeCache_total henv
  obtain ⟨d, hd, hentries, hall⟩ :=
    evaluated_allPairs hlt (caches_of_buildEnvelopeCache hlt hcacheOk)
  set constraints := (sortedBy toLex d.keys).filterMap fun key => d.lookup key with hconstraints
  set edges := (constraints.filter fun pair => !pair.forbiddenAssignments.isEmpty).map
    PairwiseCompatibility.robotPair with hedges
  have hsnap := lookup_snapshotsById hlt
  have hmemSnap : ∀ s ∈ ordered, s.deviceId ∈ Dict.ofPairs (ordered.map fun s => (s.deviceId, s)) :=
    fun s hs => Dict.mem_of_lookup ((hsnap _ s).mpr ⟨hs, rfl⟩)
  have hsound : ∀ pair ∈ constraints, ∃ s ∈ ordered, ∃ t ∈ ordered,
      Evaluates geometry s t pair := by
    intro pair hpair
    obtain ⟨key, hkey⟩ := mem_listedConstraints.mp hpair
    obtain ⟨s, hs, t, ht, -, heval⟩ := hentries key pair hkey
    exact ⟨s, hs, t, ht, heval⟩
  have hobserved : ∀ pair ∈ constraints,
      pair.robotI ∈ Dict.ofPairs (ordered.map fun s => (s.deviceId, s)) ∧
        pair.robotJ ∈ Dict.ofPairs (ordered.map fun s => (s.deviceId, s)) := by
    intro pair hpair
    obtain ⟨s, hs, t, ht, hpair, -⟩ := hsound pair hpair
    obtain ⟨hI, hJ⟩ := Prod.mk.inj hpair
    rw [hI, hJ]
    exact ⟨hmemSnap s hs, hmemSnap t ht⟩
  have hmemEdges : ∀ e, e ∈ edges ↔
      ∃ pair ∈ constraints, pair.forbiddenAssignments ≠ [] ∧ pair.robotPair = e := by
    intro e
    simp [hedges, and_assoc]
  obtain ⟨adjacency, hadj, hadjMem, hadjIff⟩ := buildAdjacency_total
    (Dict.ofPairs (ordered.map fun s => (s.deviceId, s))).keys edges (by
      intro e he
      obtain ⟨pair, hpair, -, rfl⟩ := (hmemEdges e).mp he
      exact ⟨AList.mem_keys.mp (hobserved pair hpair).1, AList.mem_keys.mp (hobserved pair hpair).2,
        pair.ordered⟩)
  have hneighbours : ∀ a b, b ∈ neighbours adjacency a ↔ ∃ pair ∈ constraints,
      pair.forbiddenAssignments ≠ [] ∧ (pair.robotPair = (a, b) ∨ pair.robotPair = (b, a)) := by
    intro a b
    rw [hadjIff, hmemEdges, hmemEdges, ← exists_or]
    refine exists_congr fun pair => ?_
    tauto
  have hG : Undirected adjacency :=
    { mem := fun a b hb => by
        rw [hadjIff] at hb
        exact mem_of_mem_neighbours ((hadjIff b a).mpr hb.symm)
      symm := fun a b hb => by
        rw [hadjIff] at hb ⊢
        exact hb.symm }
  obtain ⟨components, hcomp, hdec⟩ := decomposeConnectedComponents_spec hG
  refine ⟨
    { snapshots := Dict.ofPairs (ordered.map fun s => (s.deviceId, s))
      pairwiseConstraints := constraints
      noGoodConstraints := constraints.flatMap PairwiseCompatibility.noGoodConstraints
      edges := edges
      adjacency := adjacency
      isolatedRobots := (sorted adjacency.keys).filter fun r => (neighbours adjacency r).isEmpty
      connectedComponents := components }, ?_, ?_⟩
  · refine bind_eq_ok.mpr ⟨ordered, normaliseModelSnapshots_eq_ok.mpr ⟨rfl, hlt⟩, ?_⟩
    refine bind_eq_ok.mpr ⟨cache, hcacheOk, bind_eq_ok.mpr ⟨d, hd, ?_⟩⟩
    exact bind_eq_ok.mpr ⟨adjacency, hadj, bind_eq_ok.mpr ⟨components, hcomp, rfl⟩⟩
  · exact
      { observed := hobserved
        pairs_nodup := nodup_listedConstraints fun key pair hkey => by
          obtain ⟨s, -, t, -, rfl, heval⟩ := hentries key pair hkey
          exact heval.1
        mem_edges := hmemEdges
        mem_adjacency := fun r => by rw [hadjMem, AList.mem_keys]
        adjacent_iff := hneighbours
        mem_isolated := fun r => by
          rw [List.mem_filter, mem_sorted, ← AList.mem_keys, hadjMem, AList.mem_keys]
          simp
        decomposes := hdec
        increasing := hlt
        lookup_iff := hsnap
        envelope := henv
        sound := hsound
        complete := fun s hs t ht hst => by
          obtain ⟨pair, hpair⟩ := Dict.exists_lookup
            (hall (s, t) ((mem_combinations hlt).mpr ⟨hs, ht, hst⟩))
          refine ⟨pair, mem_listedConstraints.mpr ⟨_, hpair⟩, ?_⟩
          obtain ⟨s', hs', t', ht', hkey, heval⟩ := hentries _ pair hpair
          obtain ⟨h1, h2⟩ := Prod.mk.inj hkey
          rw [eq_of_deviceId_eq hlt hs hs' h1, eq_of_deviceId_eq hlt ht ht' h2]
          exact heval }

/-- **Every returned model represents its snapshots.** -/
theorem buildConflictModel_represents {snapshots : List RobotSnapshot} {m : ConflictModel}
    (h : buildConflictModel geometry snapshots = .ok m) :
    Represents geometry (sortedBy RobotSnapshot.deviceId snapshots) m := by
  obtain ⟨ordered, hnorm, hrest⟩ := bind_eq_ok.mp h
  obtain ⟨rfl, hlt⟩ := normaliseModelSnapshots_eq_ok.mp hnorm
  obtain ⟨cache, hcache, -⟩ := bind_eq_ok.mp hrest
  have henv : ∀ s ∈ snapshots, ∀ a, ∃ e, geometry.actionEnvelope s a = .ok e := fun s hs a => by
    obtain ⟨env, -, henv⟩ := caches_of_buildEnvelopeCache hlt hcache s ((mem_sortedBy _ _).mpr hs)
    exact ⟨env a, henv a⟩
  have hnd : (snapshots.map RobotSnapshot.deviceId).Nodup := by
    rw [← ((sortedBy_perm RobotSnapshot.deviceId snapshots).map _).nodup_iff]
    exact List.pairwise_map.mpr (hlt.imp fun h => h.ne)
  obtain ⟨m', hm', hrep⟩ := buildConflictModel_total hnd henv
  rw [h] at hm'
  obtain rfl := Except.ok.inj hm'
  exact hrep

end Main

/-! ## Components of a well-formed model -/

namespace ConflictModel.WellFormed

variable {m : ConflictModel} (hm : m.WellFormed)
include hm

/-- The conflict graph is undirected. -/
lemma undirected : Undirected m.adjacency where
  mem a b hb := by
    rw [hm.adjacent_iff] at hb
    obtain ⟨pair, hpair, -, hor⟩ := hb
    rw [hm.mem_adjacency]
    rcases hor with h | h
    · exact (Prod.mk.inj h).2 ▸ (hm.observed pair hpair).2
    · exact (Prod.mk.inj h).1 ▸ (hm.observed pair hpair).1
  symm a b hb := by
    rw [hm.adjacent_iff] at hb ⊢
    obtain ⟨pair, hpair, hne, hor⟩ := hb
    exact ⟨pair, hpair, hne, hor.symm⟩

/-- The components cover the observed robots. -/
lemma mem_component_iff (r : RobotId) :
    r ∈ m.snapshots ↔ ∃ K ∈ m.connectedComponents, r ∈ K := by
  rw [← hm.mem_adjacency, hm.decomposes.cover]

/-- A robot of a component is observed. -/
lemma mem_snapshots {K : List RobotId} (hK : K ∈ m.connectedComponents) {r : RobotId}
    (hr : r ∈ K) : r ∈ m.snapshots :=
  (hm.mem_component_iff r).mpr ⟨K, hK, hr⟩

/-- No robot stands twice in a component. -/
lemma nodup {K : List RobotId} (hK : K ∈ m.connectedComponents) : K.Nodup :=
  (hm.decomposes.increasing K hK).imp fun h => h.ne

/-- Two components with a common robot are equal. -/
lemma component_unique {K L : List RobotId} (hK : K ∈ m.connectedComponents)
    (hL : L ∈ m.connectedComponents) {r : RobotId} (hrK : r ∈ K) (hrL : r ∈ L) : K = L := by
  have hmem : ∀ b, b ∈ K ↔ b ∈ L := fun b => by
    rw [hm.decomposes.connected K hK r hrK b, hm.decomposes.connected L hL r hrL b]
  exact eq_of_pairwise_of_mem_iff (fun _ _ => lt_asymm) (hm.decomposes.increasing K hK)
    (hm.decomposes.increasing L hL) hmem

/-- A neighbour lies in the same component. -/
lemma mem_of_neighbour {K : List RobotId} (hK : K ∈ m.connectedComponents) {a b : RobotId}
    (ha : a ∈ K) (hb : b ∈ neighbours m.adjacency a) : b ∈ K :=
  (hm.decomposes.connected K hK a ha b).mpr (Relation.ReflTransGen.single hb)

/-- Every robot of a component with several robots has a neighbour. -/
lemma neighbours_ne_nil {K : List RobotId} (hK : K ∈ m.connectedComponents)
    (hlen : 2 ≤ K.length) {r : RobotId} (hr : r ∈ K) : neighbours m.adjacency r ≠ [] := by
  have hother : ∃ b ∈ K, b ≠ r := by
    by_contra hall
    push Not at hall
    have hsub : K ⊆ [r] := fun b hb => by simp [hall b hb]
    have := ((hm.nodup hK).subperm hsub).length_le
    simp only [List.length_singleton] at this
    omega
  obtain ⟨b, hb, hne⟩ := hother
  rcases Relation.ReflTransGen.cases_head ((hm.decomposes.connected K hK r hr b).mp hb) with h | h
  · exact absurd h.symm hne
  · obtain ⟨c, hc, -⟩ := h
    exact List.ne_nil_of_mem hc

/-- A robot with a neighbour lies in a component with several robots. -/
lemma two_le_length {K : List RobotId} (hK : K ∈ m.connectedComponents) {r : RobotId}
    (hr : r ∈ K) (hne : neighbours m.adjacency r ≠ []) : 2 ≤ K.length := by
  obtain ⟨b, hb⟩ := List.exists_mem_of_ne_nil _ hne
  have hbK := hm.mem_of_neighbour hK hr hb
  have hbr : b ≠ r := by
    rintro rfl
    obtain ⟨pair, -, -, h | h⟩ := (hm.adjacent_iff b b).mp hb
    all_goals
      obtain ⟨h1, h2⟩ := Prod.mk.inj h
      exact pair.robotI_ne_robotJ (h1.trans h2.symm)
  have hnd : [r, b].Nodup := by simp [hbr.symm]
  have hsub : [r, b] ⊆ K := by
    intro x hx
    simp only [List.mem_cons, List.not_mem_nil, or_false] at hx
    rcases hx with rfl | rfl
    · exact hr
    · exact hbK
  exact (hnd.subperm hsub).length_le

/-- A component without several robots is one isolated robot. -/
lemma eq_singleton {K : List RobotId} (hK : K ∈ m.connectedComponents) (hlen : ¬ 2 ≤ K.length) :
    ∃ r, K = [r] ∧ r ∈ m.isolatedRobots := by
  have hpos := List.length_pos_of_ne_nil (hm.decomposes.nonempty K hK)
  obtain ⟨r, rfl⟩ := List.length_eq_one_iff.mp (by omega : K.length = 1)
  have hr : r ∈ [r] := by simp
  refine ⟨r, rfl, (hm.mem_isolated r).mpr ⟨hm.mem_snapshots hK hr, ?_⟩⟩
  by_contra hne
  exact hlen (hm.two_le_length hK hr hne)

/-- The isolated robots are the robots of the components with one robot. -/
lemma mem_isolated_iff {K : List RobotId} (hK : K ∈ m.connectedComponents) {r : RobotId}
    (hr : r ∈ K) : r ∈ m.isolatedRobots ↔ ¬ 2 ≤ K.length := by
  rw [hm.mem_isolated, and_iff_right (hm.mem_snapshots hK hr)]
  constructor
  · intro hnil hlen
    exact hm.neighbours_ne_nil hK hlen hr hnil
  · intro hlen
    by_contra hne
    exact hlen (hm.two_le_length hK hr hne)

/-- A constraint with a forbidden assignment relates robots of one component. -/
lemma same_component {K : List RobotId} (hK : K ∈ m.connectedComponents)
    {pair : PairwiseCompatibility} (hpair : pair ∈ m.pairwiseConstraints)
    (hforb : pair.forbiddenAssignments ≠ []) : pair.robotI ∈ K ↔ pair.robotJ ∈ K := by
  have hij : pair.robotJ ∈ neighbours m.adjacency pair.robotI :=
    (hm.adjacent_iff _ _).mpr ⟨pair, hpair, hforb, .inl rfl⟩
  exact ⟨fun h => hm.mem_of_neighbour hK h hij,
    fun h => hm.mem_of_neighbour hK h (hm.undirected.symm _ _ hij)⟩

end ConflictModel.WellFormed

namespace Represents

variable {E : Type} {geometry : Geometry E} {ordered : List RobotSnapshot} {m : ConflictModel}
  (h : Represents geometry ordered m)
include h

/-- The observed robots are those of the snapshots. -/
lemma mem_snapshots_iff (r : RobotId) : r ∈ m.snapshots ↔ ∃ s ∈ ordered, s.deviceId = r := by
  constructor
  · intro hr
    obtain ⟨s, hs⟩ := Dict.exists_lookup hr
    exact ⟨s, (h.lookup_iff r s).mp hs⟩
  · rintro ⟨s, hs⟩
    exact Dict.mem_of_lookup ((h.lookup_iff r s).mpr hs)

/-- A safe assignment of a component lets no two of its robots conflict. -/
lemma safe_pair {K : List RobotId} {x : RobotId → Action}
    (hsafe : Safe (componentConstraints K m) x) {s t : RobotSnapshot} (hs : s ∈ ordered)
    (ht : t ∈ ordered) (hlt : s.deviceId < t.deviceId) (hsK : s.deviceId ∈ K)
    (htK : t.deviceId ∈ K) : ¬ geometry.Conflict s (x s.deviceId) t (x t.deviceId) := by
  obtain ⟨pair, hpair, hids, heval⟩ := h.complete s hs t ht hlt
  obtain ⟨hI, hJ⟩ := Prod.mk.inj hids
  have hmem : pair ∈ componentConstraints K m :=
    mem_componentConstraints.mpr ⟨hpair, hI ▸ hsK, hJ ▸ htK⟩
  have := hsafe pair hmem
  rw [hI, hJ] at this
  rw [← heval, this]
  simp

/-- Robots of different components never conflict, whatever they do. -/
lemma separate_pair {K : List RobotId} (hK : K ∈ m.connectedComponents) {s t : RobotSnapshot}
    (hs : s ∈ ordered) (ht : t ∈ ordered) (hlt : s.deviceId < t.deviceId)
    (hsep : ¬ (s.deviceId ∈ K ↔ t.deviceId ∈ K)) (a b : Action) : ¬ geometry.Conflict s a t b := by
  obtain ⟨pair, hpair, hids, heval⟩ := h.complete s hs t ht hlt
  obtain ⟨hI, hJ⟩ := Prod.mk.inj hids
  intro hconf
  refine hsep ?_
  rw [← hI, ← hJ]
  exact h.same_component hK hpair
    (PairwiseCompatibility.forbiddenAssignments_ne_nil.mpr ⟨a, b, (heval a b).mpr hconf⟩)

end Represents

end CollisionMonitor
