import CollisionMonitor.ComponentView

set_option relaxedAutoImplicit false
set_option autoImplicit false

/-!
# Conflict models of fleets that share a part

When two fleets have the same snapshots for the robots of a set, and no edge of either conflict
graph leaves the set, the two conflict models show the same of every component inside the set.

## Main definitions

* `Closed` — no edge of the conflict graph leaves the set.
* `Compared` — the one record the builder makes for an ordered pair of snapshots.
* `SameOn` — two conflict models show the same of the robots of a set.

## Main results

* `buildConflictModel_compared` — the constraints are the records of the pairs, in the order of
  their IDs.
* `sameOn_of_build` — models of fleets that share a closed part show the same of it.
-/

namespace CollisionMonitor

open Outcome

/-- No edge of the conflict graph leaves the set. -/
def Closed (S : Set RobotId) (edges : List (RobotId × RobotId)) : Prop :=
  ∀ e ∈ edges, e.1 ∈ S ↔ e.2 ∈ S

/-! ## The constraints of a model -/

section Compared

variable {G : Type} {geometry : Geometry G}

/-- **The record of an ordered pair of snapshots**, from the four envelopes of the two robots. -/
def Compared (geometry : Geometry G) (s t : RobotSnapshot) (pair : PairwiseCompatibility) : Prop :=
  ∃ (hlt : s.deviceId < t.deviceId) (envelopesI envelopesJ : Action → G),
    (∀ a, geometry.actionEnvelope s a = .ok (envelopesI a)) ∧
    (∀ a, geometry.actionEnvelope t a = .ok (envelopesJ a)) ∧ pair = {
      robotI := s.deviceId, robotJ := t.deviceId, ordered := hlt
      compatibility := fun a b => !geometry.geometriesConflict (envelopesI a) (envelopesJ b)
      envelopeBounds := fun a b =>
        (geometry.bounds (envelopesI a), geometry.bounds (envelopesJ b)) }

/-- The snapshots determine their record. -/
lemma Compared.unique {s t : RobotSnapshot} {pair pair' : PairwiseCompatibility}
    (h : Compared geometry s t pair) (h' : Compared geometry s t pair') : pair = pair' := by
  obtain ⟨_, envI, envJ, hI, hJ, rfl⟩ := h
  obtain ⟨_, envI', envJ', hI', hJ', rfl⟩ := h'
  obtain rfl : envI = envI' := funext fun a => Except.ok.inj ((hI a).symm.trans (hI' a))
  obtain rfl : envJ = envJ' := funext fun a => Except.ok.inj ((hJ a).symm.trans (hJ' a))
  rfl

/-- A pair that was compared has the IDs of its snapshots. -/
lemma Compared.robotPair {s t : RobotSnapshot} {pair : PairwiseCompatibility}
    (h : Compared geometry s t pair) : pair.robotPair = (s.deviceId, t.deviceId) := by
  obtain ⟨_, _, _, -, -, rfl⟩ := h
  rfl

/-- An unsafe combination of the record is one of conflicting envelopes. -/
lemma Compared.conflict_iff {s t : RobotSnapshot} {pair : PairwiseCompatibility}
    (h : Compared geometry s t pair) (a b : Action) :
    pair.isSafe a b = false ↔ geometry.Conflict s a t b := by
  obtain ⟨_, envI, envJ, hI, hJ, rfl⟩ := h
  rw [Geometry.conflict_iff (hI a) (hJ b)]
  simp [PairwiseCompatibility.isSafe]

/-- Comparing cached envelopes makes the record. -/
lemma compared_of_compareEnvelopes {ordered : List RobotSnapshot}
    {cache : Dict RobotId (Action → G)} (hcache : Caches geometry ordered cache)
    {s t : RobotSnapshot} (hs : s ∈ ordered) (ht : t ∈ ordered) (hlt : s.deviceId < t.deviceId)
    {pair : PairwiseCompatibility}
    (h : compareEnvelopes geometry s.deviceId t.deviceId hlt cache = .ok pair) :
    Compared geometry s t pair := by
  obtain ⟨envI, hI, henvI⟩ := hcache s hs
  obtain ⟨envJ, hJ, henvJ⟩ := hcache t ht
  unfold compareEnvelopes at h
  rw [item_eq_ok.mpr hI, ok_bind, item_eq_ok.mpr hJ, ok_bind] at h
  exact ⟨hlt, envI, envJ, henvI, henvJ, (Except.ok.inj h).symm⟩

/-- The entry of a pair is its record. -/
def ComparedEntries (geometry : Geometry G) (ordered : List RobotSnapshot)
    (d : Dict (RobotId × RobotId) PairwiseCompatibility) : Prop :=
  ∀ key pair, d.lookup key = some pair → ∃ s ∈ ordered, ∃ t ∈ ordered,
    key = (s.deviceId, t.deviceId) ∧ Compared geometry s t pair

/-- Every entry has the pair of its key. -/
lemma ComparedEntries.robotPair {ordered : List RobotSnapshot}
    {d : Dict (RobotId × RobotId) PairwiseCompatibility} (h : ComparedEntries geometry ordered d)
    {key : RobotId × RobotId} {pair : PairwiseCompatibility} (hkey : d.lookup key = some pair) :
    pair.robotPair = key := by
  obtain ⟨s, -, t, -, rfl, hcompared⟩ := h key pair hkey
  exact hcompared.robotPair

/-- The constraints are listed in the order of their robots. -/
lemma ComparedEntries.increasing {ordered : List RobotSnapshot}
    {d : Dict (RobotId × RobotId) PairwiseCompatibility} (h : ComparedEntries geometry ordered d) :
    ((sortedBy toLex d.keys).filterMap fun key => d.lookup key).Pairwise
      fun p q => toLex p.robotPair < toLex q.robotPair := by
  have hkeys : (sortedBy toLex d.keys).Pairwise fun k k' => toLex k < toLex k' :=
    pairwise_sortedBy_lt ((List.nodup_map_iff toLex.injective).mpr d.keys_nodup)
  rw [List.pairwise_filterMap]
  refine hkeys.imp fun {key key'} hlt pair hpair pair' hpair' => ?_
  rw [h.robotPair hpair, h.robotPair hpair']
  exact hlt

/-- **One candidate** adds its record, if anything. -/
lemma addCandidate_compared {ordered : List RobotSnapshot}
    (hlt : ordered.Pairwise fun s t => s.deviceId < t.deviceId)
    {cache : Dict RobotId (Action → G)} (hcache : Caches geometry ordered cache)
    {d d' : Dict (RobotId × RobotId) PairwiseCompatibility}
    (hd : ComparedEntries geometry ordered d) {s t : RobotSnapshot} (hs : s ∈ ordered)
    (ht : t ∈ ordered) (hst : s.deviceId < t.deviceId)
    (h : addCandidate geometry (Dict.ofPairs (ordered.map fun s => (s.deviceId, s))) cache d
      (s, t) = .ok d') : ComparedEntries geometry ordered d' := by
  obtain ⟨_, -, h⟩ := bind_eq_ok.mp h
  obtain ⟨_, -, h⟩ := bind_eq_ok.mp h
  dsimp only at h
  rw [if_pos hst.le] at h
  split_ifs at h
  · exact Except.ok.inj h ▸ hd
  obtain ⟨s', hitemI, h⟩ := bind_eq_ok.mp h
  obtain ⟨t', hitemJ, h⟩ := bind_eq_ok.mp h
  obtain ⟨pair, hpair, h⟩ := bind_eq_ok.mp h
  obtain ⟨hs', hidI⟩ := (lookup_snapshotsById hlt _ _).mp (item_eq_ok.mp hitemI)
  obtain ⟨ht', hidJ⟩ := (lookup_snapshotsById hlt _ _).mp (item_eq_ok.mp hitemJ)
  obtain rfl := eq_of_deviceId_eq hlt hs' hs hidI
  obtain rfl := eq_of_deviceId_eq hlt ht' ht hidJ
  rw [evaluateCachedPair, dif_pos hst] at hpair
  rw [← Except.ok.inj h]
  intro key pair' hkey
  rw [Dict.lookup_insert_eq_ite] at hkey
  split_ifs at hkey with heq
  · rw [← Option.some.inj hkey]
    exact ⟨_, hs, _, ht, heq, compared_of_compareEnvelopes hcache hs ht hst hpair⟩
  · exact hd key pair' hkey

/-- **The constraints of a model** are the records of its pairs, in the order of their IDs. -/
theorem buildConflictModel_compared {snapshots : List RobotSnapshot} {m : ConflictModel}
    (h : buildConflictModel geometry snapshots = .ok m) :
    (m.pairwiseConstraints.Pairwise fun p q => toLex p.robotPair < toLex q.robotPair) ∧
      ∀ pair ∈ m.pairwiseConstraints, ∃ s ∈ snapshots, ∃ t ∈ snapshots,
        Compared geometry s t pair := by
  obtain ⟨ordered, hnorm, h⟩ := bind_eq_ok.mp h
  obtain ⟨rfl, hlt⟩ := normaliseModelSnapshots_eq_ok.mp hnorm
  obtain ⟨cache, hcache, h⟩ := bind_eq_ok.mp h
  obtain ⟨d, hd, h⟩ := bind_eq_ok.mp h
  obtain ⟨adjacency, -, h⟩ := bind_eq_ok.mp h
  obtain ⟨components, -, h⟩ := bind_eq_ok.mp h
  obtain rfl := Except.ok.inj h
  have hself : sortedBy RobotSnapshot.deviceId (sortedBy RobotSnapshot.deviceId snapshots) =
      sortedBy RobotSnapshot.deviceId snapshots := sortedBy_eq_self _ (hlt.imp fun h => h.le)
  have hentries : ComparedEntries geometry (sortedBy RobotSnapshot.deviceId snapshots) d := by
    refine foldlM_invariant (fun _ d => ComparedEntries geometry _ d) hd
      (fun key pair hkey => by cases hkey) ?_
    rintro pre ⟨s, t⟩ post d d' hl hentries hstep
    have hmem : (s, t) ∈ combinations (sortedBy RobotSnapshot.deviceId snapshots) := by
      rw [← hself, ← allPairsCandidates, hl]
      simp
    obtain ⟨hs, ht, hst⟩ := (mem_combinations hlt).mp hmem
    exact addCandidate_compared hlt (caches_of_buildEnvelopeCache hlt hcache) hentries hs ht hst
      hstep
  refine ⟨hentries.increasing, fun pair hpair => ?_⟩
  obtain ⟨key, hkey⟩ := mem_listedConstraints.mp hpair
  obtain ⟨s, hs, t, ht, -, hcompared⟩ := hentries key pair hkey
  exact ⟨s, (mem_sortedBy _ _).mp hs, t, (mem_sortedBy _ _).mp ht, hcompared⟩

end Compared

/-- Lists of records in the order of their robots are equal if their members are. -/
lemma increasing_eq {l l' : List PairwiseCompatibility}
    (h : l.Pairwise fun p q => toLex p.robotPair < toLex q.robotPair)
    (h' : l'.Pairwise fun p q => toLex p.robotPair < toLex q.robotPair)
    (hmem : ∀ pair, pair ∈ l ↔ pair ∈ l') : l = l' := by
  exact eq_of_pairwise_of_mem_iff (fun _ _ => lt_asymm) h h' hmem

/-! ## Models of fleets that share a closed part -/

/-- **Two conflict models show the same of the robots of a set**: their snapshots, and the
components they lie in. -/
structure SameOn (S : Set RobotId) (m m' : ConflictModel) : Prop where
  snapshots : ∀ r ∈ S, m.snapshots.lookup r = m'.snapshots.lookup r
  isolated : ∀ r ∈ S, neighbours m.adjacency r = [] ↔ neighbours m'.adjacency r = []
  components : ∀ K, (∃ r ∈ K, r ∈ S) → (K ∈ m.connectedComponents ↔ K ∈ m'.connectedComponents)
  inside : ∀ K ∈ m.connectedComponents, (∃ r ∈ K, r ∈ S) →
    (∀ r ∈ K, r ∈ S) ∧ SameComponent K m m'

section Shared

variable {G : Type} {geometry : Geometry G} {S : Set RobotId}
  {ordered ordered' : List RobotSnapshot} {m m' : ConflictModel}
  (hbuilt : buildConflictModel geometry ordered = .ok m) (hrep : Represents geometry ordered m)
  (hbuilt' : buildConflictModel geometry ordered' = .ok m')
  (hrep' : Represents geometry ordered' m')
  (hsame : ∀ s : RobotSnapshot, s.deviceId ∈ S → (s ∈ ordered ↔ s ∈ ordered'))

include hrep hrep' hsame in
/-- The snapshots of a shared robot are the same. -/
lemma lookup_shared {r : RobotId} (hr : r ∈ S) :
    m.snapshots.lookup r = m'.snapshots.lookup r := by
  refine Option.ext fun s => ?_
  rw [hrep.lookup_iff, hrep'.lookup_iff]
  refine and_congr_left fun hid => ?_
  exact hsame s (hid ▸ hr)

include hbuilt hbuilt' hrep' hsame in
/-- The record of two shared robots is in both models. -/
lemma constraint_mem {pair : PairwiseCompatibility} (hpair : pair ∈ m.pairwiseConstraints)
    (hI : pair.robotI ∈ S) (hJ : pair.robotJ ∈ S) : pair ∈ m'.pairwiseConstraints := by
  obtain ⟨s, hs, t, ht, hcompared⟩ := (buildConflictModel_compared hbuilt).2 pair hpair
  obtain ⟨hidI, hidJ⟩ := Prod.mk.inj hcompared.robotPair
  have hs' := (hsame s (hidI ▸ hI)).mp hs
  have ht' := (hsame t (hidJ ▸ hJ)).mp ht
  obtain ⟨hlt, -⟩ := id hcompared
  obtain ⟨pair', hpair', hids, -⟩ := hrep'.complete s hs' t ht' hlt
  obtain ⟨u, hu, v, hv, hcompared'⟩ := (buildConflictModel_compared hbuilt').2 pair' hpair'
  obtain ⟨hsu, htv⟩ := Prod.mk.inj (hids.symm.trans hcompared'.robotPair)
  obtain rfl := eq_of_deviceId_eq hrep'.increasing hs' hu hsu
  obtain rfl := eq_of_deviceId_eq hrep'.increasing ht' hv htv
  rwa [hcompared.unique hcompared']

include hbuilt hrep hbuilt' hrep' hsame

/-- The neighbours of a shared robot are shared, when no edge leaves the part. -/
lemma neighbour_mem (hclosed : Closed S m.edges) {a b : RobotId} (ha : a ∈ S)
    (hb : b ∈ neighbours m.adjacency a) : b ∈ S ∧ b ∈ neighbours m'.adjacency a := by
  obtain ⟨pair, hpair, hforb, hids⟩ := (hrep.adjacent_iff a b).mp hb
  have hedge : pair.robotI ∈ S ↔ pair.robotJ ∈ S :=
    hclosed pair.robotPair ((hrep.mem_edges _).mpr ⟨pair, hpair, hforb, rfl⟩)
  have hboth : pair.robotI ∈ S ∧ pair.robotJ ∈ S ∧ b ∈ S := by
    rcases hids with heq | heq
    · obtain ⟨rfl, rfl⟩ := Prod.mk.inj heq
      exact ⟨ha, hedge.mp ha, hedge.mp ha⟩
    · obtain ⟨rfl, rfl⟩ := Prod.mk.inj heq
      exact ⟨hedge.mpr ha, ha, hedge.mpr ha⟩
  refine ⟨hboth.2.2, (hrep'.adjacent_iff a b).mpr ⟨pair, ?_, hforb, hids⟩⟩
  exact constraint_mem hbuilt hbuilt' hrep' hsame hpair hboth.1 hboth.2.1

/-- What a shared robot reaches in one graph it reaches in the other. -/
lemma reach_mem (hclosed : Closed S m.edges) {a b : RobotId} (ha : a ∈ S)
    (h : Reach m.adjacency a b) : b ∈ S ∧ Reach m'.adjacency a b := by
  induction h with
  | refl => exact ⟨ha, Relation.ReflTransGen.refl⟩
  | tail _ hbc ih =>
    obtain ⟨hc, hbc'⟩ := neighbour_mem hbuilt hrep hbuilt' hrep' hsame hclosed ih.1 hbc
    exact ⟨hc, ih.2.tail hbc'⟩

end Shared

section SameOn

variable {G : Type} {geometry : Geometry G} {S : Set RobotId}
  {ordered ordered' : List RobotSnapshot} {m m' : ConflictModel}

/-- A component with a shared robot is shared, and is a component of the other graph. -/
lemma component_mem (hbuilt : buildConflictModel geometry ordered = .ok m)
    (hrep : Represents geometry ordered m)
    (hbuilt' : buildConflictModel geometry ordered' = .ok m')
    (hrep' : Represents geometry ordered' m')
    (hsame : ∀ s : RobotSnapshot, s.deviceId ∈ S → (s ∈ ordered ↔ s ∈ ordered'))
    (hclosed : Closed S m.edges) (hclosed' : Closed S m'.edges) {K : List RobotId}
    (hK : K ∈ m.connectedComponents) (hmeet : ∃ r ∈ K, r ∈ S) :
    K ∈ m'.connectedComponents ∧ ∀ r ∈ K, r ∈ S := by
  have hsame' : ∀ s : RobotSnapshot, s.deviceId ∈ S → (s ∈ ordered' ↔ s ∈ ordered) :=
    fun s hs => (hsame s hs).symm
  obtain ⟨r, hrK, hr⟩ := hmeet
  -- the component of the robot in the other graph has the same members
  have hobs : r ∈ m'.snapshots := (Dict.mem_congr (lookup_shared hrep hrep' hsame hr)).mp
    (hrep.toWellFormed.mem_snapshots hK hrK)
  obtain ⟨L, hL, hrL⟩ := (hrep'.toWellFormed.mem_component_iff r).mp hobs
  have hKL : K = L := by
    refine (hrep.decomposes.increasing K hK).eq_of_mem_iff (hrep'.decomposes.increasing L hL)
      fun q => ?_
    rw [hrep.decomposes.connected K hK r hrK q, hrep'.decomposes.connected L hL r hrL q]
    exact ⟨fun h => (reach_mem hbuilt hrep hbuilt' hrep' hsame hclosed hr h).2,
      fun h => (reach_mem hbuilt' hrep' hbuilt hrep hsame' hclosed' hr h).2⟩
  refine ⟨hKL ▸ hL, fun q hq => ?_⟩
  exact (reach_mem hbuilt hrep hbuilt' hrep' hsame hclosed hr
    ((hrep.decomposes.connected K hK r hrK q).mp hq)).1

/-- **Fleets that share a closed part** have conflict models that show the same of it. -/
theorem sameOn_of_build (hbuilt : buildConflictModel geometry ordered = .ok m)
    (hrep : Represents geometry ordered m)
    (hbuilt' : buildConflictModel geometry ordered' = .ok m')
    (hrep' : Represents geometry ordered' m')
    (hsame : ∀ s : RobotSnapshot, s.deviceId ∈ S → (s ∈ ordered ↔ s ∈ ordered'))
    (hclosed : Closed S m.edges) (hclosed' : Closed S m'.edges) : SameOn S m m' := by
  have hsame' : ∀ s : RobotSnapshot, s.deviceId ∈ S → (s ∈ ordered' ↔ s ∈ ordered) :=
    fun s hs => (hsame s hs).symm
  have hsnapshots : ∀ r ∈ S, m.snapshots.lookup r = m'.snapshots.lookup r := fun r hr =>
    lookup_shared hrep hrep' hsame hr
  have hisolated : ∀ r ∈ S, neighbours m.adjacency r = [] ↔ neighbours m'.adjacency r = [] := by
    intro r hr
    rw [List.eq_nil_iff_forall_not_mem, List.eq_nil_iff_forall_not_mem]
    exact forall_congr' fun b => not_congr
      ⟨fun hb => (neighbour_mem hbuilt hrep hbuilt' hrep' hsame hclosed hr hb).2,
        fun hb => (neighbour_mem hbuilt' hrep' hbuilt hrep hsame' hclosed' hr hb).2⟩
  refine ⟨hsnapshots, hisolated, fun K hmeet => ⟨fun hK => ?_, fun hK => ?_⟩, fun K hK hmeet => ?_⟩
  · exact (component_mem hbuilt hrep hbuilt' hrep' hsame hclosed hclosed' hK hmeet).1
  · exact (component_mem hbuilt' hrep' hbuilt hrep hsame' hclosed' hclosed hK hmeet).1
  have hinside := (component_mem hbuilt hrep hbuilt' hrep' hsame hclosed hclosed' hK hmeet).2
  refine ⟨hinside, fun q hq => hsnapshots q (hinside q hq), ?_,
    fun q hq => hisolated q (hinside q hq)⟩
  -- both lists of constraints are sorted by their robots
  refine increasing_eq ((buildConflictModel_compared hbuilt).1.filter _)
    ((buildConflictModel_compared hbuilt').1.filter _) fun pair => ?_
  rw [mem_componentConstraints, mem_componentConstraints]
  refine and_congr_left fun ⟨hI, hJ⟩ => ⟨fun hpair => ?_, fun hpair => ?_⟩
  · exact constraint_mem hbuilt hbuilt' hrep' hsame hpair (hinside _ hI) (hinside _ hJ)
  · exact constraint_mem hbuilt' hbuilt hrep hsame' hpair (hinside _ hI) (hinside _ hJ)

end SameOn

end CollisionMonitor
