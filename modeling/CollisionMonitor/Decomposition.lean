import CollisionMonitor.EngineSpec
import CollisionMonitor.Objective

set_option relaxedAutoImplicit false
set_option autoImplicit false

/-!
# Decomposition into components

The conflict graph is decomposed exactly, whatever the order of its edges, and so are the
assignments: an assignment of the fleet is free of conflicts iff each of its parts is accepted, and
best parts join into a best assignment.

## Main definitions

* `EdgePath` — two robots are joined by a path of listed edges.
* `restriction`, `joined` — the part of an assignment in one component, and the union of parts.
* `fleetFeasible`, `acceptedDecisions` — the assignments of the fleet and of one component.

## Main results

* `components_exact` — the decomposition of every accepted edge list.
* `decomposition_exact` — feasibility and best assignments decompose into components.
-/

namespace CollisionMonitor

open Outcome

/-! ## The graph -/

section Graph

/-- The robots are joined by a path of listed edges, taken either way. -/
def EdgePath (edges : List (RobotId × RobotId)) : RobotId → RobotId → Prop :=
  Relation.ReflTransGen fun a b => (a, b) ∈ edges ∨ (b, a) ∈ edges

/-- Adding an edge returns only on ordered edges between known robots, and knows the same robots
afterwards. -/
lemma addEdge_eq_ok {adjacency adjacency' : Dict RobotId (List RobotId)} {edge : RobotId × RobotId}
    (h : addEdge adjacency edge = .ok adjacency') :
    (edge.1 ∈ adjacency ∧ edge.2 ∈ adjacency ∧ edge.1 < edge.2) ∧
      ∀ r, r ∈ adjacency' ↔ r ∈ adjacency := by
  obtain ⟨_, hknown, hrest⟩ := bind_eq_ok.mp h
  obtain ⟨_, hordered, -⟩ := bind_eq_ok.mp hrest
  have hmem := raiseIf_eq_ok.mp hknown
  rw [not_or, not_not, not_not] at hmem
  have hlt := not_le.mp (raiseIf_eq_ok.mp hordered)
  obtain ⟨_, hok, hkeys, -⟩ := addEdge_spec hmem.1 hmem.2 hlt
  obtain rfl := Except.ok.inj (h.symm.trans hok)
  exact ⟨⟨hmem.1, hmem.2, hlt⟩, hkeys⟩

/-- **Accepted edges** are ordered and relate known robots. -/
lemma edges_of_buildAdjacency {robotIds : List RobotId} {edges : List (RobotId × RobotId)}
    {adjacency : Dict RobotId (List RobotId)} (h : buildAdjacency robotIds edges = .ok adjacency) :
    ∀ e ∈ edges, e.1 ∈ robotIds ∧ e.2 ∈ robotIds ∧ e.1 < e.2 := by
  obtain ⟨-, hpre⟩ := foldlM_invariant (fun pre (adjacency : Dict RobotId (List RobotId)) =>
    (∀ r, r ∈ adjacency ↔ r ∈ robotIds) ∧
      ∀ e ∈ pre, e.1 ∈ robotIds ∧ e.2 ∈ robotIds ∧ e.1 < e.2) h
    ⟨fun r => by simp, fun _ he => by cases he⟩ fun pre e post a a' _ hinv hadd => by
      obtain ⟨hkeys, hpre⟩ := hinv
      obtain ⟨⟨h1, h2, hlt⟩, hkeys'⟩ := addEdge_eq_ok hadd
      refine ⟨fun r => (hkeys' r).trans (hkeys r), fun e' he' => ?_⟩
      rcases List.mem_append.mp he' with he' | he'
      · exact hpre e' he'
      · rw [List.mem_singleton.mp he']
        exact ⟨(hkeys _).mp h1, (hkeys _).mp h2, hlt⟩
  exact fun e he => hpre e ((mem_sortedBy toLex edges).mpr he)

/-- Two lists of components of the same graph are equal: they have the same members, and each has
its components in the order of their smallest robots. -/
lemma Decomposes.unique {adjacency adjacency' : Dict RobotId (List RobotId)}
    {components components' : List (List RobotId)} (h : Decomposes adjacency components)
    (h' : Decomposes adjacency' components') (hmem : ∀ r, r ∈ adjacency ↔ r ∈ adjacency')
    (hreach : ∀ a b, Reach adjacency a b ↔ Reach adjacency' a b) : components = components' := by
  have hsub : ∀ {adjacency adjacency' components components'},
      Decomposes adjacency components → Decomposes adjacency' components' →
      (∀ r, r ∈ adjacency ↔ r ∈ adjacency') →
      (∀ a b, Reach adjacency a b ↔ Reach adjacency' a b) →
      ∀ K ∈ components, K ∈ components' := by
    intro adjacency adjacency' components components' h h' hmem hreach K hK
    obtain ⟨a, ha⟩ := List.exists_mem_of_ne_nil _ (h.nonempty K hK)
    obtain ⟨L, hL, haL⟩ := (h'.cover a).mp ((hmem a).mp ((h.cover a).mpr ⟨K, hK, ha⟩))
    have hsame : ∀ b, b ∈ K ↔ b ∈ L := fun b => by
      rw [h.connected K hK a ha b, h'.connected L hL a haL b, hreach]
    rw [eq_of_pairwise_of_mem_iff (fun _ _ => lt_asymm) (h.increasing K hK)
      (h'.increasing L hL) hsame]
    exact hL
  refine eq_of_pairwise_of_mem_iff (fun K L hKL hLK => ?_) h.ordered h'.ordered fun K =>
    ⟨hsub h h' hmem hreach K,
      hsub h' h (fun r => (hmem r).symm) (fun a b => (hreach a b).symm) K⟩
  obtain ⟨a, haK, ha⟩ := hKL
  obtain ⟨b, hbL, hb⟩ := hLK
  exact absurd (ha b hbL) (lt_asymm (hb a haK))

/-- The neighbours of an adjacency that was built are joined by listed edges. -/
lemma reach_iff_edgePath {edges : List (RobotId × RobotId)}
    {adjacency : Dict RobotId (List RobotId)}
    (hadj : ∀ a b, b ∈ neighbours adjacency a ↔ (a, b) ∈ edges ∨ (b, a) ∈ edges) (a b : RobotId) :
    Reach adjacency a b ↔ EdgePath edges a b := by
  simp only [Reach, EdgePath, hadj]

/-- **The decomposition of every accepted edge list.** It returns non-empty, increasing, disjoint
components that cover the robots, join exactly those that a path of edges joins, and come in the
order of their smallest robots. Neither the order nor the repetition of robots and edges matters.

**Proof sketch.** The adjacency depends on the edges as a set (`buildAdjacency_total`). A
breadth-first search from the smallest robot not yet visited collects what it can reach
(`decomposeConnectedComponents_spec`), and reachability is a path of edges
(`reach_iff_edgePath`). -/
theorem components_exact {robotIds : List RobotId} {edges : List (RobotId × RobotId)}
    {adjacency : Dict RobotId (List RobotId)} (h : buildAdjacency robotIds edges = .ok adjacency) :
    ∃ components, decomposeConnectedComponents adjacency = .ok components ∧
      (∀ K ∈ components, K ≠ [] ∧ K.Pairwise (· < ·)) ∧
      components.Pairwise List.Disjoint ∧
      (∀ r, r ∈ robotIds ↔ ∃ K ∈ components, r ∈ K) ∧
      (∀ a ∈ robotIds, ∀ b ∈ robotIds,
        (∃ K ∈ components, a ∈ K ∧ b ∈ K) ↔ EdgePath edges a b) ∧
      (components.Pairwise fun K L => ∃ a ∈ K, (∀ b ∈ K, a ≤ b) ∧ ∀ b ∈ L, a < b) ∧
      ∀ robotIds' edges', (∀ r, r ∈ robotIds' ↔ r ∈ robotIds) → (∀ e, e ∈ edges' ↔ e ∈ edges) →
        (do decomposeConnectedComponents (← buildAdjacency robotIds' edges')) = .ok components := by
  have hedges := edges_of_buildAdjacency h
  -- every list of the same edges is accepted and has the same components
  have hdecompose : ∀ robotIds' edges', (∀ r, r ∈ robotIds' ↔ r ∈ robotIds) →
      (∀ e, e ∈ edges' ↔ e ∈ edges) → ∃ adjacency' components,
        buildAdjacency robotIds' edges' = .ok adjacency' ∧
        decomposeConnectedComponents adjacency' = .ok components ∧
        Decomposes adjacency' components ∧ (∀ r, r ∈ adjacency' ↔ r ∈ robotIds) ∧
        ∀ a b, Reach adjacency' a b ↔ EdgePath edges a b := by
    intro robotIds' edges' hrobots hsame
    obtain ⟨adjacency', hok, hmem, hadj⟩ := buildAdjacency_total robotIds' edges' fun e he => by
      rw [hrobots, hrobots]
      exact hedges e ((hsame e).mp he)
    simp only [hsame] at hadj
    have hundirected : Undirected adjacency' :=
      { mem := fun a b hb => by
          rw [hadj] at hb
          exact mem_of_mem_neighbours ((hadj b a).mpr hb.symm)
        symm := fun a b hb => by
          rw [hadj] at hb ⊢
          exact hb.symm }
    obtain ⟨components, hcomp, hdec⟩ := decomposeConnectedComponents_spec hundirected
    exact ⟨adjacency', components, hok, hcomp, hdec, fun r => (hmem r).trans (hrobots r),
      reach_iff_edgePath hadj⟩
  obtain ⟨_, components, hok, hcomp, hdec, hmem, hreach⟩ :=
    hdecompose robotIds edges (fun _ => Iff.rfl) fun _ => Iff.rfl
  obtain rfl := Except.ok.inj (hok.symm.trans h)
  refine ⟨components, hcomp, fun K hK => ⟨hdec.nonempty K hK, hdec.increasing K hK⟩,
    hdec.disjoint, fun r => (hmem r).symm.trans (hdec.cover r), fun a ha b hb => ?_, ?_,
    fun robotIds' edges' hrobots hsame => ?_⟩
  · rw [← hreach]
    constructor
    · rintro ⟨K, hK, haK, hbK⟩
      exact (hdec.connected K hK a haK b).mp hbK
    · intro hpath
      obtain ⟨K, hK, haK⟩ := (hdec.cover a).mp ((hmem a).mpr ha)
      exact ⟨K, hK, haK, (hdec.connected K hK a haK b).mpr hpath⟩
  · refine hdec.ordered.imp_of_mem fun {K L} hK _ hlt => ?_
    obtain ⟨a, haK, ha⟩ := hlt
    obtain ⟨first, rest, rfl⟩ := List.exists_cons_of_ne_nil (hdec.nonempty K hK)
    have hfirst : ∀ b ∈ first :: rest, first ≤ b :=
      List.forall_mem_cons.mpr ⟨le_rfl, fun b hb =>
        ((List.pairwise_cons.mp (hdec.increasing _ hK)).1 b hb).le⟩
    exact ⟨first, List.mem_cons_self, hfirst, fun b hb => (hfirst a haK).trans_lt (ha b hb)⟩
  · obtain ⟨adjacency', components', hok', hcomp', hdec', hmem', hreach'⟩ :=
      hdecompose robotIds' edges' hrobots hsame
    rw [hok', ok_bind, hcomp', hdec'.unique hdec (fun r => (hmem' r).trans (hmem r).symm)
      fun a b => (hreach' a b).trans (hreach a b).symm]

/-- The decomposition of a path with a repeated edge, and of the same edges in another order. -/
theorem components_exact_path : ∃ adjacency components,
    buildAdjacency [robotA, robotB, robotC, robotD]
      [(robotB, robotC), (robotA, robotB), (robotB, robotC)] = .ok adjacency ∧
    decomposeConnectedComponents adjacency = .ok components ∧
    (∃ K ∈ components, robotA ∈ K ∧ robotC ∈ K) ∧
    (do decomposeConnectedComponents (← buildAdjacency [robotD, robotC, robotB, robotA]
      [(robotA, robotB), (robotB, robotC)])) = .ok components := by
  obtain ⟨adjacency, h, -⟩ := buildAdjacency_total [robotA, robotB, robotC, robotD]
    [(robotB, robotC), (robotA, robotB), (robotB, robotC)] (by decide)
  obtain ⟨components, hcomp, -, -, -, hpath, -, horder⟩ := components_exact h
  refine ⟨adjacency, components, h, hcomp, ?_, horder _ _ (fun r => ?_) fun e => ?_⟩
  · refine (hpath robotA (by simp) robotC (by simp)).mpr ?_
    exact .tail (.single (.inl (by simp))) (.inl (by simp : (robotB, robotC) ∈ _))
  · simp only [List.mem_cons, List.not_mem_nil, or_false]
    tauto
  · simp only [List.mem_cons, List.not_mem_nil, or_false]
    tauto

end Graph

/-! ## Assignments of the fleet and of its components -/

section Assignments

variable {E : Type} {geometry : Geometry E}

/-- The complete assignments of a fleet that realise no conflicting envelope pair. -/
def fleetFeasible (geometry : Geometry E) (snapshots : List RobotSnapshot) :
    Set (Dict RobotId Action) :=
  {decisions | (∀ r, r ∈ decisions ↔ ∃ s ∈ snapshots, s.deviceId = r) ∧
    ∀ i j, ¬ ConflictsUnder geometry snapshots (actionOf decisions) i j}

/-- The decisions of a component that pass the independent validation, without hard actions. -/
def acceptedDecisions (m : ConflictModel) (component : List RobotId) : Set (Dict RobotId Action) :=
  {decisions | validateComponentDecisions component decisions (componentConstraints component m) ∅ =
    .ok ()}

/-- The part of a complete assignment in one component. -/
def restriction (decisions : Dict RobotId Action) (component : List RobotId) :
    Dict RobotId Action :=
  Dict.ofKeys component (actionOf decisions)

/-- The parts of the components, joined one after the other. -/
def joined (components : List (List RobotId)) (part : List RobotId → Dict RobotId Action) :
    Dict RobotId Action :=
  components.foldl (fun decisions component => decisions.update (part component)) ∅

/-- A restriction decides exactly its component. -/
@[simp] lemma mem_restriction {decisions : Dict RobotId Action} {component : List RobotId}
    {r : RobotId} : r ∈ restriction decisions component ↔ r ∈ component :=
  Dict.mem_ofKeys

/-- It keeps the actions there. -/
lemma actionOf_restriction {decisions : Dict RobotId Action} {component : List RobotId}
    {r : RobotId} (hr : r ∈ component) :
    actionOf (restriction decisions component) r = actionOf decisions r :=
  actionOf_eq (Dict.lookup_ofKeys_of_mem hr)

/-- Joining disjoint parts keeps each of them. -/
lemma lookup_joined {components : List (List RobotId)} {part : List RobotId → Dict RobotId Action}
    (hdisj : components.Pairwise List.Disjoint)
    (hkeys : ∀ K ∈ components, ∀ r, r ∈ part K ↔ r ∈ K) :
    (∀ K ∈ components, ∀ r ∈ K, (joined components part).lookup r = (part K).lookup r) ∧
      ∀ r, r ∈ joined components part ↔ ∃ K ∈ components, r ∈ K := by
  induction components using List.reverseRecOn with
  | nil => exact ⟨fun _ h => (by cases h), fun r => by simp [joined]⟩
  | append_singleton components L ih =>
    obtain ⟨hpre, -, hlast⟩ := List.pairwise_append.mp hdisj
    obtain ⟨hlook, hmem⟩ := ih hpre fun K hK => hkeys K (List.mem_append_left _ hK)
    have hL := hkeys L (List.mem_append_right _ List.mem_cons_self)
    have hstep : joined (components ++ [L]) part = (joined components part).update (part L) := by
      rw [joined, List.foldl_append]
      rfl
    rw [hstep]
    refine ⟨fun K hK r hr => ?_, fun r => ?_⟩
    · rcases List.mem_append.mp hK with hK | hK
      · rw [Dict.lookup_update_of_notMem, hlook K hK r hr]
        rw [hL]
        exact fun hrL => hlast K hK L List.mem_cons_self hr hrL
      · obtain rfl := List.mem_singleton.mp hK
        exact Dict.lookup_update_of_mem ((hL r).mpr hr)
    · rw [Dict.mem_update, hmem, hL]
      simp [or_and_right, exists_or, or_comm]

/-- The total of disjoint components is the sum of their totals. -/
lemma resumeTotal_flatten {components : List (List RobotId)} (weight : RobotId → ℤ)
    (decisions : Dict RobotId Action) (hdisj : components.Pairwise List.Disjoint) :
    resumeTotal components.flatten weight decisions =
      (components.map fun K => resumeTotal K weight decisions).sum := by
  induction components with
  | nil => simp [resumeTotal]
  | cons K components ih =>
    obtain ⟨hK, hrest⟩ := List.pairwise_cons.mp hdisj
    have hdisjoint : Disjoint K.toFinset components.flatten.toFinset := by
      rw [Finset.disjoint_left]
      intro r hr hrest
      obtain ⟨L, hL, hrL⟩ := List.mem_flatten.mp (List.mem_toFinset.mp hrest)
      exact hK L hL (List.mem_toFinset.mp hr) hrL
    rw [List.map_cons, List.sum_cons, ← ih hrest, List.flatten_cons, resumeTotal,
      List.toFinset_append, Finset.filter_union,
      Finset.sum_union (Finset.disjoint_filter_filter hdisjoint)]
    rfl

/-- A fleet assignment is free of conflicts iff it is safe in every component. -/
lemma Represents.conflictFree_iff {ordered : List RobotSnapshot} {m : ConflictModel}
    (h : Represents geometry ordered m) (x : RobotId → Action) :
    (∀ i j, ¬ ConflictsUnder geometry ordered x i j) ↔
      ∀ K ∈ m.connectedComponents, Safe (componentConstraints K m) x := by
  constructor
  · intro hfree K hK pair hpair
    obtain ⟨hpair, -, -⟩ := mem_componentConstraints.mp hpair
    obtain ⟨s, hs, t, ht, hids, heval⟩ := h.sound pair hpair
    obtain ⟨hI, hJ⟩ := Prod.mk.inj hids
    by_contra hviolated
    rw [Bool.not_eq_true, heval] at hviolated
    exact hfree pair.robotI pair.robotJ
      ⟨s, hs, t, ht, hI.symm, hJ.symm, pair.ordered, hviolated⟩
  · rintro hsafe i j ⟨s, hs, t, ht, rfl, rfl, hlt, hconf⟩
    obtain ⟨K, hK, hsK⟩ :=
      (h.mem_component_iff s.deviceId).mp ((h.mem_snapshots_iff _).mpr ⟨s, hs, rfl⟩)
    -- robots of different components never conflict
    have htK : t.deviceId ∈ K := by
      by_contra htK
      exact h.separate_pair hK hs ht hlt (fun hiff => htK (hiff.mp hsK)) _ _ hconf
    exact h.safe_pair (hsafe K hK) hs ht hlt hsK htK hconf

/-- The decisions that the validator accepts for a component. -/
lemma mem_acceptedDecisions {m : ConflictModel} {K : List RobotId}
    {decisions : Dict RobotId Action} : decisions ∈ acceptedDecisions m K ↔
      (∀ r, r ∈ decisions ↔ r ∈ K) ∧ Safe (componentConstraints K m) (actionOf decisions) := by
  refine (validateComponentDecisions_eq_ok (componentConstraints_inside K m)
    fun r hr => absurd hr (AList.notMem_empty r)).trans (and_congr_right fun _ => ?_)
  simp [Admissible]

/-- Safety in a component depends on the actions of the component. -/
lemma Safe.component_congr {m : ConflictModel} {K : List RobotId} {x y : RobotId → Action}
    (h : Safe (componentConstraints K m) x) (hxy : ∀ r ∈ K, x r = y r) :
    Safe (componentConstraints K m) y :=
  h.congr fun pair hpair => by
    obtain ⟨hI, hJ⟩ := componentConstraints_inside K m pair hpair
    exact ⟨hxy _ hI, hxy _ hJ⟩

/-- The total of a component depends on its own actions. -/
lemma resumeTotal_component_congr {K : List RobotId} {weight : RobotId → ℤ}
    {decisions decisions' : Dict RobotId Action}
    (h : ∀ r ∈ K, actionOf decisions r = actionOf decisions' r) :
    resumeTotal K weight decisions = resumeTotal K weight decisions' :=
  Finset.sum_congr (Finset.filter_congr fun r hr => by rw [h r (List.mem_toFinset.mp hr)])
    fun _ _ => rfl

/-- A part of an assignment is accepted iff the assignment is safe in its component. -/
lemma restriction_accepted {m : ConflictModel} {K : List RobotId}
    {decisions : Dict RobotId Action} : restriction decisions K ∈ acceptedDecisions m K ↔
      Safe (componentConstraints K m) (actionOf decisions) := by
  rw [mem_acceptedDecisions, and_iff_right fun r => mem_restriction]
  exact ⟨fun h => h.component_congr fun r hr => actionOf_restriction hr,
    fun h => h.component_congr fun r hr => (actionOf_restriction hr).symm⟩

/-- Accepted parts join into a feasible assignment of the fleet. -/
lemma Represents.joined_feasible {ordered : List RobotSnapshot} {m : ConflictModel}
    (h : Represents geometry ordered m) {part : List RobotId → Dict RobotId Action}
    (hpart : ∀ K ∈ m.connectedComponents, part K ∈ acceptedDecisions m K) :
    joined m.connectedComponents part ∈ fleetFeasible geometry ordered ∧
      ∀ K ∈ m.connectedComponents, ∀ r ∈ K,
        actionOf (joined m.connectedComponents part) r = actionOf (part K) r := by
  obtain ⟨hlook, hmem⟩ := lookup_joined h.decomposes.disjoint
    fun K hK => (mem_acceptedDecisions.mp (hpart K hK)).1
  have haction : ∀ K ∈ m.connectedComponents, ∀ r ∈ K,
      actionOf (joined m.connectedComponents part) r = actionOf (part K) r := fun K hK r hr => by
    rw [actionOf, actionOf, hlook K hK r hr]
  refine ⟨⟨fun r => ?_, (h.conflictFree_iff _).mpr fun K hK => ?_⟩, haction⟩
  · rw [hmem, ← h.mem_component_iff, h.mem_snapshots_iff]
  · exact (mem_acceptedDecisions.mp (hpart K hK)).2.component_congr
      fun r hr => (haction K hK r hr).symm

/-- **Decomposition is exact.** A complete assignment is free of conflicts iff each of its parts is
accepted, best parts join into a best assignment of the fleet, and the fleet has a feasible
assignment iff every component has one.

**Proof sketch.** The model represents the conflicts of the fleet, and every conflict is an edge, so
it lies inside one component. The total of the fleet is the sum of the totals of its components, and
each is greatest with the best part. -/
theorem decomposition_exact {snapshots : List RobotSnapshot} {m : ConflictModel}
    (h : buildConflictModel geometry snapshots = .ok m) :
    (∀ decisions : Dict RobotId Action,
      (∀ r, r ∈ decisions ↔ ∃ s ∈ snapshots, s.deviceId = r) →
      ((∀ i j, ¬ ConflictsUnder geometry snapshots (actionOf decisions) i j) ↔
        ∀ K ∈ m.connectedComponents, validateComponentDecisions K (restriction decisions K)
          (componentConstraints K m) ∅ = .ok ())) ∧
    (∀ (utility : RobotId → ℤ) (part : List RobotId → Dict RobotId Action),
      (∀ K ∈ m.connectedComponents, Maximises (acceptedDecisions m K) K utility (part K)) →
      Maximises (fleetFeasible geometry snapshots) (snapshots.map RobotSnapshot.deviceId) utility
        (joined m.connectedComponents part)) ∧
    ((fleetFeasible geometry snapshots).Nonempty ↔
      ∀ K ∈ m.connectedComponents, (acceptedDecisions m K).Nonempty) := by
  have hrep := buildConflictModel_represents h
  have hsame : fleetFeasible geometry snapshots =
      fleetFeasible geometry (sortedBy RobotSnapshot.deviceId snapshots) := by
    simp only [fleetFeasible, ConflictsUnder, mem_sortedBy]
  have hfree : ∀ x : RobotId → Action, (∀ i j, ¬ ConflictsUnder geometry snapshots x i j) ↔
      ∀ K ∈ m.connectedComponents, Safe (componentConstraints K m) x := fun x => by
    rw [← hrep.conflictFree_iff x]
    simp only [ConflictsUnder, mem_sortedBy]
  -- the robots of the fleet are those of the components
  have htotal : ∀ (utility : RobotId → ℤ) (decisions : Dict RobotId Action),
      resumeTotal (snapshots.map RobotSnapshot.deviceId) utility decisions =
        (m.connectedComponents.map fun K => resumeTotal K utility decisions).sum := by
    intro utility decisions
    rw [← resumeTotal_flatten utility decisions hrep.decomposes.disjoint, resumeTotal, resumeTotal]
    congr 2
    ext r
    rw [List.mem_toFinset, List.mem_toFinset, List.mem_flatten, ← hrep.mem_component_iff,
      hrep.mem_snapshots_iff]
    simp only [List.mem_map, mem_sortedBy]
  refine ⟨fun decisions _ => ?_, fun utility part hbest => ?_, fun hfleet K hK => ?_,
    fun hall => ?_⟩
  · rw [hfree]
    exact forall₂_congr fun K _ => restriction_accepted.symm
  · obtain ⟨hfeasible, haction⟩ := hrep.joined_feasible fun K hK => (hbest K hK).1
    refine ⟨hsame ▸ hfeasible, fun other hother => ?_⟩
    rw [htotal, htotal]
    refine List.sum_le_sum fun K hK => ?_
    calc resumeTotal K utility other
        = resumeTotal K utility (restriction other K) :=
          resumeTotal_component_congr fun r hr => (actionOf_restriction hr).symm
      _ ≤ resumeTotal K utility (part K) :=
          (hbest K hK).2 _ (restriction_accepted.mpr ((hfree _).mp hother.2 K hK))
      _ = resumeTotal K utility (joined m.connectedComponents part) :=
          resumeTotal_component_congr fun r hr => (haction K hK r hr).symm
  · obtain ⟨decisions, hdecisions⟩ := hfleet
    exact ⟨_, restriction_accepted.mpr ((hfree _).mp hdecisions.2 K hK)⟩
  · choose! part hpart using hall
    exact ⟨_, hsame ▸ (hrep.joined_feasible hpart).1⟩

/-- Two approaching robots are one component and the distant one another. One of the two may be
resumed, so the decisions of each component have a solution, and the best of these together resume
as much as any assignment of the fleet. -/
theorem decomposition_exact_distant : ∃ m,
    buildConflictModel lineGeometry distantThird = .ok m ∧ m.connectedComponents.length = 2 ∧
    (∀ K ∈ m.connectedComponents, (acceptedDecisions m K).Nonempty) ∧
    ∀ (utility : RobotId → ℤ) (part : List RobotId → Dict RobotId Action),
      (∀ K ∈ m.connectedComponents, Maximises (acceptedDecisions m K) K utility (part K)) →
      Maximises (fleetFeasible lineGeometry distantThird)
        (distantThird.map RobotSnapshot.deviceId) utility (joined m.connectedComponents part) := by
  obtain ⟨m, h, hlength⟩ := Returns.exists_ok (x := buildConflictModel lineGeometry distantThird)
    (Q := fun m => m.connectedComponents.length = 2) (by decide +kernel)
  obtain ⟨-, hbest, hiff⟩ := decomposition_exact h
  refine ⟨m, h, hlength, hiff.mp ⟨Dict.ofPairs [(robotA, .resume), (robotB, .pause),
    (robotC, .pause)], fun r => ?_, ?_⟩, hbest⟩
  · rw [Dict.mem_ofPairs]
    simp [distantThird, approaching, lineSnapshot, RobotSnapshot.deviceId, lineState, eq_comm]
  · rintro i j ⟨s, hs, t, ht, rfl, rfl, hlt, e, f, he, hf, hconf⟩
    simp only [distantThird, approaching, List.cons_append, List.nil_append, List.mem_cons,
      List.not_mem_nil, or_false] at hs ht
    obtain rfl := Except.ok.inj he
    obtain rfl := Except.ok.inj hf
    rcases hs with rfl | rfl | rfl <;> rcases ht with rfl | rfl | rfl
    case inl.inr.inl | inl.inr.inr | inr.inl.inr.inr =>
      revert hconf
      decide +kernel
    all_goals exact absurd hlt (by decide)

end Assignments

end CollisionMonitor
