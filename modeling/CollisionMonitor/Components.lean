import CollisionMonitor.Conflicts
import Mathlib.Logic.Relation

set_option relaxedAutoImplicit false
set_option autoImplicit false

/-!
# Correctness of the graph decomposition

`buildAdjacency` records exactly the undirected edges it is given, and
`decomposeConnectedComponents` terminates with the connected components of a symmetric graph.

## Main definitions

* `Reach` — reachability along edges.
* `Searching` — the invariant of the breadth-first loop.
* `Decomposes` — what the returned components are.

## Main results

* `buildAdjacency_total` — ordered edges between known robots are accepted and recorded.
* `visitComponent_spec` — the bounded loop always empties its queue.
* `decomposeConnectedComponents_spec` — the components partition the robots by reachability.
-/

namespace CollisionMonitor

open Outcome

/-! ## Adjacency -/

/-- The neighbours after an insertion. -/
lemma neighbours_insert (adjacency : Dict RobotId (List RobotId)) (r a : RobotId)
    (l : List RobotId) : neighbours (AList.insert r l adjacency) a =
      if a = r then l else neighbours adjacency a := by
  unfold neighbours
  rw [Dict.lookup_insert_eq_ite]
  split_ifs <;> rfl

/-- Who has a neighbour is in the graph. -/
lemma mem_of_mem_neighbours {adjacency : Dict RobotId (List RobotId)} {a b : RobotId}
    (h : b ∈ neighbours adjacency a) : a ∈ adjacency := by
  unfold neighbours at h
  cases hl : adjacency.lookup a with
  | none => simp [hl] at h
  | some l => exact Dict.mem_of_lookup hl

/-- Adding an ordered edge between known robots records exactly that edge, both ways. -/
lemma addEdge_spec {adjacency : Dict RobotId (List RobotId)} {edge : RobotId × RobotId}
    (h1 : edge.1 ∈ adjacency) (h2 : edge.2 ∈ adjacency) (hlt : edge.1 < edge.2) :
    ∃ adjacency', addEdge adjacency edge = .ok adjacency' ∧
      (∀ r, r ∈ adjacency' ↔ r ∈ adjacency) ∧
      ∀ a b, b ∈ neighbours adjacency' a ↔
        b ∈ neighbours adjacency a ∨ (a, b) = edge ∨ (b, a) = edge := by
  obtain ⟨i, j⟩ := edge
  dsimp only at h1 h2 hlt
  unfold addEdge
  rw [raiseIf_of_not _ (by simp [h1, h2]), ok_bind, raiseIf_of_not _ (not_le.mpr hlt), ok_bind]
  refine ⟨_, rfl, fun r => ?_, fun a b => ?_⟩
  · simp only [AList.mem_insert]
    constructor
    · rintro (rfl | rfl | h)
      exacts [h2, h1, h]
    · intro h
      exact .inr (.inr h)
  · simp only [neighbours_insert, Prod.mk.injEq]
    by_cases haj : a = j
    · subst haj
      simp [hlt.ne', List.mem_insert_iff, or_comm]
    · by_cases hai : a = i
      · subst hai
        simp [hlt.ne, List.mem_insert_iff, or_comm]
      · simp [haj, hai]

/-- **`buildAdjacency` is exact.** Ordered edges between known robots are accepted, and two
robots are adjacent iff they are joined by a listed edge. -/
theorem buildAdjacency_total (robotIds : List RobotId) (edges : List (RobotId × RobotId))
    (h : ∀ e ∈ edges, e.1 ∈ robotIds ∧ e.2 ∈ robotIds ∧ e.1 < e.2) :
    ∃ adjacency, buildAdjacency robotIds edges = .ok adjacency ∧
      (∀ r, r ∈ adjacency ↔ r ∈ robotIds) ∧
      ∀ a b, b ∈ neighbours adjacency a ↔ (a, b) ∈ edges ∨ (b, a) ∈ edges := by
  obtain ⟨adjacency, hok, hmem, hadj⟩ := foldlM_total (f := addEdge) (l := sortedBy toLex edges)
    (b := Dict.ofKeys (sorted robotIds) fun _ => [])
    (fun pre adjacency => (∀ r, r ∈ adjacency ↔ r ∈ robotIds) ∧
      ∀ a b, b ∈ neighbours adjacency a ↔ (a, b) ∈ pre ∨ (b, a) ∈ pre)
    ⟨fun r => by simp, fun a b => by
      unfold neighbours
      rw [Dict.lookup_ofKeys]
      split_ifs <;> simp⟩
    (by
      rintro pre e post adjacency hl ⟨hmem, hadj⟩
      have he : e ∈ edges := (mem_sortedBy toLex edges).mp (by rw [hl]; simp)
      obtain ⟨h1, h2, hlt⟩ := h e he
      obtain ⟨adjacency', hok, hmem', hadj'⟩ :=
        addEdge_spec ((hmem e.1).mpr h1) ((hmem e.2).mpr h2) hlt
      refine ⟨adjacency', hok, fun r => (hmem' r).trans (hmem r), fun a b => ?_⟩
      rw [hadj', hadj, List.mem_append, List.mem_append, List.mem_singleton, List.mem_singleton]
      tauto)
  exact ⟨adjacency, hok, hmem, fun a b => by simpa using hadj a b⟩

/-! ## Breadth-first search -/

/-- Reachability along edges. -/
def Reach (adjacency : Dict RobotId (List RobotId)) : RobotId → RobotId → Prop :=
  Relation.ReflTransGen fun a b => b ∈ neighbours adjacency a

/-- An undirected graph: every neighbour is a robot of the graph, with the edge back. -/
structure Undirected (adjacency : Dict RobotId (List RobotId)) : Prop where
  mem : ∀ a b, b ∈ neighbours adjacency a → b ∈ adjacency
  symm : ∀ a b, b ∈ neighbours adjacency a → a ∈ neighbours adjacency b

/-- Reachability in an undirected graph is symmetric. -/
lemma Reach.symm {adjacency : Dict RobotId (List RobotId)} (hG : Undirected adjacency)
    {a b : RobotId} (h : Reach adjacency a b) : Reach adjacency b a := by
  induction h with
  | refl => exact Relation.ReflTransGen.refl
  | tail _ hbc ih => exact (Relation.ReflTransGen.single (hG.symm _ _ hbc)).trans ih

/-- A set closed under neighbours contains what is reachable from its members. -/
lemma Reach.mem_of_closed {adjacency : Dict RobotId (List RobotId)} {S : List RobotId}
    (hS : ∀ a ∈ S, ∀ b ∈ neighbours adjacency a, b ∈ S) {a b : RobotId}
    (h : Reach adjacency a b) (ha : a ∈ S) : b ∈ S := by
  induction h with
  | refl => exact ha
  | tail _ hbc ih => exact hS _ ih _ hbc

/-- Scanning known neighbours marks exactly them and appends the new ones to the queue.

**Proof sketch.** The invariant of the loop is the statement for the neighbours passed so far. A
neighbour that was marked before adds nothing, another one is marked and appended. -/
lemma enqueueNeighbours_spec {adjacency : Dict RobotId (List RobotId)} {l : List RobotId}
    (visited queue : List RobotId) (hl : ∀ b ∈ l, b ∈ adjacency) :
    ∃ visited' new, l.foldlM (enqueueNeighbour adjacency) (visited, queue) =
        .ok (visited', queue ++ new) ∧
      (∀ x, x ∈ visited' ↔ x ∈ visited ∨ x ∈ new) ∧ new.Nodup ∧
      ∀ x, x ∈ new ↔ x ∈ l ∧ x ∉ visited := by
  obtain ⟨⟨visited', queue'⟩, hok, new, rfl, hvis, hnd, hnew⟩ := foldlM_total
    (f := enqueueNeighbour adjacency) (l := l) (b := (visited, queue))
    (fun pre state => ∃ new, state.2 = queue ++ new ∧
      (∀ x, x ∈ state.1 ↔ x ∈ visited ∨ x ∈ new) ∧ new.Nodup ∧
      ∀ x, x ∈ new ↔ x ∈ pre ∧ x ∉ visited)
    ⟨[], by simp⟩
    (by
      rintro pre b post ⟨visited', queue'⟩ hsplit ⟨new, rfl, hvis, hnd, hnew⟩
      have hb : b ∈ adjacency := hl b (by rw [hsplit]; simp)
      unfold enqueueNeighbour
      rw [raiseIf_of_not _ (by simpa using hb), ok_bind]
      dsimp only at hvis ⊢
      by_cases hmem : b ∈ visited'
      · refine ⟨_, by rw [if_pos hmem]; rfl, new, rfl, hvis, hnd, fun x => ?_⟩
        rw [hnew, List.mem_append, List.mem_singleton]
        constructor
        · rintro ⟨hx, hxv⟩
          exact ⟨.inl hx, hxv⟩
        · rintro ⟨hx | rfl, hxv⟩
          · exact ⟨hx, hxv⟩
          · exact (hnew x).mp (((hvis x).mp hmem).resolve_left hxv)
      · refine ⟨_, by rw [if_neg hmem]; rfl, new ++ [b], by simp, fun x => ?_, ?_, fun x => ?_⟩
        · simp only [List.mem_cons, hvis, List.mem_append, List.not_mem_nil, or_false]
          tauto
        · have hbnew : b ∉ new := fun h => hmem ((hvis b).mpr (.inr h))
          rw [List.nodup_append]
          refine ⟨hnd, List.nodup_singleton b, ?_⟩
          rintro x hx y hy rfl
          exact hbnew (List.mem_singleton.mp hy ▸ hx)
        · have hbv : b ∉ visited := fun h => hmem ((hvis b).mpr (.inl h))
          simp only [List.mem_append, List.mem_singleton, hnew]
          constructor
          · rintro (⟨hx, hxv⟩ | rfl)
            · exact ⟨.inl hx, hxv⟩
            · exact ⟨.inr rfl, hbv⟩
          · rintro ⟨hx | rfl, hxv⟩
            · exact .inl ⟨hx, hxv⟩
            · exact .inr rfl)
  exact ⟨visited', new, hok, hvis, hnd, hnew⟩

/-- What holds throughout the search of one component from `root`, `old` being the robots
visited by earlier roots. -/
structure Searching (adjacency : Dict RobotId (List RobotId)) (old : List RobotId)
    (root : RobotId) (visited queue component : List RobotId) : Prop where
  /-- The marks are the earlier components, the popped robots and the queue. -/
  visited_iff : ∀ x, x ∈ visited ↔ x ∈ old ∨ x ∈ component ++ queue
  /-- No robot is popped or queued twice. -/
  nodup : (component ++ queue).Nodup
  /-- The search does not enter earlier components. -/
  fresh : ∀ x ∈ component ++ queue, x ∉ old
  /-- Everything found is a robot of the graph, reachable from the root. -/
  mem : ∀ x ∈ component ++ queue, x ∈ adjacency
  reach : ∀ x ∈ component ++ queue, Reach adjacency root x
  /-- The root has been found. -/
  root_mem : root ∈ component ++ queue
  /-- The neighbours of a popped robot are marked. -/
  expanded : ∀ x ∈ component, ∀ y ∈ neighbours adjacency x, y ∈ visited

/-- **One pass preserves the invariant.**

**Proof sketch.** The neighbours of the robot that is taken are known, so the scan marks those of
them that are new and appends them to the queue. They are reachable through the robot, and after the
scan all its neighbours are marked. -/
lemma Searching.step {adjacency : Dict RobotId (List RobotId)} (hG : Undirected adjacency)
    {old : List RobotId} {root : RobotId} {visited queue component : List RobotId} {r : RobotId}
    (h : Searching adjacency old root visited (r :: queue) component) :
    ∃ adjacent visited' queue', item adjacency r = .ok adjacent ∧
      (sorted adjacent).foldlM (enqueueNeighbour adjacency) (visited, queue) =
        .ok (visited', queue') ∧
      Searching adjacency old root visited' queue' (component ++ [r]) := by
  have hr : r ∈ adjacency := h.mem r (by simp)
  obtain ⟨adjacent, hadj⟩ := Dict.exists_lookup hr
  have hnb : neighbours adjacency r = adjacent := by simp [neighbours, hadj]
  obtain ⟨visited', new, hok, hvis, hnd, hnew⟩ := enqueueNeighbours_spec
    visited queue fun b (hb : b ∈ sorted adjacent) => hG.mem r b (hnb ▸ mem_sorted.mp hb)
  have hassoc : component ++ [r] ++ (queue ++ new) = component ++ r :: queue ++ new := by simp
  have hnewv : ∀ x ∈ new, x ∉ visited := fun x hx => ((hnew x).mp hx).2
  refine ⟨adjacent, visited', queue ++ new, by simpa using hadj, hok, ?_⟩
  refine ⟨fun x => ?_, ?_, fun x hx => ?_, fun x hx => ?_, fun x hx => ?_, ?_, fun x hx y hy => ?_⟩
  · rw [hvis, h.visited_iff, hassoc, List.mem_append (s := component ++ r :: queue), or_assoc]
  · rw [hassoc, List.nodup_append]
    refine ⟨h.nodup, hnd, ?_⟩
    rintro x hx y hy rfl
    exact hnewv x hy ((h.visited_iff x).mpr (.inr hx))
  · rw [hassoc, List.mem_append] at hx
    rcases hx with hx | hx
    · exact h.fresh x hx
    · exact fun hold => hnewv x hx ((h.visited_iff x).mpr (.inl hold))
  · rw [hassoc, List.mem_append] at hx
    rcases hx with hx | hx
    · exact h.mem x hx
    · exact hG.mem r x (by rw [hnb]; simpa using ((hnew x).mp hx).1)
  · rw [hassoc, List.mem_append] at hx
    rcases hx with hx | hx
    · exact h.reach x hx
    · refine (h.reach r (by simp)).tail ?_
      rw [hnb]
      simpa using ((hnew x).mp hx).1
  · rw [hassoc, List.mem_append]
    exact .inl h.root_mem
  · rw [hvis]
    rcases List.mem_append.mp hx with hx | hx
    · exact .inl (h.expanded x hx y hy)
    · rw [List.mem_singleton.mp hx, hnb] at hy
      by_cases hyv : y ∈ visited
      · exact .inl hyv
      · exact .inr ((hnew y).mpr ⟨by simpa using hy, hyv⟩)

/-- A search in progress has popped fewer robots than the graph has. -/
lemma Searching.length_lt {adjacency : Dict RobotId (List RobotId)} {old : List RobotId}
    {root r : RobotId} {visited queue component : List RobotId}
    (h : Searching adjacency old root visited (r :: queue) component) :
    component.length < adjacency.keys.length := by
  have hsub : component ++ r :: queue ⊆ adjacency.keys := fun x hx =>
    AList.mem_keys.mp (h.mem x hx)
  have hlen := (h.nodup.subperm hsub).length_le
  simp only [List.length_append, List.length_cons] at hlen
  omega

/-- **The bounded loop empties its queue.** With one pass left for every robot not popped yet,
the search returns with nothing queued.

**Proof sketch.** Induction on the passes. A non-empty queue means that fewer robots were popped
than exist (`Searching.length_lt`), so a pass is left, and it preserves the invariant
(`Searching.step`) while popping one robot. -/
theorem visitComponent_spec {adjacency : Dict RobotId (List RobotId)} (hG : Undirected adjacency)
    {old : List RobotId} {root : RobotId} (passes : ℕ) {visited queue component : List RobotId}
    (h : Searching adjacency old root visited queue component)
    (hpasses : adjacency.keys.length ≤ passes + component.length) :
    ∃ visited' component',
      visitComponent adjacency passes visited queue component = .ok (visited', component') ∧
      Searching adjacency old root visited' [] component' := by
  induction passes generalizing visited queue component with
  | zero =>
    cases queue with
    | nil => exact ⟨visited, component, by simp [visitComponent], h⟩
    | cons r queue =>
      have := h.length_lt
      omega
  | succ passes ih =>
    cases queue with
    | nil => exact ⟨visited, component, by simp [visitComponent], h⟩
    | cons r queue =>
      obtain ⟨adjacent, visited', queue', hadj, hok, hnext⟩ := h.step hG
      obtain ⟨visited'', component', hrest, hfin⟩ := ih hnext (by simp; omega)
      refine ⟨visited'', component', ?_, hfin⟩
      rw [visitComponent, hadj, ok_bind, hok, ok_bind]
      exact hrest

/-- A finished search has found exactly what is reachable from its root, if the robots visited
before are closed under neighbours. -/
lemma Searching.finished {adjacency : Dict RobotId (List RobotId)} (hG : Undirected adjacency)
    {old : List RobotId} {root : RobotId} {visited component : List RobotId}
    (h : Searching adjacency old root visited [] component)
    (hold : ∀ a ∈ old, ∀ b ∈ neighbours adjacency a, b ∈ old) (x : RobotId) :
    x ∈ component ↔ Reach adjacency root x := by
  have hclosed : ∀ a ∈ component, ∀ b ∈ neighbours adjacency a, b ∈ component := by
    intro a ha b hb
    rcases (h.visited_iff b).mp (h.expanded a ha b hb) with hbo | hbc
    · exact absurd (hold b hbo a (hG.symm a b hb)) (h.fresh a (by simpa using ha))
    · simpa using hbc
  constructor
  · intro hx
    exact h.reach x (by simpa using hx)
  · intro hx
    exact hx.mem_of_closed hclosed (by simpa using h.root_mem)

/-- The components of a graph: non-empty, increasing, disjoint, covering, and joined by paths;
each component has a member smaller than all later ones. -/
structure Decomposes (adjacency : Dict RobotId (List RobotId)) (components : List (List RobotId)) :
    Prop where
  nonempty : ∀ K ∈ components, K ≠ []
  increasing : ∀ K ∈ components, K.Pairwise (· < ·)
  disjoint : components.Pairwise List.Disjoint
  cover : ∀ r, r ∈ adjacency ↔ ∃ K ∈ components, r ∈ K
  connected : ∀ K ∈ components, ∀ a ∈ K, ∀ b, b ∈ K ↔ Reach adjacency a b
  ordered : components.Pairwise fun K L => ∃ a ∈ K, ∀ b ∈ L, a < b

/-- What holds between two roots, `pre` being the roots already processed. -/
structure Decomposing (adjacency : Dict RobotId (List RobotId)) (pre visited : List RobotId)
    (components : List (List RobotId)) : Prop where
  nonempty : ∀ K ∈ components, K ≠ []
  increasing : ∀ K ∈ components, K.Pairwise (· < ·)
  disjoint : components.Pairwise List.Disjoint
  connected : ∀ K ∈ components, ∀ a ∈ K, ∀ b, b ∈ K ↔ Reach adjacency a b
  ordered : components.Pairwise fun K L => ∃ a ∈ K, ∀ b ∈ L, a < b
  visited_iff : ∀ x, x ∈ visited ↔ ∃ K ∈ components, x ∈ K
  mem : ∀ x ∈ visited, x ∈ adjacency
  processed : ∀ x ∈ pre, x ∈ visited
  leader : ∀ K ∈ components, ∃ a ∈ K, ∀ x ∈ adjacency, x ∉ visited → a < x

/-- The robots visited so far are closed under neighbours. -/
lemma Decomposing.closed {adjacency : Dict RobotId (List RobotId)} {pre visited : List RobotId}
    {components : List (List RobotId)} (h : Decomposing adjacency pre visited components) :
    ∀ a ∈ visited, ∀ b ∈ neighbours adjacency a, b ∈ visited := by
  intro a ha b hb
  obtain ⟨K, hK, haK⟩ := (h.visited_iff a).mp ha
  exact (h.visited_iff b).mpr
    ⟨K, hK, (h.connected K hK a haK b).mpr (Relation.ReflTransGen.single hb)⟩

/-- The search for the component of an unvisited root starts at the root. -/
lemma Searching.start {adjacency : Dict RobotId (List RobotId)} {visited : List RobotId}
    {root : RobotId} (hroot : root ∈ adjacency) (hvis : root ∉ visited) :
    Searching adjacency visited root (root :: visited) [root] [] where
  visited_iff := fun x => by simp [or_comm]
  nodup := by simp
  fresh := fun x hx => by simp at hx; exact hx ▸ hvis
  mem := fun x hx => by simp at hx; exact hx ▸ hroot
  reach := fun x hx => by simp at hx; exact hx ▸ Relation.ReflTransGen.refl
  root_mem := by simp
  expanded := by simp

/-- Robots that are still unvisited come after the root in sorted order. -/
lemma Decomposing.root_lt {adjacency : Dict RobotId (List RobotId)}
    {pre post visited : List RobotId} {components : List (List RobotId)} {root : RobotId}
    (hl : sorted adjacency.keys = pre ++ root :: post)
    (h : Decomposing adjacency pre visited components) {x : RobotId} (hx : x ∈ adjacency)
    (hxv : x ∉ visited) (hne : x ≠ root) : root < x := by
  have hpw := pairwise_sorted_lt adjacency.keys_nodup
  rw [hl, List.pairwise_append, List.pairwise_cons] at hpw
  have hxl : x ∈ pre ++ root :: post := by
    rw [← hl, mem_sorted]
    exact AList.mem_keys.mp hx
  rcases List.mem_append.mp hxl with hx' | hx'
  · exact absurd (h.processed x hx') hxv
  · exact hpw.2.1.1 x ((List.mem_cons.mp hx').resolve_left hne)

/-- Adding the component of an unvisited root, when no unvisited robot comes before the root.

**Proof sketch.** Each field is proved for the earlier components and for the new one. The new
component is disjoint from the earlier ones because none of its robots was visited, and it comes
after them because no robot left unvisited is before its root. -/
lemma Decomposing.add {adjacency : Dict RobotId (List RobotId)} (hG : Undirected adjacency)
    {pre visited visited' K : List RobotId} {components : List (List RobotId)} {root : RobotId}
    (h : Decomposing adjacency pre visited components)
    (hlt : ∀ x ∈ adjacency, x ∉ visited → x ≠ root → root < x)
    (hK : ∀ x, x ∈ K ↔ Reach adjacency root x) (hinc : K.Pairwise (· < ·))
    (hfresh : ∀ x ∈ K, x ∉ visited) (hmem : ∀ x ∈ K, x ∈ adjacency)
    (hvisited : ∀ x, x ∈ visited' ↔ x ∈ visited ∨ x ∈ K) :
    Decomposing adjacency (pre ++ [root]) visited' (components ++ [K]) := by
  have hroot : root ∈ K := (hK root).mpr Relation.ReflTransGen.refl
  refine
    { nonempty := ?_, increasing := ?_, disjoint := ?_, connected := ?_, ordered := ?_
      visited_iff := ?_, mem := ?_, processed := ?_, leader := ?_ }
  · intro L hL
    rcases List.mem_append.mp hL with hL | hL
    · exact h.nonempty L hL
    · rw [List.mem_singleton.mp hL]
      exact List.ne_nil_of_mem hroot
  · intro L hL
    rcases List.mem_append.mp hL with hL | hL
    · exact h.increasing L hL
    · rw [List.mem_singleton.mp hL]
      exact hinc
  · rw [List.pairwise_append]
    refine ⟨h.disjoint, List.pairwise_singleton _ _, fun L hL M hM x hxL hxM => ?_⟩
    rw [List.mem_singleton.mp hM] at hxM
    exact hfresh x hxM ((h.visited_iff x).mpr ⟨L, hL, hxL⟩)
  · intro L hL a ha b
    rcases List.mem_append.mp hL with hL | hL
    · exact h.connected L hL a ha b
    · rw [List.mem_singleton.mp hL, hK] at ha ⊢
      exact ⟨fun hb => (ha.symm hG).trans hb, fun hb => ha.trans hb⟩
  · rw [List.pairwise_append]
    refine ⟨h.ordered, List.pairwise_singleton _ _, fun L hL M hM => ?_⟩
    obtain ⟨a, haL, ha⟩ := h.leader L hL
    refine ⟨a, haL, fun b hb => ?_⟩
    rw [List.mem_singleton.mp hM] at hb
    exact ha b (hmem b hb) (hfresh b hb)
  · intro x
    rw [hvisited, h.visited_iff]
    simp only [List.mem_append, List.mem_singleton]
    constructor
    · rintro (⟨L, hL, hx⟩ | hx)
      · exact ⟨L, .inl hL, hx⟩
      · exact ⟨K, .inr rfl, hx⟩
    · rintro ⟨L, hL | rfl, hx⟩
      · exact .inl ⟨L, hL, hx⟩
      · exact .inr hx
  · intro x hx
    rcases (hvisited x).mp hx with hx | hx
    · exact h.mem x hx
    · exact hmem x hx
  · intro x hx
    rw [hvisited]
    rcases List.mem_append.mp hx with hx | hx
    · exact .inl (h.processed x hx)
    · rw [List.mem_singleton.mp hx]
      exact .inr hroot
  · intro L hL
    rcases List.mem_append.mp hL with hL | hL
    · obtain ⟨a, haL, ha⟩ := h.leader L hL
      exact ⟨a, haL, fun x hx hxv => ha x hx fun hv => hxv ((hvisited x).mpr (.inl hv))⟩
    · rw [List.mem_singleton.mp hL]
      refine ⟨root, hroot, fun x hx hxv => hlt x hx (fun hv => hxv ((hvisited x).mpr (.inl hv))) ?_⟩
      rintro rfl
      exact hxv ((hvisited x).mpr (.inr hroot))

/-- **One root preserves the invariant**: a visited root adds nothing, any other root adds its
component, whose members are all unvisited and not smaller than the root. -/
lemma Decomposing.step {adjacency : Dict RobotId (List RobotId)} (hG : Undirected adjacency)
    {pre post visited : List RobotId} {components : List (List RobotId)} {root : RobotId}
    (hl : sorted adjacency.keys = pre ++ root :: post)
    (h : Decomposing adjacency pre visited components) :
    ∃ state, visitRoot adjacency (visited, components) root = .ok state ∧
      Decomposing adjacency (pre ++ [root]) state.1 state.2 := by
  have hroot : root ∈ adjacency := AList.mem_keys.mpr (by rw [← mem_sorted, hl]; simp)
  unfold visitRoot
  by_cases hvis : root ∈ visited
  · refine ⟨_, if_pos hvis, { h with processed := ?_ }⟩
    intro x hx
    rcases List.mem_append.mp hx with hx | hx
    · exact h.processed x hx
    · exact List.mem_singleton.mp hx ▸ hvis
  · rw [if_neg hvis]
    obtain ⟨visited', component, hok, hfin⟩ :=
      visitComponent_spec hG adjacency.keys.length (Searching.start hroot hvis) (by omega)
    have hsorted : ∀ x, x ∈ sorted component → x ∈ component ++ [] := fun x hx => by
      simpa using hx
    refine ⟨(visited', components ++ [sorted component]), by rw [hok]; rfl, ?_⟩
    refine h.add hG (fun x => h.root_lt hl) (fun x => ?_)
      (pairwise_sorted_lt (by simpa using hfin.nodup)) (fun x hx => hfin.fresh x (hsorted x hx))
      (fun x hx => hfin.mem x (hsorted x hx)) fun x => ?_
    · rw [mem_sorted]
      exact hfin.finished hG h.closed x
    · simpa using hfin.visited_iff x

/-- **The decomposition is correct.** On an undirected graph `decomposeConnectedComponents`
returns, and the components partition the robots by reachability. -/
theorem decomposeConnectedComponents_spec {adjacency : Dict RobotId (List RobotId)}
    (hG : Undirected adjacency) : ∃ components,
      decomposeConnectedComponents adjacency = .ok components ∧
        Decomposes adjacency components := by
  obtain ⟨⟨visited, components⟩, hok, h⟩ := foldlM_total (f := visitRoot adjacency)
    (l := sorted adjacency.keys) (b := ([], []))
    (fun pre state => Decomposing adjacency pre state.1 state.2)
    { nonempty := by simp, increasing := by simp, disjoint := List.Pairwise.nil
      connected := by simp, ordered := List.Pairwise.nil, visited_iff := by simp, mem := by simp
      processed := by simp, leader := by simp }
    (fun pre root post state hl h => h.step hG hl)
  refine ⟨components, by rw [decomposeConnectedComponents, hok]; rfl, ?_⟩
  refine ⟨h.nonempty, h.increasing, h.disjoint, fun r => ?_, h.connected, h.ordered⟩
  rw [← h.visited_iff]
  constructor
  · intro hr
    exact h.processed r (by rw [mem_sorted]; exact AList.mem_keys.mp hr)
  · exact h.mem r

end CollisionMonitor
