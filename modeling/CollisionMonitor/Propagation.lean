import CollisionMonitor.Heuristic

set_option relaxedAutoImplicit false
set_option autoImplicit false

/-!
# Exactness of propagation

Propagation reaches a closed assignment that contains only forced values, so the greedy pass is
the exact procedure of `TwoClause.greedy`: what looks like a bounded search is complete.

## Main definitions

* `Forced` — one assignment was obtained from another by forced values only.
* `PropagateRuns`, `openRobots` — the loop of the propagation without a bound, and its measure.

## Main results

* `propagate_runs` — propagation terminates, with the result of that loop.
* `propagate_spec` — propagation is sound and closed, and a contradiction is a refutation.
* `propagator_tryAssignment` — one branch is a propagation procedure.
* `greedyPass_spec` — the greedy pass decides satisfiability.
-/

namespace CollisionMonitor

open Outcome TwoClause

/-! ## Clauses as two-literal clauses -/

/-- A clause of the heuristic as a two-literal clause. -/
def BinaryClause.toTwo (clause : BinaryClause) : TwoClause.Clause RobotId :=
  { left := ⟨clause.literals.1.robotId, clause.literals.1.forbiddenValue⟩
    right := ⟨clause.literals.2.robotId, clause.literals.2.forbiddenValue⟩ }

/-- The clauses of the heuristic as two-literal clauses. -/
def twoClauses (clauses : List BinaryClause) : List (TwoClause.Clause RobotId) :=
  clauses.map BinaryClause.toTwo

/-- The robots that occur in the clauses. -/
def clauseRobots (clauses : List BinaryClause) : List RobotId :=
  clauses.flatMap fun clause => [clause.literals.1.robotId, clause.literals.2.robotId]

/-- Every clause has two robots, perhaps the same. -/
lemma length_clauseRobots (clauses : List BinaryClause) :
    (clauseRobots clauses).length = 2 * clauses.length := by
  induction clauses with
  | nil => rfl
  | cons clause clauses ih =>
    simp only [clauseRobots, List.flatMap_cons, List.length_append, List.length_cons,
      List.length_nil] at ih ⊢
    omega

/-- The values an assignment has fixed. -/
def values (p : BinaryAssignment) : RobotId → Option (Fin 2) := fun r => p.lookup r

/-- A robot has a value iff it is assigned. -/
lemma isSome_values {p : BinaryAssignment} {r : RobotId} : (values p r).isSome ↔ r ∈ p :=
  AList.lookup_isSome

/-- A robot without a value is open. -/
lemma not_mem_of_lookup {p : BinaryAssignment} {r : RobotId} (h : p.lookup r = none) : r ∉ p :=
  AList.lookup_eq_none.mp h

/-! ## One clause -/

/-- The assignment `q` extends `p` by values that the clauses force, on robots of the clauses. -/
structure Forced (clauses : List BinaryClause) (p q : BinaryAssignment) : Prop where
  grows : Le (values p) (values q)
  sound : ∀ x, Satisfies (twoClauses clauses) x → Extends x (values p) → Extends x (values q)
  mem : ∀ r ∈ q, r ∈ p ∨ r ∈ clauseRobots clauses

/-- Nothing was forced yet. -/
lemma Forced.refl (clauses : List BinaryClause) (p : BinaryAssignment) : Forced clauses p p :=
  ⟨Le.refl _, fun _ _ h => h, fun _ h => .inl h⟩

/-- Forced values may follow each other. -/
lemma Forced.trans {clauses : List BinaryClause} {p q r : BinaryAssignment}
    (hpq : Forced clauses p q) (hqr : Forced clauses q r) : Forced clauses p r where
  grows := hpq.grows.trans hqr.grows
  sound x hx hext := hqr.sound x hx (hpq.sound x hx hext)
  mem id hid := (hqr.mem id hid).elim (hpq.mem id) .inr

/-- More clauses force more. -/
lemma Forced.mono {clauses clauses' : List BinaryClause} (hsub : clauses ⊆ clauses')
    {p q : BinaryAssignment} (h : Forced clauses p q) : Forced clauses' p q where
  grows := h.grows
  sound x hx := h.sound x fun c hc => hx c (List.map_subset _ hsub hc)
  mem r hr := by
    refine (h.mem r hr).imp_right fun hmem => ?_
    obtain ⟨c, hc, hrc⟩ := List.mem_flatMap.mp hmem
    exact List.mem_flatMap.mpr ⟨c, hsub hc, hrc⟩

/-- The clause needs no work: a literal is true, or both robots are open. -/
def Settled (p : BinaryAssignment) (clause : BinaryClause) : Prop :=
  (clause.toTwo.left.SatisfiedBy (values p) ∨ clause.toTwo.right.SatisfiedBy (values p)) ∨
    clause.toTwo.Untouched (values p)

/-- An assigned robot has its value. -/
lemma lookup_insert_self (p : BinaryAssignment) (r : RobotId) (b : Fin 2) :
    (p.insert r b).lookup r = some b := AList.lookup_insert p

/-- Assigning an open robot only adds a value. -/
lemma le_insert {p : BinaryAssignment} {r : RobotId} (hr : p.lookup r = none) (b : Fin 2) :
    Le (values p) (values (p.insert r b)) := by
  intro v c hv
  have hne : v ≠ r := by
    rintro rfl
    rw [values, hr] at hv
    cases hv
  rw [values, Dict.lookup_insert_eq_ite, if_neg hne]
  exact hv

/-- Whatever contains the old values and the new one contains the new assignment. -/
lemma insert_le {p : BinaryAssignment} {r : RobotId} {b : Fin 2} {u : RobotId → Option (Fin 2)}
    (hle : Le (values p) u) (hr : u r = some b) : Le (values (p.insert r b)) u := by
  intro v c hv
  rw [values, Dict.lookup_insert_eq_ite] at hv
  split_ifs at hv with h
  · rw [h, hr, hv]
  · exact hle v c hv

/-- **One clause, case by case.** It is settled and nothing happens; or both literals are false
and the pass fails; or one is open, the other false, and the open one is made true.

**Proof sketch.** By the values of the two robots of the clause: none, the forbidden one, or the
other one. -/
lemma propagateClause_cases (clause : BinaryClause) (p : BinaryAssignment) (changed : Bool) :
    Settled p clause ∧ propagateClause (p, changed) clause = some (p, changed) ∨
      clause.toTwo.Refuted (values p) ∧ propagateClause (p, changed) clause = none ∨
      ∃ l, clause.toTwo.Forces (values p) l ∧
        propagateClause (p, changed) clause = some (p.insert l.var (1 - l.forbidden), true) := by
  obtain ⟨⟨⟨i, a⟩, ⟨j, b⟩⟩, source⟩ := clause
  cases hi : p.lookup i with
  | none =>
    cases hj : p.lookup j with
    | none =>
      refine .inl ⟨.inr ⟨hi, hj⟩, ?_⟩
      simp [propagateClause, satisfiesLiteral, hi, hj, not_mem_of_lookup hi, not_mem_of_lookup hj]
    | some v =>
      by_cases hv : v = b
      · subst hv
        refine .inr (.inr ⟨⟨i, a⟩, ⟨hi, .inl ⟨rfl, hj⟩⟩, ?_⟩)
        simp [propagateClause, satisfiesLiteral, assignBinary, hi, hj, not_mem_of_lookup hi,
          Dict.mem_of_lookup hj]
      · refine .inl ⟨.inl (.inr ⟨v, hj, hv⟩), ?_⟩
        simp [propagateClause, satisfiesLiteral, hi, hj, hv]
  | some u =>
    by_cases hu : u = a
    · subst hu
      cases hj : p.lookup j with
      | none =>
        refine .inr (.inr ⟨⟨j, b⟩, ⟨hj, .inr ⟨rfl, hi⟩⟩, ?_⟩)
        simp [propagateClause, satisfiesLiteral, assignBinary, hi, hj, not_mem_of_lookup hj,
          Dict.mem_of_lookup hi]
      | some v =>
        by_cases hv : v = b
        · subst hv
          refine .inr (.inl ⟨⟨hi, hj⟩, ?_⟩)
          simp [propagateClause, satisfiesLiteral, hi, hj, Dict.mem_of_lookup hi,
            Dict.mem_of_lookup hj]
        · refine .inl ⟨.inl (.inr ⟨v, hj, hv⟩), ?_⟩
          simp [propagateClause, satisfiesLiteral, hi, hj, hv]
    · refine .inl ⟨.inl (.inl ⟨u, hi, hu⟩), ?_⟩
      simp [propagateClause, satisfiesLiteral, hi, hu]

/-- The robot that a clause fixes occurs in it. -/
lemma mem_clauseRobots_of_forces {clause : BinaryClause} {p : RobotId → Option (Fin 2)}
    {l : Literal RobotId} (h : clause.toTwo.Forces p l) : l.var ∈ clauseRobots [clause] := by
  obtain ⟨-, ⟨rfl, -⟩ | ⟨rfl, -⟩⟩ := h
  · simp [clauseRobots, BinaryClause.toTwo]
  · simp [clauseRobots, BinaryClause.toTwo]

/-- Fixing the last open robot of a clause to the only value that satisfies it. -/
lemma forced_insert {clause : BinaryClause} {p : BinaryAssignment} {l : Literal RobotId}
    (h : clause.toTwo.Forces (values p) l) :
    Forced [clause] p (p.insert l.var (1 - l.forbidden)) where
  grows := le_insert h.1 _
  sound x hx hext := by
    have hvalue := h.value (hx _ (by simp [twoClauses])) hext
    exact le_some_iff.mp (insert_le (le_some_iff.mpr hext) (congrArg some hvalue))
  mem v hv := by
    rcases (AList.mem_insert p).mp hv with rfl | hv
    · exact .inr (mem_clauseRobots_of_forces h)
    · exact .inl hv

/-- **One clause.** A failure refutes every solution; otherwise either the clause was settled and
nothing happens, or a robot gets the value that the clause forces. -/
lemma propagateClause_spec (clause : BinaryClause) (p : BinaryAssignment) (changed : Bool) :
    match propagateClause (p, changed) clause with
    | none => ∀ x, clause.toTwo.Holds x → ¬ Extends x (values p)
    | some (q, changed') => Forced [clause] p q ∧
        (changed' = changed ∧ q = p ∧ Settled p clause ∨ changed' = true ∧ ∃ r ∈ q, r ∉ p) := by
  rcases propagateClause_cases clause p changed with ⟨hsettled, hres⟩ | ⟨hrefuted, hres⟩ |
    ⟨l, hforces, hres⟩
  · rw [hres]
    exact ⟨.refl _ _, .inl ⟨rfl, rfl, hsettled⟩⟩
  · rw [hres]
    exact fun x hx hext => hrefuted.not_holds hext hx
  · rw [hres]
    exact ⟨forced_insert hforces, .inr ⟨rfl, l.var, by simp, not_mem_of_lookup hforces.1⟩⟩

/-! ## One pass over the clauses -/

/-- **One pass.** A failure refutes every solution; an unchanged pass found every clause settled;
a changed pass assigned a new robot.

**Proof sketch.** By induction on the clauses. The first clause settles, fails or assigns a robot
(`propagateClause_spec`), and the rest of the pass starts from there; an assigned robot stays
assigned. -/
lemma propagatePass_spec (clauses : List BinaryClause) (p : BinaryAssignment) (changed : Bool) :
    match clauses.foldlM propagateClause (p, changed) with
    | none => ∀ x, Satisfies (twoClauses clauses) x → ¬ Extends x (values p)
    | some (q, changed') => Forced clauses p q ∧
        (changed' = changed ∧ q = p ∧ (∀ clause ∈ clauses, Settled p clause) ∨
          changed' = true ∧ ∃ r ∈ q, r ∉ p) := by
  induction clauses generalizing p changed with
  | nil => exact ⟨.refl _ _, .inl ⟨rfl, rfl, by simp⟩⟩
  | cons clause clauses ih =>
    rw [List.foldlM_cons]
    have hclause := propagateClause_spec clause p changed
    cases hres : propagateClause (p, changed) clause with
    | none =>
      rw [hres] at hclause
      exact fun x hx => hclause x (hx _ (by simp [twoClauses]))
    | some state =>
      obtain ⟨q, changed'⟩ := state
      rw [hres] at hclause
      obtain ⟨hforced, hcase⟩ := hclause
      have hhead : Forced (clause :: clauses) p q := hforced.mono (by simp)
      have hrest := ih q changed'
      rw [Option.bind_eq_bind, Option.bind_some]
      cases hpass : clauses.foldlM propagateClause (q, changed') with
      | none =>
        rw [hpass] at hrest
        exact fun x hx hext => hrest x (fun c hc => hx c (List.mem_cons_of_mem _ hc))
          (hhead.sound x hx hext)
      | some state =>
        obtain ⟨q', changed''⟩ := state
        rw [hpass] at hrest
        obtain ⟨htail, hcase'⟩ := hrest
        have hall : Forced (clause :: clauses) p q' := hhead.trans (htail.mono (by simp))
        refine ⟨hall, ?_⟩
        rcases hcase with ⟨rfl, rfl, hsettled⟩ | ⟨rfl, r, hrq, hrp⟩
        · rcases hcase' with ⟨rfl, rfl, hsettled'⟩ | hchanged
          · exact .inl ⟨rfl, rfl, List.forall_mem_cons.mpr ⟨hsettled, hsettled'⟩⟩
          · exact .inr hchanged
        · -- the robot assigned at the head stays assigned
          have hrq' : r ∈ q' := by
            obtain ⟨b, hb⟩ := Dict.exists_lookup hrq
            exact Dict.mem_of_lookup (htail.grows r b hb)
          rcases hcase' with ⟨rfl, rfl, -⟩ | ⟨rfl, -⟩
          · exact .inr ⟨rfl, r, hrq', hrp⟩
          · exact .inr ⟨rfl, r, hrq', hrp⟩

/-! ## Propagation to the fixed point -/

/-- The robots of the clauses that have no value yet. -/
def openRobots (clauses : List BinaryClause) (p : BinaryAssignment) : Finset RobotId :=
  (clauseRobots clauses).toFinset.filter fun r => r ∉ p

/-- At most two robots a clause are open. -/
lemma card_openRobots_le (clauses : List BinaryClause) (p : BinaryAssignment) :
    (openRobots clauses p).card ≤ 2 * clauses.length := by
  rw [← length_clauseRobots]
  exact (Finset.card_filter_le _ _).trans (List.toFinset_card_le _)

/-- **Every repeating pass fixes a robot**: fewer robots of the clauses are open after it. -/
lemma card_openRobots_lt {clauses : List BinaryClause} {p q : BinaryAssignment}
    (hpass : clauses.foldlM propagateClause (p, false) = some (q, true)) :
    (openRobots clauses q).card < (openRobots clauses p).card := by
  have hspec := propagatePass_spec clauses p false
  rw [hpass] at hspec
  obtain ⟨hforced, ⟨h, -⟩ | ⟨-, r, hrq, hrp⟩⟩ := hspec
  · cases h
  · refine Finset.card_lt_card (Finset.ssubset_iff_of_subset ?_ |>.mpr ⟨r, ?_, ?_⟩)
    · intro v hv
      obtain ⟨hv, hvq⟩ := Finset.mem_filter.mp hv
      refine Finset.mem_filter.mpr ⟨hv, fun hvp => hvq ?_⟩
      obtain ⟨b, hb⟩ := Dict.exists_lookup hvp
      exact Dict.mem_of_lookup (hforced.grows v b hb)
    · exact Finset.mem_filter.mpr
        ⟨List.mem_toFinset.mpr ((hforced.mem r hrq).resolve_left hrp), hrp⟩
    · exact fun h => (Finset.mem_filter.mp h).2 hrq

/-- The runs of the `while changed` loop, with no bound on the passes: a pass fails, or changes
nothing and ends the loop, or is followed by the rest of the run. -/
inductive PropagateRuns (clauses : List BinaryClause) :
    BinaryAssignment → Option BinaryAssignment → Prop
  | fails {p} (hpass : clauses.foldlM propagateClause (p, false) = none) :
      PropagateRuns clauses p none
  | stops {p q} (hpass : clauses.foldlM propagateClause (p, false) = some (q, false)) :
      PropagateRuns clauses p (some q)
  | repeats {p q result} (hpass : clauses.foldlM propagateClause (p, false) = some (q, true))
      (hrest : PropagateRuns clauses q result) : PropagateRuns clauses p result

/-- **The bounded loop is the loop** when more passes are left than robots are open. -/
lemma propagateLoop_runs (clauses : List BinaryClause) (passes : ℕ) (p : BinaryAssignment)
    (hpasses : (openRobots clauses p).card < passes) :
    PropagateRuns clauses p (propagateLoop clauses passes p) := by
  induction passes generalizing p with
  | zero => omega
  | succ passes ih =>
    rw [propagateLoop]
    cases hpass : clauses.foldlM propagateClause (p, false) with
    | none => exact .fails hpass
    | some state =>
      obtain ⟨q, changed⟩ := state
      rw [Option.bind_eq_bind, Option.bind_some]
      cases changed with
      | false => exact .stops hpass
      | true =>
        have hlt := card_openRobots_lt hpass
        exact .repeats hpass (ih q (by omega))

/-- **Propagation terminates** with the result of the loop. -/
theorem propagate_runs (clauses : List BinaryClause) (p : BinaryAssignment) :
    PropagateRuns clauses p (propagate p clauses) := by
  have hle := card_openRobots_le clauses p
  exact propagateLoop_runs clauses _ p (by omega)

/-- A run that fails refutes every solution. -/
lemma PropagateRuns.refutes {clauses : List BinaryClause} {p : BinaryAssignment}
    (h : PropagateRuns clauses p none) :
    ∀ x, Satisfies (twoClauses clauses) x → ¬ Extends x (values p) := by
  generalize hresult : (none : Option BinaryAssignment) = result at h
  induction h with
  | @fails p hpass =>
    have hspec := propagatePass_spec clauses p false
    rwa [hpass] at hspec
  | stops hpass => cases hresult
  | @repeats p q result hpass hrest ih =>
    have hspec := propagatePass_spec clauses p false
    rw [hpass] at hspec
    exact fun x hx hext => ih hresult x hx (hspec.1.sound x hx hext)

/-- **A run that ends returns a closed assignment of forced values.**

**Proof sketch.** Induction on the run. The last pass changed nothing, so it found every clause
settled, which is closedness; the values that the other passes fix are forced. -/
lemma PropagateRuns.closed {clauses : List BinaryClause} {p q : BinaryAssignment}
    (h : PropagateRuns clauses p (some q)) :
    Forced clauses p q ∧ Closed (twoClauses clauses) (values q) := by
  generalize hresult : some q = result at h
  induction h with
  | fails hpass => cases hresult
  | @stops p q' hpass =>
    obtain rfl := Option.some.inj hresult
    have hspec := propagatePass_spec clauses p false
    rw [hpass] at hspec
    obtain ⟨-, ⟨-, rfl, hsettled⟩ | ⟨h, -⟩⟩ := hspec
    · refine ⟨.refl _ _, fun c hc => ?_⟩
      obtain ⟨clause, hclause, rfl⟩ := List.mem_map.mp hc
      exact hsettled clause hclause
    · cases h
  | @repeats p q' result hpass hrest ih =>
    have hspec := propagatePass_spec clauses p false
    rw [hpass] at hspec
    obtain ⟨hforced, hclosed⟩ := ih hresult
    exact ⟨hspec.1.trans hforced, hclosed⟩

/-- **Propagation is exact**: it refutes, or returns a closed assignment of forced values. -/
theorem propagate_spec (clauses : List BinaryClause) (p : BinaryAssignment) :
    match propagate p clauses with
    | none => ∀ x, Satisfies (twoClauses clauses) x → ¬ Extends x (values p)
    | some q => Forced clauses p q ∧ Closed (twoClauses clauses) (values q) := by
  have hruns := propagate_runs clauses p
  cases hres : propagate p clauses with
  | none =>
    rw [hres] at hruns
    exact hruns.refutes
  | some q =>
    rw [hres] at hruns
    exact hruns.closed

/-- A contradiction refutes every extension. -/
lemma propagate_none {clauses : List BinaryClause} {p : BinaryAssignment}
    (h : propagate p clauses = none) :
    ∀ x, Satisfies (twoClauses clauses) x → ¬ Extends x (values p) := by
  have hspec := propagate_spec clauses p
  rwa [h] at hspec

/-- A result is forced and closed. -/
lemma propagate_some {clauses : List BinaryClause} {p q : BinaryAssignment}
    (h : propagate p clauses = some q) :
    Forced clauses p q ∧ Closed (twoClauses clauses) (values q) := by
  have hspec := propagate_spec clauses p
  rwa [h] at hspec

/-! ## One branch and the greedy pass -/

/-- What `assignBinary` gives: the old values, the new one, and no other robot. -/
lemma assignBinary_some {p q : BinaryAssignment} {r : RobotId} {b : Fin 2}
    (h : assignBinary p r b = some q) : Le (values p) (values q) ∧ values q r = some b ∧
      (∀ v ∈ q, v ∈ p ∨ v = r) ∧ ∀ x, Extends x (values p) → x r = b → Extends x (values q) := by
  unfold assignBinary at h
  cases hr : p.lookup r with
  | none =>
    rw [hr] at h
    obtain rfl := Option.some.inj h
    refine ⟨le_insert hr b, lookup_insert_self p r b, fun v hv => ?_, fun x hx hxr => ?_⟩
    · exact ((AList.mem_insert p).mp hv).symm
    · exact le_some_iff.mp (insert_le (le_some_iff.mpr hx) (congrArg some hxr))
  | some existing =>
    rw [hr] at h
    dsimp only at h
    split_ifs at h with heq
    obtain rfl := Option.some.inj h
    exact ⟨Le.refl _, by rw [values, hr, heq], fun v hv => .inl hv, fun x hx _ => hx⟩

/-- A refused value contradicts the existing one. -/
lemma assignBinary_none {p : BinaryAssignment} {r : RobotId} {b : Fin 2}
    (h : assignBinary p r b = none) : ∀ x, Extends x (values p) → x r ≠ b := by
  intro x hx
  unfold assignBinary at h
  cases hr : p.lookup r with
  | none => simp [hr] at h
  | some existing =>
    rw [hr] at h
    dsimp only at h
    split_ifs at h with heq
    rw [hx r existing hr]
    exact heq

/-- A branch that returned: everything `propagate` guarantees, from the extended assignment. -/
lemma tryAssignment_some {clauses : List BinaryClause} {p q : BinaryAssignment} {r : RobotId}
    {b : Fin 2} (h : tryAssignment p r b clauses = some q) :
    ∃ trial, assignBinary p r b = some trial ∧ Forced clauses trial q ∧
      Closed (twoClauses clauses) (values q) := by
  obtain ⟨trial, htrial, hprop⟩ := Option.bind_eq_some_iff.mp h
  exact ⟨trial, htrial, propagate_some hprop⟩

/-- **One branch is a propagation procedure.** -/
theorem propagator_tryAssignment (clauses : List BinaryClause) :
    Propagator (twoClauses clauses) values fun p r b => tryAssignment p r b clauses where
  grows p r b q h := by
    obtain ⟨trial, htrial, hforced, -⟩ := tryAssignment_some h
    exact (assignBinary_some htrial).1.trans hforced.grows
  assigns p r b q h := by
    obtain ⟨trial, htrial, hforced, -⟩ := tryAssignment_some h
    exact hforced.grows r b (assignBinary_some htrial).2.1
  closed p r b q h := by
    obtain ⟨-, -, -, hclosed⟩ := tryAssignment_some h
    exact hclosed
  sound p r b q h x hx hext hxr := by
    obtain ⟨trial, htrial, hforced, -⟩ := tryAssignment_some h
    exact hforced.sound x hx ((assignBinary_some htrial).2.2.2 x hext hxr)
  refutes p r b h x hx hext hxr := by
    cases htrial : assignBinary p r b with
    | none => exact assignBinary_none htrial x hext hxr
    | some trial =>
      have hnone : propagate trial clauses = none := by
        rwa [tryAssignment, htrial] at h
      exact propagate_none hnone x hx ((assignBinary_some htrial).2.2.2 x hext hxr)

/-- The greedy loop is the abstract greedy procedure. -/
lemma foldlM_greedyStep (clauses : List BinaryClause) (ranked : List RobotId)
    (p : BinaryAssignment) : ranked.foldlM (greedyStep clauses) p =
      greedy values (fun p r b => tryAssignment p r b clauses) ranked p := by
  induction ranked generalizing p with
  | nil => rfl
  | cons r ranked ih =>
    rw [List.foldlM_cons, greedy, greedyStep]
    simp only [isSome_values]
    split_ifs with hr
    · exact ih p
    · cases tryAssignment p r 1 clauses with
      | some q => exact ih q
      | none =>
        cases tryAssignment p r 0 clauses with
        | some q => exact ih q
        | none => rfl

/-- Robots that the passes assign are listed, seeded or occur in a clause.

**Proof sketch.** By induction on the ranked robots: each step assigns its robot and what
propagation forces, which occurs in a clause. -/
lemma mem_of_greedyPass {ranked : List RobotId} {seed q : BinaryAssignment}
    {clauses : List BinaryClause} (h : greedyPass ranked seed clauses = some q) {K : List RobotId}
    (hranked : ∀ r ∈ ranked, r ∈ K) (hseed : ∀ r ∈ seed, r ∈ K)
    (hclauses : ∀ r ∈ clauseRobots clauses, r ∈ K) : ∀ r ∈ q, r ∈ K := by
  obtain ⟨base, hbase, hloop⟩ := Option.bind_eq_some_iff.mp h
  have hbaseK : ∀ r ∈ base, r ∈ K := fun r hr =>
    ((propagate_some hbase).1.mem r hr).elim (hseed r) (hclauses r)
  clear hbase h
  induction ranked generalizing base with
  | nil =>
    obtain rfl := Option.some.inj hloop
    exact hbaseK
  | cons v ranked ih =>
    obtain ⟨p, hp, hloop⟩ := Option.bind_eq_some_iff.mp hloop
    rw [List.forall_mem_cons] at hranked
    have htry : ∀ b, tryAssignment base v b clauses = some p → ∀ r ∈ p, r ∈ K := by
      intro b hb r hr
      obtain ⟨trial, htrial, hforced, -⟩ := tryAssignment_some hb
      rcases hforced.mem r hr with hr | hr
      · rcases (assignBinary_some htrial).2.2.1 r hr with hr | rfl
        · exact hbaseK r hr
        · exact hranked.1
      · exact hclauses r hr
    refine ih hranked.2 p hloop ?_
    unfold greedyStep at hp
    split_ifs at hp with hv
    · obtain rfl := Option.some.inj hp
      exact hbaseK
    · cases htrial : tryAssignment base v 1 clauses with
      | some q' =>
        rw [htrial] at hp
        obtain rfl := Option.some.inj hp
        exact htry 1 htrial
      | none =>
        rw [htrial] at hp
        exact htry 0 hp

/-- **The greedy pass is exact.** If every robot of a clause is ranked, it fails iff no solution
extends the seed; its result is closed, extends the seed and fixes every ranked robot, and every
other solution is lexicographically below it in rank order.

**Proof sketch.** The pass is the greedy search of the library with propagation as its attempt
(`propagator_tryAssignment`), started from the closure of the seed. So `greedy_some` and
`greedy_exact` apply. -/
theorem greedyPass_spec {ranked : List RobotId} (seed : BinaryAssignment)
    {clauses : List BinaryClause} (hranked : ∀ r ∈ clauseRobots clauses, r ∈ ranked) :
    match greedyPass ranked seed clauses with
    | none => ∀ x, Satisfies (twoClauses clauses) x → ¬ Extends x (values seed)
    | some q => (∀ x, Extends x (values q) →
          Satisfies (twoClauses clauses) x ∧ Extends x (values seed)) ∧
        (∀ r ∈ ranked, r ∈ q) ∧ ∀ x, Satisfies (twoClauses clauses) x → Extends x (values seed) →
          Extends x (values q) ∨ Below ranked x (values q) := by
  unfold greedyPass
  cases hbase : propagate seed clauses with
  | none => exact propagate_none hbase
  | some base =>
    obtain ⟨hforced, hclosed⟩ := propagate_some hbase
    rw [Option.bind_eq_bind, Option.bind_some, foldlM_greedyStep]
    have hprop := propagator_tryAssignment clauses
    have hsome : ∀ q, greedy values (fun p r b => tryAssignment p r b clauses) ranked base =
        some q → (∀ x, Extends x (values q) →
          Satisfies (twoClauses clauses) x ∧ Extends x (values seed)) ∧ ∀ r ∈ ranked, r ∈ q := by
      intro q hq
      obtain ⟨hcl, hle, hall⟩ := greedy_some hprop hclosed hq
      refine ⟨fun x hx => ⟨hcl.satisfies_of_total (fun c hc => ?_) hx,
        hx.mono (hforced.grows.trans hle)⟩, fun r hr => isSome_values.mp (hall r hr)⟩
      obtain ⟨clause, hclause, rfl⟩ := List.mem_map.mp hc
      exact hall _ (hranked _ (List.mem_flatMap.mpr
        ⟨clause, hclause, by simp [BinaryClause.toTwo]⟩))
    by_cases hsat : ∃ x, Satisfies (twoClauses clauses) x ∧ Extends x (values base)
    · obtain ⟨q, hq, hlex⟩ := greedy_exact hprop [] ranked hclosed (by simp) hsat
      rw [hq]
      obtain ⟨hsol, hall⟩ := hsome q hq
      exact ⟨hsol, hall, fun x hx hext => hlex x hx (hforced.sound x hx hext)⟩
    · cases hq : greedy values (fun p r b => tryAssignment p r b clauses) ranked base with
      | none => exact fun x hx hext => hsat ⟨x, hx, hforced.sound x hx hext⟩
      | some q =>
        -- a returned assignment would be a solution
        have hext := complete_extends (values q) fun _ => 0
        have hle := (greedy_some hprop hclosed hq).2.1
        exact absurd ⟨_, ((hsome q hq).1 _ hext).1, hext.mono hle⟩ hsat

end CollisionMonitor
