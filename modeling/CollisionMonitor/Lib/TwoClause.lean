import Mathlib.Data.Fin.Basic
import Mathlib.Data.List.Lex
import Mathlib.Tactic

set_option relaxedAutoImplicit false
set_option autoImplicit false

/-!
# Two-literal clauses over binary variables

Clauses with exactly two literals `x v ≠ b`, partial assignments that are closed under their
implications, and the exactness of a greedy assignment that propagates after every choice.

## Main definitions

* `TwoClause.Clause`, `TwoClause.Satisfies` — clauses and the assignments satisfying them.
* `TwoClause.Closed` — every clause is satisfied or has both variables unassigned.
* `TwoClause.Clause.Refuted`, `TwoClause.Clause.Forces` — the two ways a clause breaks that.
* `TwoClause.LeastClosed` — the least closed assignment above another.
* `TwoClause.Propagator` — what a propagation procedure must guarantee.
* `TwoClause.greedy` — try `1`, then `0`, for each unassigned variable in order.

## Main results

* `TwoClause.Closed.complete_satisfies` — a closed partial assignment overwrites any solution
  without breaking it, so committing to it never loses satisfiability.
* `TwoClause.LeastClosed.unique`, `TwoClause.LeastClosed.of_mem_iff` — it is determined by the
  members of the clause list.
* `TwoClause.greedy_some` — the result of the greedy pass is closed and fixes every variable.
* `TwoClause.greedy_exact` — the greedy pass never fails on a satisfiable system, and every
  other solution is lexicographically below its result.
* `TwoClause.map_le_of_extends_or_below` — the same, as an inequality between lists of values.
-/

namespace TwoClause

variable {V : Type}

/-- There are two values, so the numerals `0` and `1` name them. -/
instance neZeroTwo : NeZero 2 := inferInstance

/-- The literal `x var ≠ forbidden`. -/
structure Literal (V : Type) where
  var : V
  forbidden : Fin 2

/-- A disjunction of two literals. -/
structure Clause (V : Type) where
  left : Literal V
  right : Literal V

/-- A literal holds when its variable avoids the forbidden value. -/
def Literal.Holds (l : Literal V) (x : V → Fin 2) : Prop := x l.var ≠ l.forbidden

/-- A clause holds when one of its literals does. -/
def Clause.Holds (c : Clause V) (x : V → Fin 2) : Prop := c.left.Holds x ∨ c.right.Holds x

/-- `x` satisfies every clause of `cs`. -/
def Satisfies (cs : List (Clause V)) (x : V → Fin 2) : Prop := ∀ c ∈ cs, c.Holds x

/-- `x` agrees with every value the partial assignment `p` has fixed. -/
def Extends (x : V → Fin 2) (p : V → Option (Fin 2)) : Prop := ∀ v b, p v = some b → x v = b

/-- Every value fixed by `p` is fixed by `q`. -/
def Le (p q : V → Option (Fin 2)) : Prop := ∀ v b, p v = some b → q v = some b

/-- The partial assignment `p` already makes the literal true. -/
def Literal.SatisfiedBy (l : Literal V) (p : V → Option (Fin 2)) : Prop :=
  ∃ b, p l.var = some b ∧ b ≠ l.forbidden

/-- Neither variable of the clause has a value. -/
def Clause.Untouched (c : Clause V) (p : V → Option (Fin 2)) : Prop :=
  p c.left.var = none ∧ p c.right.var = none

/-- No clause is left with exactly one open literal: each is satisfied or untouched. -/
def Closed (cs : List (Clause V)) (p : V → Option (Fin 2)) : Prop :=
  ∀ c ∈ cs, (c.left.SatisfiedBy p ∨ c.right.SatisfiedBy p) ∨ c.Untouched p

/-- The values of `p`, with those of `x` where `p` has none. -/
def complete (p : V → Option (Fin 2)) (x : V → Fin 2) : V → Fin 2 := fun v => (p v).getD (x v)

/-- What extends more extends less. -/
lemma Extends.mono {x : V → Fin 2} {p q : V → Option (Fin 2)} (hpq : Le p q)
    (h : Extends x q) : Extends x p :=
  fun v b hv => h v b (hpq v b hv)

/-- Containment is transitive. -/
lemma Le.trans {p q r : V → Option (Fin 2)} (hpq : Le p q) (hqr : Le q r) : Le p r :=
  fun v b hv => hqr v b (hpq v b hv)

/-- An assignment contains itself. -/
lemma Le.refl (p : V → Option (Fin 2)) : Le p p := fun _ _ h => h

/-- A completion extends what it completes. -/
lemma complete_extends (p : V → Option (Fin 2)) (x : V → Fin 2) : Extends (complete p x) p := by
  intro v b hv
  simp [complete, hv]

/-- A literal that is satisfied holds in every extension. -/
lemma Literal.SatisfiedBy.holds {l : Literal V} {p : V → Option (Fin 2)} {x : V → Fin 2}
    (h : l.SatisfiedBy p) (hx : Extends x p) : l.Holds x := by
  obtain ⟨b, hb, hne⟩ := h
  rw [Literal.Holds, hx _ _ hb]
  exact hne

/-- **Closed assignments overwrite solutions.** If `p` is closed and `x` satisfies the clauses,
then so does `x` overwritten by `p`: a clause touched by `p` is satisfied by `p`, and an
untouched one keeps both values of `x`. -/
theorem Closed.complete_satisfies {cs : List (Clause V)} {p : V → Option (Fin 2)}
    {x : V → Fin 2} (hp : Closed cs p) (hx : Satisfies cs x) : Satisfies cs (complete p x) := by
  intro c hc
  rcases hp c hc with (h | h) | ⟨hl, hr⟩
  · exact .inl (h.holds (complete_extends p x))
  · exact .inr (h.holds (complete_extends p x))
  · have h := hx c hc
    simpa [Clause.Holds, Literal.Holds, complete, hl, hr] using h

/-- A closed assignment that fixes every variable of the clauses satisfies them, whatever the
other values. -/
theorem Closed.satisfies_of_total {cs : List (Clause V)} {p : V → Option (Fin 2)}
    (hp : Closed cs p) (htotal : ∀ c ∈ cs, (p c.left.var).isSome) {x : V → Fin 2}
    (hx : Extends x p) : Satisfies cs x := by
  intro c hc
  rcases hp c hc with (h | h) | ⟨hl, -⟩
  · exact .inl (h.holds hx)
  · exact .inr (h.holds hx)
  · have := htotal c hc
    rw [hl] at this
    cases this

/-- A value other than the forbidden one is its complement. -/
lemma eq_one_sub_of_ne {a b : Fin 2} (h : a ≠ b) : a = 1 - b := by
  revert a b
  decide

/-- A value is zero or one. -/
lemma eq_zero_or_one (b : Fin 2) : b = 0 ∨ b = 1 := by
  revert b
  decide

/-! ## Unit clauses and least closed assignments -/

/-- The partial assignment `p` already makes the literal false. -/
def Literal.FalsifiedBy (l : Literal V) (p : V → Option (Fin 2)) : Prop :=
  p l.var = some l.forbidden

/-- Both literals of the clause are false. -/
def Clause.Refuted (c : Clause V) (p : V → Option (Fin 2)) : Prop :=
  c.left.FalsifiedBy p ∧ c.right.FalsifiedBy p

/-- The clause is down to the literal `l`: its variable is open and the other literal is false. -/
def Clause.Forces (c : Clause V) (p : V → Option (Fin 2)) (l : Literal V) : Prop :=
  p l.var = none ∧ (c.left = l ∧ c.right.FalsifiedBy p ∨ c.right = l ∧ c.left.FalsifiedBy p)

/-- A literal that is falsified holds in no extension. -/
lemma Literal.FalsifiedBy.not_holds {l : Literal V} {p : V → Option (Fin 2)} {x : V → Fin 2}
    (h : l.FalsifiedBy p) (hx : Extends x p) : ¬ l.Holds x :=
  fun hl => hl (hx _ _ h)

/-- A clause that is refuted holds in no extension. -/
lemma Clause.Refuted.not_holds {c : Clause V} {p : V → Option (Fin 2)} {x : V → Fin 2}
    (h : c.Refuted p) (hx : Extends x p) : ¬ c.Holds x :=
  fun hc => hc.elim (h.1.not_holds hx) (h.2.not_holds hx)

/-- A solution gives the last open variable of a clause the value other than the forbidden one. -/
lemma Clause.Forces.value {c : Clause V} {p : V → Option (Fin 2)} {l : Literal V} {x : V → Fin 2}
    (h : c.Forces p l) (hc : c.Holds x) (hx : Extends x p) : x l.var = 1 - l.forbidden := by
  obtain ⟨-, ⟨rfl, hfalse⟩ | ⟨rfl, hfalse⟩⟩ := h
  · exact eq_one_sub_of_ne (hc.resolve_right (hfalse.not_holds hx))
  · exact eq_one_sub_of_ne (hc.resolve_left (hfalse.not_holds hx))

/-- A literal is not both falsified and satisfied. -/
lemma Literal.FalsifiedBy.not_satisfiedBy {l : Literal V} {p : V → Option (Fin 2)}
    (h : l.FalsifiedBy p) : ¬ l.SatisfiedBy p := by
  rintro ⟨b, hb, hne⟩
  exact hne (Option.some.inj (hb.symm.trans h))

/-- The satisfied literal of a closed assignment has the value that the clause forces. -/
lemma Literal.SatisfiedBy.value {l : Literal V} {p : V → Option (Fin 2)}
    (h : l.SatisfiedBy p) : p l.var = some (1 - l.forbidden) := by
  obtain ⟨b, hb, hne⟩ := h
  rw [hb, eq_one_sub_of_ne hne]

/-- A closed assignment with a false literal satisfies the clause. -/
lemma Closed.satisfiedBy {cs : List (Clause V)} {u : V → Option (Fin 2)} {c : Clause V}
    (hu : Closed cs u) (hc : c ∈ cs) (h : c.left.FalsifiedBy u ∨ c.right.FalsifiedBy u) :
    c.left.SatisfiedBy u ∨ c.right.SatisfiedBy u := by
  refine (hu c hc).resolve_right fun ⟨hl, hr⟩ => ?_
  rcases h with h | h
  · exact Option.some_ne_none _ (h.symm.trans hl)
  · exact Option.some_ne_none _ (h.symm.trans hr)

/-- No closed assignment lies above one that refutes a clause. -/
lemma Closed.not_refuted {cs : List (Clause V)} {p u : V → Option (Fin 2)} {c : Clause V}
    (hu : Closed cs u) (hle : Le p u) (hc : c ∈ cs) : ¬ c.Refuted p := by
  rintro ⟨hl, hr⟩
  have hlu : c.left.FalsifiedBy u := hle _ _ hl
  have hru : c.right.FalsifiedBy u := hle _ _ hr
  rcases hu.satisfiedBy hc (.inl hlu) with h | h
  · exact hlu.not_satisfiedBy h
  · exact hru.not_satisfiedBy h

/-- Every closed assignment above contains the values that the clauses force. -/
lemma Closed.value_of_forces {cs : List (Clause V)} {p u : V → Option (Fin 2)} {c : Clause V}
    {l : Literal V} (hu : Closed cs u) (hle : Le p u) (hc : c ∈ cs) (h : c.Forces p l) :
    u l.var = some (1 - l.forbidden) := by
  obtain ⟨-, ⟨rfl, hfalse⟩ | ⟨rfl, hfalse⟩⟩ := h
  · have hfalse : c.right.FalsifiedBy u := hle _ _ hfalse
    exact ((hu.satisfiedBy hc (.inr hfalse)).resolve_right hfalse.not_satisfiedBy).value
  · have hfalse : c.left.FalsifiedBy u := hle _ _ hfalse
    exact ((hu.satisfiedBy hc (.inl hfalse)).resolve_left hfalse.not_satisfiedBy).value

/-- A solution contains an assignment iff it extends it. -/
lemma le_some_iff {p : V → Option (Fin 2)} {x : V → Fin 2} :
    Le p (fun v => some (x v)) ↔ Extends x p :=
  forall₃_congr fun _ _ _ => Option.some_inj

/-- Two assignments that contain each other are equal. -/
lemma Le.antisymm {p q : V → Option (Fin 2)} (hpq : Le p q) (hqp : Le q p) : p = q :=
  funext fun v => Option.ext fun b => ⟨hpq v b, hqp v b⟩

/-- The closed assignment `q` lies above `p` and below every other such assignment. -/
structure LeastClosed (cs : List (Clause V)) (p q : V → Option (Fin 2)) : Prop where
  le : Le p q
  closed : Closed cs q
  least : ∀ u, Le p u → Closed cs u → Le q u

/-- **The least closed assignment is unique.** -/
theorem LeastClosed.unique {cs : List (Clause V)} {p q q' : V → Option (Fin 2)}
    (h : LeastClosed cs p q) (h' : LeastClosed cs p q') : q = q' :=
  Le.antisymm (h.least q' h'.le h'.closed) (h'.least q h.le h.closed)

/-- Being closed depends on the clauses as a set. -/
lemma Closed.of_mem_iff {cs cs' : List (Clause V)} {p : V → Option (Fin 2)}
    (hmem : ∀ c, c ∈ cs' ↔ c ∈ cs) (h : Closed cs p) : Closed cs' p :=
  fun c hc => h c ((hmem c).mp hc)

/-- **The order and the repetitions of the clauses do not matter.** -/
theorem LeastClosed.of_mem_iff {cs cs' : List (Clause V)} {p q : V → Option (Fin 2)}
    (hmem : ∀ c, c ∈ cs' ↔ c ∈ cs) (h : LeastClosed cs p q) : LeastClosed cs' p q :=
  ⟨h.le, h.closed.of_mem_iff hmem,
    fun u hle hu => h.least u hle (hu.of_mem_iff fun c => (hmem c).symm)⟩

/-! ## The greedy pass -/

section Greedy

variable {P : Type}

/-- A propagation procedure on a type `P` of partial assignments read by `value`: `attempt p v b`
gives the unassigned variable `v` the value `b` together with everything this forces, or fails
when no solution extending `p` has that value. -/
structure Propagator (cs : List (Clause V)) (value : P → V → Option (Fin 2))
    (attempt : P → V → Fin 2 → Option P) : Prop where
  /-- The new assignment keeps the old values. -/
  grows : ∀ p v b q, attempt p v b = some q → Le (value p) (value q)
  /-- It contains the attempted value. -/
  assigns : ∀ p v b q, attempt p v b = some q → value q v = some b
  /-- It is closed. -/
  closed : ∀ p v b q, attempt p v b = some q → Closed cs (value q)
  /-- Every solution with that value extends it. -/
  sound : ∀ p v b q, attempt p v b = some q → ∀ x, Satisfies cs x → Extends x (value p) →
    x v = b → Extends x (value q)
  /-- A failure refutes the value. -/
  refutes : ∀ p v b, attempt p v b = none → ∀ x, Satisfies cs x → Extends x (value p) → x v ≠ b

/-- Fix every variable of a list that has no value yet: `1` if that can be propagated, `0`
otherwise. -/
def greedy (value : P → V → Option (Fin 2)) (attempt : P → V → Fin 2 → Option P) :
    List V → P → Option P
  | [], p => some p
  | v :: vs, p =>
    if (value p v).isSome then greedy value attempt vs p
    else match attempt p v 1 with
      | some q => greedy value attempt vs q
      | none => match attempt p v 0 with
        | some q => greedy value attempt vs q
        | none => none

/-- `x` is lexicographically below `p` along `order`: at some position `x` has `0` where `p`
has `1`, and both agree before it. -/
def Below (order : List V) (x : V → Fin 2) (p : V → Option (Fin 2)) : Prop :=
  ∃ l₁ v l₂, order = l₁ ++ v :: l₂ ∧ (∀ u ∈ l₁, p u = some (x u)) ∧ x v = 0 ∧ p v = some 1

/-- What the greedy pass keeps: its result is closed, contains the start and fixes every variable
of the list.

**Proof sketch.** By induction on the list. A variable with a value is skipped, and an attempt at
another one gives it a value, grows the assignment and leaves it closed. -/
theorem greedy_some {cs : List (Clause V)} {value : P → V → Option (Fin 2)}
    {attempt : P → V → Fin 2 → Option P} (H : Propagator cs value attempt) {vs : List V}
    {p q : P} (hp : Closed cs (value p)) (h : greedy value attempt vs p = some q) :
    Closed cs (value q) ∧ Le (value p) (value q) ∧ ∀ v ∈ vs, (value q v).isSome := by
  induction vs generalizing p with
  | nil =>
    obtain rfl := Option.some.inj h
    exact ⟨hp, Le.refl _, by simp⟩
  | cons v vs ih =>
    have next : ∀ q₁, Closed cs (value q₁) → Le (value p) (value q₁) → (value q₁ v).isSome →
        greedy value attempt vs q₁ = some q →
        Closed cs (value q) ∧ Le (value p) (value q) ∧ ∀ u ∈ v :: vs, (value q u).isSome := by
      intro q₁ hq₁ hle hv hq
      obtain ⟨hcl, hle', hall⟩ := ih hq₁ hq
      refine ⟨hcl, hle.trans hle', List.forall_mem_cons.mpr ⟨?_, hall⟩⟩
      obtain ⟨b, hb⟩ := Option.isSome_iff_exists.mp hv
      simp [hle' v b hb]
    rw [greedy] at h
    split_ifs at h with hv
    · exact next p hp (Le.refl _) hv h
    · have tried : ∀ b q₁, attempt p v b = some q₁ → greedy value attempt vs q₁ = some q →
          Closed cs (value q) ∧ Le (value p) (value q) ∧ ∀ u ∈ v :: vs, (value q u).isSome :=
        fun b q₁ hb hq => next q₁ (H.closed _ _ _ _ hb) (H.grows _ _ _ _ hb)
          (by simp [H.assigns _ _ _ _ hb]) hq
      cases h1 : attempt p v 1 with
      | some q₁ =>
        rw [h1] at h
        exact tried 1 q₁ h1 h
      | none =>
        rw [h1] at h
        cases h0 : attempt p v 0 with
        | some q₀ =>
          rw [h0] at h
          exact tried 0 q₀ h0 h
        | none =>
          rw [h0] at h
          cases h

/-- **The greedy pass is exact.** From a closed assignment with a solution it succeeds, and every
solution extending the start either extends the result or is lexicographically below it.

**Proof sketch.** Induction on the remaining variables, `pre` being those already fixed. If `1`
propagates, overwriting a solution by the new closed assignment keeps the system satisfiable,
and a solution with `0` there is below the result. If `1` is refuted, every solution has `0`, so
`0` propagates and every solution extends the new assignment. -/
theorem greedy_exact {cs : List (Clause V)} {value : P → V → Option (Fin 2)}
    {attempt : P → V → Fin 2 → Option P} (H : Propagator cs value attempt) (pre vs : List V)
    {p : P} (hp : Closed cs (value p)) (hpre : ∀ u ∈ pre, (value p u).isSome)
    (hsat : ∃ x, Satisfies cs x ∧ Extends x (value p)) :
    ∃ q, greedy value attempt vs p = some q ∧
      ∀ x, Satisfies cs x → Extends x (value p) →
        Extends x (value q) ∨ Below (pre ++ vs) x (value q) := by
  induction vs generalizing pre p with
  | nil => exact ⟨p, rfl, fun x _ hx => .inl hx⟩
  | cons v vs ih =>
    -- what is left after fixing `v` by moving from `p` to a closed `q₁`
    have step : ∀ q₁, Closed cs (value q₁) → Le (value p) (value q₁) →
        (value q₁ v).isSome → (∃ x, Satisfies cs x ∧ Extends x (value q₁)) →
        ∃ q, greedy value attempt vs q₁ = some q ∧
          ∀ x, Satisfies cs x → Extends x (value q₁) →
            Extends x (value q) ∨ Below (pre ++ v :: vs) x (value q) := by
      intro q₁ hq₁ hle hv hs
      have hpre₁ : ∀ u ∈ pre ++ [v], (value q₁ u).isSome := by
        intro u hu
        rcases List.mem_append.mp hu with hu | hu
        · obtain ⟨b, hb⟩ := Option.isSome_iff_exists.mp (hpre u hu)
          simp [hle u b hb]
        · rw [List.mem_singleton.mp hu]
          exact hv
      obtain ⟨q, hq, hlex⟩ := ih (pre ++ [v]) hq₁ hpre₁ hs
      exact ⟨q, hq, by simpa using hlex⟩
    rw [greedy]
    by_cases hv : (value p v).isSome
    · rw [if_pos hv]
      exact step p hp (Le.refl _) hv hsat
    · rw [if_neg hv]
      obtain ⟨x₀, hx₀, hext₀⟩ := hsat
      cases h1 : attempt p v 1 with
      | some q₁ =>
        have hle := H.grows _ _ _ _ h1
        have hassign := H.assigns _ _ _ _ h1
        have hcl := H.closed _ _ _ _ h1
        obtain ⟨q, hq, hlex⟩ := step q₁ hcl hle (by simp [hassign])
          ⟨complete (value q₁) x₀, hcl.complete_satisfies hx₀, complete_extends _ _⟩
        have hle' := (greedy_some H hcl hq).2.1
        refine ⟨q, hq, fun x hx hext => ?_⟩
        rcases eq_zero_or_one (x v) with h0 | hone
        · -- a solution with `0` at `v` agrees with `p` on the earlier variables
          refine .inr ⟨pre, v, vs, rfl, fun u hu => ?_, h0, hle' v 1 hassign⟩
          obtain ⟨b, hb⟩ := Option.isSome_iff_exists.mp (hpre u hu)
          rw [hext u b hb]
          exact hle' u b (hle u b hb)
        · exact hlex x hx (H.sound _ _ _ _ h1 x hx hext hone)
      | none =>
        have hzero : ∀ x, Satisfies cs x → Extends x (value p) → x v = 0 := fun x hx hext =>
          (eq_zero_or_one (x v)).resolve_right (H.refutes _ _ _ h1 x hx hext)
        cases h0 : attempt p v 0 with
        | none => exact absurd (hzero x₀ hx₀ hext₀) (H.refutes _ _ _ h0 x₀ hx₀ hext₀)
        | some q₀ =>
          have hsound := H.sound _ _ _ _ h0
          obtain ⟨q, hq, hlex⟩ := step q₀ (H.closed _ _ _ _ h0)
            (H.grows _ _ _ _ h0) (by simp [H.assigns _ _ _ _ h0])
            ⟨x₀, hx₀, hsound x₀ hx₀ hext₀ (hzero x₀ hx₀ hext₀)⟩
          exact ⟨q, hq, fun x hx hext => hlex x hx (hsound x hx hext (hzero x hx hext))⟩

/-- If the greedy result has no `1` on the list, no solution has: a solution below it would meet
a `1` of the result, and one extending it has the same values. -/
lemma eq_zero_of_greedy_zero {order : List V} {x : V → Fin 2} {p : V → Option (Fin 2)}
    (h : Extends x p ∨ Below order x p) (hzero : ∀ v ∈ order, p v = some 0) :
    ∀ v ∈ order, x v = 0 := by
  intro v hv
  rcases h with hext | ⟨l₁, w, l₂, rfl, -, -, hw⟩
  · exact hext v 0 (hzero v hv)
  · have := hzero w (by simp)
    rw [this] at hw
    exact absurd hw (by decide)

/-- A solution that extends the greedy result or is below it has at most the values of every
assignment that extends the result, in lexicographic order. -/
lemma map_le_of_extends_or_below {order : List V} {x y : V → Fin 2} {p : V → Option (Fin 2)}
    (h : Extends x p ∨ Below order x p) (htotal : ∀ v ∈ order, (p v).isSome)
    (hy : Extends y p) : order.map x ≤ order.map y := by
  rcases h with hext | ⟨l₁, w, l₂, rfl, heq, hx, hp⟩
  · refine le_of_eq (List.map_congr_left fun v hv => ?_)
    obtain ⟨b, hb⟩ := Option.isSome_iff_exists.mp (htotal v hv)
    rw [hext v b hb, hy v b hb]
  · have hpre : l₁.map x = l₁.map y :=
      List.map_congr_left fun u hu => (hy u (x u) (heq u hu)).symm
    rw [List.map_append, List.map_append, hpre, List.map_cons, List.map_cons, hx, hy w 1 hp]
    exact le_of_lt (List.Lex.append_left _ (List.Lex.rel (by decide)) _)

end Greedy

end TwoClause
