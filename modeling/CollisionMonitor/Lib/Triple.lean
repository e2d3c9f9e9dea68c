import CollisionMonitor.Lib.Outcome

set_option relaxedAutoImplicit false
set_option autoImplicit false

/-!
# Triples for raising computations

A triple says what holds when a computation returns and what holds when it raises. With `True` for
the second it is partial correctness, with `False` total correctness; keeping it a parameter lets
one proof serve both.

## Main definitions

* `Outcome.Returns` — the triple of a computation that returns or raises.
* `Outcome.Ensures` — the triple of a computation on a mutable state.

## Main results

* `Outcome.Returns.bind`, `Outcome.Ensures.bind` — the rule of sequencing.
* `Outcome.Returns.foldlM`, `Outcome.Ensures.foldlM`, `Outcome.Ensures.forM` — the loop rules; the
  invariant may mention the elements already processed.
-/

namespace Outcome

variable {ε σ α β : Type}

/-! ## Computations that return or raise -/

/-- `x` returns a value satisfying `Q`, or raises while `E` holds. -/
def Returns (x : Except ε α) (Q : α → Prop) (E : Prop) : Prop :=
  match x with
  | .ok a => Q a
  | .error _ => E

namespace Returns

variable {x : Except ε α} {Q R : α → Prop} {E : Prop}

/-- A returned value that satisfies the postcondition. -/
lemma ok {a : α} (h : Q a) : Returns (.ok a : Except ε α) Q E := h

/-- An exception that is allowed. -/
lemma error {e : ε} (h : E) : Returns (.error e : Except ε α) Q E := h

/-- A computation whose value is known. -/
lemma of_eq_ok {a : α} (hx : x = .ok a) (h : Q a) : Returns x Q E := by
  rw [hx]
  exact h

/-- What holds of a value that was returned. -/
lemma get {a : α} (h : Returns x Q E) (hx : x = .ok a) : Q a := by
  rw [hx] at h
  exact h

/-- If raising is excluded the computation returns. -/
lemma exists_ok (h : Returns x Q False) : ∃ a, x = .ok a ∧ Q a := by
  cases x with
  | ok a => exact ⟨a, rfl, h⟩
  | error e => exact h.elim

/-- A partial result together with totality unless `E`. -/
lemma of_runs (hruns : ∀ a, x = .ok a → Q a) (htotal : E ∨ ∃ a, x = .ok a) :
    Returns x Q E := by
  cases x with
  | ok a => exact hruns a rfl
  | error e => exact htotal.elim id (fun ⟨_, h⟩ => nomatch h)

/-- The postcondition may be weakened. -/
lemma mono (h : Returns x Q E) (hQ : ∀ a, Q a → R a) : Returns x R E := by
  cases x with
  | ok a => exact hQ a h
  | error e => exact h

/-- **Sequencing.** -/
theorem bind {f : α → Except ε β} {S : β → Prop} (hx : Returns x Q E)
    (hf : ∀ a, Q a → Returns (f a) S E) : Returns (x >>= f) S E := by
  cases x with
  | ok a => exact hf a hx
  | error e => exact hx

/-- A guard returns when it does not hold. -/
lemma guarded {p : Prop} [Decidable p] {e : ε} (h : p → E) :
    Returns (raiseIf p e) (fun _ => ¬ p) E := by
  unfold raiseIf
  split_ifs with hp
  · exact h hp
  · exact hp

/-- **The loop rule.** -/
theorem foldlM {f : β → α → Except ε β} {l : List α} {b : β} (P : List α → β → Prop)
    (h0 : P [] b) (hstep : ∀ pre a post s, l = pre ++ a :: post → P pre s →
      Returns (f s a) (P (pre ++ [a])) E) : Returns (l.foldlM f b) (P l) E := by
  suffices H : ∀ (post pre : List α) (s : β), l = pre ++ post → P pre s →
      Returns (post.foldlM f s) (P l) E from H l [] b rfl h0
  intro post
  induction post with
  | nil =>
    intro pre s hl hP
    rw [List.append_nil] at hl
    exact hl ▸ hP
  | cons a post ih =>
    intro pre s hl hP
    rw [List.foldlM_cons]
    exact (hstep pre a post s hl hP).bind fun s' hs' => ih (pre ++ [a]) s' (by simp [hl]) hs'

end Returns

/-- A postcondition of a computation that may raise is decided by running it. -/
instance (x : Except ε α) (Q : α → Prop) (E : Prop) [DecidablePred Q] [Decidable E] :
    Decidable (Returns x Q E) :=
  match x with
  | .ok a => inferInstanceAs (Decidable (Q a))
  | .error _ => inferInstanceAs (Decidable E)

/-- A statement about what a computation returns is decided by running it. -/
instance decidableReturned (x : Except ε α) (Q : α → Prop) [DecidablePred Q] :
    Decidable (∀ a, x = .ok a → Q a) :=
  match x with
  | .ok a => decidable_of_iff (Q a) ⟨fun h _ heq => Except.ok.inj heq ▸ h, fun h => h a rfl⟩
  | .error _ => isTrue fun _ h => nomatch h

/-! ## Computations on a mutable state -/

/-- From state `s`, `x` returns a value and a state satisfying `Q`, or raises in a state
satisfying `E`. -/
def Ensures (x : EStateM ε σ α) (s : σ) (Q : α → σ → Prop) (E : σ → Prop) : Prop :=
  match x.run s with
  | .ok a s' => Q a s'
  | .error _ s' => E s'

/-- A triple with decidable conditions is decided by running the computation. -/
instance (x : EStateM ε σ α) (s : σ) (Q : α → σ → Prop) (E : σ → Prop)
    [∀ a s', Decidable (Q a s')] [∀ s', Decidable (E s')] : Decidable (Ensures x s Q E) :=
  match h : x.run s with
  | .ok a s' => decidable_of_iff (Q a s') (by rw [Ensures, h])
  | .error _ s' => decidable_of_iff (E s') (by rw [Ensures, h])

/-- A statement about what a computation returns and leaves behind is decided by running it. -/
instance decidableLeft (x : EStateM ε σ α) (s : σ) (Q : α → σ → Prop)
    [∀ a s', Decidable (Q a s')] : Decidable (∀ a s', x.run s = .ok a s' → Q a s') :=
  match h : x.run s with
  | .ok a s' => decidable_of_iff (Q a s')
      ⟨fun hq _ _ heq => by cases heq; exact hq, fun hq => hq a s' rfl⟩
  | .error _ _ => isTrue fun _ _ heq => nomatch heq

namespace Ensures

variable {x : EStateM ε σ α} {s : σ} {Q R : α → σ → Prop} {E : σ → Prop}

/-- What holds of a value that was returned, and of the state left behind. -/
lemma get_ok {a : α} {s' : σ} (h : Ensures x s Q E) (hx : x.run s = .ok a s') : Q a s' := by
  unfold Ensures at h
  rw [hx] at h
  exact h

/-- What holds of the state in which the computation raised. -/
lemma get_error {e : ε} {s' : σ} (h : Ensures x s Q E) (hx : x.run s = .error e s') : E s' := by
  unfold Ensures at h
  rw [hx] at h
  exact h

/-- If raising is excluded the computation returns. -/
lemma exists_ok (h : Ensures x s Q fun _ => False) : ∃ a s', x.run s = .ok a s' ∧ Q a s' := by
  unfold Ensures at h
  cases hx : x.run s with
  | ok a s' =>
    rw [hx] at h
    exact ⟨a, s', rfl, h⟩
  | error e s' =>
    rw [hx] at h
    exact h.elim

/-- A run whose value and final state are known. -/
lemma of_run_ok {a : α} {s' : σ} (hx : x.run s = .ok a s') (h : Q a s') : Ensures x s Q E := by
  unfold Ensures
  rw [hx]
  exact h

/-- The postcondition may be weakened. -/
lemma mono (h : Ensures x s Q E) (hQ : ∀ a s', Q a s' → R a s') : Ensures x s R E := by
  unfold Ensures at h ⊢
  cases hx : x.run s with
  | ok a s' =>
    rw [hx] at h
    exact hQ a s' h
  | error e s' =>
    rw [hx] at h
    exact h

/-- What holds of the state left behind, whether the computation returned or raised. -/
lemma finalState {P : σ → Prop} (h : Ensures x s Q E) (hQ : ∀ a s', Q a s' → P s')
    (hE : ∀ s', E s' → P s') : P (finalState (x.run s)) := by
  unfold Ensures at h
  cases hx : x.run s with
  | ok a s' =>
    rw [hx] at h
    exact hQ a s' h
  | error e s' =>
    rw [hx] at h
    exact hE s' h

/-- The rule of consequence for the state in which the computation raised. -/
lemma weaken {F : σ → Prop} (h : Ensures x s Q E) (hE : ∀ s', E s' → F s') : Ensures x s Q F := by
  unfold Ensures at h ⊢
  cases hx : x.run s with
  | ok a s' =>
    rw [hx] at h
    exact h
  | error e s' =>
    rw [hx] at h
    exact hE s' h

/-- What also holds of the returned values may be added. -/
lemma and {R : α → σ → Prop} (h : Ensures x s Q E) (h' : Ensures x s R fun _ => True) :
    Ensures x s (fun a s' => Q a s' ∧ R a s') E := by
  unfold Ensures at *
  cases hx : x.run s with
  | ok a s' =>
    rw [hx] at h h'
    exact ⟨h, h'⟩
  | error e s' =>
    rw [hx] at h
    exact h

/-- **Sequencing.** -/
theorem bind {f : α → EStateM ε σ β} {S : β → σ → Prop} (hx : Ensures x s Q E)
    (hf : ∀ a s', Q a s' → Ensures (f a) s' S E) : Ensures (x >>= f) s S E := by
  unfold Ensures at hx ⊢
  rw [EStateM.run_bind]
  cases hrun : x.run s with
  | ok a s' =>
    rw [hrun] at hx
    exact hf a s' hx
  | error e s' =>
    rw [hrun] at hx
    exact hx

/-- A partial result, from the runs that return. -/
lemma of_runs (h : ∀ a s', x.run s = .ok a s' → Q a s') : Ensures x s Q fun _ => True := by
  unfold Ensures
  cases hx : x.run s with
  | ok a s' => exact h a s' hx
  | error e s' => trivial

/-- Sequencing after a computation of which nothing is known. -/
lemma bind_any {f : α → EStateM ε σ β} {S : β → σ → Prop}
    (hf : ∀ a s', Ensures (f a) s' S fun _ => True) : Ensures (x >>= f) s S fun _ => True :=
  (of_runs fun _ _ _ => trivial : Ensures x s (fun _ _ => True) fun _ => True).bind
    fun a s' _ => hf a s'

/-- Returning a value leaves the state. -/
lemma pure {a : α} (h : Q a s) : Ensures (Pure.pure a : EStateM ε σ α) s Q E := h

/-- Applying a function to the value returned. -/
lemma map {f : α → β} {S : β → σ → Prop} (h : Ensures x s (fun a => S (f a)) E) :
    Ensures (f <$> x) s S E := by
  rw [map_eq_pure_bind]
  exact h.bind fun a s' h' => Ensures.pure h'

/-- Reading the state and continuing with it. -/
lemma bind_get {f : σ → EStateM ε σ β} {S : β → σ → Prop} (h : Ensures (f s) s S E) :
    Ensures (get >>= f) s S E := h

/-- Replacing the state and continuing. -/
lemma bind_set {s' : σ} {f : PUnit → EStateM ε σ β} {S : β → σ → Prop}
    (h : Ensures (f ⟨⟩) s' S E) : Ensures (set s' >>= f) s S E := h

/-- Updating the state and continuing. -/
lemma bind_modify {g : σ → σ} {f : PUnit → EStateM ε σ β} {S : β → σ → Prop}
    (h : Ensures (f ⟨⟩) (g s) S E) : Ensures (modify g >>= f) s S E := h

/-- A change of the state. -/
lemma of_modify {g : σ → σ} {Q : PUnit → σ → Prop} (h : Q ⟨⟩ (g s)) :
    Ensures (modify g : EStateM ε σ PUnit) s Q E := h

/-- A pure computation leaves the state alone. -/
lemma lift {y : Except ε α} (hy : Returns y (fun a => Q a s) (E s)) :
    Ensures (Outcome.lift y) s Q E := by
  cases y with
  | ok a => exact hy
  | error e => exact hy

/-- A computation on a part of the state changes that part only. -/
lemma zoom {τ : Type} {part : τ → σ} {replace : τ → σ → τ} {t : τ} (h : Ensures x (part t) Q E) :
    Ensures (zoom part replace x) t (fun a t' => ∃ s, t' = replace t s ∧ Q a s)
      fun t' => ∃ s, t' = replace t s ∧ E s := by
  unfold Ensures at h ⊢
  have hrun : (Outcome.zoom part replace x).run t = match x.run (part t) with
      | .ok a s => .ok a (replace t s)
      | .error e s => .error e (replace t s) := rfl
  rw [hrun]
  cases hx : x.run (part t) with
  | ok a s =>
    rw [hx] at h
    exact ⟨s, rfl, h⟩
  | error e s =>
    rw [hx] at h
    exact ⟨s, rfl, h⟩

/-- Running a pure computation and continuing in the same state. -/
lemma bind_lift {y : Except ε α} {P : α → Prop} {f : α → EStateM ε σ β} {S : β → σ → Prop}
    (hy : Returns y P (E s)) (hf : ∀ a, P a → Ensures (f a) s S E) :
    Ensures (Outcome.lift y >>= f) s S E := by
  cases y with
  | ok a => exact hf a hy
  | error e => exact hy

/-- **The loop rule.** -/
theorem foldlM {f : β → α → EStateM ε σ β} {l : List α} {b : β} (P : List α → β → σ → Prop)
    (h0 : P [] b s) (hstep : ∀ pre a post acc t, l = pre ++ a :: post → P pre acc t →
      Ensures (f acc a) t (P (pre ++ [a])) E) : Ensures (l.foldlM f b) s (P l) E := by
  suffices H : ∀ (post pre : List α) (acc : β) (t : σ), l = pre ++ post → P pre acc t →
      Ensures (post.foldlM f acc) t (P l) E from H l [] b s rfl h0
  intro post
  induction post with
  | nil =>
    intro pre acc t hl hP
    rw [List.append_nil] at hl
    exact hl ▸ hP
  | cons a post ih =>
    intro pre acc t hl hP
    rw [List.foldlM_cons]
    exact (hstep pre a post acc t hl hP).bind fun acc' t' h' =>
      ih (pre ++ [a]) acc' t' (by simp [hl]) h'

/-- **The loop rule**, for a loop without an accumulator. -/
theorem forM {f : α → EStateM ε σ PUnit} {l : List α} (P : List α → σ → Prop)
    (h0 : P [] s) (hstep : ∀ pre a post t, l = pre ++ a :: post → P pre t →
      Ensures (f a) t (fun _ => P (pre ++ [a])) E) : Ensures (l.forM f) s (fun _ => P l) E := by
  suffices H : ∀ (post pre : List α) (t : σ), l = pre ++ post → P pre t →
      Ensures (post.forM f) t (fun _ => P l) E from H l [] s rfl h0
  intro post
  induction post with
  | nil =>
    intro pre t hl hP
    rw [List.append_nil] at hl
    exact hl ▸ hP
  | cons a post ih =>
    intro pre t hl hP
    rw [List.forM_eq_forM, List.forM_cons]
    exact (hstep pre a post t hl hP).bind fun _ t' h' => ih (pre ++ [a]) t' (by simp [hl]) h'

/-- **The loop rule**, for a loop that collects its results. -/
theorem mapM {f : α → EStateM ε σ β} {l : List α} (P : List α → List β → σ → Prop)
    (h0 : P [] [] s) (hstep : ∀ pre a post bs t, l = pre ++ a :: post → P pre bs t →
      Ensures (f a) t (fun b => P (pre ++ [a]) (bs ++ [b])) E) :
    Ensures (l.mapM f) s (P l) E := by
  suffices H : ∀ (post pre : List α) (bs : List β) (t : σ), l = pre ++ post → P pre bs t →
      Ensures (post.mapM f) t (fun bs' => P l (bs ++ bs')) E from H l [] [] s rfl h0
  intro post
  induction post with
  | nil =>
    intro pre bs t hl hP
    rw [List.append_nil] at hl
    rw [List.mapM_nil]
    exact Ensures.pure (by rw [List.append_nil, hl]; exact hP)
  | cons a post ih =>
    intro pre bs t hl hP
    rw [List.mapM_cons]
    refine (hstep pre a post bs t hl hP).bind fun b t' h' => ?_
    refine (ih (pre ++ [a]) (bs ++ [b]) t' (by simp [hl]) h').bind fun bs' t'' h'' => ?_
    exact Ensures.pure (by rwa [List.append_assoc, List.singleton_append] at h'')

end Ensures

end Outcome
