import CollisionMonitor.Lib.Outcome

set_option relaxedAutoImplicit false
set_option autoImplicit false

/-!
# Computations that respect a view

A view of a state is what an observer sees of it. A computation respects the view when from states
that look the same it returns or raises the same, and leaves states that look the same.

## Main definitions

* `Outcome.visible` — what an observer sees of an outcome.
* `Outcome.Respects` — equal views lead to equal visible outcomes.

## Main results

* `Outcome.Respects.bind` — sequences respect a view when their parts do.
-/

namespace Outcome

variable {ε σ α β ν : Type} {view : σ → ν}

/-- What an observer sees of an outcome. -/
def visible (view : σ → ν) : EStateM.Result ε σ α → Except ε α × ν
  | .ok a s => (.ok a, view s)
  | .error e s => (.error e, view s)

/-- From states that look the same, the outcomes look the same. -/
def Respects (view : σ → ν) (x : EStateM ε σ α) : Prop :=
  ∀ s t, view s = view t → visible view (x.run s) = visible view (x.run t)

/-- Outcomes that look the same have the same value and states that look the same. -/
lemma visible_eq_cases {r r' : EStateM.Result ε σ α} (h : visible view r = visible view r') :
    (∃ a s t, r = .ok a s ∧ r' = .ok a t ∧ view s = view t) ∨
      ∃ e s t, r = .error e s ∧ r' = .error e t ∧ view s = view t := by
  cases r with
  | ok a s =>
    cases r' with
    | ok b t =>
      obtain ⟨hvalue, hview⟩ := Prod.mk.inj h
      exact .inl ⟨a, s, t, rfl, congrArg (EStateM.Result.ok · t) (Except.ok.inj hvalue).symm, hview⟩
    | error e t => cases congrArg Prod.fst h
  | error e s =>
    cases r' with
    | ok b t => cases congrArg Prod.fst h
    | error e' t =>
      obtain ⟨hvalue, hview⟩ := Prod.mk.inj h
      exact .inr ⟨e, s, t, rfl,
        congrArg (EStateM.Result.error · t) (Except.error.inj hvalue).symm, hview⟩

/-- Only the value of an outcome is mapped. -/
lemma visible_map (f : α → β) (x : EStateM ε σ α) (s : σ) :
    visible view ((x >>= fun a => pure (f a)).run s) =
      ((visible view (x.run s)).1.map f, (visible view (x.run s)).2) := by
  rw [EStateM.run_bind]
  cases x.run s <;> rfl

/-- A computation that raised is not continued. -/
lemma run_error_bind {x : EStateM ε σ α} {f : α → EStateM ε σ β} {s s' : σ} {e : ε}
    (h : x.run s = .error e s') : (x >>= f).run s = .error e s' := by
  rw [EStateM.run_bind, h]

/-- A part that raises leaves its state in the whole. -/
lemma run_zoom_of_error {τ : Type} {part : τ → σ} {replace : τ → σ → τ} {x : EStateM ε σ α} {t : τ}
    {e : ε} {s : σ} (h : x.run (part t) = .error e s) :
    (zoom part replace x).run t = .error e (replace t s) := by
  have hrun : (zoom part replace x).run t = match x.run (part t) with
      | .ok a s => .ok a (replace t s)
      | .error e s => .error e (replace t s) := rfl
  rw [hrun, h]

namespace Respects

/-- Returning a value respects every view. -/
lemma pure (a : α) : Respects view (Pure.pure a : EStateM ε σ α) :=
  fun _ _ h => congrArg (Prod.mk _) h

/-- **Sequences.** -/
lemma bind {x : EStateM ε σ α} {f : α → EStateM ε σ β} (hx : Respects view x)
    (hf : ∀ a, Respects view (f a)) : Respects view (x >>= f) := by
  intro s t h
  rcases visible_eq_cases (hx s t h) with ⟨a, s', t', hs, ht, hview⟩ | ⟨e, s', t', hs, ht, hview⟩
  · rw [run_ok_bind hs, run_ok_bind ht]
    exact hf a s' t' hview
  · rw [run_error_bind hs, run_error_bind ht]
    exact congrArg (Prod.mk _) hview

/-- A computation that continues with what it reads of the view. -/
lemma bind_get {f : σ → EStateM ε σ β} (hread : ∀ s t, view s = view t → f s = f t)
    (hf : ∀ s, Respects view (f s)) : Respects view (get >>= f) := by
  intro s t h
  change visible view ((f s).run s) = visible view ((f t).run t)
  rw [← hread s t h]
  exact hf s s t h

/-- So does a computation without state. -/
lemma lift (x : Except ε α) : Respects view (Outcome.lift x : EStateM ε σ α) := by
  intro s t h
  cases x with
  | ok a => exact congrArg (Prod.mk _) h
  | error e => exact congrArg (Prod.mk _) h

/-- A change respects a view on which it acts. -/
lemma modify {g : σ → σ} (hg : ∀ s t, view s = view t → view (g s) = view (g t)) :
    Respects view (modify g : EStateM ε σ PUnit) :=
  fun s t h => congrArg (Prod.mk _) (hg s t h)

/-- A computation on a part of the state that is in view. -/
lemma zoom {τ : Type} {view : τ → ν} {part : τ → σ} {replace : τ → σ → τ} (x : EStateM ε σ α)
    (hpart : ∀ s t, view s = view t → part s = part t)
    (hreplace : ∀ s t p, view s = view t → view (replace s p) = view (replace t p)) :
    Respects view (Outcome.zoom part replace x) := by
  intro s t h
  cases hrun : x.run (part s) with
  | ok a p =>
    have hrun' : x.run (part t) = .ok a p := hpart s t h ▸ hrun
    rw [run_zoom_of_ok hrun, run_zoom_of_ok hrun']
    exact congrArg (Prod.mk _) (hreplace s t p h)
  | error e p =>
    have hrun' : x.run (part t) = .error e p := hpart s t h ▸ hrun
    rw [run_zoom_of_error hrun, run_zoom_of_error hrun']
    exact congrArg (Prod.mk _) (hreplace s t p h)

end Respects

end Outcome
