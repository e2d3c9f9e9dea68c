import CollisionMonitor.Lib.Collections

set_option relaxedAutoImplicit false
set_option autoImplicit false

/-!
# Comparing loops

Two ways to reason about what a loop does for one element without following the others: loops
whose passes agree are equal, and a part of the state that only one pass touches is, after the
loop, what that pass made of it.

## Main definitions

* `Outcome.Passes` — a chain of passes over the elements of a list.

## Main results

* `Outcome.mapM_congr`, `Outcome.foldlM_congr`, `Outcome.forM_congr`, `Dict.collect_congr` — loops
  whose passes agree on the elements are equal.
* `Outcome.Passes.own` — a view of the state that the passes over other elements leave alone.
-/

namespace Outcome

variable {ε σ ν α β : Type}

/-! ## Loops whose passes agree -/

section Congr

variable {m : Type → Type} [Monad m] {l : List α}

/-- Two maps that agree on a list give the same. -/
lemma mapM_congr [LawfulMonad m] {f g : α → m β} (h : ∀ a ∈ l, f a = g a) :
    l.mapM f = l.mapM g := by
  induction l with
  | nil => rfl
  | cons a l ih =>
    rw [List.forall_mem_cons] at h
    rw [List.mapM_cons, List.mapM_cons, h.1, ih h.2]

/-- Two folds that agree on a list give the same. -/
lemma foldlM_congr {f g : β → α → m β} (h : ∀ a ∈ l, ∀ b, f b a = g b a) (b : β) :
    l.foldlM f b = l.foldlM g b := by
  induction l generalizing b with
  | nil => rfl
  | cons a l ih =>
    rw [List.forall_mem_cons] at h
    rw [List.foldlM_cons, List.foldlM_cons, h.1]
    exact bind_congr fun b' => ih h.2 b'

/-- Two loops that agree on a list do the same. -/
lemma forM_congr {f g : α → m PUnit} (h : ∀ a ∈ l, f a = g a) : l.forM f = l.forM g := by
  induction l with
  | nil => rfl
  | cons a l ih =>
    rw [List.forall_mem_cons] at h
    simp only [List.forM_eq_forM] at ih ⊢
    rw [List.forM_cons, List.forM_cons, h.1, ih h.2]

end Congr

/-! ## Chains of passes -/

/-- A chain of passes over the elements of a list; `R s a t` says that a pass over `a` may turn
`s` into `t`. -/
inductive Passes (R : σ → α → σ → Prop) : List α → σ → σ → Prop
  | nil (s : σ) : Passes R [] s s
  | cons {a : α} {l : List α} {s t u : σ} (h : R s a t) (hl : Passes R l t u) :
    Passes R (a :: l) s u

/-- A loop that returned is a chain of passes that returned. -/
lemma passes_of_foldlM {f : β → α → Except ε β} {l : List α} {b b' : β}
    (h : l.foldlM f b = .ok b') : Passes (fun s a t => f s a = .ok t) l b b' := by
  induction l generalizing b with
  | nil =>
    obtain rfl : b = b' := by simpa using h
    exact .nil b
  | cons a l ih =>
    rw [List.foldlM_cons, bind_eq_ok] at h
    obtain ⟨t, ht, hrest⟩ := h
    exact .cons ht (ih hrest)

/-- The same for a loop whose passes mutate a state. -/
lemma passes_of_run_foldlM {f : β → α → EStateM ε σ β} {l : List α} {b b' : β} {s s' : σ}
    (h : (l.foldlM f b).run s = .ok b' s') :
    Passes (fun t a u => ∃ w w', (f t a).run w = .ok u w') l b b' := by
  induction l generalizing b s with
  | nil =>
    obtain ⟨rfl, -⟩ : b = b' ∧ s = s' := by simpa using h
    exact .nil b
  | cons a l ih =>
    rw [List.foldlM_cons, run_bind_eq_ok] at h
    obtain ⟨t, w, ht, hrest⟩ := h
    exact .cons ⟨s, w, ht⟩ (ih hrest)

namespace Passes

variable {R : σ → α → σ → Prop} {l : List α} {s u : σ}

/-- What every pass leaves alone, the chain leaves alone. -/
lemma view_eq (h : Passes R l s u) (view : σ → ν)
    (hkeep : ∀ a ∈ l, ∀ t t', R t a t' → view t' = view t) : view u = view s := by
  induction h with
  | nil s => rfl
  | cons h _ ih =>
    rw [List.forall_mem_cons] at hkeep
    rw [ih hkeep.2, hkeep.1 _ _ h]

/-- **The rule of the own pass.** If the passes over other elements leave a view of the state alone,
then the pass over `a` found the view as it was before the chain and left it as it is after. -/
theorem own (h : Passes R l s u) (view : σ → ν) (hnd : l.Nodup) {a : α} (ha : a ∈ l)
    (hkeep : ∀ b ∈ l, b ≠ a → ∀ t t', R t b t' → view t' = view t) :
    ∃ t t', R t a t' ∧ view t = view s ∧ view u = view t' := by
  induction h with
  | nil s => cases ha
  | @cons b l s t u h hl ih =>
    rw [List.nodup_cons] at hnd
    rw [List.forall_mem_cons] at hkeep
    rcases List.mem_cons.mp ha with rfl | ha
    · -- the later passes are over other elements
      refine ⟨s, t, h, rfl, hl.view_eq view fun c hc => hkeep.2 c hc ?_⟩
      rintro rfl
      exact hnd.1 hc
    · obtain ⟨t₁, t₂, hpass, hbefore, hafter⟩ := ih hnd.2 ha hkeep.2
      have hne : b ≠ a := by
        rintro rfl
        exact hnd.1 ha
      exact ⟨t₁, t₂, hpass, hbefore.trans (hkeep.1 hne _ _ h), hafter⟩

end Passes

end Outcome

/-! ## Dictionaries that agree on a key -/

namespace Dict

open Outcome

variable {κ ν α ε : Type} [DecidableEq κ]

/-- A comprehension depends on the values at the elements only. -/
lemma collect_congr {key : α → κ} {f g : α → Except ε ν} {l : List α} (h : ∀ a ∈ l, f a = g a) :
    collect key f l = collect key g l := by
  unfold collect
  rw [mapM_congr fun a ha => by rw [h a ha]]

/-- Dictionaries that agree at a key both have it or both lack it. -/
lemma mem_congr {d e : Dict κ ν} {k : κ} (h : d.lookup k = e.lookup k) : k ∈ d ↔ k ∈ e := by
  rw [← AList.lookup_isSome, ← AList.lookup_isSome, h]

/-- The elements that are not keys are the same for dictionaries that agree on the elements. -/
lemma filter_notMem_congr {d e : Dict κ ν} {ks : List κ} (h : ∀ k ∈ ks, d.lookup k = e.lookup k) :
    ks.filter (fun k => decide (k ∉ d)) = ks.filter fun k => decide (k ∉ e) :=
  List.filter_congr fun k hk => by rw [decide_eq_decide, mem_congr (h k hk)]

end Dict
