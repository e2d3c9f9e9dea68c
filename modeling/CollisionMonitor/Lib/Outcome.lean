import Mathlib.Tactic

set_option relaxedAutoImplicit false
set_option autoImplicit false

/-!
# Raising computations and their loops

Inversion and loop rules for the two exception monads used to embed imperative code:
`Except ε`, for functions that return or raise, and `EStateM ε σ`, for methods that mutate an
object and keep what they have already mutated when they raise.

## Main definitions

* `Outcome.raiseIf` — raise when a guard holds.
* `Outcome.Validated`, `Outcome.validate` — values that passed a check, and their construction.
* `Outcome.lift`, `Outcome.zoom` — a pure computation, or one on a part of the state, inside a
  mutating one.

## Main results

* `Outcome.bind_eq_ok`, `Outcome.run_bind_eq_ok` — a sequence returns iff both halves do.
* `Outcome.foldlM_invariant` — what every pass of a loop preserves holds after the loop; the
  invariant may mention the elements already processed.
* `Outcome.foldlM_total` — a loop whose passes all return, returns.
-/

namespace Outcome

variable {ε σ α β : Type}

/-! ## Computations that return or raise -/

/-- Raise `e` when `p` holds. -/
def raiseIf (p : Prop) [Decidable p] (e : ε) : Except ε Unit :=
  if p then .error e else .ok ()

/-- A guard passes iff its condition fails. -/
@[simp] lemma raiseIf_eq_ok {p : Prop} [Decidable p] {e : ε} {u : Unit} :
    raiseIf p e = .ok u ↔ ¬ p := by
  unfold raiseIf
  split_ifs with h <;> simp [h]

/-- It passes when its condition fails. -/
lemma raiseIf_of_not {p : Prop} [Decidable p] (e : ε) (h : ¬ p) : raiseIf p e = .ok () :=
  if_neg h

/-- The values a check accepts. -/
abbrev Validated (check : α → Except ε Unit) : Type := {a : α // check a = .ok ()}

/-- Construct a checked value, or raise what the check raises. -/
def validate (check : α → Except ε Unit) (a : α) : Except ε (Validated check) :=
  match h : check a with
  | .ok () => .ok ⟨a, h⟩
  | .error e => .error e

/-- Construction returns iff the check passes, and then it returns the given value. -/
lemma validate_of_accepted {check : α → Except ε Unit} {a : α} (h : check a = .ok ()) :
    validate check a = .ok ⟨a, h⟩ := by
  unfold validate
  split
  · rfl
  · next e he =>
    rw [h] at he
    cases he

/-- Construction raises what the check raises. -/
lemma error_of_validate {check : α → Except ε Unit} {a : α} {e : ε}
    (h : validate check a = .error e) : check a = .error e := by
  unfold validate at h
  split at h
  · cases h
  · next e' hcheck => rw [hcheck, Except.error.inj h]

/-- Validation leaves the value. -/
lemma val_of_validate {check : α → Except ε Unit} {a : α} {v : Validated check}
    (h : validate check a = .ok v) : v.val = a := by
  unfold validate at h
  split at h
  · rw [← Except.ok.inj h]
  · cases h

/-- A sequence returns iff its first half returns and the second half returns on that value. -/
lemma bind_eq_ok {x : Except ε α} {f : α → Except ε β} {b : β} :
    x >>= f = .ok b ↔ ∃ a, x = .ok a ∧ f a = .ok b := by
  cases x with
  | error e => simp [bind, Except.bind]
  | ok a => simp [bind, Except.bind]

/-- A returned value is handed on. -/
@[simp] lemma ok_bind (a : α) (f : α → Except ε β) : (Except.ok a >>= f) = f a := rfl

/-- An exception ends the computation. -/
@[simp] lemma error_bind (e : ε) (f : α → Except ε β) : (Except.error e >>= f) = .error e := rfl

/-- `pure` returns its value. -/
@[simp] lemma pure_def (a : α) : (pure a : Except ε α) = .ok a := rfl

/-- A computation that is seen to return has a result. -/
lemma exists_of_isOk {x : Except ε α} (h : x.isOk = true) : ∃ a, x = .ok a := by
  cases x with
  | error e => cases h
  | ok a => exact ⟨a, rfl⟩

/-- A guard raises its exception iff its condition holds. -/
@[simp] lemma raiseIf_eq_error {p : Prop} [Decidable p] {e e' : ε} :
    raiseIf p e = .error e' ↔ p ∧ e = e' := by
  unfold raiseIf
  split_ifs with h <;> simp [h]

/-- A sequence raises iff its first half does, or its second half does on the value returned. -/
lemma bind_eq_error {x : Except ε α} {f : α → Except ε β} {e : ε} :
    x >>= f = .error e ↔ x = .error e ∨ ∃ a, x = .ok a ∧ f a = .error e := by
  cases x with
  | error e' => simp [bind, Except.bind]
  | ok a => simp [bind, Except.bind]

/-- Mapping a raising function over a list returns iff it returns on every element, and then
the result lists the images in order. -/
lemma mapM_eq_ok {f : α → Except ε β} {l : List α} {bs : List β} :
    l.mapM f = .ok bs ↔ List.Forall₂ (fun a b => f a = .ok b) l bs := by
  induction l generalizing bs with
  | nil => simp [eq_comm]
  | cons a l ih =>
    rw [List.mapM_cons, bind_eq_ok, List.forall₂_cons_left_iff]
    constructor
    · rintro ⟨b, hb, h⟩
      obtain ⟨bs', hbs', h⟩ := bind_eq_ok.mp h
      exact ⟨b, bs', hb, ih.mp hbs', (Except.ok.inj h).symm⟩
    · rintro ⟨b, bs', hb, hbs', rfl⟩
      exact ⟨b, hb, bind_eq_ok.mpr ⟨bs', ih.mpr hbs', rfl⟩⟩

/-- Mapping a function that returns on every element returns. -/
lemma mapM_total {f : α → Except ε β} {l : List α} (h : ∀ a ∈ l, ∃ b, f a = .ok b) :
    ∃ bs, l.mapM f = .ok bs := by
  induction l with
  | nil => exact ⟨[], rfl⟩
  | cons a l ih =>
    rw [List.forall_mem_cons] at h
    obtain ⟨⟨b, hb⟩, hl⟩ := h
    obtain ⟨bs, hbs⟩ := ih hl
    exact ⟨b :: bs, mapM_eq_ok.mpr (.cons hb (mapM_eq_ok.mp hbs))⟩

/-- Every element has its image among the results of a mapping that returned. -/
lemma exists_mem_of_mapM {f : α → Except ε β} {l : List α} {bs : List β}
    (h : l.mapM f = .ok bs) : ∀ a ∈ l, ∃ b ∈ bs, f a = .ok b := by
  rw [mapM_eq_ok] at h
  induction h with
  | nil => simp
  | @cons a b l bs hab _ ih =>
    rw [List.forall_mem_cons]
    refine ⟨⟨b, List.mem_cons_self, hab⟩, fun c hc => ?_⟩
    obtain ⟨d, hd, hcd⟩ := ih c hc
    exact ⟨d, List.mem_cons_of_mem _ hd, hcd⟩

/-- Every result of a mapping that returned is the image of an element. -/
lemma exists_of_mem_mapM {f : α → Except ε β} {l : List α} {bs : List β}
    (h : l.mapM f = .ok bs) : ∀ b ∈ bs, ∃ a ∈ l, f a = .ok b := by
  rw [mapM_eq_ok] at h
  induction h with
  | nil => simp
  | @cons a b l bs hab _ ih =>
    rw [List.forall_mem_cons]
    refine ⟨⟨a, List.mem_cons_self, hab⟩, fun c hc => ?_⟩
    obtain ⟨d, hd, hdc⟩ := ih c hc
    exact ⟨d, List.mem_cons_of_mem _ hd, hdc⟩

/-- A feature of the results that is determined by the arguments is listed in their order. -/
lemma map_of_mapM {γ : Type} {f : α → Except ε β} {l : List α} {bs : List β} {g : β → γ}
    {k : α → γ} (h : l.mapM f = .ok bs) (hg : ∀ a b, f a = .ok b → g b = k a) :
    bs.map g = l.map k := by
  rw [mapM_eq_ok] at h
  induction h with
  | nil => rfl
  | cons hab _ ih => rw [List.map_cons, List.map_cons, hg _ _ hab, ih]

/-- Filtering by a test that returns on every element is filtering by its values. -/
lemma filterM_of_ok {f : α → Except ε Bool} {p : α → Bool} {l : List α}
    (h : ∀ a ∈ l, f a = .ok (p a)) : l.filterM f = .ok (l.filter p) := by
  suffices H : ∀ (l acc : List α), (∀ a ∈ l, f a = .ok (p a)) →
      l.filterAuxM f acc = .ok ((l.filter p).reverse ++ acc) by
    rw [List.filterM, H l [] h, ok_bind]
    simp
  intro l
  induction l with
  | nil => exact fun acc _ => rfl
  | cons a l ih =>
    intro acc hall
    rw [List.forall_mem_cons] at hall
    rw [List.filterAuxM, hall.1, ok_bind, ih _ hall.2]
    cases hp : p a <;> simp [hp]

/-- Filtering returns only if the test returned on every element. -/
lemma forall_ok_of_filterM {f : α → Except ε Bool} {l l' : List α} (h : l.filterM f = .ok l') :
    ∀ a ∈ l, ∃ b, f a = .ok b := by
  suffices H : ∀ (l acc l' : List α), l.filterAuxM f acc = .ok l' → ∀ a ∈ l, ∃ b, f a = .ok b by
    obtain ⟨l₁, h₁, -⟩ := bind_eq_ok.mp h
    exact H l [] l₁ h₁
  intro l
  induction l with
  | nil => exact fun _ _ _ _ hb => by cases hb
  | cons a l ih =>
    intro acc l' h
    obtain ⟨b, hb, hrest⟩ := bind_eq_ok.mp h
    exact List.forall_mem_cons.mpr ⟨⟨b, hb⟩, ih _ l' hrest⟩

/-- A loop of checks passes iff every check does. -/
lemma forM_eq_ok {f : α → Except ε Unit} {l : List α} {u : Unit} :
    l.forM f = .ok u ↔ ∀ a ∈ l, f a = .ok () := by
  induction l with
  | nil => simp
  | cons a l ih =>
    rw [List.forM_eq_forM] at ih ⊢
    rw [List.forM_cons, bind_eq_ok, List.forall_mem_cons, ← ih]
    exact ⟨fun ⟨_, ha, hl⟩ => ⟨ha, hl⟩, fun ⟨ha, hl⟩ => ⟨(), ha, hl⟩⟩

/-- What a loop of checks raises, one of the checks raised. -/
lemma exists_of_forM_error {f : α → Except ε Unit} {l : List α} {e : ε}
    (h : l.forM f = .error e) : ∃ a ∈ l, f a = .error e := by
  induction l with
  | nil => cases h
  | cons a l ih =>
    rw [List.forM_eq_forM] at ih h
    rw [List.forM_cons, bind_eq_error] at h
    rcases h with h | ⟨_, -, h⟩
    · exact ⟨a, List.mem_cons_self, h⟩
    · obtain ⟨b, hb, hfb⟩ := ih h
      exact ⟨b, List.mem_cons_of_mem _ hb, hfb⟩

/-- A loop of guards passes iff no guard holds. -/
lemma forM_raiseIf_eq_ok {p : α → Prop} [DecidablePred p] {e : α → ε} {l : List α} {u : Unit} :
    (l.forM fun a => raiseIf (p a) (e a)) = .ok u ↔ ∀ a ∈ l, ¬ p a := by
  rw [forM_eq_ok]
  simp only [raiseIf_eq_ok]

/-- **The loop rule.** If every pass over an element `a` turns `P pre` into `P (pre ++ [a])`,
`pre` being the elements before it, then a loop that returns has established `P` of the whole
list. -/
theorem foldlM_invariant {f : β → α → Except ε β} {l : List α} {b b' : β}
    (P : List α → β → Prop) (h : l.foldlM f b = .ok b') (h0 : P [] b)
    (hstep : ∀ pre a post s s', l = pre ++ a :: post → P pre s → f s a = .ok s' →
      P (pre ++ [a]) s') : P l b' := by
  suffices H : ∀ (post pre : List α) (s : β), l = pre ++ post → P pre s →
      post.foldlM f s = .ok b' → P l b' from H l [] b rfl h0 h
  intro post
  induction post with
  | nil =>
    intro pre s hl hP hs
    obtain rfl : s = b' := by simpa using hs
    simpa [hl] using hP
  | cons a post ih =>
    intro pre s hl hP hs
    rw [List.foldlM_cons, bind_eq_ok] at hs
    obtain ⟨s', hs', hrest⟩ := hs
    exact ih (pre ++ [a]) s' (by simp [hl]) (hstep pre a post s s' hl hP hs') hrest

/-- **The loop rule, total form.** If moreover every pass returns, the loop returns. -/
theorem foldlM_total {f : β → α → Except ε β} {l : List α} {b : β}
    (P : List α → β → Prop) (h0 : P [] b)
    (hstep : ∀ pre a post s, l = pre ++ a :: post → P pre s →
      ∃ s', f s a = .ok s' ∧ P (pre ++ [a]) s') : ∃ b', l.foldlM f b = .ok b' ∧ P l b' := by
  suffices H : ∀ (post pre : List α) (s : β), l = pre ++ post → P pre s →
      ∃ b', post.foldlM f s = .ok b' ∧ P l b' from H l [] b rfl h0
  intro post
  induction post with
  | nil =>
    intro pre s hl hP
    exact ⟨s, rfl, by simpa [hl] using hP⟩
  | cons a post ih =>
    intro pre s hl hP
    obtain ⟨s', hs', hP'⟩ := hstep pre a post s hl hP
    obtain ⟨b', hb', hPb⟩ := ih (pre ++ [a]) s' (by simp [hl]) hP'
    exact ⟨b', by rw [List.foldlM_cons, hs', ok_bind, hb'], hPb⟩

/-! ## Computations on a mutable state -/

/-- A pure computation as a mutating one that leaves the state alone. -/
def lift (x : Except ε α) : EStateM ε σ α := fun s =>
  match x with
  | .ok a => .ok a s
  | .error e => .error e s

/-- A sequence of pure computations is a sequence of mutating ones. -/
lemma lift_bind (x : Except ε α) (f : α → Except ε β) :
    (lift (x >>= f) : EStateM ε σ β) = lift x >>= fun a => lift (f a) := by
  cases x <;> rfl

/-- A lifted computation leaves the state. -/
@[simp] lemma run_lift_eq_ok {x : Except ε α} {s s' : σ} {a : α} :
    (lift x : EStateM ε σ α).run s = .ok a s' ↔ x = .ok a ∧ s = s' := by
  cases x <;> simp [lift, EStateM.run]

/-- A computation on a part of the state. -/
def zoom {τ : Type} (part : τ → σ) (replace : τ → σ → τ) (x : EStateM ε σ α) : EStateM ε τ α :=
  fun t =>
    match x.run (part t) with
    | .ok a s => .ok a (replace t s)
    | .error e s => .error e (replace t s)

/-- The state a computation leaves behind, whether it returned or raised. -/
def finalState : EStateM.Result ε σ α → σ
  | .ok _ s => s
  | .error _ s => s

/-- What follows a computation that returns runs in the state that it leaves. -/
@[simp] lemma run_ok_bind {x : EStateM ε σ α} {f : α → EStateM ε σ β} {s s' : σ} {a : α}
    (h : x.run s = .ok a s') : (x >>= f).run s = (f a).run s' := by
  rw [EStateM.run_bind, h]

/-- A computation on a part returns with that part replaced. -/
lemma run_zoom_of_ok {τ : Type} {part : τ → σ} {replace : τ → σ → τ} {x : EStateM ε σ α} {t : τ}
    {a : α} {s : σ} (h : x.run (part t) = .ok a s) :
    (zoom part replace x).run t = .ok a (replace t s) := by
  have hrun : (zoom part replace x).run t = match x.run (part t) with
      | .ok a s => .ok a (replace t s)
      | .error e s => .error e (replace t s) := rfl
  rw [hrun, h]

/-- A mutating sequence returns iff its first half returns and the second half returns from
the state the first half left. -/
lemma run_bind_eq_ok {x : EStateM ε σ α} {f : α → EStateM ε σ β} {s s' : σ} {b : β} :
    (x >>= f).run s = .ok b s' ↔ ∃ a t, x.run s = .ok a t ∧ (f a).run t = .ok b s' := by
  rw [EStateM.run_bind]
  cases x.run s with
  | error e t => simp
  | ok a t => simp

end Outcome
