import CollisionMonitor.Grants
import CollisionMonitor.Lib.Triple

set_option relaxedAutoImplicit false
set_option autoImplicit false

/-!
# Grant managers as mutable objects

The engine works on a clone of its grant manager and keeps it only when the tick commits. Whether
that is atomic depends on which containers the clone shares, so the managers live in a store:
an object holds its numbers and flags, and references to its dictionaries and its event list.

## Main definitions

* `Store` — the manager objects and the containers they refer to.
* `Store.load`, `Store.save` — the state an object stands for, and writing it back.
* `onObject` — running a method on an object, through its references.
* `cloneObject` — `GrantManager.clone`: a new object with new containers.

## Main results

* `onObject_bind` — running a method as a whole is running its steps one by one on the store.
* `cloneObject_spec` — a clone has the same content and shares no container with any object.
* `Store.Separate` — what happens to one object leaves a separate one alone.
-/

namespace CollisionMonitor

open Outcome

/-- A `GrantManager` object: plain attributes, and references to the containers it mutates. A
reference is the number of a location. -/
structure ManagerObject where
  tickId : ℤ
  tickOpen : Bool
  waitingAges : ℕ
  activeGrants : ℕ
  previousActions : ℕ
  currentHardAssignments : ℕ
  pendingReleases : ℕ

/-- The containers an object refers to. -/
def ManagerObject.containers (object : ManagerObject) : List ℕ :=
  [object.waitingAges, object.activeGrants, object.previousActions,
    object.currentHardAssignments, object.pendingReleases]

/-- The manager objects and their containers; locations from `next` on are free. -/
structure Store where
  next : ℕ
  managers : ℕ → ManagerObject
  ages : ℕ → Dict RobotId ℤ
  grants : ℕ → Dict RobotId GrantRecord
  actions : ℕ → Dict RobotId Action
  releases : ℕ → List GrantRelease

namespace Store

/-- The state that the object at a reference stands for. -/
def load (store : Store) (ref : ℕ) : GrantManager :=
  let object := store.managers ref
  { tickId := object.tickId
    waitingAges := store.ages object.waitingAges
    activeGrants := store.grants object.activeGrants
    previousActions := store.actions object.previousActions
    tickOpen := object.tickOpen
    currentHardAssignments := store.actions object.currentHardAssignments
    pendingReleases := store.releases object.pendingReleases }

/-- Write a state into the object at a reference, through its own references. -/
def save (store : Store) (ref : ℕ) (manager : GrantManager) : Store :=
  let object := store.managers ref
  { store with
    managers := Function.update store.managers ref
      { object with tickId := manager.tickId, tickOpen := manager.tickOpen }
    ages := Function.update store.ages object.waitingAges manager.waitingAges
    grants := Function.update store.grants object.activeGrants manager.activeGrants
    actions := Function.update
      (Function.update store.actions object.previousActions manager.previousActions)
      object.currentHardAssignments manager.currentHardAssignments
    releases := Function.update store.releases object.pendingReleases manager.pendingReleases }

/-- Allocate a new object with new containers. -/
def allocate (store : Store) (manager : GrantManager) : Store :=
  let ref := store.next
  { next := ref + 6
    managers := Function.update store.managers ref {
      tickId := manager.tickId
      tickOpen := manager.tickOpen
      waitingAges := ref + 1
      activeGrants := ref + 2
      previousActions := ref + 3
      currentHardAssignments := ref + 4
      pendingReleases := ref + 5 }
    ages := Function.update store.ages (ref + 1) manager.waitingAges
    grants := Function.update store.grants (ref + 2) manager.activeGrants
    actions := Function.update (Function.update store.actions (ref + 3) manager.previousActions)
      (ref + 4) manager.currentHardAssignments
    releases := Function.update store.releases (ref + 5) manager.pendingReleases }

/-- The object at a reference is allocated with its containers, which are different ones. -/
structure Owns (store : Store) (ref : ℕ) : Prop where
  allocated : ref < store.next
  containers_lt : ∀ c ∈ (store.managers ref).containers, c < store.next
  nodup : (store.managers ref).containers.Nodup

/-- Two objects that share no container. -/
structure Separate (store : Store) (ref ref' : ℕ) : Prop where
  ne : ref ≠ ref'
  disjoint : List.Disjoint (store.managers ref).containers (store.managers ref').containers

variable {store : Store} {ref ref' : ℕ}

/-- Saving keeps all references. -/
@[simp] lemma containers_save (store : Store) (ref ref' : ℕ) (manager : GrantManager) :
    ((store.save ref manager).managers ref').containers = (store.managers ref').containers := by
  unfold save
  by_cases h : ref' = ref
  · subst h
    simp [ManagerObject.containers]
  · simp [h]

/-- Saving a manager keeps who owns which containers. -/
lemma Owns.save (h : store.Owns ref') (ref : ℕ) (manager : GrantManager) :
    (store.save ref manager).Owns ref' where
  allocated := h.allocated
  containers_lt := by rw [containers_save]; exact h.containers_lt
  nodup := by rw [containers_save]; exact h.nodup

/-- It keeps managers separate. -/
lemma Separate.save {ref'' : ℕ} (h : store.Separate ref' ref'') (ref : ℕ)
    (manager : GrantManager) : (store.save ref manager).Separate ref' ref'' where
  ne := h.ne
  disjoint := by rw [containers_save, containers_save]; exact h.disjoint

/-- Separation is symmetric. -/
lemma Separate.symm (h : store.Separate ref ref') : store.Separate ref' ref where
  ne := h.ne.symm
  disjoint := h.disjoint.symm

/-- The two action dictionaries of an object are different ones. -/
lemma Owns.actions_ne (h : store.Owns ref) :
    (store.managers ref).previousActions ≠ (store.managers ref).currentHardAssignments := by
  have hnd := h.nodup
  simp only [ManagerObject.containers, List.nodup_cons, List.mem_cons, not_or] at hnd
  exact hnd.2.2.1.1

/-- What was saved is loaded again. -/
lemma load_save (h : store.Owns ref) (manager : GrantManager) :
    (store.save ref manager).load ref = manager := by
  simp [load, save, Function.update_of_ne h.actions_ne]

/-- **Frame.** Saving one object leaves a separate one alone. -/
lemma load_save_of_separate (h : store.Separate ref ref') (manager : GrantManager) :
    (store.save ref manager).load ref' = store.load ref' := by
  have hdisj := h.disjoint
  simp only [ManagerObject.containers, List.disjoint_cons_left, List.mem_cons, List.not_mem_nil,
    or_false, not_or] at hdisj
  obtain ⟨⟨h1, -⟩, ⟨-, h2, -⟩, ⟨-, -, h3, h4, -⟩, ⟨-, -, h5, h6, -⟩, ⟨-, -, -, -, h7⟩, -⟩ := hdisj
  simp [load, save, h.ne.symm, Ne.symm h1, Ne.symm h2, Ne.symm h3, Ne.symm h4, Ne.symm h5,
    Ne.symm h6, Ne.symm h7, Function.update_of_ne]

/-- Saving twice is saving the second time. -/
lemma save_save (h : store.Owns ref) (manager manager' : GrantManager) :
    (store.save ref manager).save ref manager' = store.save ref manager' := by
  simp [save, Function.update_idem, Function.update_comm h.actions_ne]

/-! ### Allocation -/

/-- A new object has the values it was allocated with. -/
lemma load_allocate (store : Store) (manager : GrantManager) :
    (store.allocate manager).load store.next = manager := by
  simp [load, allocate]

/-- The containers of the new object are new. -/
lemma containers_allocate (store : Store) (manager : GrantManager) :
    ((store.allocate manager).managers store.next).containers =
      [store.next + 1, store.next + 2, store.next + 3, store.next + 4, store.next + 5] := by
  simp [allocate, ManagerObject.containers]

/-- It owns its containers. -/
lemma owns_allocate (store : Store) (manager : GrantManager) :
    (store.allocate manager).Owns store.next where
  allocated := by simp [allocate]
  containers_lt := by
    rw [containers_allocate]
    simp [allocate]
  nodup := by
    rw [containers_allocate]
    simp

/-- An object that was there before keeps its references. -/
lemma Owns.managers_allocate (h : store.Owns ref) (manager : GrantManager) :
    (store.allocate manager).managers ref = store.managers ref :=
  Function.update_of_ne h.allocated.ne _ _

/-- Other objects keep theirs. -/
lemma Owns.allocate (h : store.Owns ref) (manager : GrantManager) :
    (store.allocate manager).Owns ref where
  allocated := h.allocated.trans (by simp [Store.allocate])
  containers_lt := by
    rw [h.managers_allocate]
    exact fun c hc => (h.containers_lt c hc).trans (by simp [Store.allocate])
  nodup := by
    rw [h.managers_allocate]
    exact h.nodup

/-- Allocating an object leaves the others alone. -/
lemma Owns.load_allocate (h : store.Owns ref) (manager : GrantManager) :
    (store.allocate manager).load ref = store.load ref := by
  have hlt := h.containers_lt
  simp only [ManagerObject.containers, List.forall_mem_cons, List.not_mem_nil, false_imp_iff,
    implies_true, and_true] at hlt
  obtain ⟨h1, h2, h3, h4, h5⟩ := hlt
  unfold load
  rw [h.managers_allocate]
  simp only [Store.allocate]
  rw [Function.update_of_ne (by omega), Function.update_of_ne (by omega),
    Function.update_of_ne (by omega), Function.update_of_ne (by omega),
    Function.update_of_ne (by omega), Function.update_of_ne (by omega),
    Function.update_of_ne (by omega)]

/-- **A new object shares nothing** with those that were there before. -/
lemma Owns.separate_allocate (h : store.Owns ref) (manager : GrantManager) :
    (store.allocate manager).Separate ref store.next where
  ne := h.allocated.ne
  disjoint := by
    rw [h.managers_allocate, containers_allocate]
    intro c hc hnew
    have hlt := h.containers_lt c hc
    simp only [List.mem_cons, List.not_mem_nil, or_false] at hnew
    omega

end Store

/-! ## Methods on objects -/

/-- Run a method on the object at a reference; what it wrote stays written when it raises. -/
def onObject {α : Type} (ref : ℕ) (method : Grants α) : EStateM PyException Store α :=
  fun store => match method.run (store.load ref) with
    | .ok a manager => .ok a (store.save ref manager)
    | .error e manager => .error e (store.save ref manager)

/-- `GrantManager.clone`: a new closed object whose dictionaries are copies. -/
def cloneObject (ref : ℕ) : EStateM PyException Store ℕ := do
  let store ← get
  let cloned ← lift (store.load ref).clone
  set (store.allocate cloned)
  return store.next

/-- **Running a method as a whole is running its steps one by one** on the store. -/
theorem onObject_bind {α β : Type} {ref : ℕ} {store : Store} (h : store.Owns ref)
    (x : Grants α) (f : α → Grants β) :
    (onObject ref (x >>= f)).run store =
      (onObject ref x >>= fun a => onObject ref (f a)).run store := by
  have hrun : ∀ {γ : Type} (method : Grants γ) (s : Store), (onObject ref method).run s =
      match method.run (s.load ref) with
      | .ok a manager => .ok a (s.save ref manager)
      | .error e manager => .error e (s.save ref manager) := fun _ _ => rfl
  rw [EStateM.run_bind, hrun, hrun, EStateM.run_bind]
  cases x.run (store.load ref) with
  | error e manager => rfl
  | ok a manager =>
    dsimp only
    rw [hrun, Store.load_save h]
    cases (f a).run manager with
    | ok b manager' => simp only [Store.save_save h manager manager']
    | error e manager' => simp only [Store.save_save h manager manager']

/-- What a method guarantees of the state, it guarantees of the object. -/
lemma ensures_onObject {α : Type} {ref : ℕ} {store : Store} {method : Grants α}
    {Q : α → GrantManager → Prop} {E : GrantManager → Prop}
    (h : Ensures method (store.load ref) Q E) :
    Ensures (onObject ref method) store
      (fun a store' => ∃ manager, store' = store.save ref manager ∧ Q a manager)
      (fun store' => ∃ manager, store' = store.save ref manager ∧ E manager) := by
  have hrun : (onObject ref method).run store = match method.run (store.load ref) with
      | .ok a manager => .ok a (store.save ref manager)
      | .error e manager => .error e (store.save ref manager) := rfl
  unfold Ensures at *
  rw [hrun]
  cases hx : method.run (store.load ref) with
  | ok a manager =>
    rw [hx] at h
    exact ⟨manager, rfl, h⟩
  | error e manager =>
    rw [hx] at h
    exact ⟨manager, rfl, h⟩

/-- **A clone** has the content of a closed object and shares nothing with it. -/
theorem cloneObject_spec {ref : ℕ} {store : Store} (h : store.Owns ref) :
    Ensures (cloneObject ref) store (fun ref' store' => store'.Owns ref ∧ store'.Owns ref' ∧
      store'.Separate ref ref' ∧ store'.load ref = store.load ref ∧
      (store.load ref).clone = .ok (store'.load ref'))
      (fun store' => store' = store ∧ (store.load ref).tickOpen = true) := by
  unfold cloneObject
  refine Ensures.bind_get ?_
  cases hclone : (store.load ref).clone with
  | error e =>
    refine Ensures.bind_lift (P := fun _ => False) (Returns.error ⟨rfl, ?_⟩) (fun _ h => h.elim)
    rcases bind_eq_error.mp hclone with hguard | ⟨_, -, hok⟩
    · exact (raiseIf_eq_error.mp hguard).1
    · cases hok
  | ok cloned =>
    refine Ensures.bind_lift (P := fun g => g = cloned) (Returns.ok rfl) fun g hg => ?_
    rw [hg]
    refine Ensures.bind_set (Ensures.pure ⟨h.allocate _, store.owns_allocate _,
      h.separate_allocate _, h.load_allocate _, ?_⟩)
    rw [Store.load_allocate]

end CollisionMonitor
