import Mathlib.Data.List.Nodup

set_option relaxedAutoImplicit false
set_option autoImplicit false

/-!
# Repeated deliveries

A sender may repeat a message before it goes on to the next one, and a receiver remembers the keys
of what it has handled. The receiver then handles what was delivered at least once, once and in the
order of the sender.

## Main definitions

* `Delivery.once` — what a receiver handles that ignores a message whose key it has seen.
* `Delivery.copies` — the messages of a sender with their repetitions.

## Main results

* `Delivery.once_copies` — repetitions are ignored.
-/

namespace Delivery

variable {α κ : Type} {key : α → κ} {count : κ → ℕ}

/-! ## The sender -/

/-- The messages of a sender, each repeated as often as its key says. -/
def copies (key : α → κ) (count : κ → ℕ) (sent : List α) : List α :=
  sent.flatMap fun a => List.replicate (count (key a)) a

/-- Nothing sent, nothing delivered. -/
@[simp] lemma copies_nil : copies key count [] = [] := rfl

/-- The copies of the first message come first. -/
@[simp] lemma copies_cons (a : α) (sent : List α) :
    copies key count (a :: sent) = List.replicate (count (key a)) a ++ copies key count sent := rfl

/-- The copies of two batches. -/
@[simp] lemma copies_append (sent sent' : List α) :
    copies key count (sent ++ sent') = copies key count sent ++ copies key count sent' :=
  List.flatMap_append

/-- A message is delivered iff it was sent and has a copy. -/
lemma mem_copies {sent : List α} {a : α} :
    a ∈ copies key count sent ↔ a ∈ sent ∧ 0 < count (key a) := by
  simp only [copies, List.mem_flatMap, List.mem_replicate]
  constructor
  · rintro ⟨b, hb, hcount, rfl⟩
    exact ⟨hb, Nat.pos_of_ne_zero hcount⟩
  · rintro ⟨ha, hcount⟩
    exact ⟨a, ha, Nat.ne_of_gt hcount, rfl⟩

/-- Messages without copies are not delivered. -/
lemma copies_eq_nil {sent : List α} (h : ∀ a ∈ sent, count (key a) = 0) :
    copies key count sent = [] := by
  refine List.flatMap_eq_nil_iff.mpr fun a ha => ?_
  rw [h a ha, List.replicate_zero]

/-- Only the counts of the sent messages matter. -/
lemma copies_congr {count' : κ → ℕ} {sent : List α}
    (h : ∀ a ∈ sent, count (key a) = count' (key a)) :
    copies key count sent = copies key count' sent :=
  List.flatMap_congr fun a ha => by rw [h a ha]

/-- The copies for one recipient are the copies of its messages. -/
lemma filter_copies (p : α → Bool) (sent : List α) :
    (copies key count sent).filter p = copies key count (sent.filter p) := by
  induction sent with
  | nil => rfl
  | cons a rest ih =>
    rw [copies_cons, List.filter_append, ih]
    by_cases ha : p a
    · rw [List.filter_cons_of_pos ha, copies_cons, List.filter_eq_self.mpr]
      intro b hb
      rwa [List.eq_of_mem_replicate hb]
    · rw [List.filter_cons_of_neg ha, List.filter_eq_nil_iff.mpr, List.nil_append]
      intro b hb
      rwa [List.eq_of_mem_replicate hb]

/-- Adding copies takes none away. -/
lemma le_update [DecidableEq κ] (a k : κ) (n : ℕ) :
    count k ≤ Function.update count a (count a + n) k := by
  rcases eq_or_ne k a with rfl | hne
  · rw [Function.update_self]
    exact Nat.le_add_right _ _
  · exact Nat.le_of_eq (Function.update_of_ne hne _ _).symm

/-- **More copies** of a message after which nothing was delivered are the last deliveries. -/
lemma copies_update [DecidableEq κ] {before after : List α} {a : α}
    (hbefore : key a ∉ before.map key) (hafter : key a ∉ after.map key)
    (hzero : ∀ b ∈ after, count (key b) = 0) (n : ℕ) :
    copies key (Function.update count (key a) (count (key a) + n)) (before ++ a :: after) =
      copies key count (before ++ a :: after) ++ List.replicate n a := by
  have hother : ∀ l : List α, key a ∉ l.map key →
      copies key (Function.update count (key a) (count (key a) + n)) l = copies key count l := by
    intro l hl
    refine copies_congr fun b hb => Function.update_of_ne (fun heq => hl ?_) _ _
    exact heq ▸ List.mem_map_of_mem hb
  rw [copies_append, copies_append, copies_cons, copies_cons, hother _ hbefore, hother _ hafter,
    copies_eq_nil hzero, Function.update_self, List.replicate_add]
  simp only [List.append_nil, List.append_assoc]

/-! ## The receiver -/

section Receiver

variable [DecidableEq κ]

/-- What a receiver handles of a list of messages, when it has seen the given keys before. -/
def once (key : α → κ) : List κ → List α → List α
  | _, [] => []
  | seen, a :: rest =>
    if key a ∈ seen then once key seen rest else a :: once key (seen ++ [key a]) rest

/-- No messages, none handled. -/
@[simp] lemma once_nil (seen : List κ) : once key seen [] = [] := rfl

/-- A message that was seen is ignored. -/
lemma once_cons_of_mem {seen : List κ} {a : α} (h : key a ∈ seen) (rest : List α) :
    once key seen (a :: rest) = once key seen rest := if_pos h

/-- A new message is handled, and seen from then on. -/
lemma once_cons_of_notMem {seen : List κ} {a : α} (h : key a ∉ seen) (rest : List α) :
    once key seen (a :: rest) = a :: once key (seen ++ [key a]) rest := if_neg h

/-- Only which keys were seen matters. -/
lemma once_congr {seen seen' : List κ} (h : ∀ k, k ∈ seen ↔ k ∈ seen') (l : List α) :
    once key seen l = once key seen' l := by
  induction l generalizing seen seen' with
  | nil => rfl
  | cons a rest ih =>
    by_cases ha : key a ∈ seen
    · rw [once_cons_of_mem ha, once_cons_of_mem ((h _).mp ha), ih h]
    · rw [once_cons_of_notMem ha, once_cons_of_notMem fun ha' => ha ((h _).mpr ha'), ih]
      intro k
      rw [List.mem_append, List.mem_append, h]

/-- The receiver goes on with the keys that it has seen. -/
lemma once_append (seen : List κ) (l l' : List α) :
    once key seen (l ++ l') = once key seen l ++ once key (seen ++ l.map key) l' := by
  induction l generalizing seen with
  | nil => simp
  | cons a rest ih =>
    rw [List.cons_append]
    by_cases ha : key a ∈ seen
    · rw [once_cons_of_mem ha, once_cons_of_mem ha, ih]
      congr 1
      refine once_congr (fun k => ?_) l'
      simp only [List.mem_append, List.map_cons, List.mem_cons]
      constructor
      · rintro (hk | hk)
        · exact .inl hk
        · exact .inr (.inr hk)
      · rintro (hk | rfl | hk)
        · exact .inl hk
        · exact .inl ha
        · exact .inr hk
    · rw [once_cons_of_notMem ha, once_cons_of_notMem ha, ih, List.cons_append, List.map_cons,
        List.append_assoc, List.singleton_append]

/-- Messages that were all seen are ignored. -/
lemma once_eq_nil {seen : List κ} {l : List α} (h : ∀ a ∈ l, key a ∈ seen) :
    once key seen l = [] := by
  induction l with
  | nil => rfl
  | cons a rest ih =>
    rw [once_cons_of_mem (h a List.mem_cons_self), ih fun b hb => h b (List.mem_cons_of_mem _ hb)]

/-- Repetitions of a new message are ignored. -/
lemma once_replicate {seen : List κ} {a : α} (h : key a ∉ seen) (n : ℕ) :
    once key seen (List.replicate n a) = if 0 < n then [a] else [] := by
  cases n with
  | zero => rfl
  | succ n =>
    rw [if_pos n.succ_pos, List.replicate_succ, once_cons_of_notMem h, once_eq_nil]
    intro b hb
    rw [List.eq_of_mem_replicate hb]
    simp

/-- **Repetitions are ignored.** Of messages with distinct new keys, each with its copies, the
receiver handles those that were delivered, once and in the order in which they were sent. -/
theorem once_copies {sent : List α} {seen : List κ} (hnodup : (sent.map key).Nodup)
    (hnew : ∀ a ∈ sent, key a ∉ seen) :
    once key seen (copies key count sent) = sent.filter fun a => 0 < count (key a) := by
  induction sent generalizing seen with
  | nil => rfl
  | cons a rest ih =>
    have ha := hnew a List.mem_cons_self
    have hrest : key a ∉ rest.map key := (List.nodup_cons.mp hnodup).1
    rw [copies_cons, once_append, once_replicate ha, ih (List.nodup_cons.mp hnodup).2]
    · by_cases hcount : 0 < count (key a)
      · rw [if_pos hcount, List.filter_cons_of_pos (by simpa using hcount), List.singleton_append]
      · rw [if_neg hcount, List.filter_cons_of_neg (by simpa using hcount), List.nil_append]
    · intro b hb hmem
      rcases List.mem_append.mp hmem with hmem | hmem
      · exact hnew b (List.mem_cons_of_mem _ hb) hmem
      · obtain ⟨c, hc, heq⟩ := List.mem_map.mp hmem
        rw [List.eq_of_mem_replicate hc] at heq
        exact hrest (heq ▸ List.mem_map_of_mem hb)

end Receiver

end Delivery
