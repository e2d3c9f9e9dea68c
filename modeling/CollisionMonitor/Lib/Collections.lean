import CollisionMonitor.Lib.Outcome
import Mathlib.Data.List.AList
import Mathlib.Data.List.Sort
import Mathlib.Data.Prod.Lex
import Mathlib.Tactic

set_option relaxedAutoImplicit false
set_option autoImplicit false

/-!
# Dictionaries, sorted lists and unordered pairs

The collections of an imperative scripting language as they are used by embedded code:
dictionaries with unique keys, stable sorting, and the pairs `itertools` calls combinations.
Dictionaries are Mathlib's association lists; only what Mathlib lacks is developed here.

## Main definitions

* `Dict` — a dictionary; `Dict.ofKeys`, `Dict.ofPairs` and `Dict.collect` are dictionary
  comprehensions, the last with values that may raise; `Dict.update` overwrites with another
  dictionary, `Dict.SameKeys` compares a key set.
* `sorted`, `sortedBy` — stable sorting, by value or by a key.
* `combinations` — all pairs of a list's elements, in order of position.
-/

/-- A dictionary: finitely many keys, each with one value. -/
abbrev Dict (κ ν : Type) := AList fun _ : κ => ν

namespace Dict

open Outcome

variable {κ ν : Type} [DecidableEq κ]

/-- The dictionary comprehension `{k: f k for k in ks}`. -/
def ofKeys (ks : List κ) (f : κ → ν) : Dict κ ν := (ks.map fun k => ⟨k, f k⟩).toAList

/-- What stands at a key of a constant dictionary. -/
lemma lookup_ofKeys (ks : List κ) (f : κ → ν) (k : κ) :
    (ofKeys ks f).lookup k = if k ∈ ks then some (f k) else none := by
  unfold ofKeys
  rw [AList.lookup_to_alist]
  induction ks with
  | nil => simp
  | cons a ks ih =>
    by_cases hk : k = a
    · subst hk
      simp [List.dlookup_cons_eq]
    · rw [List.map_cons, List.dlookup_cons_ne _ _ hk, ih]
      simp [hk]

/-- Its keys. -/
@[simp] lemma mem_ofKeys {ks : List κ} {f : κ → ν} {k : κ} : k ∈ ofKeys ks f ↔ k ∈ ks := by
  rw [← AList.lookup_isSome, lookup_ofKeys]
  split_ifs with h <;> simp [h]

/-- What stands at one of its keys. -/
lemma lookup_ofKeys_of_mem {ks : List κ} {f : κ → ν} {k : κ} (h : k ∈ ks) :
    (ofKeys ks f).lookup k = some (f k) := by
  rw [lookup_ofKeys, if_pos h]

/-- The dictionary display `{k: v for k, v in ps}`: the last entry of a key wins. -/
def ofPairs (ps : List (κ × ν)) : Dict κ ν := ps.foldl (fun d p => AList.insert p.1 p.2 d) ∅

/-- The last pair wins. -/
lemma lookup_ofPairs_append_singleton (ps : List (κ × ν)) (p : κ × ν) (k : κ) :
    (ofPairs (ps ++ [p])).lookup k = if k = p.1 then some p.2 else (ofPairs ps).lookup k := by
  rw [ofPairs, List.foldl_append, List.foldl_cons, List.foldl_nil]
  split_ifs with h
  · subst h
    exact AList.lookup_insert _
  · exact AList.lookup_insert_ne h

/-- With distinct keys, the entries of the dictionary are the listed pairs. -/
lemma lookup_ofPairs {ps : List (κ × ν)} (hnd : (ps.map Prod.fst).Nodup) {k : κ} {v : ν} :
    (ofPairs ps).lookup k = some v ↔ (k, v) ∈ ps := by
  induction ps using List.reverseRecOn with
  | nil => simp [ofPairs]
  | append_singleton ps p ih =>
    rw [List.map_append, List.nodup_append] at hnd
    obtain ⟨hps, -, hdisj⟩ := hnd
    rw [lookup_ofPairs_append_singleton, List.mem_append, List.mem_singleton, Prod.ext_iff]
    split_ifs with h
    · subst h
      have hnot : (p.1, v) ∉ ps := fun hmem =>
        hdisj p.1 (List.mem_map.mpr ⟨_, hmem, rfl⟩) p.1 (by simp) rfl
      simp [hnot, eq_comm]
    · simp [ih hps, h]

/-- The keys of a dictionary of pairs. -/
@[simp] lemma mem_ofPairs {ps : List (κ × ν)} {k : κ} : k ∈ ofPairs ps ↔ k ∈ ps.map Prod.fst := by
  induction ps using List.reverseRecOn with
  | nil => simp [ofPairs]
  | append_singleton ps p ih =>
    rw [← AList.lookup_isSome] at ih ⊢
    rw [lookup_ofPairs_append_singleton, List.map_append, List.mem_append, ← ih]
    split_ifs with h <;> simp [h]

/-- `d.update(e)`: the entries of `e` overwrite those of `d`. -/
def update (d e : Dict κ ν) : Dict κ ν := e ∪ d

/-- An update wins at its own keys. -/
lemma lookup_update_of_mem {d e : Dict κ ν} {k : κ} (h : k ∈ e) :
    (d.update e).lookup k = e.lookup k := AList.lookup_union_left h

/-- It leaves the other keys. -/
lemma lookup_update_of_notMem {d e : Dict κ ν} {k : κ} (h : k ∉ e) :
    (d.update e).lookup k = d.lookup k := AList.lookup_union_right h

/-- What stands at a key after an update. -/
lemma lookup_update (d e : Dict κ ν) (k : κ) :
    (d.update e).lookup k = (e.lookup k).or (d.lookup k) := by
  by_cases h : k ∈ e
  · rw [lookup_update_of_mem h]
    obtain ⟨v, hv⟩ := Option.isSome_iff_exists.mp (AList.lookup_isSome.mpr h)
    simp [hv]
  · rw [lookup_update_of_notMem h, AList.lookup_eq_none.mpr h, Option.none_or]

/-- The keys after an update. -/
@[simp] lemma mem_update {d e : Dict κ ν} {k : κ} : k ∈ d.update e ↔ k ∈ e ∨ k ∈ d := by
  unfold update
  exact AList.mem_union

/-- What is found stands at a key. -/
lemma mem_of_lookup {d : Dict κ ν} {k : κ} {v : ν} (h : d.lookup k = some v) : k ∈ d :=
  AList.lookup_isSome.mp (by simp [h])

/-- At every key something is found. -/
lemma exists_lookup {d : Dict κ ν} {k : κ} (h : k ∈ d) : ∃ v, d.lookup k = some v :=
  Option.isSome_iff_exists.mp (AList.lookup_isSome.mpr h)

/-- What stands at a key after an insertion. -/
lemma lookup_insert_eq_ite (d : Dict κ ν) (k k' : κ) (v : ν) :
    AList.lookup k' (AList.insert k v d) = if k' = k then some v else AList.lookup k' d := by
  split_ifs with h
  · subst h
    exact AList.lookup_insert d
  · exact AList.lookup_insert_ne h

/-- What stands at a key after a deletion. -/
lemma lookup_erase_eq_ite (d : Dict κ ν) (k k' : κ) :
    AList.lookup k' (AList.erase k d) = if k' = k then none else AList.lookup k' d := by
  split_ifs with h
  · subst h
    exact AList.lookup_erase k' d
  · exact AList.lookup_erase_ne h

/-- `d[k]`: the entry at `k`, or the error `e` for a missing key. -/
def getItem {ε : Type} (e : ε) (d : Dict κ ν) (k : κ) : Except ε ν :=
  match d.lookup k with
  | some v => .ok v
  | none => .error e

/-- Indexing returns what stands at the key. -/
@[simp] lemma getItem_eq_ok {ε : Type} {e : ε} {d : Dict κ ν} {k : κ} {v : ν} :
    d.getItem e k = .ok v ↔ d.lookup k = some v := by
  unfold getItem
  cases d.lookup k <;> simp

/-- What is found in a dictionary of pairs is one of them. -/
lemma mem_of_lookup_ofPairs {ps : List (κ × ν)} {k : κ} {v : ν}
    (h : (ofPairs ps).lookup k = some v) : (k, v) ∈ ps := by
  induction ps using List.reverseRecOn with
  | nil => simp [ofPairs] at h
  | append_singleton ps p ih =>
    rw [lookup_ofPairs_append_singleton] at h
    rw [List.mem_append, List.mem_singleton, Prod.ext_iff]
    split_ifs at h with hk
    · exact .inr ⟨hk, (Option.some.inj h).symm⟩
    · exact .inl (ih h)

/-- Mapping each element of a list of blocks to its block, when no element is in two of them. -/
lemma lookup_ofPairs_blocks {blocks : List (List κ)}
    (hunique : ∀ K ∈ blocks, ∀ L ∈ blocks, ∀ k, k ∈ K → k ∈ L → K = L) {K : List κ}
    (hK : K ∈ blocks) {k : κ} (hk : k ∈ K) :
    (ofPairs (blocks.flatMap fun K => K.map fun k => (k, K))).lookup k = some K := by
  have hmem : k ∈ ofPairs (blocks.flatMap fun K => K.map fun k => (k, K)) := by
    rw [mem_ofPairs, List.mem_map]
    exact ⟨(k, K), List.mem_flatMap.mpr ⟨K, hK, List.mem_map.mpr ⟨k, hk, rfl⟩⟩, rfl⟩
  obtain ⟨L, hL⟩ := exists_lookup hmem
  obtain ⟨K', hK', hpair⟩ := List.mem_flatMap.mp (mem_of_lookup_ofPairs hL)
  obtain ⟨k', hk', heq⟩ := List.mem_map.mp hpair
  obtain ⟨rfl, rfl⟩ := Prod.mk.inj heq
  rw [hL, hunique K' hK' K hK k' hk' hk]

/-- Copying a dictionary with its values mapped. -/
lemma lookup_ofPairs_entries {ν' : Type} (d : Dict κ ν) (f : ν → ν') (k : κ) :
    (ofPairs (d.entries.map fun e => (e.1, f e.2))).lookup k = (d.lookup k).map f := by
  have hnd : ((d.entries.map fun e => (e.1, f e.2)).map Prod.fst).Nodup := by
    rw [List.map_map]
    exact d.nodupKeys
  refine Option.ext fun v => ?_
  rw [lookup_ofPairs hnd, List.mem_map, Option.map_eq_some_iff]
  constructor
  · rintro ⟨⟨k', u⟩, hmem, heq⟩
    obtain ⟨rfl, rfl⟩ := Prod.mk.inj heq
    exact ⟨u, AList.mem_lookup_iff.mpr hmem, rfl⟩
  · rintro ⟨u, hu, rfl⟩
    exact ⟨⟨k, u⟩, AList.mem_lookup_iff.mp hu, rfl⟩

section Collect

variable {ε α : Type} {key : α → κ} {value : α → Except ε ν} {l : List α}

/-- The dictionary comprehension `{key a: value a for a in l}` whose values may raise. -/
def collect (key : α → κ) (value : α → Except ε ν) (l : List α) : Except ε (Dict κ ν) := do
  let entries ← l.mapM fun a => do return (key a, ← value a)
  return ofPairs entries

/-- A comprehension returns if all its values do. -/
lemma collect_total (key : α → κ) (value : α → Except ε ν) (l : List α)
    (h : ∀ a ∈ l, ∃ v, value a = .ok v) : ∃ d, collect key value l = .ok d := by
  obtain ⟨entries, hentries⟩ := mapM_total (l := l) (f := fun a => do
    return (key a, ← value a)) (by
      intro a ha
      obtain ⟨v, hv⟩ := h a ha
      exact ⟨(key a, v), by rw [hv]; rfl⟩)
  exact ⟨ofPairs entries, by rw [collect, hentries]; rfl⟩

/-- The pairs behind a comprehension that returned. -/
lemma entries_of_collect {d : Dict κ ν} (h : collect key value l = .ok d) :
    ∃ entries, d = ofPairs entries ∧ entries.map Prod.fst = l.map key ∧
      List.Forall₂ (fun a e => e.1 = key a ∧ value a = .ok e.2) l entries := by
  obtain ⟨entries, hentries, heq⟩ := bind_eq_ok.mp h
  have hpair : ∀ a e, (do return (key a, ← value a) : Except ε (κ × ν)) = .ok e →
      e.1 = key a ∧ value a = .ok e.2 := by
    intro a e he
    obtain ⟨v, hv, heq⟩ := bind_eq_ok.mp he
    obtain rfl := Except.ok.inj heq
    exact ⟨rfl, hv⟩
  exact ⟨entries, (Except.ok.inj heq).symm, map_of_mapM hentries fun a e he => (hpair a e he).1,
    (mapM_eq_ok.mp hentries).imp fun a e he => hpair a e he⟩

/-- The keys that were collected. -/
lemma mem_collect {d : Dict κ ν} (h : collect key value l = .ok d) (k : κ) :
    k ∈ d ↔ ∃ a ∈ l, key a = k := by
  obtain ⟨entries, rfl, hkeys, -⟩ := entries_of_collect h
  rw [mem_ofPairs, hkeys, List.mem_map]

/-- Every entry of a comprehension is the value at an element with that key. -/
lemma exists_of_lookup_collect {d : Dict κ ν} (h : collect key value l = .ok d) {k : κ} {v : ν}
    (hk : d.lookup k = some v) : ∃ a ∈ l, key a = k ∧ value a = .ok v := by
  obtain ⟨entries, rfl, -, hall⟩ := entries_of_collect h
  have hmem := mem_of_lookup_ofPairs hk
  clear hk h
  induction hall with
  | nil => simp at hmem
  | @cons a e l es hae _ ih =>
    rcases List.mem_cons.mp hmem with rfl | hmem
    · exact ⟨a, List.mem_cons_self, hae.1.symm, hae.2⟩
    · obtain ⟨b, hb, hkb⟩ := ih hmem
      exact ⟨b, List.mem_cons_of_mem _ hb, hkb⟩

/-- With distinct keys, every element has its own entry. -/
lemma lookup_collect {d : Dict κ ν} (h : collect key value l = .ok d)
    (hnd : (l.map key).Nodup) {a : α} (ha : a ∈ l) :
    ∃ v, value a = .ok v ∧ d.lookup (key a) = some v := by
  obtain ⟨v, hv⟩ := exists_lookup ((mem_collect h (key a)).mpr ⟨a, ha, rfl⟩)
  obtain ⟨b, hb, hkey, hval⟩ := exists_of_lookup_collect h hv
  rw [List.inj_on_of_nodup_map hnd hb ha hkey] at hval
  exact ⟨v, hval, hv⟩

/-- A comprehension over the keys themselves holds the value at each of them. -/
lemma lookup_collect_id {ks : List κ} {f : κ → Except ε ν} {d : Dict κ ν}
    (h : collect id f ks = .ok d) {k : κ} (hk : k ∈ ks) :
    ∃ v, f k = .ok v ∧ d.lookup k = some v := by
  obtain ⟨v, hv⟩ := exists_lookup ((mem_collect h k).mpr ⟨k, hk, rfl⟩)
  obtain ⟨k', -, hid, hval⟩ := exists_of_lookup_collect h hv
  obtain rfl : k' = k := hid
  exact ⟨v, hval, hv⟩

end Collect

/-- `set(d) == set(ks)`: the keys of `d` are exactly the elements of `ks`. -/
def SameKeys (d : Dict κ ν) (ks : List κ) : Prop :=
  (∀ k ∈ d.keys, k ∈ ks) ∧ ∀ k ∈ ks, k ∈ d.keys

/-- Whether the keys are the same can be decided. -/
instance (d : Dict κ ν) (ks : List κ) : Decidable (d.SameKeys ks) :=
  inferInstanceAs (Decidable (_ ∧ _))

omit [DecidableEq κ] in
/-- A dictionary has the keys of a list iff it has the same members. -/
lemma sameKeys_iff {d : Dict κ ν} {ks : List κ} : d.SameKeys ks ↔ ∀ k, k ∈ d ↔ k ∈ ks := by
  simp only [SameKeys, AList.mem_keys]
  exact ⟨fun h k => ⟨h.1 k, h.2 k⟩, fun h => ⟨fun k => (h k).mp, fun k => (h k).mpr⟩⟩

omit [DecidableEq κ] in
/-- A dictionary whose keys are the elements of a duplicate-free list has as many entries as
the list has elements. -/
lemma length_keys_eq {d : Dict κ ν} {ks : List κ} (hks : ks.Nodup) (h : ∀ k, k ∈ d ↔ k ∈ ks) :
    d.keys.length = ks.length := by
  refine List.Perm.length_eq ((List.perm_ext_iff_of_nodup d.keys_nodup hks).mpr fun k => ?_)
  rw [← AList.mem_keys]
  exact h k

end Dict

section Sorting

variable {α κ : Type}

/-- `sorted(l, key=key)`: stable sorting by a key. -/
def sortedBy [LinearOrder κ] (key : α → κ) (l : List α) : List α :=
  l.insertionSort fun a b => key a ≤ key b

/-- `sorted(l)`. -/
def sorted [LinearOrder α] (l : List α) : List α := sortedBy id l

variable [LinearOrder κ] (key : α → κ) (l : List α)

/-- Sorting permutes. -/
lemma sortedBy_perm : (sortedBy key l).Perm l := List.perm_insertionSort _ l

/-- It keeps the members. -/
@[simp] lemma mem_sortedBy {a : α} : a ∈ sortedBy key l ↔ a ∈ l := (sortedBy_perm key l).mem_iff

/-- It puts the keys in order. -/
lemma pairwise_sortedBy : (sortedBy key l).Pairwise fun a b => key a ≤ key b :=
  haveI : Std.Total fun a b : α => key a ≤ key b := ⟨fun a b => le_total (key a) (key b)⟩
  haveI : IsTrans α fun a b => key a ≤ key b := ⟨fun _ _ _ => le_trans⟩
  List.pairwise_insertionSort _ l

/-- It leaves a list that is in order. -/
lemma sortedBy_eq_self {l : List α} (h : l.Pairwise fun a b => key a ≤ key b) :
    sortedBy key l = l :=
  List.Pairwise.insertionSort_eq h

/-- A map that keeps the keys may be applied before or after sorting. -/
lemma sortedBy_map {f : α → α} (hf : ∀ a, key (f a) = key a) :
    sortedBy key (l.map f) = (sortedBy key l).map f :=
  (List.map_insertionSort _ _ f l fun a _ b _ => by rw [hf, hf]).symm

/-- Neighbouring elements of a pairwise related list are related. -/
lemma rel_of_mem_zip_tail {R : α → α → Prop} {l : List α} (h : l.Pairwise R) :
    ∀ p ∈ l.zip l.tail, R p.1 p.2 := by
  induction l with
  | nil => simp
  | cons a l ih =>
    rw [List.pairwise_cons] at h
    cases l with
    | nil => simp
    | cons b l =>
      simp only [List.tail_cons, List.zip_cons_cons, List.forall_mem_cons] at ih ⊢
      exact ⟨h.1 b List.mem_cons_self, ih h.2⟩

/-- A sorted list whose neighbouring keys differ is strictly increasing. -/
lemma pairwise_lt_of_zip_tail {key : α → κ} {l : List α}
    (hle : l.Pairwise fun a b => key a ≤ key b)
    (hne : ∀ p ∈ l.zip l.tail, key p.1 ≠ key p.2) : l.Pairwise fun a b => key a < key b := by
  induction l with
  | nil => exact List.Pairwise.nil
  | cons a l ih =>
    rw [List.pairwise_cons] at hle
    cases l with
    | nil => exact List.pairwise_singleton _ a
    | cons b l =>
      simp only [List.tail_cons, List.zip_cons_cons, List.forall_mem_cons] at hne ih
      have htail := ih hle.2 hne.2
      have hab : key a < key b := lt_of_le_of_ne (hle.1 b List.mem_cons_self) hne.1
      refine List.pairwise_cons.mpr ⟨fun c hc => ?_, htail⟩
      rcases List.mem_cons.mp hc with rfl | hc
      · exact hab
      · exact hab.trans ((List.pairwise_cons.mp htail).1 c hc)

/-- Sorting by pairwise distinct keys gives a strictly increasing list. -/
lemma pairwise_sortedBy_lt {key : α → κ} {l : List α} (h : (l.map key).Nodup) :
    (sortedBy key l).Pairwise fun a b => key a < key b := by
  have hnd : ((sortedBy key l).map key).Nodup := ((sortedBy_perm key l).map key).nodup_iff.mpr h
  rw [List.Nodup, List.pairwise_map] at hnd
  exact ((pairwise_sortedBy key l).and hnd).imp fun hab => lt_of_le_of_ne hab.1 hab.2

/-- Two lists with the same members are equal if both are in the order of an asymmetric
relation. -/
lemma eq_of_pairwise_of_mem_iff {R : α → α → Prop} (hR : ∀ a b, R a b → ¬ R b a) {l l' : List α}
    (h : l.Pairwise R) (h' : l'.Pairwise R) (hmem : ∀ a, a ∈ l ↔ a ∈ l') : l = l' := by
  have hne : ∀ {a b : α}, R a b → a ≠ b := fun hab heq => hR _ _ hab (heq ▸ hab)
  have hperm : l.Perm l' := (List.perm_ext_iff_of_nodup (h.imp hne) (h'.imp hne)).mpr hmem
  exact hperm.eq_of_pairwise (fun a b _ _ hab hba => absurd hba (hR a b hab)) h h'

variable [LinearOrder α]

/-- Sorting by value permutes. -/
lemma sorted_perm (l : List α) : (sorted l).Perm l := sortedBy_perm id l

/-- It keeps the members. -/
@[simp] lemma mem_sorted {l : List α} {a : α} : a ∈ sorted l ↔ a ∈ l := mem_sortedBy id l

/-- It keeps whether a member is repeated. -/
lemma sorted_nodup {l : List α} : (sorted l).Nodup ↔ l.Nodup := (sorted_perm l).nodup_iff

/-- Only the empty list is sorted to the empty list. -/
lemma sorted_eq_nil {l : List α} : sorted l = [] ↔ l = [] :=
  ⟨fun h => List.nil_perm.mp (h ▸ sorted_perm l), fun h => by subst h; rfl⟩

/-- Sorting a duplicate-free list gives a strictly increasing one. -/
lemma pairwise_sorted_lt {l : List α} (h : l.Nodup) : (sorted l).Pairwise (· < ·) := by
  have hle : (sorted l).Pairwise (· ≤ ·) := pairwise_sortedBy id l
  exact (hle.and (sorted_nodup.mpr h)).imp fun hab => lt_of_le_of_ne hab.1 hab.2

/-- A list in strict order is left. -/
lemma sorted_eq_self {l : List α} (h : l.Pairwise (· < ·)) : sorted l = l :=
  sortedBy_eq_self id (h.imp le_of_lt)

/-- Sorting is idempotent. -/
lemma sorted_sorted (l : List α) : sorted (sorted l) = sorted l :=
  sortedBy_eq_self id (pairwise_sortedBy id l)

end Sorting

section Combinations

variable {α : Type}

/-- `itertools.combinations(l, 2)`. -/
def combinations : List α → List (α × α)
  | [] => []
  | a :: l => l.map (fun b => (a, b)) ++ combinations l

/-- The pairs of a list related by `R` from left to right. -/
lemma forall_mem_combinations {R : α → α → Prop} {l : List α} :
    (∀ p ∈ combinations l, R p.1 p.2) ↔ l.Pairwise R := by
  induction l with
  | nil => simp [combinations]
  | cons a l ih =>
    simp only [combinations, List.mem_append, List.mem_map, List.pairwise_cons, ← ih]
    constructor
    · intro h
      exact ⟨fun b hb => h (a, b) (.inl ⟨b, hb, rfl⟩), fun p hp => h p (.inr hp)⟩
    · rintro ⟨h1, h2⟩ p (⟨b, hb, rfl⟩ | hp)
      · exact h1 b hb
      · exact h2 p hp

/-- The two of a combination are members. -/
lemma mem_of_mem_combinations {l : List α} {p : α × α} (h : p ∈ combinations l) :
    p.1 ∈ l ∧ p.2 ∈ l := by
  induction l with
  | nil => simp [combinations] at h
  | cons a l ih =>
    rcases List.mem_append.mp h with h | h
    · obtain ⟨b, hb, rfl⟩ := List.mem_map.mp h
      exact ⟨List.mem_cons_self, List.mem_cons_of_mem _ hb⟩
    · exact ⟨List.mem_cons_of_mem _ (ih h).1, List.mem_cons_of_mem _ (ih h).2⟩

/-- In a list strictly increasing along `key`, the combinations are exactly the pairs of
elements with increasing keys. -/
lemma mem_combinations {κ : Type} [LinearOrder κ] {key : α → κ} {l : List α}
    (hl : l.Pairwise fun a b => key a < key b) {a b : α} :
    (a, b) ∈ combinations l ↔ a ∈ l ∧ b ∈ l ∧ key a < key b := by
  refine ⟨fun h => ?_, ?_⟩
  · obtain ⟨h1, h2⟩ := mem_of_mem_combinations h
    exact ⟨h1, h2, forall_mem_combinations.mpr hl _ h⟩
  · rintro ⟨ha, hb, hab⟩
    induction l with
    | nil => simp at ha
    | cons c l ih =>
      rw [List.pairwise_cons] at hl
      rw [combinations, List.mem_append, List.mem_map]
      rcases List.mem_cons.mp ha with rfl | ha'
      · rcases List.mem_cons.mp hb with rfl | hb'
        · exact absurd hab (lt_irrefl _)
        · exact .inl ⟨b, hb', rfl⟩
      · rcases List.mem_cons.mp hb with rfl | hb'
        · exact absurd hab (lt_asymm (hl.1 a ha'))
        · exact .inr (ih hl.2 ha' hb')

end Combinations
