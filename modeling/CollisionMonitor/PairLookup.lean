import CollisionMonitor.BroadPhase

set_option relaxedAutoImplicit false
set_option autoImplicit false

/-!
# Asking for one pair

A conflict model is asked for the compatibility of two robots in either order. For every generator
of candidate pairs it answers exactly the pairs that were generated, and its answer is the one that
evaluating the two snapshots alone gives.

## Main definitions

* `ConflictModel.compatibilityFor` — the constraint of a pair of robots.
* `evaluatePairwiseCompatibility` — the evaluation of two snapshots without a model.

## Main results

* `evaluatePairwiseCompatibility_eq_ok` — what the evaluation of two snapshots returns.
* `compatibilityFor_candidates` — which pairs a model answers, and how.
* `compatibilityFor_buildConflictModel` — the shipped model answers all pairs of its robots.
-/

namespace CollisionMonitor

open Outcome

/-! ## The two entry points -/

/-- Two robot IDs in sorted order. -/
def sortedPair (robotA robotB : RobotId) : RobotId × RobotId :=
  if robotA ≤ robotB then (robotA, robotB) else (robotB, robotA)

/-- `repr` of a pair of robot IDs. -/
def pyReprPair (pair : RobotId × RobotId) : String :=
  "(" ++ pyRepr pair.1 ++ ", " ++ pyRepr pair.2 ++ ")"

/-- Compatibility of a pair, regardless of the order of the arguments. -/
def ConflictModel.compatibilityFor (conflictModel : ConflictModel) (robotA robotB : RobotId) :
    Except PyException PairwiseCompatibility := do
  let pair := sortedPair robotA robotB
  raiseIf (pair.1 = pair.2) (.keyError ("invalid robot pair " ++ pyReprPair pair))
  match conflictModel.pairwiseConstraints.find? fun constraint =>
      decide (constraint.robotPair = pair) with
  | some constraint => return constraint
  | none => .error (.keyError ("robot pair " ++ pyReprPair pair ++ " was not evaluated"))

/-- Evaluate all four action combinations for one unordered robot pair. -/
def evaluatePairwiseCompatibility {G : Type} (geometry : Geometry G)
    (snapshotA snapshotB : RobotSnapshot) : Except PyException PairwiseCompatibility := do
  raiseIf (snapshotA.deviceId = snapshotB.deviceId)
    (.valueError ("duplicate robot ID " ++ pyRepr snapshotA.deviceId ++ " in pair"))
  let snapshots :=
    if snapshotB.deviceId < snapshotA.deviceId then (snapshotB, snapshotA)
    else (snapshotA, snapshotB)
  let envelopes ← buildEnvelopeCache geometry [snapshots.1, snapshots.2]
  evaluateCachedPair geometry snapshots.1 snapshots.2 envelopes

/-! ## Pairs of robots -/

/-- The candidate is a pair of two robots, in either orientation. -/
def Joins (candidate : RobotSnapshot × RobotSnapshot) (a b : RobotId) : Prop :=
  (candidate.1.deviceId = a ∧ candidate.2.deviceId = b) ∨
    candidate.1.deviceId = b ∧ candidate.2.deviceId = a

/-- A sorted pair does not depend on the order of its robots. -/
lemma sortedPair_comm (a b : RobotId) : sortedPair a b = sortedPair b a := by
  unfold sortedPair
  rcases lt_trichotomy a b with h | rfl | h
  · rw [if_pos h.le, if_neg h.not_ge]
  · rfl
  · rw [if_neg h.not_ge, if_pos h.le]

/-- A pair in order is sorted. -/
lemma sortedPair_of_lt {a b : RobotId} (h : a < b) : sortedPair a b = (a, b) := if_pos h.le

/-- Sorting keeps the two robots apart. -/
lemma sortedPair_fst_eq_snd {a b : RobotId} :
    (sortedPair a b).1 = (sortedPair a b).2 ↔ a = b := by
  unfold sortedPair
  split_ifs
  · rfl
  · exact eq_comm

/-- Two pairs sort alike iff they have the same robots. -/
lemma sortedPair_eq_iff {a b c d : RobotId} :
    sortedPair a b = sortedPair c d ↔ (a = c ∧ b = d) ∨ a = d ∧ b = c := by
  constructor
  · intro h
    unfold sortedPair at h
    split_ifs at h <;> obtain ⟨h₁, h₂⟩ := Prod.mk.inj h
    · exact .inl ⟨h₁, h₂⟩
    · exact .inr ⟨h₁, h₂⟩
    · exact .inr ⟨h₂, h₁⟩
    · exact .inl ⟨h₂, h₁⟩
  · rintro (⟨rfl, rfl⟩ | ⟨rfl, rfl⟩)
    · rfl
    · exact sortedPair_comm a b

/-! ## Two snapshots alone -/

section Evaluate

variable {G : Type} {geometry : Geometry G}

/-- The order of the snapshots does not matter. -/
lemma evaluatePairwiseCompatibility_comm (s t : RobotSnapshot) :
    evaluatePairwiseCompatibility geometry s t = evaluatePairwiseCompatibility geometry t s := by
  unfold evaluatePairwiseCompatibility
  rcases lt_trichotomy s.deviceId t.deviceId with h | h | h
  · rw [raiseIf_of_not _ h.ne, raiseIf_of_not _ h.ne', if_neg h.not_gt, if_pos h]
  · rw [raiseIf, raiseIf, if_pos h, if_pos h.symm, h]
    rfl
  · rw [raiseIf_of_not _ h.ne', raiseIf_of_not _ h.ne, if_pos h, if_neg h.not_gt]

/-- **Evaluating two snapshots** in the order of their IDs returns their record, if both robots have
envelopes. -/
theorem evaluatePairwiseCompatibility_eq_ok {s t : RobotSnapshot} (hst : s.deviceId < t.deviceId)
    {pair : PairwiseCompatibility} :
    evaluatePairwiseCompatibility geometry s t = .ok pair ↔ Compared geometry s t pair := by
  have hlt : [s, t].Pairwise fun s t => s.deviceId < t.deviceId := by simp [hst]
  unfold evaluatePairwiseCompatibility
  rw [raiseIf_of_not _ hst.ne, ok_bind, if_neg hst.not_gt]
  dsimp only
  constructor
  · intro h
    obtain ⟨cache, hcache, h⟩ := bind_eq_ok.mp h
    rw [evaluateCachedPair, dif_pos hst] at h
    exact compared_of_compareEnvelopes (caches_of_buildEnvelopeCache hlt hcache)
      (by simp) (by simp) hst h
  · intro h
    obtain ⟨_, envI, envJ, hI, hJ, -⟩ := id h
    have henv : ∀ r ∈ [s, t], ∀ a, ∃ e, geometry.actionEnvelope r a = .ok e := by
      intro r hr a
      rcases List.mem_pair.mp hr with rfl | rfl
      · exact ⟨envI a, hI a⟩
      · exact ⟨envJ a, hJ a⟩
    obtain ⟨cache, hcache⟩ := buildEnvelopeCache_total henv
    have hcaches := caches_of_buildEnvelopeCache hlt hcache
    obtain ⟨pair', hpair', -⟩ := compareEnvelopes_spec hcaches
      (by simp : s ∈ [s, t]) (by simp : t ∈ [s, t]) hst
    have hcompared := compared_of_compareEnvelopes hcaches (by simp) (by simp) hst hpair'
    rw [hcache, ok_bind, evaluateCachedPair, dif_pos hst, hpair', hcompared.unique h]

end Evaluate

/-! ## The pairs of a model -/

section Build

variable {G : Type} {geometry : Geometry G} {ordered : List RobotSnapshot}

/-- What the evaluated pairs are after the candidates `pre`: the records of these candidates, which
are pairs of distinct robots. -/
structure Answers (geometry : Geometry G) (ordered : List RobotSnapshot)
    (pre : List (RobotSnapshot × RobotSnapshot))
    (d : Dict (RobotId × RobotId) PairwiseCompatibility) : Prop where
  entries : ComparedEntries geometry ordered d
  distinct : ∀ candidate ∈ pre, candidate.1.deviceId ≠ candidate.2.deviceId
  mem_iff : ∀ key, key ∈ d ↔
    ∃ candidate ∈ pre, sortedPair candidate.1.deviceId candidate.2.deviceId = key

/-- A candidate that is accepted is a pair of distinct known robots, and its key is evaluated. -/
lemma addCandidate_eq_ok {byId : Dict RobotId RobotSnapshot} {cache : Dict RobotId (Action → G)}
    {d d' : Dict (RobotId × RobotId) PairwiseCompatibility}
    {candidate : RobotSnapshot × RobotSnapshot}
    (h : addCandidate geometry byId cache d candidate = .ok d') :
    candidate.1.deviceId ≠ candidate.2.deviceId ∧ candidate.1.deviceId ∈ byId ∧
      candidate.2.deviceId ∈ byId ∧ ∀ key, key ∈ d' ↔
        key ∈ d ∨ sortedPair candidate.1.deviceId candidate.2.deviceId = key := by
  obtain ⟨_, hne, h⟩ := bind_eq_ok.mp h
  obtain ⟨_, hknown, h⟩ := bind_eq_ok.mp h
  rw [raiseIf_eq_ok] at hne hknown
  push Not at hknown
  refine ⟨hne, hknown.1, hknown.2, fun key => ?_⟩
  change (if sortedPair candidate.1.deviceId candidate.2.deviceId ∈ d then _ else _) = _ at h
  by_cases hmem : sortedPair candidate.1.deviceId candidate.2.deviceId ∈ d
  · rw [if_pos hmem] at h
    obtain rfl := Except.ok.inj h
    refine ⟨.inl, fun hkey => hkey.elim id ?_⟩
    rintro rfl
    exact hmem
  · rw [if_neg hmem] at h
    obtain ⟨_, -, h⟩ := bind_eq_ok.mp h
    obtain ⟨_, -, h⟩ := bind_eq_ok.mp h
    obtain ⟨pair, -, h⟩ := bind_eq_ok.mp h
    obtain rfl := Except.ok.inj h
    change key ∈ d.insert (sortedPair candidate.1.deviceId candidate.2.deviceId) pair ↔ _
    rw [AList.mem_insert, or_comm, eq_comm]

/-- **One candidate** of any generator adds its own record, if anything. -/
lemma Answers.step (hlt : ordered.Pairwise fun s t => s.deviceId < t.deviceId)
    {cache : Dict RobotId (Action → G)} (hcache : Caches geometry ordered cache)
    {pre : List (RobotSnapshot × RobotSnapshot)} {candidate : RobotSnapshot × RobotSnapshot}
    {d d' : Dict (RobotId × RobotId) PairwiseCompatibility} (h : Answers geometry ordered pre d)
    (hstep : addCandidate geometry (Dict.ofPairs (ordered.map fun s => (s.deviceId, s))) cache d
      candidate = .ok d') : Answers geometry ordered (pre ++ [candidate]) d' := by
  obtain ⟨hne, hI, hJ, hmem⟩ := addCandidate_eq_ok hstep
  obtain ⟨s, hs⟩ := Dict.exists_lookup hI
  obtain ⟨t, ht⟩ := Dict.exists_lookup hJ
  obtain ⟨hs, hsid⟩ := (lookup_snapshotsById hlt _ _).mp hs
  obtain ⟨ht, htid⟩ := (lookup_snapshotsById hlt _ _).mp ht
  refine ⟨?_, ?_, ?_⟩
  · rcases lt_or_gt_of_ne hne with hst | hst <;> rw [← hsid, ← htid] at hst
    · rw [addCandidate_eq hlt cache d hs ht hst (.inl ⟨hsid.symm, htid.symm⟩)] at hstep
      exact addCandidate_compared hlt hcache h.entries hs ht hst hstep
    · rw [addCandidate_eq hlt cache d ht hs hst (.inr ⟨hsid.symm, htid.symm⟩)] at hstep
      exact addCandidate_compared hlt hcache h.entries ht hs hst hstep
  · intro c hc
    rcases List.mem_append.mp hc with hc | hc
    · exact h.distinct c hc
    · obtain rfl := List.mem_singleton.mp hc
      exact hne
  · intro key
    rw [hmem, h.mem_iff]
    simp only [List.mem_append, List.mem_singleton, or_and_right, exists_or, exists_eq_left]

/-- Searching the listed constraints for a pair is looking it up. -/
lemma ComparedEntries.find_listed {d : Dict (RobotId × RobotId) PairwiseCompatibility}
    (h : ComparedEntries geometry ordered d) (key : RobotId × RobotId) :
    (((sortedBy toLex d.keys).filterMap fun key => d.lookup key).find? fun constraint =>
      decide (constraint.robotPair = key)) = d.lookup key := by
  cases hfound : ((sortedBy toLex d.keys).filterMap fun key => d.lookup key).find? fun constraint =>
      decide (constraint.robotPair = key) with
  | some pair =>
    have hpair : pair.robotPair = key := by simpa using List.find?_some hfound
    obtain ⟨key', hkey'⟩ := mem_listedConstraints.mp (List.mem_of_find?_eq_some hfound)
    rw [← hpair, h.robotPair hkey', hkey']
  | none =>
    symm
    by_contra hsome
    obtain ⟨pair, hpair⟩ := Option.ne_none_iff_exists'.mp hsome
    have hne := List.find?_eq_none.mp hfound pair (mem_listedConstraints.mpr ⟨key, hpair⟩)
    exact hne (decide_eq_true (h.robotPair hpair))

/-- The model of any generator lists the answers to its candidates. -/
lemma answers_of_buildConflictModelWith
    {generate : List RobotSnapshot → List (RobotSnapshot × RobotSnapshot)}
    {snapshots : List RobotSnapshot} {m : ConflictModel}
    (h : buildConflictModelWith geometry generate snapshots = .ok m) :
    ∃ d, m.pairwiseConstraints = ((sortedBy toLex d.keys).filterMap fun key => d.lookup key) ∧
      Answers geometry (sortedBy RobotSnapshot.deviceId snapshots)
        (generate (sortedBy RobotSnapshot.deviceId snapshots)) d := by
  obtain ⟨ordered, hnorm, h⟩ := bind_eq_ok.mp h
  obtain ⟨rfl, hlt⟩ := normaliseModelSnapshots_eq_ok.mp hnorm
  obtain ⟨cache, hcache, h⟩ := bind_eq_ok.mp h
  obtain ⟨d, hd, h⟩ := bind_eq_ok.mp h
  obtain ⟨adjacency, -, h⟩ := bind_eq_ok.mp h
  obtain ⟨components, -, h⟩ := bind_eq_ok.mp h
  obtain rfl := Except.ok.inj h
  refine ⟨d, rfl, foldlM_invariant (Answers geometry _) hd ?_ ?_⟩
  · exact ⟨fun key pair hkey => (by cases hkey), by simp, by simp⟩
  · intro pre candidate post d d' _ hanswers hstep
    exact hanswers.step hlt (caches_of_buildEnvelopeCache hlt hcache) hstep

end Build

/-! ## What a model answers -/

section Answers

variable {G : Type} {geometry : Geometry G} {ordered : List RobotSnapshot}
  {candidates : List (RobotSnapshot × RobotSnapshot)} {m : ConflictModel}
  {d : Dict (RobotId × RobotId) PairwiseCompatibility}

/-- Some candidate joins two robots iff their sorted pair is among those of the candidates. -/
lemma exists_joins_iff {a b : RobotId} : (∃ candidate ∈ candidates, Joins candidate a b) ↔
    ∃ candidate ∈ candidates,
      sortedPair candidate.1.deviceId candidate.2.deviceId = sortedPair a b := by
  simp only [Joins, sortedPair_eq_iff]

/-- A lookup does not depend on the order of the robots. -/
lemma ConflictModel.compatibilityFor_comm (m : ConflictModel) (a b : RobotId) :
    m.compatibilityFor a b = m.compatibilityFor b a := by
  unfold compatibilityFor
  rw [sortedPair_comm]

/-- A pair that was generated is answered with the evaluation of its two snapshots. -/
lemma Answers.of_joins (h : Answers geometry ordered candidates d)
    (hm : m.pairwiseConstraints = (sortedBy toLex d.keys).filterMap fun key => d.lookup key)
    {a b : RobotId} (hjoins : ∃ candidate ∈ candidates, Joins candidate a b) :
    ∃ s ∈ ordered, ∃ t ∈ ordered, s.deviceId = a ∧ t.deviceId = b ∧ ∃ pair,
      evaluatePairwiseCompatibility geometry s t = .ok pair ∧
        m.compatibilityFor a b = .ok pair := by
  obtain ⟨pair, hpair⟩ := Dict.exists_lookup ((h.mem_iff _).mpr (exists_joins_iff.mp hjoins))
  obtain ⟨s, hs, t, ht, hkey, hcompared⟩ := h.entries _ pair hpair
  obtain ⟨hst, -⟩ := id hcompared
  have heval := evaluatePairwiseCompatibility_eq_ok hst |>.mpr hcompared
  have hanswer : m.compatibilityFor a b = .ok pair := by
    unfold ConflictModel.compatibilityFor
    dsimp only
    rw [hm, h.entries.find_listed, hpair, hkey, raiseIf_of_not _ hst.ne]
    rfl
  rw [← sortedPair_of_lt hst, sortedPair_eq_iff] at hkey
  rcases hkey with ⟨rfl, rfl⟩ | ⟨rfl, rfl⟩
  · exact ⟨s, hs, t, ht, rfl, rfl, pair, heval, hanswer⟩
  · rw [evaluatePairwiseCompatibility_comm] at heval
    exact ⟨t, ht, s, hs, rfl, rfl, pair, heval, hanswer⟩

/-- A pair that was not generated is refused. -/
lemma Answers.of_not_joins (h : Answers geometry ordered candidates d)
    (hm : m.pairwiseConstraints = (sortedBy toLex d.keys).filterMap fun key => d.lookup key)
    {a b : RobotId} (hjoins : ¬ ∃ candidate ∈ candidates, Joins candidate a b) :
    m.compatibilityFor a b = .error (.keyError (
      if a = b then "invalid robot pair " ++ pyReprPair (sortedPair a b)
      else "robot pair " ++ pyReprPair (sortedPair a b) ++ " was not evaluated")) := by
  unfold ConflictModel.compatibilityFor
  dsimp only
  by_cases hab : a = b
  · rw [raiseIf, if_pos (sortedPair_fst_eq_snd.mpr hab), if_pos hab]
    rfl
  · have hnone : d.lookup (sortedPair a b) = none := by
      by_contra hsome
      obtain ⟨pair, hpair⟩ := Option.ne_none_iff_exists'.mp hsome
      exact hjoins (exists_joins_iff.mpr ((h.mem_iff _).mp (Dict.mem_of_lookup hpair)))
    rw [raiseIf_of_not _ (mt sortedPair_fst_eq_snd.mp hab), if_neg hab, hm,
      h.entries.find_listed, hnone]
    rfl

/-- **For every generator of candidates**, a built model answers exactly the pairs that were
generated, in either order, and its answer is the evaluation of the two snapshots alone.

**Proof sketch.** The evaluated pairs are stored under their sorted IDs, in whatever order they were
generated (`answers_of_buildConflictModelWith`), so a lookup finds the pair that joins the two
robots or none. -/
theorem compatibilityFor_candidates
    {generate : List RobotSnapshot → List (RobotSnapshot × RobotSnapshot)}
    {snapshots : List RobotSnapshot}
    (h : buildConflictModelWith geometry generate snapshots = .ok m) (a b : RobotId) :
    m.compatibilityFor a b = m.compatibilityFor b a ∧
    ((∃ candidate ∈ generate (sortedBy RobotSnapshot.deviceId snapshots), Joins candidate a b) →
      ∃ s ∈ snapshots, ∃ t ∈ snapshots, s.deviceId = a ∧ t.deviceId = b ∧ ∃ pair,
        evaluatePairwiseCompatibility geometry s t = .ok pair ∧
          m.compatibilityFor a b = .ok pair) ∧
    ((¬ ∃ candidate ∈ generate (sortedBy RobotSnapshot.deviceId snapshots),
        Joins candidate a b) →
      m.compatibilityFor a b = .error (.keyError (
        if a = b then "invalid robot pair " ++ pyReprPair (sortedPair a b)
        else "robot pair " ++ pyReprPair (sortedPair a b) ++ " was not evaluated"))) := by
  obtain ⟨d, hm, hanswers⟩ := answers_of_buildConflictModelWith h
  refine ⟨m.compatibilityFor_comm a b, fun hjoins => ?_, hanswers.of_not_joins hm⟩
  obtain ⟨s, hs, t, ht, hrest⟩ := hanswers.of_joins hm hjoins
  exact ⟨s, (mem_sortedBy _ _).mp hs, t, (mem_sortedBy _ _).mp ht, hrest⟩

/-- One of three pairs is generated, twice: the model answers it in either order, and refuses the
pair of a robot that was left out. -/
theorem compatibilityFor_candidates_near : ∃ m pair,
    buildConflictModelWith lineGeometry nearCandidates distantThird = .ok m ∧
    evaluatePairwiseCompatibility lineGeometry (lineSnapshot robotB 5 2) (lineSnapshot robotA 0 3) =
      .ok pair ∧
    m.compatibilityFor robotB robotA = .ok pair ∧ m.compatibilityFor robotA robotB = .ok pair ∧
    m.compatibilityFor robotC robotA = .error (.keyError
      ("robot pair " ++ pyReprPair (robotA, robotC) ++ " was not evaluated")) := by
  obtain ⟨m, hm, -⟩ := Returns.exists_ok
    (x := buildConflictModelWith lineGeometry nearCandidates distantThird)
    (Q := fun m => m.pairwiseConstraints.length = 1) (by decide +kernel)
  obtain ⟨hcomm, hjoins, -⟩ := compatibilityFor_candidates hm robotB robotA
  obtain ⟨-, -, hrefused⟩ := compatibilityFor_candidates hm robotC robotA
  obtain ⟨s, hs, t, ht, hsid, htid, pair, heval, hanswer⟩ :=
    hjoins ⟨_, List.mem_cons_self, .inl ⟨rfl, rfl⟩⟩
  have hunique : ∀ r ∈ distantThird, ∀ r' ∈ distantThird, r.deviceId = r'.deviceId → r = r' :=
    fun r hr r' hr' => List.inj_on_of_nodup_map (by decide) hr hr'
  have hs' := hunique s hs (lineSnapshot robotB 5 2) (by simp [distantThird, approaching]) hsid
  have ht' := hunique t ht (lineSnapshot robotA 0 3) (by simp [distantThird, approaching]) htid
  rw [hs', ht'] at heval
  refine ⟨m, pair, hm, heval, hanswer, hcomm ▸ hanswer, ?_⟩
  exact hrefused (by simp only [Joins, nearCandidates]; decide)

/-- **The shipped model** answers two different robots with the evaluation of their snapshots. -/
theorem compatibilityFor_buildConflictModel {snapshots : List RobotSnapshot}
    (h : buildConflictModel geometry snapshots = .ok m) {s t : RobotSnapshot} (hs : s ∈ snapshots)
    (ht : t ∈ snapshots) (hne : s.deviceId ≠ t.deviceId) :
    m.compatibilityFor s.deviceId t.deviceId = evaluatePairwiseCompatibility geometry s t := by
  obtain ⟨d, hm, hanswers⟩ := answers_of_buildConflictModelWith h
  have hlt := (buildConflictModel_represents h).increasing
  have hself : sortedBy RobotSnapshot.deviceId (sortedBy RobotSnapshot.deviceId snapshots) =
      sortedBy RobotSnapshot.deviceId snapshots := sortedBy_eq_self _ (hlt.imp fun h => h.le)
  rw [← mem_sortedBy RobotSnapshot.deviceId] at hs ht
  have hjoins : ∃ candidate ∈ allPairsCandidates (sortedBy RobotSnapshot.deviceId snapshots),
      Joins candidate s.deviceId t.deviceId := by
    rw [allPairsCandidates, hself]
    rcases lt_or_gt_of_ne hne with hst | hst
    · exact ⟨(s, t), (mem_combinations hlt).mpr ⟨hs, ht, hst⟩, .inl ⟨rfl, rfl⟩⟩
    · exact ⟨(t, s), (mem_combinations hlt).mpr ⟨ht, hs, hst⟩, .inr ⟨rfl, rfl⟩⟩
  obtain ⟨s', hs', t', ht', hsid, htid, pair, heval, hanswer⟩ := hanswers.of_joins hm hjoins
  obtain rfl := eq_of_deviceId_eq hlt hs' hs hsid
  obtain rfl := eq_of_deviceId_eq hlt ht' ht htid
  rw [hanswer, heval]

end Answers

end CollisionMonitor
