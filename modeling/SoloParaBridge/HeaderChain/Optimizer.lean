import SoloParaBridge.HeaderChain.Strict
import SoloParaBridge.Lib.Indices
import SoloParaBridge.Lib.Storage

/-!
# The optimizer, against the strict verifier

`verify_and_optimize_justification` runs the verification loop with callbacks that never reject
a vote: each precommit the loop would not count has its number noted in `extra_precommits`, and
the headers no counted vote walked through become `redundant_votes_ancestries`.  It then removes
those precommits, the largest number first, and those headers.  Both implementers are instances
of the one loop of `HeaderChain.Justification`.

The two directions are two simulations of one loop by the other:

* `strict_simulates_optimizer` — the strict verifier, run on what the optimizer kept, counts
  exactly the votes the optimizer counted, in the same order, and finds the same routes.  The
  routes are the same although the chain lost the redundant headers (`ancestry_dropHashes`):
  a header the optimizer never visited is on no route, and where an earlier route stopped a
  later walk, the header it stopped at is still there.
* `optimizer_simulates_strict` — on a justification the strict verifier accepts, the optimizer
  notes nothing.

Together: the optimizer's output is accepted by the strict verifier, and a justification the
strict verifier accepts comes back from the optimizer unchanged; so the optimizer is idempotent.
-/

set_option autoImplicit false

namespace HeaderChain

variable {Header Hash AuthorityId Signature : Type} [DecidableEq Hash] [DecidableEq AuthorityId]

/-- `JustificationOptimizer`. -/
structure JustificationOptimizer (Hash AuthorityId : Type) where
  votes : Finset AuthorityId
  extraPrecommits : List ℕ
  redundantVotesAncestries : Finset Hash

/-- The callbacks of `JustificationOptimizer`: a vote that is not counted is noted, never an
error. -/
def optimizerVerifier :
    JustificationVerifier (JustificationOptimizer Hash AuthorityId) Hash AuthorityId Signature where
  processRedundantVote self precommitIdx :=
    .ok (.skip, { self with extraPrecommits := self.extraPrecommits ++ [precommitIdx] })
  processKnownAuthorityVote self precommitIdx signed :=
    -- skip duplicate votes
    if signed.id ∈ self.votes then
      .ok (.skip, { self with extraPrecommits := self.extraPrecommits ++ [precommitIdx] })
    else .ok (.run, self)
  processUnknownAuthorityVote self precommitIdx :=
    .ok { self with extraPrecommits := self.extraPrecommits ++ [precommitIdx] }
  processUnrelatedAncestryVote self precommitIdx :=
    .ok (.skip, { self with extraPrecommits := self.extraPrecommits ++ [precommitIdx] })
  processInvalidSignatureVote self precommitIdx :=
    .ok { self with extraPrecommits := self.extraPrecommits ++ [precommitIdx] }
  processValidVote self signed := { self with votes := insert signed.id self.votes }
  processRedundantVotesAncestries self redundantVotesAncestries :=
    .ok { self with redundantVotesAncestries }

variable [HeaderT Header Hash]

/-- `JustificationOptimizer::optimize`. -/
def JustificationOptimizer.optimize (self : JustificationOptimizer Hash AuthorityId)
    (justification : GrandpaJustification Header Hash AuthorityId Signature) :
    GrandpaJustification Header Hash AuthorityId Signature :=
  -- `Vec::remove`, from the largest number down
  let justification := { justification with
    commit := { justification.commit with
      precommits := self.extraPrecommits.reverse.foldl List.eraseIdx
        justification.commit.precommits } }
  if self.redundantVotesAncestries ≠ ∅ then
    { justification with
      votesAncestries := justification.votesAncestries.filter fun header ↦
        HeaderT.hash header ∉ self.redundantVotesAncestries }
  else justification

variable (checkSignature : Precommit Hash → AuthorityId → Signature → ℕ → ℕ → Bool)

/-- `verify_and_optimize_justification`: the optimized justification, an error (and the
justification left as it was), or `none` when the loop runs forever. -/
def verifyAndOptimizeJustification (finalizedTarget : Hash × ℕ) (authoritiesSetId : ℕ)
    (authoritiesSet : VoterSet AuthorityId)
    (justification : GrandpaJustification Header Hash AuthorityId Signature) :
    Option (Except Error (GrandpaJustification Header Hash AuthorityId Signature)) :=
  (optimizerVerifier.verifyJustification checkSignature finalizedTarget authoritiesSetId
    authoritiesSet justification ⟨∅, [], ∅⟩).map
      (Except.map fun optimizer ↦ optimizer.optimize justification)

/-! ## One precommit -/

section Steps

variable {round authoritiesSetId : ℕ} {authoritiesSet : VoterSet AuthorityId}

omit [DecidableEq Hash] [HeaderT Header Hash] in
theorem optimizer_processKnownAuthorityVote {self : JustificationOptimizer Hash AuthorityId}
    {precommitIdx : ℕ} {signed : SignedPrecommit Hash AuthorityId Signature}
    (h : signed.id ∉ self.votes) :
    (optimizerVerifier : JustificationVerifier (JustificationOptimizer Hash AuthorityId) Hash
      AuthorityId Signature).processKnownAuthorityVote self precommitIdx signed = .ok (.run, self) :=
  if_neg h

omit [HeaderT Header Hash] in
/-- **What the optimizer does with one precommit**: it counts the vote, under the conditions the
strict verifier counts it, or it notes the precommit's number. -/
theorem optimizer_processPrecommit {st : LoopState (JustificationOptimizer Hash AuthorityId) Hash}
    {precommitIdx : ℕ} {signed : SignedPrecommit Hash AuthorityId Signature}
    {result : Except Error (LoopState (JustificationOptimizer Hash AuthorityId) Hash)}
    (h : optimizerVerifier.processPrecommit checkSignature round authoritiesSetId authoritiesSet st
      precommitIdx signed = some result) :
    result = .ok { st with verifier := { st.verifier with
        extraPrecommits := st.verifier.extraPrecommits ++ [precommitIdx] } } ∨
      ∃ weight route, st.cumulativeWeight < authoritiesSet.threshold ∧
        authoritiesSet.get signed.id = some weight ∧ signed.id ∉ st.verifier.votes ∧
        st.chain.ancestry signed.precommit.targetHash signed.precommit.targetNumber =
          some (some route) ∧
        checkSignature signed.precommit signed.id signed.signature round authoritiesSetId = true ∧
        result = .ok ⟨{ st.verifier with votes := insert signed.id st.verifier.votes },
          st.chain.markRouteAsVisited route, Unsigned.saturatingAdd 64 st.cumulativeWeight weight⟩ := by
  rw [JustificationVerifier.processPrecommit] at h
  by_cases hthreshold : authoritiesSet.threshold ≤ st.cumulativeWeight
  · simp only [hthreshold, if_true, optimizerVerifier, Option.some.injEq] at h
    exact .inl h.symm
  rw [if_neg hthreshold] at h
  cases hweight : authoritiesSet.get signed.id with
  | none =>
    simp only [hweight, optimizerVerifier, Option.some.injEq] at h
    exact .inl h.symm
  | some weight =>
    by_cases hvote : signed.id ∈ st.verifier.votes
    · simp only [hweight, optimizerVerifier, hvote, if_true, Option.some.injEq] at h
      exact .inl h.symm
    cases hroute : st.chain.ancestry signed.precommit.targetHash signed.precommit.targetNumber with
    | none => simp [hweight, optimizerVerifier, hvote, hroute] at h
    | some maybeRoute =>
      cases maybeRoute with
      | none =>
        simp only [hweight, optimizerVerifier, hvote, if_false, hroute, Option.isNone_none,
          if_true, Option.some.injEq] at h
        exact .inl h.symm
      | some route =>
        cases hsignature :
            checkSignature signed.precommit signed.id signed.signature round authoritiesSetId with
        | false =>
          simp only [hweight, optimizerVerifier, hvote, if_false, hroute, Option.isNone_some,
            Bool.false_eq_true, hsignature, Bool.not_false, if_true, Option.some.injEq] at h
          exact .inl h.symm
        | true =>
          simp only [hweight, optimizerVerifier, hvote, if_false, hroute, Option.isNone_some,
            Bool.false_eq_true, hsignature, Bool.not_true, Option.some.injEq] at h
          exact .inr ⟨weight, route, Nat.lt_of_not_le hthreshold, rfl, hvote, rfl, rfl, h.symm⟩

omit [HeaderT Header Hash] in
/-- Over the rest of a loop the optimizer only visits headers, never touches
`redundant_votes_ancestries`, and appends increasing numbers from the current one on. -/
theorem optimizer_processPrecommits :
    ∀ (precommits : List (SignedPrecommit Hash AuthorityId Signature))
      {st st' : LoopState (JustificationOptimizer Hash AuthorityId) Hash} {precommitIdx : ℕ},
      optimizerVerifier.processPrecommits checkSignature round authoritiesSetId authoritiesSet st
          precommitIdx precommits = some (.ok st') →
      st'.chain.unvisited ⊆ st.chain.unvisited ∧
        st'.verifier.redundantVotesAncestries = st.verifier.redundantVotesAncestries ∧
        ∃ extra, st'.verifier.extraPrecommits = st.verifier.extraPrecommits ++ extra ∧
          (∀ j ∈ extra, precommitIdx ≤ j) ∧ extra.Pairwise (· < ·)
  | [], st, st', _, h => by
    cases h
    exact ⟨subset_rfl, rfl, [], (List.append_nil _).symm, fun _ h ↦ absurd h List.not_mem_nil,
      List.Pairwise.nil⟩
  | signed :: precommits, st, st', precommitIdx, h => by
    obtain ⟨st₁, hstep, hrest⟩ := JustificationVerifier.processPrecommits_cons_eq_ok _ _ h
    obtain ⟨hunvisited, hredundant, extra, hextra, hge, hsorted⟩ :=
      optimizer_processPrecommits precommits hrest
    rcases optimizer_processPrecommit checkSignature hstep with hnoted | ⟨weight, route, -, -, -, -, -, hcounted⟩
    · cases Except.ok.inj hnoted
      refine ⟨hunvisited, hredundant, precommitIdx :: extra, by rw [hextra]; simp, ?_, ?_⟩
      · intro j hj
        rcases List.mem_cons.mp hj with rfl | hj
        · exact Nat.le_refl j
        · exact Nat.le_of_succ_le (hge j hj)
      · exact List.pairwise_cons.mpr ⟨fun j hj ↦ hge j hj, hsorted⟩
    · cases Except.ok.inj hcounted
      refine ⟨hunvisited.trans ?_, hredundant, extra, hextra,
        fun j hj ↦ Nat.le_of_succ_le (hge j hj), hsorted⟩
      rw [AncestryChain.markRouteAsVisited_unvisited]
      exact Finset.sdiff_subset

end Steps

/-! ## The two simulations -/

section Simulations

variable {round authoritiesSetId : ℕ} {authoritiesSet : VoterSet AuthorityId}

omit [HeaderT Header Hash] in
/-- **The strict verifier counts what the optimizer kept.**  Run on the precommits whose number
the optimizer did not note, from the optimizer's votes and weight and on the chain without the
headers `X` it left unvisited, the strict verifier ends where the optimizer ends. -/
theorem strict_simulates_optimizer (X : Finset Hash) :
    ∀ (precommits : List (SignedPrecommit Hash AuthorityId Signature))
      {st st' : LoopState (JustificationOptimizer Hash AuthorityId) Hash} {precommitIdx : ℕ}
      (strictIdx : ℕ),
      optimizerVerifier.processPrecommits checkSignature round authoritiesSetId authoritiesSet st
          precommitIdx precommits = some (.ok st') →
      X ⊆ st'.chain.unvisited →
      (∀ j ∈ st.verifier.extraPrecommits, j < precommitIdx) →
      strictVerifier.processPrecommits checkSignature round authoritiesSetId authoritiesSet
          ⟨st.verifier.votes, st.chain.dropHashes X, st.cumulativeWeight⟩ strictIdx
          (List.keepExcept st'.verifier.extraPrecommits precommitIdx precommits) =
        some (.ok ⟨st'.verifier.votes, st'.chain.dropHashes X, st'.cumulativeWeight⟩)
  | [], st, st', _, _, h, _, _ => by
    cases h
    rfl
  | signed :: precommits, st, st', precommitIdx, strictIdx, h, hX, hbelow => by
    obtain ⟨st₁, hstep, hrest⟩ := JustificationVerifier.processPrecommits_cons_eq_ok _ _ h
    obtain ⟨hunvisited, -, extra, hextra, hge, -⟩ :=
      optimizer_processPrecommits checkSignature precommits hrest
    rw [List.keepExcept_cons]
    rcases optimizer_processPrecommit checkSignature hstep with
      hnoted | ⟨weight, route, hlt, hweight, hvote, hroute, hsignature, hcounted⟩
    · cases Except.ok.inj hnoted
      have hmem : precommitIdx ∈ st'.verifier.extraPrecommits := by
        rw [hextra]
        exact List.mem_append_left _ (List.mem_append_right _ List.mem_cons_self)
      have hbelow₁ : ∀ j ∈ st.verifier.extraPrecommits ++ [precommitIdx], j < precommitIdx + 1 := by
        intro j hj
        rcases List.mem_append.mp hj with hj | hj
        · exact Nat.lt_succ_of_lt (hbelow j hj)
        · rw [List.mem_singleton.mp hj]
          exact Nat.lt_succ_self _
      have hsim := strict_simulates_optimizer X precommits strictIdx hrest hX hbelow₁
      rw [if_pos hmem]
      exact hsim
    · cases Except.ok.inj hcounted
      have hnotmem : precommitIdx ∉ st'.verifier.extraPrecommits := by
        rw [hextra]
        intro hmem
        rcases List.mem_append.mp hmem with hmem | hmem
        · exact Nat.lt_irrefl _ (hbelow _ hmem)
        · exact Nat.not_succ_le_self _ (hge _ hmem)
      have hXst : X ⊆ st.chain.unvisited :=
        (hX.trans hunvisited).trans (by
          rw [AncestryChain.markRouteAsVisited_unvisited]
          exact Finset.sdiff_subset)
      have hrouteX : ∀ hash ∈ route, hash ∉ X := by
        intro hash hhash hmem
        have hin := hunvisited (hX hmem)
        rw [AncestryChain.markRouteAsVisited_unvisited] at hin
        exact (Finset.mem_sdiff.mp hin).2 (List.mem_toFinset.mpr hhash)
      rw [if_neg hnotmem, JustificationVerifier.processPrecommits_cons,
        JustificationVerifier.processPrecommit_valid strictVerifier checkSignature hlt hweight
          (strict_processKnownAuthorityVote hvote) (AncestryChain.ancestry_dropHashes hXst hroute hrouteX)
          hsignature]
      dsimp only
      rw [AncestryChain.markRouteAsVisited_dropHashes]
      have hsim := strict_simulates_optimizer X precommits (strictIdx + 1) hrest hX
        fun j hj ↦ Nat.lt_succ_of_lt (hbelow j hj)
      exact hsim

omit [HeaderT Header Hash] in
/-- **The optimizer notes nothing where the strict verifier accepts.** -/
theorem optimizer_simulates_strict (redundant : Finset Hash) :
    ∀ (precommits : List (SignedPrecommit Hash AuthorityId Signature))
      {st st' : LoopState (Finset AuthorityId) Hash} {precommitIdx : ℕ},
      strictVerifier.processPrecommits checkSignature round authoritiesSetId authoritiesSet st
          precommitIdx precommits = some (.ok st') →
      optimizerVerifier.processPrecommits checkSignature round authoritiesSetId authoritiesSet
          ⟨⟨st.verifier, [], redundant⟩, st.chain, st.cumulativeWeight⟩ precommitIdx precommits =
        some (.ok ⟨⟨st'.verifier, [], redundant⟩, st'.chain, st'.cumulativeWeight⟩)
  | [], st, st', _, h => by
    cases h
    rfl
  | signed :: precommits, st, st', precommitIdx, h => by
    obtain ⟨st₁, hstep, hrest⟩ := JustificationVerifier.processPrecommits_cons_eq_ok _ _ h
    obtain ⟨weight, route, hlt, hweight, hvote, hroute, hsignature, rfl⟩ :=
      strict_processPrecommit_eq_ok checkSignature hstep
    rw [JustificationVerifier.processPrecommits_cons,
      JustificationVerifier.processPrecommit_valid optimizerVerifier checkSignature hlt hweight
        (optimizer_processKnownAuthorityVote hvote) hroute hsignature]
    exact optimizer_simulates_strict redundant precommits hrest

end Simulations

/-! ## The optimizer's output -/

section Output

variable {finalizedTarget : Hash × ℕ} {authoritiesSetId : ℕ} {authoritiesSet : VoterSet AuthorityId}

omit [DecidableEq AuthorityId] in
/-- The optimizer keeps the precommits it did not note, in their order, and the headers some
counted vote walked through. -/
theorem optimize_eq {self : JustificationOptimizer Hash AuthorityId}
    (hsorted : self.extraPrecommits.Pairwise (· < ·))
    (justification : GrandpaJustification Header Hash AuthorityId Signature) :
    self.optimize justification = { justification with
      commit := { justification.commit with
        precommits := List.keepExcept self.extraPrecommits 0 justification.commit.precommits }
      votesAncestries := justification.votesAncestries.filter fun header ↦
        HeaderT.hash header ∉ self.redundantVotesAncestries } := by
  rw [JustificationOptimizer.optimize, List.foldl_eraseIdx_reverse hsorted]
  dsimp only
  split_ifs with hredundant
  · rfl
  · rw [not_not.mp hredundant]
    simp only [Finset.notMem_empty, not_false_eq_true, decide_true, List.filter_true]

/-- **What the optimizer returns, the strict verifier accepts.** -/
theorem verifyJustification_of_verifyAndOptimizeJustification
    {justification optimized : GrandpaJustification Header Hash AuthorityId Signature}
    (h : verifyAndOptimizeJustification checkSignature finalizedTarget authoritiesSetId
      authoritiesSet justification = some (.ok optimized)) :
    verifyJustification checkSignature finalizedTarget authoritiesSetId authoritiesSet optimized =
      some (.ok ()) := by
  obtain ⟨optimizer, hresult, rfl⟩ := exists_of_map_exceptMap_eq_ok h
  obtain ⟨htarget, st, hloop, hweight, hend⟩ :=
    JustificationVerifier.verifyJustification_eq_ok _ checkSignature hresult
  obtain ⟨-, hredundant, extra, hextra, -, hsorted⟩ :=
    optimizer_processPrecommits checkSignature _ hloop
  have hoptimizer : optimizer.extraPrecommits = st.verifier.extraPrecommits ∧
      optimizer.redundantVotesAncestries = st.chain.unvisited := by
    rcases hend with ⟨hempty, rfl⟩ | ⟨-, hcallback⟩
    · exact ⟨rfl, hredundant.trans hempty.symm⟩
    · cases hcallback
      exact ⟨rfl, rfl⟩
  have hsorted' : optimizer.extraPrecommits.Pairwise (· < ·) := by
    rw [hoptimizer.1, hextra, List.nil_append]
    exact hsorted
  have htarget' : ((optimizer.optimize justification).commit.targetHash,
      (optimizer.optimize justification).commit.targetNumber) = finalizedTarget := by
    rw [optimize_eq hsorted']
    exact htarget
  have hnew : AncestryChain.new (optimizer.optimize justification) =
      (AncestryChain.new justification).dropHashes st.chain.unvisited := by
    rw [optimize_eq hsorted', hoptimizer.2]
    exact AncestryChain.new_filter _ { justification with
      commit := { justification.commit with
        precommits := List.keepExcept optimizer.extraPrecommits 0 justification.commit.precommits } }
  have hloop' : strictVerifier.processPrecommits checkSignature
      (optimizer.optimize justification).round authoritiesSetId authoritiesSet
      ⟨∅, AncestryChain.new (optimizer.optimize justification), 0⟩ 0
      (optimizer.optimize justification).commit.precommits =
        some (.ok ⟨st.verifier.votes, st.chain.dropHashes st.chain.unvisited,
          st.cumulativeWeight⟩) := by
    have hstrict := strict_simulates_optimizer checkSignature st.chain.unvisited _ 0 hloop
      subset_rfl fun _ h ↦ absurd h List.not_mem_nil
    rw [hnew, optimize_eq hsorted', hoptimizer.1]
    exact hstrict
  rw [verifyJustification, JustificationVerifier.verifyJustification_of_processPrecommits _
    checkSignature htarget' hloop' hweight (Finset.sdiff_self _)]
  rfl

/-- **A justification the strict verifier accepts comes back from the optimizer unchanged.** -/
theorem verifyAndOptimizeJustification_of_verifyJustification
    {justification : GrandpaJustification Header Hash AuthorityId Signature}
    (h : verifyJustification checkSignature finalizedTarget authoritiesSetId authoritiesSet
      justification = some (.ok ())) :
    verifyAndOptimizeJustification checkSignature finalizedTarget authoritiesSetId authoritiesSet
      justification = some (.ok justification) := by
  obtain ⟨votes, hresult, -⟩ := exists_of_map_exceptMap_eq_ok h
  obtain ⟨htarget, st, hloop, hweight, hend⟩ :=
    JustificationVerifier.verifyJustification_eq_ok _ checkSignature hresult
  obtain ⟨hempty, -⟩ : st.chain.unvisited = ∅ ∧ votes = st.verifier := by
    rcases hend with hend | ⟨-, hcallback⟩
    · exact hend
    · cases hcallback
  have hoptimizer := optimizer_simulates_strict checkSignature ∅ _ hloop
  rw [verifyAndOptimizeJustification, JustificationVerifier.verifyJustification_of_processPrecommits
    _ checkSignature htarget hoptimizer hweight hempty]
  simp only [Option.map_some, Except.map, JustificationOptimizer.optimize, List.reverse_nil,
    List.foldl_nil, ne_eq, not_true_eq_false, if_false]

/-- **The optimizer refines the strict verifier.**  Whatever `verify_and_optimize_justification`
returns, the strict `verify_justification` accepts with the same target, set id and voter set;
and a justification the strict verifier accepts, the optimizer accepts and leaves unchanged. -/
theorem verifyAndOptimizeJustification_refines_strict (finalizedTarget : Hash × ℕ)
    (authoritiesSetId : ℕ) (authoritiesSet : VoterSet AuthorityId)
    (justification : GrandpaJustification Header Hash AuthorityId Signature) :
    (∀ optimized, verifyAndOptimizeJustification checkSignature finalizedTarget authoritiesSetId
        authoritiesSet justification = some (.ok optimized) →
      verifyJustification checkSignature finalizedTarget authoritiesSetId authoritiesSet
        optimized = some (.ok ())) ∧
    (verifyJustification checkSignature finalizedTarget authoritiesSetId authoritiesSet
        justification = some (.ok ()) →
      verifyAndOptimizeJustification checkSignature finalizedTarget authoritiesSetId
        authoritiesSet justification = some (.ok justification)) :=
  ⟨fun _ h ↦ verifyJustification_of_verifyAndOptimizeJustification checkSignature h,
    verifyAndOptimizeJustification_of_verifyJustification checkSignature⟩

/-- `optimizedTestJustification` with a duplicate vote of `1`, a vote of the unknown `7`, and
a header `20` on no route. -/
def testJustification : GrandpaJustification TestHeader ℕ ℕ Unit :=
  ⟨0, ⟨10, 10, [⟨⟨11, 11⟩, (), 1⟩, ⟨⟨11, 11⟩, (), 1⟩, ⟨⟨10, 10⟩, (), 7⟩, ⟨⟨10, 10⟩, (), 2⟩]⟩,
    [⟨11, 10⟩, ⟨20, 19⟩]⟩

/-- The strict verifier rejects `testJustification`, the optimizer repairs it, and the strict
verifier accepts the repair. -/
theorem verifyAndOptimizeJustification_repairs_testJustification :
    verifyJustification (fun _ _ _ _ _ ↦ true) (10, 10) 0 testVoters testJustification =
        some (.error (.precommit .duplicateAuthorityVote)) ∧
      verifyAndOptimizeJustification (fun _ _ _ _ _ ↦ true) (10, 10) 0 testVoters
        testJustification = some (.ok optimizedTestJustification) ∧
      verifyJustification (fun _ _ _ _ _ ↦ true) (10, 10) 0 testVoters optimizedTestJustification =
        some (.ok ()) := by
  have hoptimize : verifyAndOptimizeJustification (fun _ _ _ _ _ ↦ true) (10, 10) 0 testVoters
      testJustification = some (.ok optimizedTestJustification) := by decide
  exact ⟨by decide, hoptimize,
    (verifyAndOptimizeJustification_refines_strict (fun _ _ _ _ _ ↦ true) (10, 10) 0 testVoters
      testJustification).1 _ hoptimize⟩

/-- The optimizer is idempotent. -/
theorem verifyAndOptimizeJustification_idempotent
    {justification optimized : GrandpaJustification Header Hash AuthorityId Signature}
    (h : verifyAndOptimizeJustification checkSignature finalizedTarget authoritiesSetId
      authoritiesSet justification = some (.ok optimized)) :
    verifyAndOptimizeJustification checkSignature finalizedTarget authoritiesSetId authoritiesSet
      optimized = some (.ok optimized) :=
  verifyAndOptimizeJustification_of_verifyJustification checkSignature
    (verifyJustification_of_verifyAndOptimizeJustification checkSignature h)

/-- The repair of `testJustification` needs no further repair. -/
theorem verifyAndOptimizeJustification_idempotent_testJustification :
    verifyAndOptimizeJustification (fun _ _ _ _ _ ↦ true) (10, 10) 0 testVoters
      optimizedTestJustification = some (.ok optimizedTestJustification) :=
  verifyAndOptimizeJustification_idempotent (fun _ _ _ _ _ ↦ true)
    (by decide : verifyAndOptimizeJustification (fun _ _ _ _ _ ↦ true) (10, 10) 0 testVoters
      testJustification = some (.ok optimizedTestJustification))

end Output

end HeaderChain
