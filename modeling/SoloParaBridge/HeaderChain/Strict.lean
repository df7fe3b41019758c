import SoloParaBridge.HeaderChain.Justification
import SoloParaBridge.Lib.Storage
import Mathlib.Algebra.BigOperators.Group.Finset.Basic

/-!
# The strict verifier

`StrictJustificationVerifier` and `strict::verify_justification`: every vote the loop would not
count is an error, and so is a header of `votes_ancestries` that no counted vote walked through.
What it accepts is therefore a justification in which every precommit is counted.

`strict_processPrecommit_eq_ok` says what one precommit the strict verifier accepts went through;
the results on accepted justifications are built on it.

`verifyJustification_sound` is what the bridge relies on: an accepted justification has
distinct voters whose weights reach the threshold, each with a validly signed precommit for the
commit target or a descendant of it, and every header it carries lies on the route of one of
those precommits.  The loop's invariant `StrictInv` ties the visited headers to the routes of
counted votes, which is what makes the visited-header shortcut of `ancestry` sound.
-/

set_option autoImplicit false

namespace HeaderChain

variable {Header Hash AuthorityId Signature : Type} [DecidableEq Hash] [DecidableEq AuthorityId]

/-- `StrictJustificationVerifier`, whose state is `votes`: the authorities whose vote it counted. -/
def strictVerifier : JustificationVerifier (Finset AuthorityId) Hash AuthorityId Signature where
  processRedundantVote _ _ := .error .redundantAuthorityVote
  processKnownAuthorityVote votes _ signed :=
    -- only the first vote of an authority is accepted
    if signed.id ∈ votes then .error .duplicateAuthorityVote else .ok (.run, votes)
  processUnknownAuthorityVote _ _ := .error .unknownAuthorityVote
  processUnrelatedAncestryVote _ _ := .error .unrelatedAncestryVote
  processInvalidSignatureVote _ _ := .error .invalidAuthoritySignature
  processValidVote votes signed := insert signed.id votes
  processRedundantVotesAncestries _ _ := .error .redundantVotesAncestries

variable (checkSignature : Precommit Hash → AuthorityId → Signature → ℕ → ℕ → Bool)

/-- `strict::verify_justification`. -/
def verifyJustification [HeaderT Header Hash] (finalizedTarget : Hash × ℕ) (authoritiesSetId : ℕ)
    (authoritiesSet : VoterSet AuthorityId)
    (justification : GrandpaJustification Header Hash AuthorityId Signature) :
    Option (Except Error Unit) :=
  (strictVerifier.verifyJustification checkSignature finalizedTarget authoritiesSetId
    authoritiesSet justification ∅).map (Except.map fun _ ↦ ())

variable {round authoritiesSetId : ℕ} {authoritiesSet : VoterSet AuthorityId}

omit [DecidableEq Hash] in
theorem strict_processKnownAuthorityVote {votes : Finset AuthorityId} {precommitIdx : ℕ}
    {signed : SignedPrecommit Hash AuthorityId Signature} (h : signed.id ∉ votes) :
    (strictVerifier : JustificationVerifier (Finset AuthorityId) Hash AuthorityId Signature
      ).processKnownAuthorityVote votes precommitIdx signed = .ok (.run, votes) :=
  if_neg h

/-- **What the strict verifier accepts of one precommit**: a vote it counts, and nothing else. -/
theorem strict_processPrecommit_eq_ok {votes : Finset AuthorityId} {chain : AncestryChain Hash}
    {cumulativeWeight precommitIdx : ℕ} {signed : SignedPrecommit Hash AuthorityId Signature}
    {st' : LoopState (Finset AuthorityId) Hash}
    (h : strictVerifier.processPrecommit checkSignature round authoritiesSetId authoritiesSet
      ⟨votes, chain, cumulativeWeight⟩ precommitIdx signed = some (.ok st')) :
    ∃ weight route, cumulativeWeight < authoritiesSet.threshold ∧
      authoritiesSet.get signed.id = some weight ∧ signed.id ∉ votes ∧
      chain.ancestry signed.precommit.targetHash signed.precommit.targetNumber =
        some (some route) ∧
      checkSignature signed.precommit signed.id signed.signature round authoritiesSetId = true ∧
      st' = ⟨insert signed.id votes, chain.markRouteAsVisited route,
        Unsigned.saturatingAdd 64 cumulativeWeight weight⟩ := by
  rw [JustificationVerifier.processPrecommit] at h
  by_cases hthreshold : authoritiesSet.threshold ≤ cumulativeWeight
  · simp [hthreshold, strictVerifier] at h
  rw [if_neg hthreshold] at h
  cases hweight : authoritiesSet.get signed.id with
  | none => simp [hweight, strictVerifier] at h
  | some weight =>
    by_cases hvote : signed.id ∈ votes
    · simp [hweight, strictVerifier, hvote] at h
    cases hroute : chain.ancestry signed.precommit.targetHash signed.precommit.targetNumber with
    | none => simp [hweight, strictVerifier, hvote, hroute] at h
    | some maybeRoute =>
      cases maybeRoute with
      | none => simp [hweight, strictVerifier, hvote, hroute] at h
      | some route =>
        cases hsignature :
            checkSignature signed.precommit signed.id signed.signature round authoritiesSetId with
        | false => simp [hweight, strictVerifier, hvote, hroute, hsignature] at h
        | true =>
          simp only [hweight, strictVerifier, hvote, if_false, hroute, Option.isNone_some,
            Bool.false_eq_true, hsignature, Bool.not_true, Option.some.injEq,
            Except.ok.injEq] at h
          exact ⟨weight, route, Nat.lt_of_not_le hthreshold, rfl, hvote, rfl, rfl, h.symm⟩

/-! ## Soundness -/

section Soundness

open Relation

variable [HeaderT Header Hash] (justification : GrandpaJustification Header Hash AuthorityId Signature)

/-- A precommit of `justification` whose signature is valid for the justification's round and
`authoritiesSetId`, for the commit target or a descendant of it by the parent links of
`votes_ancestries`. -/
def ValidPrecommit (authoritiesSetId : ℕ) (signed : SignedPrecommit Hash AuthorityId Signature) :
    Prop :=
  signed ∈ justification.commit.precommits ∧
    checkSignature signed.precommit signed.id signed.signature justification.round
      authoritiesSetId = true ∧
    ReflTransGen justification.IsParent signed.precommit.targetHash justification.commit.targetHash

/-- What the strict loop over `justification` has established at `st`: the chain is the
justification's with some headers visited; every counted authority is a voter with a valid
precommit; the weight is at most the counted authorities' weights; and every visited header lies
between the target of a counted authority's valid precommit and the commit target. -/
structure StrictInv (authoritiesSetId : ℕ) (authoritiesSet : VoterSet AuthorityId)
    (st : LoopState (Finset AuthorityId) Hash) : Prop where
  base : st.chain.base = (AncestryChain.new justification).base
  parents : st.chain.parents = (AncestryChain.new justification).parents
  unvisited_subset : st.chain.unvisited ⊆ (AncestryChain.new justification).unvisited
  voter : ∀ id ∈ st.verifier, (authoritiesSet.get id).isSome
  voted : ∀ id ∈ st.verifier,
    ∃ signed, signed.id = id ∧ ValidPrecommit checkSignature justification authoritiesSetId signed
  weight_le : st.cumulativeWeight ≤ ∑ id ∈ st.verifier, (authoritiesSet.get id).getD 0
  visited : ∀ hash ∈ (AncestryChain.new justification).unvisited, hash ∉ st.chain.unvisited →
    ∃ signed, signed.id ∈ st.verifier ∧
      ValidPrecommit checkSignature justification authoritiesSetId signed ∧
      ReflTransGen justification.IsParent signed.precommit.targetHash hash ∧
      ReflTransGen justification.IsParent hash justification.commit.targetHash

variable {justification}

omit [DecidableEq AuthorityId] in
theorem strictInv_init :
    StrictInv checkSignature justification authoritiesSetId authoritiesSet
      ⟨∅, AncestryChain.new justification, 0⟩ where
  base := rfl
  parents := rfl
  unvisited_subset := subset_rfl
  voter _ h := absurd h (Finset.notMem_empty _)
  voted _ h := absurd h (Finset.notMem_empty _)
  weight_le := Nat.zero_le _
  visited _ h hnot := absurd h hnot

omit [DecidableEq AuthorityId] in
/-- Under the invariant, the route `ancestry` finds for a precommit leads from its target to the
commit target, through every header on it. -/
theorem StrictInv.ancestry_reaches {st : LoopState (Finset AuthorityId) Hash}
    (hinv : StrictInv checkSignature justification authoritiesSetId authoritiesSet st)
    {hash : Hash} {number : ℕ} {route : List Hash}
    (h : st.chain.ancestry hash number = some (some route)) :
    ReflTransGen justification.IsParent hash justification.commit.targetHash ∧
      ∀ hash' ∈ route, ReflTransGen justification.IsParent hash hash' ∧
        ReflTransGen justification.IsParent hash' justification.commit.targetHash := by
  have hlinks : ∀ hash parent, st.chain.parents hash = some parent →
      justification.IsParent hash parent := by
    intro hash parent hparent
    rw [hinv.parents] at hparent
    exact AncestryChain.new_parents_eq_some hparent
  have hvisited : ∀ hash parent, st.chain.parents hash = some parent →
      hash ∉ st.chain.unvisited →
        ReflTransGen justification.IsParent hash st.chain.base.hash := by
    intro hash parent hparent hnot
    obtain ⟨header, hmem, hhash, -⟩ := hlinks hash parent hparent
    have hnew : hash ∈ (AncestryChain.new justification).unvisited :=
      AncestryChain.mem_new_unvisited.mpr ⟨header, hmem, hhash⟩
    obtain ⟨_, _, _, _, hreaches⟩ := hinv.visited hash hnew hnot
    rw [hinv.base]
    exact hreaches
  have hreaches := AncestryChain.ancestry_reaches hlinks hvisited h
  rw [hinv.base] at hreaches
  exact hreaches

/-- **One counted vote keeps the invariant.** -/
theorem StrictInv.processPrecommit {st st' : LoopState (Finset AuthorityId) Hash}
    {precommitIdx : ℕ} {signed : SignedPrecommit Hash AuthorityId Signature}
    (hinv : StrictInv checkSignature justification authoritiesSetId authoritiesSet st)
    (hsigned : signed ∈ justification.commit.precommits)
    (h : strictVerifier.processPrecommit checkSignature justification.round authoritiesSetId
      authoritiesSet st precommitIdx signed = some (.ok st')) :
    StrictInv checkSignature justification authoritiesSetId authoritiesSet st' := by
  obtain ⟨weight, route, -, hweight, hvote, hroute, hsignature, rfl⟩ :=
    strict_processPrecommit_eq_ok checkSignature h
  obtain ⟨htarget, hon⟩ := hinv.ancestry_reaches checkSignature hroute
  have hvalid : ValidPrecommit checkSignature justification authoritiesSetId signed :=
    ⟨hsigned, hsignature, htarget⟩
  refine ⟨hinv.base, hinv.parents, ?_, ?_, ?_, ?_, ?_⟩
  · rw [AncestryChain.markRouteAsVisited_unvisited]
    exact Finset.sdiff_subset.trans hinv.unvisited_subset
  · intro id hid
    rcases Finset.mem_insert.mp hid with rfl | hid
    · rw [hweight]
      rfl
    · exact hinv.voter id hid
  · intro id hid
    rcases Finset.mem_insert.mp hid with rfl | hid
    · exact ⟨signed, rfl, hvalid⟩
    · exact hinv.voted id hid
  · rw [Finset.sum_insert hvote, hweight]
    calc Unsigned.saturatingAdd 64 st.cumulativeWeight weight
        ≤ st.cumulativeWeight + weight := Unsigned.saturatingAdd_le
      _ ≤ (∑ id ∈ st.verifier, (authoritiesSet.get id).getD 0) + weight :=
        Nat.add_le_add_right hinv.weight_le weight
      _ = (some weight).getD 0 + ∑ id ∈ st.verifier, (authoritiesSet.get id).getD 0 :=
        Nat.add_comm _ _
  · intro hash hnew hnot
    rw [AncestryChain.markRouteAsVisited_unvisited, Finset.mem_sdiff, not_and, not_not] at hnot
    by_cases hbefore : hash ∈ st.chain.unvisited
    · obtain ⟨hfrom, hto⟩ := hon hash (List.mem_toFinset.mp (hnot hbefore))
      exact ⟨signed, Finset.mem_insert_self _ _, hvalid, hfrom, hto⟩
    · obtain ⟨signed', hid, hvalid', hfrom, hto⟩ := hinv.visited hash hnew hbefore
      exact ⟨signed', Finset.mem_insert_of_mem hid, hvalid', hfrom, hto⟩

/-- **The strict loop keeps the invariant**, over any list of the justification's precommits. -/
theorem StrictInv.processPrecommits :
    ∀ (precommits : List (SignedPrecommit Hash AuthorityId Signature))
      {st st' : LoopState (Finset AuthorityId) Hash} {precommitIdx : ℕ},
      StrictInv checkSignature justification authoritiesSetId authoritiesSet st →
      (∀ signed ∈ precommits, signed ∈ justification.commit.precommits) →
      strictVerifier.processPrecommits checkSignature justification.round authoritiesSetId
          authoritiesSet st precommitIdx precommits = some (.ok st') →
      StrictInv checkSignature justification authoritiesSetId authoritiesSet st'
  | [], _, _, _, hinv, _, h => by
    cases h
    exact hinv
  | signed :: precommits, _, _, _, hinv, hprecommits, h => by
    obtain ⟨st₁, hstep, hrest⟩ := JustificationVerifier.processPrecommits_cons_eq_ok _ _ h
    have hinv₁ := hinv.processPrecommit checkSignature
      (hprecommits signed List.mem_cons_self) hstep
    exact StrictInv.processPrecommits precommits hinv₁
      (fun signed' hmem ↦ hprecommits signed' (List.mem_cons_of_mem signed hmem)) hrest

/-- **Soundness of the strict verifier.**  An accepted justification targets the expected header,
and there is a set of distinct voters whose weights reach the threshold, each with a precommit
of the justification that is validly signed for its round and the set id, for the commit target
or a descendant of it by the parent links of `votes_ancestries`; and every header of
`votes_ancestries` lies between the target of one of these precommits and the commit target. -/
theorem verifyJustification_sound {finalizedTarget : Hash × ℕ}
    (h : verifyJustification checkSignature finalizedTarget authoritiesSetId authoritiesSet
      justification = some (.ok ())) :
    (justification.commit.targetHash, justification.commit.targetNumber) = finalizedTarget ∧
      ∃ S : Finset AuthorityId, (∀ id ∈ S, (authoritiesSet.get id).isSome) ∧
        authoritiesSet.threshold ≤ ∑ id ∈ S, (authoritiesSet.get id).getD 0 ∧
        (∀ id ∈ S, ∃ signed, signed.id = id ∧
          ValidPrecommit checkSignature justification authoritiesSetId signed) ∧
        ∀ header ∈ justification.votesAncestries, ∃ signed, signed.id ∈ S ∧
          ValidPrecommit checkSignature justification authoritiesSetId signed ∧
          ReflTransGen justification.IsParent signed.precommit.targetHash (HeaderT.hash header) ∧
          ReflTransGen justification.IsParent (HeaderT.hash header)
            justification.commit.targetHash := by
  obtain ⟨votes, hresult, -⟩ := exists_of_map_exceptMap_eq_ok h
  obtain ⟨htarget, st, hloop, hweight, hend⟩ :=
    JustificationVerifier.verifyJustification_eq_ok _ checkSignature hresult
  have hempty : st.chain.unvisited = ∅ := by
    rcases hend with ⟨hempty, -⟩ | ⟨-, hcallback⟩
    · exact hempty
    · cases hcallback
  have hinv := StrictInv.processPrecommits checkSignature _ (strictInv_init checkSignature) (fun _ h ↦ h) hloop
  refine ⟨htarget, st.verifier, hinv.voter, hweight.trans hinv.weight_le, hinv.voted, ?_⟩
  intro header hheader
  refine hinv.visited _ (AncestryChain.mem_new_unvisited.mpr ⟨header, hheader, rfl⟩) ?_
  rw [hempty]
  exact Finset.notMem_empty _

/-- A header that is its hash and its parent's hash, as the headers of the source's tests are. -/
structure TestHeader where
  hash : ℕ
  parentHash : ℕ
  deriving DecidableEq, Repr

instance : HeaderT TestHeader ℕ := ⟨TestHeader.hash, TestHeader.parentHash⟩

/-- Authorities `1` and `2`, of weight one each; both are needed. -/
def testVoters : VoterSet ℕ := ⟨fun id ↦ if id = 1 ∨ id = 2 then some 1 else none, 2⟩

/-- A justification of block `10` by votes of `1`, for its child `11`, and of `2`, for `10`
itself. -/
def optimizedTestJustification : GrandpaJustification TestHeader ℕ ℕ Unit :=
  ⟨0, ⟨10, 10, [⟨⟨11, 11⟩, (), 1⟩, ⟨⟨10, 10⟩, (), 2⟩]⟩, [⟨11, 10⟩]⟩

theorem verifyJustification_sound_optimizedTestJustification :
    verifyJustification (fun _ _ _ _ _ ↦ true) (10, 10) 0 testVoters optimizedTestJustification =
        some (.ok ()) ∧
      ∃ S : Finset ℕ, (∀ id ∈ S, (testVoters.get id).isSome) ∧
        testVoters.threshold ≤ ∑ id ∈ S, (testVoters.get id).getD 0 ∧
        (∀ id ∈ S, ∃ signed, signed.id = id ∧
          ValidPrecommit (fun _ _ _ _ _ ↦ true) optimizedTestJustification 0 signed) ∧
        ∀ header ∈ optimizedTestJustification.votesAncestries, ∃ signed, signed.id ∈ S ∧
          ValidPrecommit (fun _ _ _ _ _ ↦ true) optimizedTestJustification 0 signed ∧
          ReflTransGen optimizedTestJustification.IsParent signed.precommit.targetHash
            (HeaderT.hash header) ∧
          ReflTransGen optimizedTestJustification.IsParent (HeaderT.hash header)
            optimizedTestJustification.commit.targetHash := by
  have h : verifyJustification (fun _ _ _ _ _ ↦ true) (10, 10) 0 testVoters
      optimizedTestJustification = some (.ok ()) := by decide
  exact ⟨h, (verifyJustification_sound _ h).2⟩

end Soundness

end HeaderChain
