import SoloParaBridge.Millau.LogicProvider

/-!
# What a step does to one round

Every storage item the round of a metadata id `m` lives in is keyed by `m`, and every operation
of the runtime touches at most one key — except `on_finalize`, which settles the expired rounds
one after another, each under its own key.  So the whole behaviour of the runtime, seen from one
round, is a relation between two `RoundView`s, and `RoundStep` lists its cases:

* nothing changes (every failed call, every call about another round);
* **commit**: a round with no state and no processed hash gains one commitment and one
  `(account, block)` entry, by an account not among its committers, and may get a window;
* **reveal**: a commitment is fulfilled in place — the committers stay the same;
* **resolve**: a `Disputed` round becomes `ManuallyResolved` and both lists are cleared;
* **complete** and **dispute**: a round with a window is settled by `on_finalize` — `Completed`
  with a processed hash and empty lists, or `Disputed` with its lists as they were — and its
  window removed.

`Step.roundStep` is the single place where the definitions of the pallet are unfolded; the two
invariants of `Millau/RoundInvariants.lean` are proved from `RoundStep` alone.
-/

set_option autoImplicit false

namespace LogicProvider

open Millau Commitments

variable {AccountId Hash Public Ledger : Type} {T : Config AccountId Hash Public Ledger}

/-- The storage of one round. -/
structure RoundView (AccountId Hash : Type) where
  /-- `Commits[m]`. -/
  commits : List (Commitment Hash AccountId)
  /-- `CommitmentBlockNumbers[m]`. -/
  commitmentBlockNumbers : List (AccountId × ℕ)
  /-- `RevealWindow[m]`. -/
  revealWindow : Option ℕ
  /-- `RoundStates[m]`. -/
  roundState : Option RoundState
  /-- `ProcessedHashes[m]`. -/
  processedHash : Option Hash

/-- The storage of the round of `m`. -/
def State.round (s : State T) (m : MetadataId) : RoundView AccountId Hash :=
  ⟨(s.commits m).toList, (s.commitmentBlockNumbers m).toList, s.revealWindow m, s.roundStates m,
    s.processedHashes m⟩

@[simp] theorem State.round_commits (s : State T) (m : MetadataId) :
    (s.round m).commits = (s.commits m).toList := rfl
@[simp] theorem State.round_commitmentBlockNumbers (s : State T) (m : MetadataId) :
    (s.round m).commitmentBlockNumbers = (s.commitmentBlockNumbers m).toList := rfl
@[simp] theorem State.round_revealWindow (s : State T) (m : MetadataId) :
    (s.round m).revealWindow = s.revealWindow m := rfl
@[simp] theorem State.round_roundState (s : State T) (m : MetadataId) :
    (s.round m).roundState = s.roundStates m := rfl
@[simp] theorem State.round_processedHash (s : State T) (m : MetadataId) :
    (s.round m).processedHash = s.processedHashes m := rfl

/-- The committers of a round, in the order they committed. -/
def RoundView.submitters (v : RoundView AccountId Hash) : List AccountId :=
  v.commits.map Commitment.submitter

/-- The accounts of `CommitmentBlockNumbers`, in order. -/
def RoundView.accounts (v : RoundView AccountId Hash) : List AccountId :=
  v.commitmentBlockNumbers.map Prod.fst

/-- **What one step can do to one round.** -/
inductive RoundStep : RoundView AccountId Hash → RoundView AccountId Hash → Prop
  /-- Nothing. -/
  | refl (v : RoundView AccountId Hash) : RoundStep v v
  /-- A new commitment, by an account that has none yet, in a round that is still open. -/
  | commit {v w : RoundView AccountId Hash} (who : AccountId) (block : ℕ)
      (c : Commitment Hash AccountId) (hstate : v.roundState = none)
      (hprocessed : v.processedHash = none) (hfresh : who ∉ v.submitters)
      (hc : c.submitter = who) (hcommits : w.commits = v.commits ++ [c])
      (hblocks : w.commitmentBlockNumbers = v.commitmentBlockNumbers ++ [(who, block)])
      (hwindow : w.revealWindow = v.revealWindow ∨ v.revealWindow = none)
      (hstate' : w.roundState = none) (hprocessed' : w.processedHash = none) :
      RoundStep v w
  /-- A commitment fulfilled in place. -/
  | reveal {v w : RoundView AccountId Hash} (hsubmitters : w.submitters = v.submitters)
      (hblocks : w.commitmentBlockNumbers = v.commitmentBlockNumbers)
      (hwindow : w.revealWindow = v.revealWindow) (hstate : w.roundState = v.roundState)
      (hprocessed : w.processedHash = v.processedHash) : RoundStep v w
  /-- A disputed round settled by the `ForceOrigin`. -/
  | resolve {v w : RoundView AccountId Hash} (hstate : v.roundState = some .disputed)
      (hstate' : w.roundState = some .manuallyResolved) (hcommits : w.commits = [])
      (hblocks : w.commitmentBlockNumbers = []) (hwindow : w.revealWindow = v.revealWindow)
      (hprocessed : w.processedHash = v.processedHash) : RoundStep v w
  /-- A round with a window settled by `on_finalize`. -/
  | complete {v w : RoundView AccountId Hash} (hwindow : v.revealWindow.isSome)
      (hstate' : w.roundState = some .completed) (hprocessed' : w.processedHash.isSome)
      (hcommits : w.commits = []) (hblocks : w.commitmentBlockNumbers = [])
      (hwindow' : w.revealWindow = none) : RoundStep v w
  /-- A round with a window that `on_finalize` failed to settle. -/
  | dispute {v w : RoundView AccountId Hash} (hwindow : v.revealWindow.isSome)
      (hstate' : w.roundState = some .disputed) (hcommits : w.commits = v.commits)
      (hblocks : w.commitmentBlockNumbers = v.commitmentBlockNumbers)
      (hprocessed : w.processedHash = v.processedHash) (hwindow' : w.revealWindow = none) :
      RoundStep v w

/-! ## The dispatchables, one round at a time -/

section Calls

variable [LinearOrder Hash] [DecidableEq AccountId]

omit [LinearOrder Hash] [DecidableEq AccountId] in
/-- `do_commit_processing_result_hash` on success: the round had no state, and it gained the
commitment and the `(account, block)` entry; no other round changed. -/
theorem doCommitProcessingResultHash_ok {s t : State T} {m : MetadataId} {hash : Hash}
    {who : AccountId} (h : doCommitProcessingResultHash s m hash who = .ok t) :
    s.roundStates m = none ∧
      (t.commits m).toList = (s.commits m).toList ++ [Commitment.new hash who] ∧
      (t.commitmentBlockNumbers m).toList =
        (s.commitmentBlockNumbers m).toList ++ [(who, s.blockNumber)] ∧
      (t.revealWindow m = s.revealWindow m ∨ s.revealWindow m = none) ∧
      t.roundStates = s.roundStates ∧ t.processedHashes = s.processedHashes ∧
      ∀ m', m' ≠ m → t.round m' = s.round m' := by
  rw [doCommitProcessingResultHash] at h
  split at h
  · exact absurd h (by simp)
  rename_i hstate
  split at h
  · exact absurd h (by simp)
  rename_i commits hcommit
  obtain ⟨-, v, hv, rfl⟩ := commit_eq_ok T.toConfig hcommit
  dsimp only at h
  split at h
  · exact absurd h (by simp)
  rename_i w hw
  obtain ⟨-, hw⟩ := BoundedVec.tryPush_eq_some hw
  have hs : s.roundStates m = none := by simpa using hstate
  split at h <;> injection h with h <;> subst h
  · rename_i hopen
    simp only [Bool.and_eq_true, Option.isNone_iff_eq_none] at hopen
    refine ⟨hs, by simpa using hv, by simpa using hw, .inr hopen.2, rfl, rfl, ?_⟩
    intro m' hm'
    simp [State.round, Function.update_of_ne hm']
  · refine ⟨hs, by simpa using hv, by simpa using hw, .inl (by simp), rfl, rfl, ?_⟩
    intro m' hm'
    simp [State.round, Function.update_of_ne hm']

omit [LinearOrder Hash] in
/-- `commit_processing_result_hash` on success: the payload was a `CommitHash` for some round, the
account had no commitment there, the round had no processed hash, and the commit itself went
through; the lock is the only other write. -/
theorem commitProcessingResultHash_ok {s t : State T} {origin : Origin AccountId}
    {payload : List UInt8} {publicKey : Public}
    (h : commitProcessingResultHash s origin payload publicKey = .ok t) :
    ∃ (who : AccountId) (m : MetadataId) (hash : H256) (s₁ : State T),
      MapToCall.decode payload = some (.logicProviderCall (.commitHash m hash)) ∧
      who ∉ (s.commits m).toList.map Commitment.submitter ∧ s.processedHashes m = none ∧
      doCommitProcessingResultHash s m (T.ofH256 hash) who = .ok s₁ ∧
      t = { s₁ with ledger := lockTokens T s₁.ledger m who T.fundsToLock } := by
  rw [commitProcessingResultHash] at h
  obtain ⟨-, h⟩ := Exec.ite_err_eq_ok h
  cases hwho : T.toAccountId publicKey with
  | none =>
    rw [hwho] at h
    cases h
  | some who =>
    rw [hwho] at h
    dsimp only at h
    obtain ⟨-, h⟩ := Exec.ite_err_eq_ok h
    cases hdec : MapToCall.decode payload with
    | none =>
      rw [hdec] at h
      cases h
    | some call =>
      rw [hdec] at h
      obtain ⟨call⟩ := call
      cases call with
      | revealHash => cases h
      | commitHash m hash =>
        dsimp only at h
        obtain ⟨-, h⟩ := Exec.ite_err_eq_ok h
        obtain ⟨hany, h⟩ := Exec.ite_err_eq_ok h
        obtain ⟨hprocessed, h⟩ := Exec.ite_err_eq_ok h
        obtain ⟨-, h⟩ := Exec.ite_err_eq_ok h
        obtain ⟨-, h⟩ := Exec.ite_err_eq_ok h
        obtain ⟨-, h⟩ := Exec.ite_err_eq_ok h
        split at h
        · rename_i s₁ hdo
          injection h with h
          refine ⟨who, m, hash, s₁, rfl, ?_, by simpa using hprocessed, hdo, h.symm⟩
          simpa using hany
        · cases h

omit [LinearOrder Hash] in
/-- The penalty of a wrong reveal never returns `Ok`. -/
theorem penalizeIncorrectReveal_ne_ok (s t : State T) (m : MetadataId) (who : AccountId) :
    penalizeIncorrectReveal s m who ≠ .ok t := by
  rw [penalizeIncorrectReveal]
  dsimp only
  split
  · simp
  · split <;> simp

/-- `reveal_processing_result_hash` on success: `pallet_commitments::reveal` went through, and its
new `Commits` is the only write. -/
theorem revealProcessingResultHash_ok {s t : State T} {origin : Origin AccountId}
    {payload : List UInt8} {publicKey : Public}
    (h : revealProcessingResultHash s origin payload publicKey = .ok t) :
    ∃ (who : AccountId) (answer : Hash) (m : MetadataId) (seed : UInt8)
      (commits : Commits Hash AccountId T.toConfig),
      Commitments.reveal T.toConfig s.commits s.revealWindow s.blockNumber who answer m seed =
        .ok commits ∧ t = { s with commits } := by
  rw [revealProcessingResultHash] at h
  split at h
  · exact absurd h (by simp)
  split at h
  · exact absurd h (by simp)
  rename_i who _
  split at h
  · exact absurd h (by simp)
  split at h
  · split at h
    · rename_i commits hreveal
      injection h with h
      exact ⟨who, _, _, _, commits, hreveal, h.symm⟩
    · exact absurd h (penalizeIncorrectReveal_ne_ok _ _ _ _)
    · exact absurd h (by simp)
  · exact absurd h (by simp)

omit [LinearOrder Hash] [DecidableEq AccountId] in
theorem setMajorityType_ok {s t : State T} {origin : Origin AccountId} {majorityType : Majority}
    (h : setMajorityType s origin majorityType = .ok t) : t = { s with majorityType } := by
  rw [setMajorityType] at h
  split at h
  · exact absurd h (by simp)
  · injection h with h
    exact h.symm

omit [DecidableEq AccountId] in
/-- Settling a round clears its two lists and writes no other round and no other item but the
ledger. -/
theorem settleRound_round (s : State T) (m : MetadataId) (correctHash : Hash) (m' : MetadataId) :
    (settleRound s m correctHash).round m' =
      if m' = m then { s.round m with commits := [], commitmentBlockNumbers := [] }
      else s.round m' := by
  by_cases hm : m' = m
  · subst hm
    simp [settleRound, State.round]
  · simp [settleRound, State.round, hm]

/-- `resolve_metadata_dispute` returning `Ok`: the `ForceOrigin` called it on a disputed round,
consensus on the forced hash returned winners, and they were paid, the round recorded
`ManuallyResolved` and settled on the forced hash. -/
theorem resolveMetadataDispute_eq_ok {s t : State T} {origin : Origin AccountId} {m : MetadataId}
    {forceHash : Hash} (h : resolveMetadataDispute s origin m forceHash = .ok t) :
    T.isForceOrigin origin = true ∧ s.roundStates m = some .disputed ∧
      ∃ winners reward, calculateRewards s m (some forceHash) = .ok (winners, reward) ∧
        t = settleRound { s with
          ledger := doIssueRewards T s.ledger winners reward
          roundStates := Function.update s.roundStates m (some .manuallyResolved) } m forceHash := by
  rw [resolveMetadataDispute] at h
  split at h
  · cases h
  rename_i hforce
  split at h
  · cases h
  rename_i hdisputed
  split at h
  · cases h
  rename_i winners reward hcalc
  injection h with h
  exact ⟨by simpa using hforce, not_not.mp hdisputed, winners, reward, hcalc, h.symm⟩

/-- `resolve_metadata_dispute` on success: a disputed round became `ManuallyResolved` and its
lists were cleared; no other round changed. -/
theorem resolveMetadataDispute_ok {s t : State T} {origin : Origin AccountId} {m : MetadataId}
    {forceHash : Hash} (h : resolveMetadataDispute s origin m forceHash = .ok t) :
    s.roundStates m = some .disputed ∧
      t.round m = { s.round m with
        commits := [], commitmentBlockNumbers := [], roundState := some .manuallyResolved } ∧
      ∀ m', m' ≠ m → t.round m' = s.round m' := by
  obtain ⟨-, hdisputed, winners, reward, -, rfl⟩ := resolveMetadataDispute_eq_ok h
  refine ⟨hdisputed, ?_, ?_⟩
  · rw [settleRound_round, if_pos rfl]
    simp [State.round]
  · intro m' hm'
    rw [settleRound_round, if_neg hm']
    simp [State.round, Function.update_of_ne hm']

/-! ## `on_finalize`, one round at a time -/

/-- `issue_rewards` returning `Ok`: consensus returned winners, and they were paid and the round
recorded `Completed`; the first winner's commitment was found and holds an answer, and the round
was settled on that answer, which was recorded as processed and sent over the bridge. -/
theorem issueRewards_eq_some_ok {s t : State T} {m : MetadataId}
    (h : issueRewards s .none m = some (.ok t)) :
    ∃ winners reward first c hash, calculateRewards s m none = .ok (winners, reward) ∧
      winners.head? = some first ∧
      (s.commits m).toList.find? (fun c ↦ decide (c.submitter = first)) = some c ∧
      c.fulfillment = some hash ∧
      t = { settleRound { s with
              ledger := doIssueRewards T s.ledger winners reward
              roundStates := Function.update s.roundStates m (some .completed) } m hash with
            processedHashes := Function.update s.processedHashes m (some hash)
            sentProofs := s.sentProofs ++ [(m, hash)] } := by
  rw [issueRewards] at h
  split at h
  · cases h
  split at h
  · cases h
  rename_i winners reward hcalc
  dsimp only at h
  split at h
  · cases h
  rename_i first hfirst
  split at h
  · cases h
  rename_i c hfind
  split at h
  · cases h
  rename_i hash hfulfillment
  injection h with h
  injection h with h
  exact ⟨winners, reward, first, c, hash, hcalc, hfirst, hfind, hfulfillment, h.symm⟩

/-- `issue_rewards` returning `Ok`: the round is `Completed` with its winning hash processed and
its lists cleared; no other round changed. -/
theorem issueRewards_ok {s t : State T} {k : MetadataId}
    (h : issueRewards s .none k = some (.ok t)) :
    (∃ winningHash : Hash, t.round k = { s.round k with
      commits := [], commitmentBlockNumbers := [], roundState := some .completed,
      processedHash := some winningHash }) ∧
      ∀ m, m ≠ k → t.round m = s.round m := by
  obtain ⟨winners, reward, first, c, winningHash, -, -, -, -, rfl⟩ := issueRewards_eq_some_ok h
  refine ⟨⟨winningHash, ?_⟩, fun m hm ↦ ?_⟩
  · simp [State.round, settleRound]
  · simp [State.round, settleRound, Function.update_of_ne hm]

/-- **What settling one round does.**  `on_finalize`'s work on a round with a window is either
the complete case or the dispute case of `RoundStep`, and touches no other round. -/
theorem finalizeRound_roundStep {s t : State T} {k : MetadataId} (h : finalizeRound s k = some t)
    (hwindow : (s.revealWindow k).isSome) :
    RoundStep (s.round k) (t.round k) ∧ ∀ m, m ≠ k → t.round m = s.round m := by
  rw [finalizeRound, Option.map_eq_some_iff] at h
  obtain ⟨r, hr, rfl⟩ := h
  cases r with
  | ok t =>
    obtain ⟨⟨winningHash, hk⟩, hframe⟩ := issueRewards_ok hr
    have hc := congrArg RoundView.commits hk
    have hb := congrArg RoundView.commitmentBlockNumbers hk
    have hs := congrArg RoundView.roundState hk
    have hp := congrArg RoundView.processedHash hk
    simp only [State.round] at hc hb hs hp
    refine ⟨.complete hwindow ?_ ?_ ?_ ?_ ?_, fun m hm ↦ ?_⟩
    · simpa [State.round] using hs
    · simp [State.round, hp]
    · simpa [State.round] using hc
    · simpa [State.round] using hb
    · simp [State.round]
    · have := hframe m hm
      simp only [State.round, RoundView.mk.injEq] at this ⊢
      simpa [Function.update_of_ne hm] using this
  | err e t =>
    refine ⟨.dispute hwindow ?_ rfl rfl rfl ?_, fun m hm ↦ ?_⟩
    · simp [State.round]
    · simp [State.round]
    · simp [State.round, Function.update_of_ne hm]

/-- `on_finalize` settles the rounds of `order`, and only those: a round whose key is not in the
list comes out as it went in. -/
theorem onFinalize_round_of_not_mem {s t : State T} {order : List MetadataId}
    (h : onFinalize s order = some t) {m : MetadataId} (hm : m ∉ order) :
    t.round m = s.round m := by
  induction order generalizing s with
  | nil =>
    rw [onFinalize, Option.some_inj] at h
    rw [h]
  | cons k rest ih =>
    have hmk : m ≠ k := fun e ↦ hm (e ▸ List.mem_cons_self)
    have hrest : m ∉ rest := fun e ↦ hm (List.mem_cons_of_mem k e)
    rw [onFinalize] at h
    split at h
    · exact ih h hrest
    · rename_i start hstart
      split at h
      · obtain ⟨s₁, h₁, h⟩ := Option.bind_eq_some_iff.mp h
        have hwindow : (s.revealWindow k).isSome := by simp [hstart]
        rw [ih h hrest, (finalizeRound_roundStep h₁ hwindow).2 m hmk]
      · exact ih h hrest

/-- **What `on_finalize` does to one round.**  The keys are distinct, so each round is settled at
most once, and at the time its turn comes the rounds settled before it have not touched it. -/
theorem onFinalize_roundStep {s t : State T} {order : List MetadataId}
    (h : onFinalize s order = some t) (hnodup : order.Nodup) (m : MetadataId) :
    RoundStep (s.round m) (t.round m) := by
  induction order generalizing s with
  | nil =>
    rw [onFinalize, Option.some_inj] at h
    rw [h]
    exact .refl _
  | cons k rest ih =>
    obtain ⟨hk, hnodup⟩ := List.nodup_cons.mp hnodup
    rw [onFinalize] at h
    split at h
    · exact ih h hnodup
    · rename_i start hstart
      split at h
      · obtain ⟨s₁, h₁, hrest⟩ := Option.bind_eq_some_iff.mp h
        have hwindow : (s.revealWindow k).isSome := by simp [hstart]
        obtain ⟨hstep, hframe⟩ := finalizeRound_roundStep h₁ hwindow
        by_cases hmk : m = k
        · subst hmk
          rw [onFinalize_round_of_not_mem hrest hk]
          exact hstep
        · rw [← hframe m hmk]
          exact ih hrest hnodup
      · exact ih h hnodup

/-! ## Every step, one round at a time -/

/-- A call under the storage layer moves every round by one `RoundStep`. -/
theorem Call.apply_roundStep (s : State T) (c : Call AccountId Hash Public) (m : MetadataId) :
    RoundStep (s.round m) ((c.apply s).round m) := by
  refine Exec.transactional_of (P := fun t : State T ↦ RoundStep (s.round m) (t.round m))
    (.refl _) ?_
  intro t ht
  cases c with
  | commitProcessingResultHash origin payload publicKey =>
    obtain ⟨who, k, hash, s₁, -, hfresh, hprocessed, hdo, rfl⟩ := commitProcessingResultHash_ok ht
    obtain ⟨hstate, hcommits, hblocks, hwindow, hstates, hprocessed', hframe⟩ :=
      doCommitProcessingResultHash_ok hdo
    by_cases hmk : m = k
    · subst hmk
      exact .commit who s.blockNumber _ hstate hprocessed hfresh rfl hcommits hblocks hwindow
        (by simp [State.round, hstates, hstate]) (by simp [State.round, hprocessed', hprocessed])
    · change RoundStep _ (s₁.round m)
      rw [hframe m hmk]
      exact .refl _
  | revealProcessingResultHash origin payload publicKey =>
    obtain ⟨who, answer, k, seed, commits, hreveal, rfl⟩ := revealProcessingResultHash_ok ht
    obtain ⟨hsubmitters, hframe⟩ := Commitments.reveal_eq_ok T.toConfig hreveal
    refine .reveal ?_ rfl rfl rfl rfl
    by_cases hmk : m = k
    · subst hmk
      exact hsubmitters
    · simp [RoundView.submitters, State.round, hframe m hmk]
  | setMajorityType origin majorityType =>
    rw [setMajorityType_ok ht]
    exact .refl _
  | resolveMetadataDispute origin k forceHash =>
    obtain ⟨hdisputed, hk, hframe⟩ := resolveMetadataDispute_ok ht
    by_cases hmk : m = k
    · subst hmk
      rw [hk]
      exact .resolve hdisputed rfl rfl rfl rfl rfl
    · rw [hframe m hmk]
      exact .refl _

/-- **Every step of the runtime moves every round by one `RoundStep`.** -/
theorem Step.roundStep {s t : State T} (h : Step T s t) (m : MetadataId) :
    RoundStep (s.round m) (t.round m) := by
  cases h with
  | call c => exact c.apply_roundStep s m
  | finalize s' order hnodup _ h => exact onFinalize_roundStep h hnodup m

end Calls

end LogicProvider
