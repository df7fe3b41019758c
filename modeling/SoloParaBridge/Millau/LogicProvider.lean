import SoloParaBridge.Millau.Commitments
import Mathlib.Data.List.Sort

/-!
# The logic-provider pallet

Participants commit to the hash of a processing result for a metadata id, reveal it once enough
of them have committed, and are paid when a majority agrees.  The round of one metadata id
moves through

* **commit**: `commit_processing_result_hash` pushes the commitment to
  `pallet_commitments::Commits` and the participant with the current block to
  `CommitmentBlockNumbers`, locks `FundsToLock`, and once the committers are more than the
  configured majority of `MaxParticipants` schedules the reveal window `RevealWindowLength`
  blocks ahead;
* **reveal**: `reveal_processing_result_hash` fulfils the participant's commitment; a wrong
  answer burns the lock and removes the participant from both lists — and then returns an error,
  so the storage layer discards all of it;
* **settle**: `on_finalize` of the block where the window has run its course calls
  `issue_rewards`, which pays the fastest correct participants, records the round `Completed`
  and clears both lists; when it fails the round is `Disputed`, and the `ForceOrigin` may later
  settle it with `resolve_metadata_dispute`, which records `ManuallyResolved`.

`issue_rewards` is a dispatchable only in name: it requires the `None` origin and
`validate_unsigned` rejects it, so its one caller is `on_finalize`, which calls it directly.
`#[pallet::call]` wraps the body of every dispatchable in `with_storage_layer`, so even called
directly, what it wrote before an error is rolled back: `finalizeRound` keeps the storage it
returns with `Ok` and the storage from before the call on an `Err`.  A panic (`unwrap` of a `None`,
`winners[0]` of an empty list) is `none`: a block whose `on_finalize` panics is never produced,
so it has no successor state.

The currency is `pallet_balances` behind `LockableCurrency`, code this repository does not hold;
`Currency` takes its six operations as parameters, and nothing here assumes anything of them.
-/

set_option autoImplicit false

namespace LogicProvider

open Millau Commitments

/-! ## Configuration -/

/-- The origin of a call. -/
inductive Origin (AccountId : Type) where
  | root
  | signed (who : AccountId)
  | none
  deriving DecidableEq

/-- The operations of `T::LocalCurrency` the pallet uses, on a ledger of type `Ledger`.  Locks are
identified by the metadata id, which the source encodes as `metadata_id.to_le_bytes()`. -/
structure Currency (AccountId Ledger : Type) where
  /-- `free_balance(who)`. -/
  freeBalance : Ledger → AccountId → ℕ
  /-- `ensure_can_withdraw(who, amount, WithdrawReasons::all(), new_balance).is_ok()`. -/
  ensureCanWithdraw : Ledger → AccountId → ℕ → ℕ → Bool
  /-- `set_lock(id, who, amount, WithdrawReasons::all())`. -/
  setLock : Ledger → MetadataId → AccountId → ℕ → Ledger
  /-- `remove_lock(id, who)`. -/
  removeLock : Ledger → MetadataId → AccountId → Ledger
  /-- `resolve_creating(who, issue(amount))`. -/
  issueResolveCreating : Ledger → AccountId → ℕ → Ledger
  /-- `settle(who, burn(amount), WithdrawReasons::all(), KeepAlive)`, whatever it returns. -/
  burnSettle : Ledger → AccountId → ℕ → Ledger

/-- `T: pallet_logic_provider::Config`, which extends the commitments pallet's configuration. -/
structure Config (AccountId Hash Public Ledger : Type) extends Commitments.Config Hash where
  /-- `MaxCallPayloadLength: Get<u16>`. -/
  maxCallPayloadLength : ℕ
  /-- `EnforceBurningTokens: Get<bool>`. -/
  enforceBurningTokens : Bool
  /-- `Reward`, shared among the winners of a round. -/
  reward : ℕ
  /-- `FundsToLock`, locked on commit. -/
  fundsToLock : ℕ
  /-- `ForceOrigin::ensure_origin(origin).is_ok()`. -/
  isForceOrigin : Origin AccountId → Bool
  /-- `to_account_id(public)`: the account of a public key, if it decodes. -/
  toAccountId : Public → Option AccountId
  /-- `From<H256>` for the pallet's hash type. -/
  ofH256 : H256 → Hash
  /-- `LocalCurrency`. -/
  currency : Currency AccountId Ledger

/-- `RoundState`: how the round of a metadata id ended. -/
inductive RoundState where
  | completed
  | disputed
  | manuallyResolved
  deriving DecidableEq, Repr

/-- `Majority`, the fraction of participants that decides. -/
inductive Majority where
  | twoThirds
  | oneHalf
  deriving DecidableEq, Repr

/-- `Majority::to_ratio`, as `(numerator, denominator)`. -/
def Majority.toRatio : Majority → ℕ × ℕ
  | oneHalf => (50, 100)
  | twoThirds => (66, 100)

/-- `Ratio::new_raw(a, b) > Ratio::new_raw(c, d)`.  `num_rational` compares two ratios with
positive denominators exactly (through their integer and fractional parts, without
multiplying), which is this cross-multiplication; both call sites have a positive `b`. -/
def ratioGt (a b c d : ℕ) : Bool := decide (c * b < a * d)

/-- The pallet's `Error`. -/
inductive Error where
  | submissionExceedsMaxParticipantCount
  | consensusError
  | consensusNotReached
  | noSolutionProvided
  | illegalState
  | invalidGivenPublicKey
  | insufficientBalance
  | alreadyCommitted
  | alreadyProcessedMetadata
  | attemptedCommitInRevealPeriod
  | incorrectRevealedHash
  | noCommitmentFound
  | attemptedRevealOutsideWindow
  | alreadyRevealed
  | invalidCallPayload
  | encodedCallTooLarge
  deriving DecidableEq, Repr

/-- `From<CommitmentError> for Error<T>`. -/
def Error.ofCommitmentError : CommitmentError → Error
  | .incorrectRevealedHash => .incorrectRevealedHash
  | .noCommitmentFound => .noCommitmentFound
  | .alreadyRevealed => .alreadyRevealed

/-- What a dispatchable can fail with: a bad origin, the pallet's own errors, or the currency
refusing the withdrawal `ensure_can_withdraw` asks about. -/
inductive DispatchError where
  | badOrigin
  | module (e : Error)
  | liquidityRestrictions
  deriving DecidableEq, Repr

variable {AccountId Hash Public Ledger : Type}

/-! ## Storage -/

/-- The storage of the runtime the pallet lives in: the system's block number, the commitments
pallet's two maps, the pallet's own four items, the currency's ledger, and the proofs sent over
the bridge by `T::Bridging::send_transact`. -/
structure State (T : Config AccountId Hash Public Ledger) where
  /-- `frame_system::block_number()`. -/
  blockNumber : ℕ
  /-- `pallet_commitments::Commits`. -/
  commits : Commits Hash AccountId T.toConfig
  /-- `pallet_commitments::RevealWindow`: the first block of the window. -/
  revealWindow : MetadataId → Option ℕ
  /-- `CommitmentBlockNumbers`: who committed, and in which block. -/
  commitmentBlockNumbers : MetadataId → BoundedVec (AccountId × ℕ) T.maxParticipants
  /-- `MajorityType`. -/
  majorityType : Majority
  /-- `RoundStates`. -/
  roundStates : MetadataId → Option RoundState
  /-- `ProcessedHashes`: the winning hash of a completed round. -/
  processedHashes : MetadataId → Option Hash
  /-- The currency's ledger. -/
  ledger : Ledger
  /-- The `(metadata_id, winning_hash)` proofs handed to `send_transact`, oldest first. -/
  sentProofs : List (MetadataId × Hash)

variable {T : Config AccountId Hash Public Ledger}

/-- The storage at genesis: every map empty, the default majority. -/
def genesis (T : Config AccountId Hash Public Ledger) (blockNumber : ℕ) (ledger : Ledger) :
    State T where
  blockNumber := blockNumber
  commits := fun _ ↦ BoundedVec.empty
  revealWindow := fun _ ↦ none
  commitmentBlockNumbers := fun _ ↦ BoundedVec.empty
  majorityType := .twoThirds
  roundStates := fun _ ↦ none
  processedHashes := fun _ ↦ none
  ledger := ledger
  sentProofs := []

/-- `is_in_reveal_window` at the current block. -/
def State.isInRevealWindow (s : State T) (m : MetadataId) : Bool :=
  Commitments.isInRevealWindow T.toConfig s.revealWindow s.blockNumber m

/-! ## Currency helpers -/

/-- `lock_tokens`. -/
def lockTokens (T : Config AccountId Hash Public Ledger) (ledger : Ledger) (m : MetadataId)
    (submitter : AccountId) (amount : ℕ) : Ledger :=
  T.currency.setLock ledger m submitter amount

/-- `release_tokens`. -/
def releaseTokens (T : Config AccountId Hash Public Ledger) (ledger : Ledger) (m : MetadataId)
    (submitter : AccountId) : Ledger :=
  T.currency.removeLock ledger m submitter

/-- `burn_tokens`. -/
def burnTokens (T : Config AccountId Hash Public Ledger) (ledger : Ledger) (account : AccountId)
    (amount : ℕ) : Ledger :=
  T.currency.burnSettle ledger account amount

/-- `do_issue_rewards`: issue `reward` to every account of the list, in order. -/
def doIssueRewards (T : Config AccountId Hash Public Ledger) (ledger : Ledger)
    (accounts : List AccountId) (reward : ℕ) : Ledger :=
  accounts.foldl (fun l a ↦ T.currency.issueResolveCreating l a reward) ledger

/-- `release_tokens_of_participants`: remove the lock of every committer of the round. -/
def releaseTokensOfParticipants (s : State T) (m : MetadataId) : Ledger :=
  ((s.commits m).toList.map Commitment.submitter).foldl (fun l a ↦ releaseTokens T l m a) s.ledger

section Hashes

variable [LinearOrder Hash]

/-- `burn_eligible_account_tokens`: burn `FundsToLock` from every committer whose answer is not the
correct one, and — under `EnforceBurningTokens` — from every one that did not reveal in the
window. -/
def burnEligibleAccountTokens (s : State T) (correctHash : Hash) (m : MetadataId) : Ledger :=
  let eligible := ((s.commits m).toList.filter fun c ↦
      c.fulfillment != some correctHash || (T.enforceBurningTokens && !c.inRevealPeriod)).map
    Commitment.submitter
  eligible.foldl (fun l a ↦ burnTokens T l a T.fundsToLock) s.ledger

/-! ## Consensus -/

/-- One `*hash_counts.entry(hash).or_default() += 1` on the `BTreeMap<Hash, u16>`, kept as a
list sorted by key; the `u16` counter wraps. -/
def bumpCount (h : Hash) : List (Hash × ℕ) → List (Hash × ℕ)
  | [] => [(h, 1)]
  | (k, c) :: rest =>
    if h < k then (h, 1) :: (k, c) :: rest
    else if h = k then (k, (c + 1) % 65536) :: rest
    else (k, c) :: bumpCount h rest

/-- The frequency map of a list of hashes, in the key order a `BTreeMap` iterates in. -/
def hashCounts (hashes : List Hash) : List (Hash × ℕ) :=
  hashes.foldl (fun counts h ↦ bumpCount h counts) []

/-- `Iterator::max_by_key(|item| item.1)`: the entry with the largest count, the last one among
equals. -/
def maxByKey : List (Hash × ℕ) → Option (Hash × ℕ)
  | [] => none
  | x :: rest => some (rest.foldl (fun best y ↦ if best.2 ≤ y.2 then y else best) x)

/-- `get_most_frequent_hash`: the forced hash if there is one; otherwise the most frequent
revealed hash, provided its share of the reveals is above the majority. -/
def getMostFrequentHash (majority : Majority) (submissions : List (AccountId × Hash))
    (forceCorrectResult : Option Hash) : Except Error Hash :=
  match forceCorrectResult with
  | some correctResult => .ok correctResult
  | none =>
    match maxByKey (hashCounts (submissions.map Prod.snd)) with
    | none => .error .consensusError
    | some (mostFrequentHash, occurrences) =>
      if ratioGt occurrences submissions.length majority.toRatio.1 majority.toRatio.2 then
        .ok mostFrequentHash
      else .error .consensusNotReached

/-- The `(submitter, answer)` pairs of the commitments revealed inside the window; the source
filters on `fulfillment.is_some()` and then unwraps it. -/
def finalSubmissions (s : State T) (m : MetadataId) : List (AccountId × Hash) :=
  (s.commits m).toList.filterMap fun c ↦
    if c.inRevealPeriod then c.fulfillment.map fun h ↦ (c.submitter, h) else none

/-- `calculate_rewards`: the winners — the committers of the correct answer who committed in the
first block any correct committer did — and the reward each of them gets.  The committers are
sorted stably by block; the iterator that finds the first correct one is then filtered for the
rest of them, and the first one is appended at the end. -/
def calculateRewards [DecidableEq AccountId] (s : State T) (m : MetadataId)
    (forceCorrectResult : Option Hash) : Except Error (List AccountId × ℕ) :=
  let committedBlocks := (s.commitmentBlockNumbers m).toList
  if committedBlocks.isEmpty then .error .noSolutionProvided
  else
    let finalSubmissionsVec := finalSubmissions s m
    if finalSubmissionsVec.isEmpty then .error .consensusNotReached
    else
      match getMostFrequentHash s.majorityType finalSubmissionsVec forceCorrectResult with
      | .error e => .error e
      | .ok mostFrequentHash =>
        let submissionsWithCorrectOrder := committedBlocks.mergeSort fun a b ↦ decide (a.2 ≤ b.2)
        let accountsWithCorrectSubmission :=
          (finalSubmissionsVec.filter fun sub ↦ sub.2 = mostFrequentHash).map Prod.fst
        match findAndRest (fun sub ↦ decide (sub.1 ∈ accountsWithCorrectSubmission))
            submissionsWithCorrectOrder with
        | none => .error .consensusError
        | some (firstCorrectSubmission, rest) =>
          let submissionsToReward := rest.filter fun sub ↦
            decide (sub.1 ∈ accountsWithCorrectSubmission) && decide (sub.2 = firstCorrectSubmission.2)
          let participantsToReward := (submissionsToReward ++ [firstCorrectSubmission]).map Prod.fst
          .ok (participantsToReward, T.reward / participantsToReward.length)

/-! ## Committing -/

variable [DecidableEq AccountId]

/-- `do_commit_processing_result_hash`: refuse a round that already has a state, push the
commitment, then push the committer with the current block — a second push that can fail after
the first has been written — and open the reveal window once the committers exceed the majority
of `MaxParticipants`. -/
def doCommitProcessingResultHash (s : State T) (m : MetadataId) (hash : Hash)
    (submitter : AccountId) : Exec DispatchError (State T) :=
  if (s.roundStates m).isSome then .err (.module .illegalState) s
  else
    match Commitments.commit T.toConfig s.commits submitter hash m with
    | .error e => .err (.module (.ofCommitmentError e)) s
    | .ok commits =>
      let s := { s with commits }
      match (s.commitmentBlockNumbers m).tryPush (submitter, s.blockNumber) with
      | none => .err (.module .submissionExceedsMaxParticipantCount) s
      | some v =>
        let s := { s with commitmentBlockNumbers := Function.update s.commitmentBlockNumbers m v }
        if ratioGt v.toList.length T.maxParticipants s.majorityType.toRatio.1
            s.majorityType.toRatio.2 && (s.revealWindow m).isNone then
          .ok { s with
            revealWindow := Function.update s.revealWindow m
              (some (s.blockNumber + T.revealWindowLength)) }
        else .ok s

/-- `commit_processing_result_hash`: an unsigned call carrying an encoded `CommitHash`.  Before the
commit itself it checks, in this order, the participant count, that the account has not committed
yet, that the round has not been processed, that the window is not open, and that `FundsToLock`
can be locked; the lock is taken last. -/
def commitProcessingResultHash (s : State T) (origin : Origin AccountId)
    (payload : List UInt8) (publicKey : Public) : Exec DispatchError (State T) :=
  if origin ≠ .none then .err .badOrigin s
  else
    match T.toAccountId publicKey with
    | none => .err (.module .invalidGivenPublicKey) s
    | some who =>
      if ¬payload.length < T.maxCallPayloadLength then .err (.module .encodedCallTooLarge) s
      else
        match MapToCall.decode payload with
        | some (.logicProviderCall (.commitHash m hash)) =>
          if ¬(s.commitmentBlockNumbers m).toList.length < T.maxParticipants then
            .err (.module .submissionExceedsMaxParticipantCount) s
          else if (s.commits m).toList.any (fun c ↦ decide (c.submitter = who)) then
            .err (.module .alreadyCommitted) s
          else if (s.processedHashes m).isSome then .err (.module .alreadyProcessedMetadata) s
          else if s.isInRevealWindow m then .err (.module .attemptedCommitInRevealPeriod) s
          else if T.currency.freeBalance s.ledger who < T.fundsToLock then
            .err (.module .insufficientBalance) s
          else if !T.currency.ensureCanWithdraw s.ledger who T.fundsToLock
              (T.currency.freeBalance s.ledger who - T.fundsToLock) then
            .err .liquidityRestrictions s
          else
            match doCommitProcessingResultHash s m (T.ofH256 hash) who with
            | .ok s => .ok { s with ledger := lockTokens T s.ledger m who T.fundsToLock }
            | .err e s => .err e s
        | _ => .err (.module .invalidCallPayload) s

/-! ## Revealing -/

/-- The penalty branch of a wrong reveal: release and burn the lock, then remove the revealer
from `CommitmentBlockNumbers` and from `Commits`, each removal failing with `NoCommitmentFound`
when the revealer is not there.  It always ends in an error: the `fail!` after it, or a failed
removal. -/
def penalizeIncorrectReveal (s : State T) (m : MetadataId) (who : AccountId) :
    Exec DispatchError (State T) :=
  let s := { s with ledger := burnTokens T (releaseTokens T s.ledger m who) who T.fundsToLock }
  match (s.commitmentBlockNumbers m).toList.findIdx? (fun e ↦ decide (e.1 = who)) with
  | none => .err (.module .noCommitmentFound) s
  | some i =>
    let s := { s with
      commitmentBlockNumbers :=
        Function.update s.commitmentBlockNumbers m ((s.commitmentBlockNumbers m).removeAt i) }
    match (s.commits m).toList.findIdx? (fun c ↦ decide (c.submitter = who)) with
    | none => .err (.module .noCommitmentFound) s
    | some j =>
      .err (.module .incorrectRevealedHash)
        { s with commits := Function.update s.commits m ((s.commits m).removeAt j) }

/-- `reveal_processing_result_hash`: an unsigned call carrying an encoded `RevealHash`. -/
def revealProcessingResultHash (s : State T) (origin : Origin AccountId)
    (payload : List UInt8) (publicKey : Public) : Exec DispatchError (State T) :=
  if origin ≠ .none then .err .badOrigin s
  else
    match T.toAccountId publicKey with
    | none => .err (.module .invalidGivenPublicKey) s
    | some who =>
      if ¬payload.length < T.maxCallPayloadLength then .err (.module .encodedCallTooLarge) s
      else
        match MapToCall.decode payload with
        | some (.logicProviderCall (.revealHash revealHash randomSeed m)) =>
          match Commitments.reveal T.toConfig s.commits s.revealWindow s.blockNumber who
              (T.ofH256 revealHash) m randomSeed with
          | .ok commits => .ok { s with commits }
          | .error .incorrectRevealedHash => penalizeIncorrectReveal s m who
          | .error e => .err (.module (.ofCommitmentError e)) s
        | _ => .err (.module .invalidCallPayload) s

/-! ## Settling a round -/

/-- `set_majority_type`. -/
def setMajorityType (s : State T) (origin : Origin AccountId) (majorityType : Majority) :
    Exec DispatchError (State T) :=
  if !T.isForceOrigin origin then .err .badOrigin s else .ok { s with majorityType }

/-- What a settled round writes after its winners are paid and its state recorded: the locks
released, the eligible accounts burned, both lists of the round cleared. -/
def settleRound (s : State T) (m : MetadataId) (correctHash : Hash) : State T :=
  let s := { s with ledger := releaseTokensOfParticipants s m }
  let s := { s with ledger := burnEligibleAccountTokens s correctHash m }
  { s with
    commits := Function.update s.commits m BoundedVec.empty
    commitmentBlockNumbers := Function.update s.commitmentBlockNumbers m BoundedVec.empty }

/-- `issue_rewards`: pay the winners, record `Completed`, read the winning hash back from the
first winner's commitment, settle the round, and record and send the hash.  `none` is a panic:
`winners[0]` of an empty list, or the `unwrap` of a commitment that has no answer. -/
def issueRewards (s : State T) (origin : Origin AccountId) (m : MetadataId) :
    Option (Exec DispatchError (State T)) :=
  if origin ≠ .none then some (.err .badOrigin s)
  else
    match calculateRewards s m none with
    | .error e => some (.err (.module e) s)
    | .ok (winners, reward) =>
      let s := { s with ledger := doIssueRewards T s.ledger winners reward }
      let s := { s with roundStates := Function.update s.roundStates m (some .completed) }
      match winners.head? with
      | none => none
      | some firstWinner =>
        match (s.commits m).toList.find? (fun c ↦ decide (c.submitter = firstWinner)) with
        | none => some (.err (.module .consensusError) s)
        | some c =>
          match c.fulfillment with
          | none => none
          | some winningHash =>
            let s := settleRound s m winningHash
            some (.ok { s with
              processedHashes := Function.update s.processedHashes m (some winningHash)
              sentProofs := s.sentProofs ++ [(m, winningHash)] })

/-- `resolve_metadata_dispute`: the `ForceOrigin` settles a disputed round on a hash of its
choosing. -/
def resolveMetadataDispute (s : State T) (origin : Origin AccountId) (m : MetadataId)
    (forceHash : Hash) : Exec DispatchError (State T) :=
  if !T.isForceOrigin origin then .err .badOrigin s
  else if s.roundStates m ≠ some .disputed then .err (.module .illegalState) s
  else
    match calculateRewards s m (some forceHash) with
    | .error e => .err (.module e) s
    | .ok (winners, reward) =>
      let s := { s with ledger := doIssueRewards T s.ledger winners reward }
      let s := { s with roundStates := Function.update s.roundStates m (some .manuallyResolved) }
      .ok (settleRound s m forceHash)

/-- The work `on_finalize` does for one entry `(m, start)` of `RevealWindow` whose window has run
its course: `issue_rewards`, whose writes a failure rolls back; `Disputed` when it fails; and the
window removed either way. -/
def finalizeRound (s : State T) (m : MetadataId) : Option (State T) :=
  (issueRewards s .none m).map fun r ↦
    let s' := match r with
      | .ok s' => s'
      | .err _ _ => { s with roundStates := Function.update s.roundStates m (some .disputed) }
    { s' with revealWindow := Function.update s'.revealWindow m none }

/-- `on_finalize`, over the keys of `RevealWindow` in the order the storage iterates them. -/
def onFinalize (s : State T) : List MetadataId → Option (State T)
  | [] => some s
  | m :: rest =>
    match s.revealWindow m with
    | none => onFinalize s rest
    | some startingBlock =>
      if startingBlock + T.revealWindowLength ≤ s.blockNumber then
        (finalizeRound s m).bind fun s ↦ onFinalize s rest
      else onFinalize s rest

end Hashes

/-! ## Runs of the runtime -/

/-- The dispatchables a transaction can carry (`issue_rewards` is rejected by `validate_unsigned`
and `target_chain_call` writes nothing). -/
inductive Call (AccountId Hash Public : Type) where
  | commitProcessingResultHash (origin : Origin AccountId) (payload : List UInt8) (publicKey : Public)
  | revealProcessingResultHash (origin : Origin AccountId) (payload : List UInt8) (publicKey : Public)
  | setMajorityType (origin : Origin AccountId) (majorityType : Majority)
  | resolveMetadataDispute (origin : Origin AccountId) (metadataId : MetadataId) (forceHash : Hash)

variable [LinearOrder Hash] [DecidableEq AccountId]

/-- The body of a call. -/
def Call.body (s : State T) : Call AccountId Hash Public → Exec DispatchError (State T)
  | .commitProcessingResultHash origin payload publicKey =>
    LogicProvider.commitProcessingResultHash s origin payload publicKey
  | .revealProcessingResultHash origin payload publicKey =>
    LogicProvider.revealProcessingResultHash s origin payload publicKey
  | .setMajorityType origin majorityType => LogicProvider.setMajorityType s origin majorityType
  | .resolveMetadataDispute origin m forceHash =>
    LogicProvider.resolveMetadataDispute s origin m forceHash

/-- A call as a transaction applies it: under the storage layer. -/
def Call.apply (s : State T) (c : Call AccountId Hash Public) : State T :=
  Exec.transactional s (c.body s)

/-- One step of the runtime: a transaction, or the end of the current block — `on_finalize` over
an enumeration of the keys of `RevealWindow`, in whatever order the storage iterates them — after
which the block number advances. -/
inductive Step (T : Config AccountId Hash Public Ledger) : State T → State T → Prop
  | call (s : State T) (c : Call AccountId Hash Public) : Step T s (c.apply s)
  | finalize (s s' : State T) (order : List MetadataId) (hnodup : order.Nodup)
      (hkeys : ∀ m, m ∈ order ↔ (s.revealWindow m).isSome) (h : onFinalize s order = some s') :
      Step T s { s' with blockNumber := s.blockNumber + 1 }

/-- The states a run of the runtime reaches from genesis. -/
def Reachable (T : Config AccountId Hash Public Ledger) (s : State T) : Prop :=
  ∃ blockNumber ledger, Relation.ReflTransGen (Step T) (genesis T blockNumber ledger) s

/-! ## The Millau runtime -/

/-- The configuration of the Millau runtime, built without `runtime-benchmarks`: the constants of
its `parameter_types!`, `ForceOrigin = EnsureRoot`, and `Hash = H256` taken as its big-endian
value, which orders hashes as their bytes do.  Accounts are their public keys.  Two parts are
stand-ins, for code that is not in this repository: `recreate_commit_hash` (a blake2 hash) is an
injective function of the answer and the seed, and `pallet_balances` is a ledger of free balances
that locks do not reduce. -/
def millauConfig : Config ℕ ℕ ℕ (ℕ → ℕ) where
  revealWindowLength := 5
  maxParticipants := 1
  recreateCommitHash := fun answer seed ↦ 256 * answer + seed.toNat
  maxCallPayloadLength := 325
  enforceBurningTokens := false
  reward := 1000000000000000
  fundsToLock := 500000000000
  isForceOrigin := fun origin ↦ decide (origin = .root)
  toAccountId := some
  ofH256 := fun h ↦ h.bytes.foldl (fun acc b ↦ 256 * acc + b.toNat) 0
  currency :=
    { freeBalance := fun ledger who ↦ ledger who
      ensureCanWithdraw := fun _ _ _ _ ↦ true
      setLock := fun ledger _ _ _ ↦ ledger
      removeLock := fun ledger _ _ ↦ ledger
      issueResolveCreating := fun ledger who amount ↦ Function.update ledger who (ledger who + amount)
      burnSettle := fun ledger who amount ↦ Function.update ledger who (ledger who - amount) }

end LogicProvider
