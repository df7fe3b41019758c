import SoloParaBridge.Relay.BasicStrategy
import SoloParaBridge.ParachainsRelay.Loop
import SoloParaBridge.Lib.Storage

/-!
# The race loop of the messages relay

`messages_relay::message_race_loop::run` drives a race: it waits on the `select!` of the two
clients' state streams and of the futures of the requests it made, and after each of them gives
every client that is online its next request.  The source is asked for its nonces, or for the
proof of the nonces the strategy selects; the target is given a proof to submit, asked for a
source header the proof needs, or for its best or finalized nonces.  A request that fails with an
error that is not a connection error takes its client offline until a retry delay ends; a
connection error, or any failure to generate a proof, ends the race.

`RaceLoop` is the loop's locals between two events: the race state (`RaceStateImpl`), the
strategy, and for each client its flags and the requests in flight, one field for each future, so
that nothing here assumes what the loop guarantees.  `RaceEvent` is what the `select!` can yield,
`RaceLoop.handle` what its branch does, and `RaceLoop.schedule` the end of the turn.  The strategy
is a `RaceStrategy`: what the loop calls on it, and what it may do to the race state through the
`RaceState` methods; `BasicStrategy` is one.

Along every run of events (`raceLoop_run`): each client has at most one request in flight, and
is online exactly when it has none; the `expect`s of the scheduling never panic.  With a strategy
that selects nothing while a selection or a submission is pending, as `BasicStrategy` does, the
race has at most one batch of nonces on its way: being proved, proved and waiting for or being
submitted, or submitted and not yet seen at the target; and a submission carries the proof the
source generated for it (`raceLoop_run_pipeline`).
-/

set_option autoImplicit false

namespace Relay

open HeaderChain
open ParachainsRelay (FailedClient)
open Finality (TrackedTransactionStatus)

variable {S SourceHeaderId TargetHeaderId Proof BatchTx R ProofParameters TargetNoncesData : Type}

/-- `RaceStateImpl`. -/
structure RaceStateImpl (SourceHeaderId TargetHeaderId Proof BatchTx : Type) where
  bestFinalizedSourceHeaderIdAtSource : Option SourceHeaderId
  bestFinalizedSourceHeaderIdAtBestTarget : Option SourceHeaderId
  bestTargetHeaderId : Option TargetHeaderId
  bestFinalizedTargetHeaderId : Option TargetHeaderId
  /-- The nonces selected to submit: the source block of the proof, the nonces, the proof. -/
  noncesToSubmit : Option (SourceHeaderId × (ℕ × ℕ) × Proof)
  noncesToSubmitBatch : Option BatchTx
  noncesSubmitted : Option (ℕ × ℕ)

namespace RaceStateImpl

/-- `RaceStateImpl::default`. -/
def default : RaceStateImpl SourceHeaderId TargetHeaderId Proof BatchTx :=
  ⟨none, none, none, none, none, none, none⟩

variable (raceState : RaceStateImpl SourceHeaderId TargetHeaderId Proof BatchTx)

/-- `reset_nonces_to_submit`. -/
def resetNoncesToSubmit : RaceStateImpl SourceHeaderId TargetHeaderId Proof BatchTx :=
  { raceState with noncesToSubmit := none, noncesToSubmitBatch := none }

/-- `reset_nonces_submitted`. -/
def resetNoncesSubmitted : RaceStateImpl SourceHeaderId TargetHeaderId Proof BatchTx :=
  { raceState with noncesSubmitted := none }

end RaceStateImpl

/-- The calls a strategy makes on the race state it updates: `reset_nonces_to_submit`,
`reset_nonces_submitted`, and `set_best_finalized_source_header_id_at_best_target`. -/
structure RaceStateChange (SourceHeaderId : Type) where
  resetNoncesToSubmit : Bool
  resetNoncesSubmitted : Bool
  setBestFinalizedSourceHeaderIdAtBestTarget : Option SourceHeaderId

/-- The race state after the calls of `change`. -/
def RaceStateChange.apply (change : RaceStateChange SourceHeaderId)
    (raceState : RaceStateImpl SourceHeaderId TargetHeaderId Proof BatchTx) :
    RaceStateImpl SourceHeaderId TargetHeaderId Proof BatchTx :=
  let raceState := if change.resetNoncesToSubmit then raceState.resetNoncesToSubmit else raceState
  let raceState :=
    if change.resetNoncesSubmitted then raceState.resetNoncesSubmitted else raceState
  match change.setBestFinalizedSourceHeaderIdAtBestTarget with
  | some id => { raceState with bestFinalizedSourceHeaderIdAtBestTarget := some id }
  | none => raceState

/-- `RaceStrategy`, over the strategy's state `S`: what the race loop calls on it. -/
structure RaceStrategy (S SourceHeaderId TargetHeaderId Proof BatchTx R ProofParameters
    TargetNoncesData : Type) where
  requiredSourceHeaderAtTarget :
    S → RaceStateImpl SourceHeaderId TargetHeaderId Proof BatchTx → Option SourceHeaderId
  bestAtSource : S → Option ℕ
  sourceNoncesUpdated : S → SourceHeaderId → SourceClientNonces R → S
  resetBestTargetNonces : S → S
  bestTargetNoncesUpdated : S → TargetClientNonces TargetNoncesData →
    RaceStateImpl SourceHeaderId TargetHeaderId Proof BatchTx → S × RaceStateChange SourceHeaderId
  finalizedTargetNoncesUpdated : S → TargetClientNonces TargetNoncesData →
    RaceStateImpl SourceHeaderId TargetHeaderId Proof BatchTx → S × RaceStateChange SourceHeaderId
  selectNoncesToDeliver :
    S → RaceStateImpl SourceHeaderId TargetHeaderId Proof BatchTx → Option ((ℕ × ℕ) × ProofParameters)

/-- What a request to a client ends with, as `process_future_result` sorts it. -/
inductive ClientResult (α : Type) where
  | ok (result : α)
  /-- An error that is not a connection error. -/
  | failed
  | connectionFailed
  deriving DecidableEq, Repr

/-- `process_future_result`, then `fail_if_connection_error`: whether the client is online after
the result, or the end of the race with the client. -/
def ClientResult.online {α : Type} (client : FailedClient) : ClientResult α → Except FailedClient Bool
  | .ok _ => .ok true
  -- the retry delay starts
  | .failed => .ok false
  | .connectionFailed => .error client

/-- What the `select!` of the race loop can yield. -/
inductive RaceEvent (SourceHeaderId TargetHeaderId Proof BatchTx R TargetNoncesData : Type) where
  /-- `race_source_updated` yields the source's best finalized header. -/
  | sourceUpdated (bestFinalizedSelf : SourceHeaderId)
  /-- `race_target_updated` yields the target's best header, the best finalized source header at
  it, and the target's best finalized header. -/
  | targetUpdated (bestSelf : TargetHeaderId) (bestFinalizedPeerAtBestSelf : Option SourceHeaderId)
      (bestFinalizedSelf : TargetHeaderId)
  | sourceNonces (result : ClientResult (SourceHeaderId × SourceClientNonces R))
  | targetBestNonces (result : ClientResult (TargetHeaderId × TargetClientNonces TargetNoncesData))
  | targetFinalizedNonces
      (result : ClientResult (TargetHeaderId × TargetClientNonces TargetNoncesData))
  | targetRequireSourceHeader (result : ClientResult (Option BatchTx))
  | sourceGenerateProof (result : ClientResult (SourceHeaderId × (ℕ × ℕ) × Proof))
  /-- `target_submit_proof` ends, with the nonces of the artifacts when it succeeds. -/
  | targetSubmitProof (result : ClientResult (ℕ × ℕ))
  /-- The tracker of the submitted transaction ends; for a finalized one, the latest nonce the
  target then has, `none` if reading it fails. -/
  | targetTxTracker (status : TrackedTransactionStatus) (latestNonceAtTarget : Option ℕ)
  | sourceGoOffline
  | targetGoOffline

/-- The locals of the race loop between two events.  A request in flight is its future, with the
arguments it was made with; `none` is a terminated future. -/
structure RaceLoop (S SourceHeaderId TargetHeaderId Proof BatchTx ProofParameters : Type) where
  raceState : RaceStateImpl SourceHeaderId TargetHeaderId Proof BatchTx
  strategy : S
  sourceClientIsOnline : Bool
  sourceNoncesRequired : Bool
  sourceRequiredHeader : Option SourceHeaderId
  /-- `source_nonces`: at the block, after the nonce. -/
  sourceNonces : Option (SourceHeaderId × ℕ)
  /-- `source_generate_proof`: at the block, of the nonces, and the batch transaction it is for. -/
  sourceGenerateProof : Option (SourceHeaderId × (ℕ × ℕ) × ProofParameters × Option BatchTx)
  sourceGoOffline : Bool
  targetClientIsOnline : Bool
  targetBestNoncesRequired : Bool
  targetFinalizedNoncesRequired : Bool
  targetBatchTransaction : Option BatchTx
  targetRequireSourceHeader : Option SourceHeaderId
  targetBestNonces : Option TargetHeaderId
  targetFinalizedNonces : Option TargetHeaderId
  /-- `target_submit_proof`: the batch transaction, the source block, the nonces and the proof. -/
  targetSubmitProof : Option (Option BatchTx × SourceHeaderId × (ℕ × ℕ) × Proof)
  targetTxTracker : Bool
  targetGoOffline : Bool

namespace RaceLoop

/-- The locals when `run` starts, with the strategy it is given. -/
def init (strategy : S) : RaceLoop S SourceHeaderId TargetHeaderId Proof BatchTx ProofParameters :=
  { raceState := .default, strategy, sourceClientIsOnline := true, sourceNoncesRequired := false,
    sourceRequiredHeader := none, sourceNonces := none, sourceGenerateProof := none,
    sourceGoOffline := false, targetClientIsOnline := true, targetBestNoncesRequired := false,
    targetFinalizedNoncesRequired := false, targetBatchTransaction := none,
    targetRequireSourceHeader := none, targetBestNonces := none, targetFinalizedNonces := none,
    targetSubmitProof := none, targetTxTracker := false, targetGoOffline := false }

end RaceLoop

/-- `select_nonces_to_deliver` of the race loop: what the strategy selects, at the best finalized
source header the best target block knows. -/
def selectNoncesToDeliver
    (race : RaceStrategy S SourceHeaderId TargetHeaderId Proof BatchTx R ProofParameters
      TargetNoncesData) (strategy : S)
    (raceState : RaceStateImpl SourceHeaderId TargetHeaderId Proof BatchTx) :
    Option (SourceHeaderId × (ℕ × ℕ) × ProofParameters) := do
  let bestFinalizedSourceHeaderIdAtBestTarget ← raceState.bestFinalizedSourceHeaderIdAtBestTarget
  (race.selectNoncesToDeliver strategy raceState).map fun (noncesRange, proofParameters) ↦
    (bestFinalizedSourceHeaderIdAtBestTarget, noncesRange, proofParameters)

namespace RaceLoop

variable [DecidableEq SourceHeaderId] [DecidableEq TargetHeaderId]
  (race : RaceStrategy S SourceHeaderId TargetHeaderId Proof BatchTx R ProofParameters
    TargetNoncesData)
  (loop : RaceLoop S SourceHeaderId TargetHeaderId Proof BatchTx ProofParameters)

/-- The branch of the `select!` that `event` completes: the locals after it, or the end of the
race with the failed client; `none` when the event's future is not in flight. -/
def handle : RaceEvent SourceHeaderId TargetHeaderId Proof BatchTx R TargetNoncesData →
    Option (Except FailedClient (RaceLoop S SourceHeaderId TargetHeaderId Proof BatchTx ProofParameters))
  | .sourceUpdated bestFinalizedSelf =>
    some (.ok (if loop.raceState.bestFinalizedSourceHeaderIdAtSource = some bestFinalizedSelf then loop
      else { loop with
        sourceNoncesRequired := true
        raceState := { loop.raceState with
          bestFinalizedSourceHeaderIdAtSource := some bestFinalizedSelf } }))
  | .targetUpdated bestSelf bestFinalizedPeerAtBestSelf bestFinalizedSelf =>
    let loop := if loop.raceState.bestTargetHeaderId = some bestSelf then loop
      else { loop with
        targetBestNoncesRequired := true
        raceState := { loop.raceState with
          bestTargetHeaderId := some bestSelf
          bestFinalizedSourceHeaderIdAtBestTarget := bestFinalizedPeerAtBestSelf } }
    some (.ok (if loop.raceState.bestFinalizedTargetHeaderId = some bestFinalizedSelf then loop
      else { loop with
        targetFinalizedNoncesRequired := true
        raceState := { loop.raceState with
          bestFinalizedTargetHeaderId := some bestFinalizedSelf } }))
  | .sourceNonces result =>
    loop.sourceNonces.map fun _ ↦ (result.online .source).map fun online ↦
      let strategy := match result with
        | .ok (atBlock, nonces) => race.sourceNoncesUpdated loop.strategy atBlock nonces
        | _ => loop.strategy
      -- ask for more headers if there are nonces to deliver and the headers are missing
      { loop with
        sourceNonces := none, sourceNoncesRequired := false, strategy
        sourceClientIsOnline := online, sourceGoOffline := loop.sourceGoOffline || !online
        sourceRequiredHeader := race.requiredSourceHeaderAtTarget strategy loop.raceState }
  | .targetBestNonces result =>
    loop.targetBestNonces.map fun _ ↦ (result.online .target).map fun online ↦
      let updated := match result with
        | .ok (_, nonces) =>
          let update := race.bestTargetNoncesUpdated loop.strategy nonces loop.raceState
          { loop with strategy := update.1, raceState := update.2.apply loop.raceState }
        | _ => loop
      { updated with
        targetBestNonces := none, targetBestNoncesRequired := false
        targetClientIsOnline := online, targetGoOffline := loop.targetGoOffline || !online }
  | .targetFinalizedNonces result =>
    loop.targetFinalizedNonces.map fun _ ↦ (result.online .target).map fun online ↦
      let updated := match result with
        | .ok (_, nonces) =>
          let update := race.finalizedTargetNoncesUpdated loop.strategy nonces loop.raceState
          { loop with strategy := update.1, raceState := update.2.apply loop.raceState }
        | _ => loop
      { updated with
        targetFinalizedNonces := none, targetFinalizedNoncesRequired := false
        targetClientIsOnline := online, targetGoOffline := loop.targetGoOffline || !online }
  | .targetRequireSourceHeader result =>
    loop.targetRequireSourceHeader.map fun _ ↦ (result.online .target).map fun online ↦
      { loop with
        targetRequireSourceHeader := none, sourceRequiredHeader := none
        targetBatchTransaction := match result with
          | .ok maybeBatchTransaction => maybeBatchTransaction
          | _ => loop.targetBatchTransaction
        targetClientIsOnline := online, targetGoOffline := loop.targetGoOffline || !online }
  | .sourceGenerateProof result =>
    loop.sourceGenerateProof.map fun (_, _, _, batchTransaction) ↦
      match result with
      | .ok (atBlock, noncesRange, proof) =>
        .ok { loop with
          sourceGenerateProof := none, sourceClientIsOnline := true
          raceState := { loop.raceState with
            noncesToSubmit := some (atBlock, noncesRange, proof)
            noncesToSubmitBatch := batchTransaction } }
      -- any error ends the race (`fail_if_error`)
      | _ => .error .source
  | .targetSubmitProof result =>
    loop.targetSubmitProof.map fun _ ↦ (result.online .target).map fun online ↦
      let loop := match result with
        | .ok nonces => { loop with
            raceState := { loop.raceState with noncesSubmitted := some nonces }
            targetTxTracker := true }
        | _ => loop
      -- the same nonces are not submitted again before the target's nonces are read
      { loop with
        targetSubmitProof := none, raceState := loop.raceState.resetNoncesToSubmit
        targetClientIsOnline := online, targetGoOffline := loop.targetGoOffline || !online
        strategy := if online then loop.strategy else race.resetBestTargetNonces loop.strategy }
  | .targetTxTracker status latestNonceAtTarget =>
    if loop.targetTxTracker then
      -- whether the loop calls reset_nonces_submitted
      let failed := match status, loop.raceState.noncesSubmitted with
        | .finalized, some noncesSubmitted =>
          -- mined, but was it successful? the best nonce at the target tells
          (latestNonceAtTarget.map fun latestNonce ↦ decide (latestNonce < noncesSubmitted.2)).getD true
        | .finalized, none => false
        | .lost, _ => true
      some (.ok { loop with
        targetTxTracker := false
        raceState := RaceStateChange.apply ⟨false, failed, none⟩ loop.raceState })
    else none
  | .sourceGoOffline =>
    if loop.sourceGoOffline then
      some (.ok { loop with sourceGoOffline := false, sourceClientIsOnline := true })
    else none
  | .targetGoOffline =>
    if loop.targetGoOffline then
      some (.ok { loop with targetGoOffline := false, targetClientIsOnline := true })
    else none

/-- The source's next request, the source being online: the proof of the nonces the strategy
selects, or its nonces; `none` where an `expect` panics. -/
def scheduleSource (requiredHeaderId : BatchTx → SourceHeaderId) :
    Option (RaceLoop S SourceHeaderId TargetHeaderId Proof BatchTx ProofParameters) :=
  -- a batch transaction is used now or never
  let targetBatchTransaction := loop.targetBatchTransaction
  let loop := { loop with sourceClientIsOnline := false, targetBatchTransaction := none }
  -- with a batch transaction, its source header is taken to be at the target already
  let expectedRaceState := match targetBatchTransaction with
    | some targetBatchTransaction => { loop.raceState with
        bestFinalizedSourceHeaderIdAtBestTarget := some (requiredHeaderId targetBatchTransaction) }
    | none => loop.raceState
  match selectNoncesToDeliver race loop.strategy expectedRaceState with
  | some (atBlock, noncesRange, proofParameters) =>
    some { loop with
      sourceGenerateProof := some (atBlock, noncesRange, proofParameters, targetBatchTransaction) }
  | none =>
    match loop.sourceNoncesRequired, race.bestAtSource loop.strategy with
    | true, some bestAtSource =>
      loop.raceState.bestFinalizedSourceHeaderIdAtSource.map fun atBlock ↦
        { loop with sourceNonces := some (atBlock, bestAtSource) }
    | _, _ => some { loop with sourceClientIsOnline := true }

/-- The target's next request, the target being online: the proof to submit, the source header
it needs, or its best or finalized nonces; `none` where an `expect` panics. -/
def scheduleTarget : Option (RaceLoop S SourceHeaderId TargetHeaderId Proof BatchTx ProofParameters) :=
  let loop := { loop with targetClientIsOnline := false }
  match loop.raceState.noncesToSubmit with
  | some (atBlock, noncesRange, proof) =>
    some { loop with
      targetSubmitProof := some (loop.raceState.noncesToSubmitBatch, atBlock, noncesRange, proof) }
  | none =>
    match loop.sourceRequiredHeader with
    | some sourceRequiredHeader => some { loop with targetRequireSourceHeader := some sourceRequiredHeader }
    | none =>
      if loop.targetBestNoncesRequired then
        loop.raceState.bestTargetHeaderId.map fun atBlock ↦ { loop with targetBestNonces := some atBlock }
      else if loop.targetFinalizedNoncesRequired then
        loop.raceState.bestFinalizedTargetHeaderId.map fun atBlock ↦
          { loop with targetFinalizedNonces := some atBlock }
      else some { loop with targetClientIsOnline := true }

/-- The end of a turn of the loop: each client that is online gets its next request. -/
def schedule (requiredHeaderId : BatchTx → SourceHeaderId) :
    Option (RaceLoop S SourceHeaderId TargetHeaderId Proof BatchTx ProofParameters) :=
  (if loop.sourceClientIsOnline then loop.scheduleSource race requiredHeaderId else some loop).bind
    fun loop ↦ if loop.targetClientIsOnline then loop.scheduleTarget else some loop

/-- A turn of the loop: the branch of `event`, then the scheduling; `none` when the event cannot
happen, the race ends, or an `expect` panics. -/
def step (requiredHeaderId : BatchTx → SourceHeaderId)
    (event : RaceEvent SourceHeaderId TargetHeaderId Proof BatchTx R TargetNoncesData) :
    Option (RaceLoop S SourceHeaderId TargetHeaderId Proof BatchTx ProofParameters) :=
  match loop.handle race event with
  | some (.ok loop) => loop.schedule race requiredHeaderId
  | _ => none

end RaceLoop

/-! ## What each part of a turn does -/

namespace RaceStateChange

variable (change : RaceStateChange SourceHeaderId)
  (raceState : RaceStateImpl SourceHeaderId TargetHeaderId Proof BatchTx)

@[simp] theorem apply_bestFinalizedSourceHeaderIdAtSource :
    (change.apply raceState).bestFinalizedSourceHeaderIdAtSource =
      raceState.bestFinalizedSourceHeaderIdAtSource := by
  obtain ⟨resetNoncesToSubmit, resetNoncesSubmitted, bestFinalizedSourceHeaderIdAtBestTarget⟩ := change
  cases resetNoncesToSubmit <;> cases resetNoncesSubmitted <;>
    cases bestFinalizedSourceHeaderIdAtBestTarget <;> rfl

@[simp] theorem apply_bestTargetHeaderId :
    (change.apply raceState).bestTargetHeaderId = raceState.bestTargetHeaderId := by
  obtain ⟨resetNoncesToSubmit, resetNoncesSubmitted, bestFinalizedSourceHeaderIdAtBestTarget⟩ := change
  cases resetNoncesToSubmit <;> cases resetNoncesSubmitted <;>
    cases bestFinalizedSourceHeaderIdAtBestTarget <;> rfl

@[simp] theorem apply_bestFinalizedTargetHeaderId :
    (change.apply raceState).bestFinalizedTargetHeaderId = raceState.bestFinalizedTargetHeaderId := by
  obtain ⟨resetNoncesToSubmit, resetNoncesSubmitted, bestFinalizedSourceHeaderIdAtBestTarget⟩ := change
  cases resetNoncesToSubmit <;> cases resetNoncesSubmitted <;>
    cases bestFinalizedSourceHeaderIdAtBestTarget <;> rfl

/-- A strategy only resets the selection and the submission. -/
theorem apply_noncesToSubmit :
    (change.apply raceState).noncesToSubmit =
      if change.resetNoncesToSubmit then none else raceState.noncesToSubmit := by
  obtain ⟨resetNoncesToSubmit, resetNoncesSubmitted, bestFinalizedSourceHeaderIdAtBestTarget⟩ := change
  cases resetNoncesToSubmit <;> cases resetNoncesSubmitted <;>
    cases bestFinalizedSourceHeaderIdAtBestTarget <;> rfl

theorem apply_noncesSubmitted :
    (change.apply raceState).noncesSubmitted =
      if change.resetNoncesSubmitted then none else raceState.noncesSubmitted := by
  obtain ⟨resetNoncesToSubmit, resetNoncesSubmitted, bestFinalizedSourceHeaderIdAtBestTarget⟩ := change
  cases resetNoncesToSubmit <;> cases resetNoncesSubmitted <;>
    cases bestFinalizedSourceHeaderIdAtBestTarget <;> rfl

theorem apply_bestFinalizedSourceHeaderIdAtBestTarget :
    (change.apply raceState).bestFinalizedSourceHeaderIdAtBestTarget =
      change.setBestFinalizedSourceHeaderIdAtBestTarget.or
        raceState.bestFinalizedSourceHeaderIdAtBestTarget := by
  obtain ⟨resetNoncesToSubmit, resetNoncesSubmitted, bestFinalizedSourceHeaderIdAtBestTarget⟩ := change
  cases resetNoncesToSubmit <;> cases resetNoncesSubmitted <;>
    cases bestFinalizedSourceHeaderIdAtBestTarget <;> rfl

theorem apply_noncesToSubmitBatch :
    (change.apply raceState).noncesToSubmitBatch =
      if change.resetNoncesToSubmit then none else raceState.noncesToSubmitBatch := by
  obtain ⟨resetNoncesToSubmit, resetNoncesSubmitted, bestFinalizedSourceHeaderIdAtBestTarget⟩ := change
  cases resetNoncesToSubmit <;> cases resetNoncesSubmitted <;>
    cases bestFinalizedSourceHeaderIdAtBestTarget <;> rfl

theorem toNat_isSome_apply_noncesToSubmit_le :
    (change.apply raceState).noncesToSubmit.isSome.toNat ≤ raceState.noncesToSubmit.isSome.toNat := by
  rw [apply_noncesToSubmit]
  split <;> simp

theorem toNat_isSome_apply_noncesSubmitted_le :
    (change.apply raceState).noncesSubmitted.isSome.toNat ≤ raceState.noncesSubmitted.isSome.toNat := by
  rw [apply_noncesSubmitted]
  split <;> simp

end RaceStateChange

namespace RaceLoop

variable {race : RaceStrategy S SourceHeaderId TargetHeaderId Proof BatchTx R ProofParameters
    TargetNoncesData}
  {loop loop' : RaceLoop S SourceHeaderId TargetHeaderId Proof BatchTx ProofParameters}
  {requiredHeaderId : BatchTx → SourceHeaderId}

/-- **What the source's scheduling does**: it asks for the proof of the nonces selected, with the
batch transaction it takes; or for the source's nonces at its best finalized header; or it leaves
the source online, the batch transaction dropped. -/
theorem scheduleSource_cases (h : loop.scheduleSource race requiredHeaderId = some loop') :
    (∃ atBlock noncesRange proofParameters,
      selectNoncesToDeliver race loop.strategy
          (match loop.targetBatchTransaction with
            | some targetBatchTransaction => { loop.raceState with
                bestFinalizedSourceHeaderIdAtBestTarget := some (requiredHeaderId targetBatchTransaction) }
            | none => loop.raceState) = some (atBlock, noncesRange, proofParameters) ∧
        loop' = { loop with
          sourceClientIsOnline := false
          targetBatchTransaction := none
          sourceGenerateProof :=
            some (atBlock, noncesRange, proofParameters, loop.targetBatchTransaction) }) ∨
      (∃ atBlock bestAtSource, loop.raceState.bestFinalizedSourceHeaderIdAtSource = some atBlock ∧
        loop' = { loop with
          sourceClientIsOnline := false
          targetBatchTransaction := none
          sourceNonces := some (atBlock, bestAtSource) }) ∨
      loop' = { loop with sourceClientIsOnline := true, targetBatchTransaction := none } := by
  unfold scheduleSource at h
  dsimp only at h
  split at h
  · rename_i atBlock noncesRange proofParameters hselect
    exact .inl ⟨atBlock, noncesRange, proofParameters, hselect, (Option.some.inj h).symm⟩
  · split at h
    · rename_i bestAtSource _ _
      obtain ⟨atBlock, hatBlock, rfl⟩ := Option.map_eq_some_iff.mp h
      exact .inr (.inl ⟨atBlock, bestAtSource, hatBlock, rfl⟩)
    · exact .inr (.inr (Option.some.inj h).symm)

/-- **What the target's scheduling does**: it submits the proof selected; or asks for the source
header the nonces need; or for the target's best, or finalized, nonces; or leaves the target
online. -/
theorem scheduleTarget_cases (h : loop.scheduleTarget = some loop') :
    (∃ atBlock noncesRange proof, loop.raceState.noncesToSubmit = some (atBlock, noncesRange, proof) ∧
      loop' = { loop with
        targetClientIsOnline := false
        targetSubmitProof := some (loop.raceState.noncesToSubmitBatch, atBlock, noncesRange, proof) }) ∨
      (∃ sourceRequiredHeader, loop.sourceRequiredHeader = some sourceRequiredHeader ∧
        loop' = { loop with
        targetClientIsOnline := false
        targetRequireSourceHeader := some sourceRequiredHeader }) ∨
      (∃ atBlock, loop.raceState.bestTargetHeaderId = some atBlock ∧
        loop' = { loop with targetClientIsOnline := false, targetBestNonces := some atBlock }) ∨
      (∃ atBlock, loop.raceState.bestFinalizedTargetHeaderId = some atBlock ∧
        loop' = { loop with targetClientIsOnline := false, targetFinalizedNonces := some atBlock }) ∨
      loop' = { loop with targetClientIsOnline := true } := by
  unfold scheduleTarget at h
  dsimp only at h
  split at h
  · rename_i atBlock noncesRange proof hsubmit
    exact .inl ⟨atBlock, noncesRange, proof, hsubmit, (Option.some.inj h).symm⟩
  · split at h
    · rename_i sourceRequiredHeader hrequired
      exact .inr (.inl ⟨sourceRequiredHeader, hrequired, (Option.some.inj h).symm⟩)
    · split_ifs at h
      · obtain ⟨atBlock, hatBlock, rfl⟩ := Option.map_eq_some_iff.mp h
        exact .inr (.inr (.inl ⟨atBlock, hatBlock, rfl⟩))
      · obtain ⟨atBlock, hatBlock, rfl⟩ := Option.map_eq_some_iff.mp h
        exact .inr (.inr (.inr (.inl ⟨atBlock, hatBlock, rfl⟩)))
      · exact .inr (.inr (.inr (.inr (Option.some.inj h).symm)))

/-- What the loop's selection is: the strategy's, at the best finalized source header the best
target block knows. -/
theorem selectNoncesToDeliver_eq_some {strategy : S}
    {raceState : RaceStateImpl SourceHeaderId TargetHeaderId Proof BatchTx} {atBlock : SourceHeaderId}
    {noncesRange : ℕ × ℕ} {proofParameters : ProofParameters}
    (h : selectNoncesToDeliver race strategy raceState = some (atBlock, noncesRange, proofParameters)) :
    raceState.bestFinalizedSourceHeaderIdAtBestTarget = some atBlock ∧
      race.selectNoncesToDeliver strategy raceState = some (noncesRange, proofParameters) := by
  unfold Relay.selectNoncesToDeliver at h
  cases hbest : raceState.bestFinalizedSourceHeaderIdAtBestTarget with
  | none => simp [hbest] at h
  | some bestAtTarget =>
    simp only [hbest, Option.bind_eq_bind, Option.bind_some, Option.map_eq_some_iff] at h
    obtain ⟨⟨_, _⟩, hselected, hpair⟩ := h
    simp only [Prod.mk.injEq] at hpair
    obtain ⟨rfl, rfl, rfl⟩ := hpair
    exact ⟨rfl, hselected⟩

/-! ## One request in flight per client

Between two events each client does exactly one thing: it is online, it has one request in
flight, or it waits for its retry delay.  Each flag that asks for a request to be scheduled comes
with the header the request is made at, which is what the `expect`s of the scheduling rely on. -/

/-- How many things the source does: being online, the nonces or the proof asked for, the retry
delay. -/
def sourceActivity (loop : RaceLoop S SourceHeaderId TargetHeaderId Proof BatchTx ProofParameters) : ℕ :=
  loop.sourceClientIsOnline.toNat + loop.sourceNonces.isSome.toNat +
    loop.sourceGenerateProof.isSome.toNat + loop.sourceGoOffline.toNat

/-- How many things the target does: being online, the source header, the best or finalized
nonces asked for, the proof being submitted, the retry delay.  The tracker of a submitted
transaction runs beside them. -/
def targetActivity (loop : RaceLoop S SourceHeaderId TargetHeaderId Proof BatchTx ProofParameters) : ℕ :=
  loop.targetClientIsOnline.toNat + loop.targetRequireSourceHeader.isSome.toNat +
    loop.targetBestNonces.isSome.toNat + loop.targetFinalizedNonces.isSome.toNat +
    loop.targetSubmitProof.isSome.toNat + loop.targetGoOffline.toNat

/-- The invariant of the race loop between two events. -/
structure Inv (loop : RaceLoop S SourceHeaderId TargetHeaderId Proof BatchTx ProofParameters) :
    Prop where
  source : loop.sourceActivity = 1
  target : loop.targetActivity = 1
  sourceNoncesRequired : loop.sourceNoncesRequired = true →
    loop.raceState.bestFinalizedSourceHeaderIdAtSource.isSome
  targetBestNoncesRequired : loop.targetBestNoncesRequired = true →
    loop.raceState.bestTargetHeaderId.isSome
  targetFinalizedNoncesRequired : loop.targetFinalizedNoncesRequired = true →
    loop.raceState.bestFinalizedTargetHeaderId.isSome

theorem init_inv (strategy : S) :
    (init strategy : RaceLoop S SourceHeaderId TargetHeaderId Proof BatchTx ProofParameters).Inv where
  source := rfl
  target := rfl
  sourceNoncesRequired := nofun
  targetBestNoncesRequired := nofun
  targetFinalizedNoncesRequired := nofun

/-- A request whose future is in flight ends: its client is online after it, or not. -/
theorem online_map_eq_some_ok {α β γ : Type} {future : Option γ} {result : ClientResult α}
    {client : FailedClient} {f : Bool → β} {b : β}
    (h : (future.map fun _ ↦ (result.online client).map f) = some (.ok b)) :
    future.isSome ∧ ∃ online, b = f online := by
  obtain ⟨_, hfuture, h⟩ := Option.map_eq_some_iff.mp h
  cases result <;> simp_all [ClientResult.online, Except.map]

section Handle

variable [DecidableEq SourceHeaderId] [DecidableEq TargetHeaderId]
  {event : RaceEvent SourceHeaderId TargetHeaderId Proof BatchTx R TargetNoncesData}

/-- **Every branch of the `select!` keeps the invariant.**  A request that ends leaves its
client online or waiting for its retry delay; the strategy's updates of the race state keep the
headers it knows. -/
theorem Inv.handle (hinv : loop.Inv) (h : loop.handle race event = some (.ok loop')) : loop'.Inv := by
  obtain ⟨hsource, htarget, h1, h2, h3⟩ := hinv
  cases event <;> simp only [RaceLoop.handle] at h
  case sourceUpdated =>
    cases h
    split
    · exact ⟨hsource, htarget, h1, h2, h3⟩
    · exact ⟨hsource, htarget, fun _ ↦ rfl, h2, h3⟩
  case targetUpdated =>
    cases h
    split_ifs
    · exact ⟨hsource, htarget, h1, h2, h3⟩
    · exact ⟨hsource, htarget, h1, h2, fun _ ↦ rfl⟩
    · exact ⟨hsource, htarget, h1, fun _ ↦ rfl, h3⟩
    · exact ⟨hsource, htarget, h1, fun _ ↦ rfl, fun _ ↦ rfl⟩
  case sourceNonces =>
    obtain ⟨hx, online, rfl⟩ := online_map_eq_some_ok h
    cases online <;> exact ⟨by grind [sourceActivity], htarget, nofun, h2, h3⟩
  case targetBestNonces result =>
    obtain ⟨hx, online, rfl⟩ := online_map_eq_some_ok h
    rcases result with ⟨_, nonces⟩ | _ | _ <;> cases online
    all_goals exact ⟨hsource, by grind [targetActivity], by simpa using h1, nofun, by simpa using h3⟩
  case targetFinalizedNonces result =>
    obtain ⟨hx, online, rfl⟩ := online_map_eq_some_ok h
    rcases result with ⟨_, nonces⟩ | _ | _ <;> cases online
    all_goals exact ⟨hsource, by grind [targetActivity], by simpa using h1, by simpa using h2, nofun⟩
  case targetRequireSourceHeader =>
    obtain ⟨hx, online, rfl⟩ := online_map_eq_some_ok h
    cases online <;> exact ⟨hsource, by grind [targetActivity], h1, h2, h3⟩
  case sourceGenerateProof result =>
    obtain ⟨x, hx, h⟩ := Option.map_eq_some_iff.mp h
    cases result <;> simp only [reduceCtorEq, Except.ok.injEq] at h
    subst h
    exact ⟨by grind [sourceActivity], htarget, h1, h2, h3⟩
  case targetSubmitProof result =>
    obtain ⟨hx, online, rfl⟩ := online_map_eq_some_ok h
    cases result <;> cases online <;> exact ⟨hsource, by grind [targetActivity], h1, h2, h3⟩
  case targetTxTracker =>
    split at h
    · cases h
      exact ⟨hsource, htarget, by simpa using h1, by simpa using h2, by simpa using h3⟩
    · cases h
  case sourceGoOffline =>
    split at h
    · cases h
      exact ⟨by grind [sourceActivity], htarget, h1, h2, h3⟩
    · cases h
  case targetGoOffline =>
    split at h
    · cases h
      exact ⟨hsource, by grind [targetActivity], h1, h2, h3⟩
    · cases h

end Handle

/-- The source's scheduling keeps the invariant: the online source takes one request, or stays
online. -/
theorem Inv.scheduleSource (hinv : loop.Inv) (honline : loop.sourceClientIsOnline = true)
    (h : loop.scheduleSource race requiredHeaderId = some loop') : loop'.Inv := by
  obtain ⟨hsource, htarget, h1, h2, h3⟩ := hinv
  rcases scheduleSource_cases h with ⟨_, _, _, -, rfl⟩ | ⟨_, _, -, rfl⟩ | rfl
  all_goals exact ⟨by grind [sourceActivity], htarget, h1, h2, h3⟩

theorem Inv.scheduleTarget (hinv : loop.Inv) (honline : loop.targetClientIsOnline = true)
    (h : loop.scheduleTarget = some loop') : loop'.Inv := by
  obtain ⟨hsource, htarget, h1, h2, h3⟩ := hinv
  rcases scheduleTarget_cases h with ⟨_, _, _, -, rfl⟩ | ⟨_, -, rfl⟩ | ⟨_, -, rfl⟩ | ⟨_, -, rfl⟩ | rfl
  all_goals exact ⟨hsource, by grind [targetActivity], h1, h2, h3⟩

/-- The `expect` of the source's scheduling finds the best finalized source header. -/
theorem Inv.scheduleSource_isSome (hinv : loop.Inv) :
    (loop.scheduleSource race requiredHeaderId).isSome := by
  unfold RaceLoop.scheduleSource
  dsimp only
  split
  · rfl
  · split
    · rename_i hrequired _
      simpa using hinv.sourceNoncesRequired hrequired
    · rfl

/-- The `expect`s of the target's scheduling find the best and the finalized target headers. -/
theorem Inv.scheduleTarget_isSome (hinv : loop.Inv) : loop.scheduleTarget.isSome := by
  unfold RaceLoop.scheduleTarget
  dsimp only
  split
  · rfl
  · split
    · rfl
    · split_ifs with hbest hfinalized
      · simpa using hinv.targetBestNoncesRequired hbest
      · simpa using hinv.targetFinalizedNoncesRequired hfinalized
      · rfl

/-- The end of a turn keeps the invariant and never panics. -/
theorem Inv.schedule (hinv : loop.Inv) :
    ∃ loop', loop.schedule race requiredHeaderId = some loop' ∧ loop'.Inv := by
  obtain ⟨loop₁, hloop₁, hinv₁⟩ : ∃ loop₁,
      (if loop.sourceClientIsOnline then loop.scheduleSource race requiredHeaderId else some loop) =
        some loop₁ ∧ loop₁.Inv := by
    split_ifs with honline
    · obtain ⟨loop₁, hloop₁⟩ := Option.isSome_iff_exists.mp hinv.scheduleSource_isSome
      exact ⟨loop₁, hloop₁, hinv.scheduleSource honline hloop₁⟩
    · exact ⟨loop, rfl, hinv⟩
  have htarget : ∃ loop',
      (if loop₁.targetClientIsOnline then loop₁.scheduleTarget else some loop₁) = some loop' ∧
        loop'.Inv := by
    split_ifs with honline
    · obtain ⟨loop', hloop'⟩ := Option.isSome_iff_exists.mp hinv₁.scheduleTarget_isSome
      exact ⟨loop', hloop', hinv₁.scheduleTarget honline hloop'⟩
    · exact ⟨loop₁, rfl, hinv₁⟩
  rwa [RaceLoop.schedule, hloop₁, Option.bind_some]

section Step

variable [DecidableEq SourceHeaderId] [DecidableEq TargetHeaderId]
  {event : RaceEvent SourceHeaderId TargetHeaderId Proof BatchTx R TargetNoncesData}

theorem Inv.step (hinv : loop.Inv) (h : loop.step race requiredHeaderId event = some loop') :
    loop'.Inv := by
  unfold RaceLoop.step at h
  split at h
  · rename_i loop₁ hloop₁
    obtain ⟨loop₂, hloop₂, hinv₂⟩ : ∃ loop₂, loop₁.schedule race requiredHeaderId = some loop₂ ∧
        loop₂.Inv := (hinv.handle hloop₁).schedule
    rw [hloop₂, Option.some_inj] at h
    exact h ▸ hinv₂
  · cases h

end Step

end RaceLoop

/-! ## One batch of nonces on its way

The loop itself lets the strategy select nonces whenever the source is online; it is the
strategy that waits for the selection to be submitted and the submission to be seen at the target
(`BasicStrategy::available_source_queue_indices` returns `None` until then).  With such a
strategy the race has at most one batch on its way, and what the target submits is the proof the
source generated, with the batch transaction it was generated for. -/

/-- The strategy selects no nonces while a proof waits to be submitted or a submission to be seen
at the target. -/
def RaceStrategy.Waits
    (race : RaceStrategy S SourceHeaderId TargetHeaderId Proof BatchTx R ProofParameters
      TargetNoncesData) : Prop :=
  ∀ strategy raceState selected, race.selectNoncesToDeliver strategy raceState = some selected →
    raceState.noncesToSubmit = none ∧ raceState.noncesSubmitted = none

namespace RaceLoop

variable {race : RaceStrategy S SourceHeaderId TargetHeaderId Proof BatchTx R ProofParameters
    TargetNoncesData}
  {loop loop' : RaceLoop S SourceHeaderId TargetHeaderId Proof BatchTx ProofParameters}
  {requiredHeaderId : BatchTx → SourceHeaderId}

/-- The batches of nonces on their way: proved at the source, proved and waiting for or being
submitted, submitted and not yet seen at the target. -/
def batchesOnTheirWay (loop : RaceLoop S SourceHeaderId TargetHeaderId Proof BatchTx ProofParameters) :
    ℕ :=
  loop.sourceGenerateProof.isSome.toNat + loop.raceState.noncesToSubmit.isSome.toNat +
    loop.raceState.noncesSubmitted.isSome.toNat

/-- At most one batch is on its way, and a submission in flight is of the proof the source
generated. -/
structure Pipeline (loop : RaceLoop S SourceHeaderId TargetHeaderId Proof BatchTx ProofParameters) :
    Prop where
  atMostOne : loop.batchesOnTheirWay ≤ 1
  submitting : ∀ submission, loop.targetSubmitProof = some submission →
    loop.raceState.noncesToSubmit = some submission.2 ∧
      loop.raceState.noncesToSubmitBatch = submission.1

theorem init_pipeline (strategy : S) :
    (init strategy : RaceLoop S SourceHeaderId TargetHeaderId Proof BatchTx ProofParameters).Pipeline
    where
  atMostOne := Nat.zero_le 1
  submitting := nofun

/-- No proof is submitted while the target is asked for something else or waits to retry. -/
theorem Inv.targetSubmitProof_eq_none (hinv : loop.Inv)
    (h : loop.targetBestNonces.isSome ∨ loop.targetFinalizedNonces.isSome) :
    loop.targetSubmitProof = none := by
  have htarget := hinv.target
  rw [← Option.not_isSome_iff_eq_none]
  grind [targetActivity]

/-- **The source is asked for a proof only with no batch on its way**, the strategy selecting
nothing otherwise. -/
theorem Pipeline.scheduleSource (hwaits : race.Waits) (hpipe : loop.Pipeline)
    (h : loop.scheduleSource race requiredHeaderId = some loop') : loop'.Pipeline := by
  obtain ⟨hone, hsubmitting⟩ := hpipe
  rcases scheduleSource_cases h with ⟨_, _, _, hselect, rfl⟩ | ⟨_, _, -, rfl⟩ | rfl
  · have hfree := hwaits _ _ _ (selectNoncesToDeliver_eq_some hselect).2
    obtain ⟨hwaiting, hsubmitted⟩ : loop.raceState.noncesToSubmit = none ∧
        loop.raceState.noncesSubmitted = none := by
      split at hfree <;> exact hfree
    refine ⟨?_, hsubmitting⟩
    simp [batchesOnTheirWay, hwaiting, hsubmitted]
  · exact ⟨hone, hsubmitting⟩
  · exact ⟨hone, hsubmitting⟩

/-- The target submits the proof waiting, with its batch transaction. -/
theorem Pipeline.scheduleTarget (hpipe : loop.Pipeline) (h : loop.scheduleTarget = some loop') :
    loop'.Pipeline := by
  obtain ⟨hone, hsubmitting⟩ := hpipe
  rcases scheduleTarget_cases h with ⟨_, _, _, hwaiting, rfl⟩ | ⟨_, -, rfl⟩ | ⟨_, -, rfl⟩ |
    ⟨_, -, rfl⟩ | rfl
  · exact ⟨hone, fun _ hsub ↦ by cases hsub; exact ⟨hwaiting, rfl⟩⟩
  all_goals exact ⟨hone, hsubmitting⟩

theorem Pipeline.schedule (hwaits : race.Waits) (hpipe : loop.Pipeline)
    (h : loop.schedule race requiredHeaderId = some loop') : loop'.Pipeline := by
  obtain ⟨loop₁, hloop₁, h⟩ := Option.bind_eq_some_iff.mp h
  have hpipe₁ : loop₁.Pipeline := by
    split at hloop₁
    · exact hpipe.scheduleSource hwaits hloop₁
    · exact Option.some.inj hloop₁ ▸ hpipe
  split at h
  · exact hpipe₁.scheduleTarget h
  · exact Option.some.inj h ▸ hpipe₁

/-- A change the strategy makes to the race state only drops batches: with no submission in
flight, a loop whose race state is the changed one keeps the pipeline. -/
theorem Pipeline.of_change (hpipe : loop.Pipeline) (change : RaceStateChange SourceHeaderId)
    (hidle : loop'.targetSubmitProof = none)
    (hsource : loop'.sourceGenerateProof = loop.sourceGenerateProof)
    (hrace : loop'.raceState = change.apply loop.raceState) : loop'.Pipeline := by
  refine ⟨?_, fun _ hsub ↦ nomatch hidle ▸ hsub⟩
  have hone := hpipe.atMostOne
  have h₁ := RaceStateChange.toNat_isSome_apply_noncesToSubmit_le change loop.raceState
  have h₂ := RaceStateChange.toNat_isSome_apply_noncesSubmitted_le change loop.raceState
  simp only [batchesOnTheirWay, hsource, hrace] at hone ⊢
  omega

section PipelineRun

variable [DecidableEq SourceHeaderId] [DecidableEq TargetHeaderId]
  {event : RaceEvent SourceHeaderId TargetHeaderId Proof BatchTx R TargetNoncesData}

/-- **Every branch of the `select!` keeps at most one batch on its way.**  A proof arrives
for the one batch there is; a submission that ends moves its batch from the proof waiting to the
nonces submitted, or drops it; the strategy and the tracker of the transaction only drop
batches. -/
theorem Pipeline.handle (hinv : loop.Inv) (hpipe : loop.Pipeline)
    (h : loop.handle race event = some (.ok loop')) : loop'.Pipeline := by
  obtain ⟨hone, hsubmitting⟩ := hpipe
  cases event <;> simp only [RaceLoop.handle] at h
  case sourceUpdated =>
    cases h
    split <;> exact ⟨hone, hsubmitting⟩
  case targetUpdated =>
    cases h
    split_ifs <;> exact ⟨hone, hsubmitting⟩
  case sourceNonces =>
    obtain ⟨-, online, rfl⟩ := online_map_eq_some_ok h
    exact ⟨hone, hsubmitting⟩
  case targetBestNonces result =>
    obtain ⟨hx, online, rfl⟩ := online_map_eq_some_ok h
    have hidle := hinv.targetSubmitProof_eq_none (.inl hx)
    rcases result with ⟨_, nonces⟩ | _ | _
    · exact Pipeline.of_change ⟨hone, hsubmitting⟩
        (race.bestTargetNoncesUpdated loop.strategy nonces loop.raceState).2 hidle rfl rfl
    · exact ⟨hone, hsubmitting⟩
    · exact ⟨hone, hsubmitting⟩
  case targetFinalizedNonces result =>
    obtain ⟨hx, online, rfl⟩ := online_map_eq_some_ok h
    have hidle := hinv.targetSubmitProof_eq_none (.inr hx)
    rcases result with ⟨_, nonces⟩ | _ | _
    · exact Pipeline.of_change ⟨hone, hsubmitting⟩
        (race.finalizedTargetNoncesUpdated loop.strategy nonces loop.raceState).2 hidle rfl rfl
    · exact ⟨hone, hsubmitting⟩
    · exact ⟨hone, hsubmitting⟩
  case targetRequireSourceHeader =>
    obtain ⟨-, online, rfl⟩ := online_map_eq_some_ok h
    exact ⟨hone, hsubmitting⟩
  case sourceGenerateProof result =>
    obtain ⟨x, hx, h⟩ := Option.map_eq_some_iff.mp h
    cases result <;> simp only [reduceCtorEq, Except.ok.injEq] at h
    subst h
    have hwaiting : loop.raceState.noncesToSubmit = none := by
      rw [← Option.not_isSome_iff_eq_none]
      intro hsome
      simp only [batchesOnTheirWay, hx, hsome, Option.isSome_some, Bool.toNat_true] at hone
      omega
    refine ⟨?_, fun submission hsub ↦ ?_⟩
    · simp only [batchesOnTheirWay, hx, hwaiting, Option.isSome_some, Option.isSome_none,
        Bool.toNat_true, Bool.toNat_false] at hone ⊢
      omega
    · simpa [hwaiting] using hsubmitting submission hsub
  case targetSubmitProof result =>
    obtain ⟨hx, online, rfl⟩ := online_map_eq_some_ok h
    obtain ⟨submission, hsubmission⟩ := Option.isSome_iff_exists.mp hx
    have hwaiting := (hsubmitting submission hsubmission).1
    cases result <;> refine ⟨?_, nofun⟩ <;>
      simp only [batchesOnTheirWay, hwaiting, RaceStateImpl.resetNoncesToSubmit, Option.isSome_some,
        Option.isSome_none, Bool.toNat_true, Bool.toNat_false] at hone ⊢ <;>
      omega
  case targetTxTracker =>
    split at h
    · cases h
      refine ⟨?_, fun submission hsub ↦ ?_⟩
      · simp only [batchesOnTheirWay, RaceStateChange.apply_noncesToSubmit, Bool.false_eq_true,
          reduceIte] at hone ⊢
        exact Nat.le_trans
          (Nat.add_le_add_left (RaceStateChange.toNat_isSome_apply_noncesSubmitted_le _ _) _) hone
      · simpa [RaceStateChange.apply_noncesToSubmit, RaceStateChange.apply_noncesToSubmitBatch]
          using hsubmitting submission hsub
    · cases h
  case sourceGoOffline =>
    split at h
    · cases h
      exact ⟨hone, hsubmitting⟩
    · cases h
  case targetGoOffline =>
    split at h
    · cases h
      exact ⟨hone, hsubmitting⟩
    · cases h

theorem Pipeline.step (hwaits : race.Waits) (hinv : loop.Inv) (hpipe : loop.Pipeline)
    (h : loop.step race requiredHeaderId event = some loop') : loop'.Pipeline := by
  unfold RaceLoop.step at h
  split at h
  · rename_i loop₁ hloop₁
    exact (hpipe.handle hinv hloop₁).schedule hwaits h
  · cases h

end PipelineRun

end RaceLoop

/-! ## The basic strategy in the race loop

`BasicStrategy` reads the race state through the `RaceState` methods, and
`best_target_nonces_updated` resets the selection or the submission that the target already
has nonces of.  As a `RaceStrategy` it waits, so that the race has one batch on its way. -/

/-- The race state as `BasicStrategy` reads it: `nonces_to_submit` is the nonces of the
selection. -/
def RaceStateImpl.toRaceState {SourceHash : Type}
    (raceState : RaceStateImpl (HeaderId SourceHash) TargetHeaderId Proof BatchTx) :
    RaceState SourceHash :=
  { bestFinalizedSourceHeaderIdAtBestTarget := raceState.bestFinalizedSourceHeaderIdAtBestTarget
    noncesToSubmit := raceState.noncesToSubmit.map fun (_, nonces, _) ↦ nonces
    noncesSubmitted := raceState.noncesSubmitted }

namespace BasicStrategy

variable {SourceHash : Type}

/-- The calls `best_target_nonces_updated` makes on the race state. -/
def bestTargetNoncesChange (nonces : TargetClientNonces Unit) (raceState : RaceState SourceHash) :
    RaceStateChange (HeaderId SourceHash) :=
  { resetNoncesToSubmit :=
      (raceState.noncesToSubmit.map fun range ↦ decide (range.1 ≤ nonces.latestNonce)).getD false
    resetNoncesSubmitted :=
      (raceState.noncesSubmitted.map fun range ↦ decide (range.1 ≤ nonces.latestNonce)).getD false
    setBestFinalizedSourceHeaderIdAtBestTarget := none }

/-- The calls make of the race state what `bestTargetNoncesUpdated` makes of its view. -/
theorem toRaceState_apply_bestTargetNoncesChange (strategy : BasicStrategy SourceHash R)
    (nonces : TargetClientNonces Unit)
    (raceState : RaceStateImpl (HeaderId SourceHash) TargetHeaderId Proof BatchTx) :
    ((bestTargetNoncesChange nonces raceState.toRaceState).apply raceState).toRaceState =
      (strategy.bestTargetNoncesUpdated nonces raceState.toRaceState).2 := by
  simp only [RaceStateImpl.toRaceState, bestTargetNoncesUpdated, bestTargetNoncesChange,
    RaceStateChange.apply_bestFinalizedSourceHeaderIdAtBestTarget, RaceStateChange.apply_noncesToSubmit,
    RaceStateChange.apply_noncesSubmitted, Option.none_or, Option.map_map]
  split_ifs <;> simp_all

end BasicStrategy

/-- `BasicStrategy` as the race loop calls it. -/
def basicRace {SourceHash : Type} [NoncesRange R] :
    RaceStrategy (BasicStrategy SourceHash R) (HeaderId SourceHash) TargetHeaderId Proof BatchTx R Unit
      Unit where
  requiredSourceHeaderAtTarget strategy raceState :=
    strategy.requiredSourceHeaderAtTarget raceState.toRaceState
  bestAtSource strategy := strategy.bestAtSource
  sourceNoncesUpdated strategy atBlock nonces := strategy.sourceNoncesUpdated atBlock nonces
  resetBestTargetNonces strategy := strategy.resetBestTargetNonces
  bestTargetNoncesUpdated strategy nonces raceState :=
    ((strategy.bestTargetNoncesUpdated nonces raceState.toRaceState).1,
      BasicStrategy.bestTargetNoncesChange nonces raceState.toRaceState)
  -- the finalized nonces leave the race state alone
  finalizedTargetNoncesUpdated strategy nonces _ :=
    (strategy.finalizedTargetNoncesUpdated nonces, ⟨false, false, none⟩)
  selectNoncesToDeliver strategy raceState :=
    (strategy.selectNoncesToDeliver raceState.toRaceState).map fun noncesRange ↦ (noncesRange, ())

/-- The basic strategy waits. -/
theorem basicRace_waits {SourceHash : Type} [NoncesRange R] :
    (basicRace : RaceStrategy (BasicStrategy SourceHash R) (HeaderId SourceHash) TargetHeaderId
      Proof BatchTx R Unit Unit).Waits := by
  intro strategy raceState selected h
  obtain ⟨_, hselect, -⟩ := Option.map_eq_some_iff.mp h
  obtain ⟨hwaiting, hsubmitted⟩ := BasicStrategy.selectNoncesToDeliver_eq_some_idle hselect
  exact ⟨Option.map_eq_none_iff.mp hwaiting, hsubmitted⟩

/-! ## Runs of the race -/

namespace RaceLoop

variable [DecidableEq SourceHeaderId] [DecidableEq TargetHeaderId]
  {race : RaceStrategy S SourceHeaderId TargetHeaderId Proof BatchTx R ProofParameters
    TargetNoncesData}
  {loop : RaceLoop S SourceHeaderId TargetHeaderId Proof BatchTx ProofParameters}
  {requiredHeaderId : BatchTx → SourceHeaderId}

/-- A race of the basic strategy: the target knows the source's header 10 and has no nonces, the
source has nonces 1 to 3 at header 10; the source proves them, and the target is given the proof
to submit. -/
def basicRun : List (RaceEvent (HeaderId ℕ) (HeaderId ℕ) Unit Unit (ℕ × ℕ) Unit) :=
  [.sourceUpdated ⟨10, 10⟩, .targetUpdated ⟨5, 5⟩ (some ⟨10, 10⟩) ⟨5, 5⟩,
    .targetBestNonces (.ok (⟨5, 5⟩, ⟨0, ()⟩)), .sourceNonces (.ok (⟨10, 10⟩, ⟨(1, 3), none⟩)),
    .sourceGenerateProof (.ok (⟨10, 10⟩, (1, 3), ())), .targetFinalizedNonces (.ok (⟨5, 5⟩, ⟨0, ()⟩))]

/-- The locals after `basicRun`. -/
def basicRunLoop : RaceLoop (BasicStrategy ℕ (ℕ × ℕ)) (HeaderId ℕ) (HeaderId ℕ) Unit Unit Unit :=
  (Trace.runEvents (fun loop ↦ loop.step basicRace fun _ ↦ ⟨0, 0⟩) (init .new) basicRun).getD
    (init .new)

/-- **Along every run of the race loop**, whatever the strategy, the clients' answers and the
order in which the `select!` yields them, each client is online, has exactly one request in
flight, or waits for its retry delay; and a turn whose branch runs to its end never panics in the
scheduling that follows. -/
theorem raceLoop_run {strategy : S}
    {events : List (RaceEvent SourceHeaderId TargetHeaderId Proof BatchTx R TargetNoncesData)}
    (hrun : Trace.runEvents (fun loop ↦ loop.step race requiredHeaderId) (init strategy) events =
      some loop) :
    loop.Inv ∧ ∀ event loop₁, loop.handle race event = some (.ok loop₁) →
      (loop.step race requiredHeaderId event).isSome := by
  have hinv : loop.Inv := invariant_of_reflTransGen (Trace.reflTransGen_of_runEvents hrun)
    (init_inv strategy) fun _ _ hinv ⟨_, hstep⟩ ↦ hinv.step hstep
  refine ⟨hinv, fun event loop₁ hloop₁ ↦ ?_⟩
  obtain ⟨loop₂, hloop₂, -⟩ : ∃ loop₂, loop₁.schedule race requiredHeaderId = some loop₂ ∧
      loop₂.Inv := (hinv.handle hloop₁).schedule
  simp only [RaceLoop.step, hloop₁, hloop₂, Option.isSome_some]

theorem raceLoop_run_basicRun :
    basicRunLoop.Inv ∧ ∀ event loop₁, basicRunLoop.handle basicRace event = some (.ok loop₁) →
      (basicRunLoop.step basicRace (fun _ ↦ ⟨0, 0⟩) event).isSome :=
  raceLoop_run (rfl : Trace.runEvents (fun loop ↦ loop.step basicRace fun _ ↦ ⟨0, 0⟩) (init .new)
    basicRun = some basicRunLoop)

/-- **With a strategy that waits, the race has at most one batch of nonces on its way** along
every run: being proved, proved and waiting for or being submitted, or submitted and not yet seen
at the target; and what the target is given to submit is the proof the source generated, with the
batch transaction it was generated for. -/
theorem raceLoop_run_pipeline (hwaits : race.Waits) {strategy : S}
    {events : List (RaceEvent SourceHeaderId TargetHeaderId Proof BatchTx R TargetNoncesData)}
    (hrun : Trace.runEvents (fun loop ↦ loop.step race requiredHeaderId) (init strategy) events =
      some loop) :
    loop.batchesOnTheirWay ≤ 1 ∧ ∀ submission, loop.targetSubmitProof = some submission →
      loop.raceState.noncesToSubmit = some submission.2 ∧
        loop.raceState.noncesToSubmitBatch = submission.1 := by
  have hrun' := invariant_of_reflTransGen (P := fun loop ↦ loop.Inv ∧ loop.Pipeline)
    (Trace.reflTransGen_of_runEvents hrun) ⟨init_inv strategy, init_pipeline strategy⟩
    fun _ _ ⟨hinv, hpipe⟩ ⟨_, hstep⟩ ↦ ⟨hinv.step hstep, hpipe.step hwaits hinv hstep⟩
  exact ⟨hrun'.2.atMostOne, hrun'.2.submitting⟩

theorem raceLoop_run_pipeline_basicRun :
    basicRunLoop.batchesOnTheirWay ≤ 1 ∧ ∀ submission, basicRunLoop.targetSubmitProof = some submission →
      basicRunLoop.raceState.noncesToSubmit = some submission.2 ∧
        basicRunLoop.raceState.noncesToSubmitBatch = submission.1 :=
  raceLoop_run_pipeline basicRace_waits
    (rfl : Trace.runEvents (fun loop ↦ loop.step basicRace fun _ ↦ ⟨0, 0⟩) (init .new)
      basicRun = some basicRunLoop)

example : basicRunLoop.targetSubmitProof = some (none, ⟨10, 10⟩, (1, 3), ()) := by decide

end RaceLoop

end Relay
