import SoloParaBridge.Finality.Loop
import SoloParaBridge.OnDemand.Parachains

/-!
# The parachains relay loop

`parachains_relay::parachains_loop::run_until_connection_lost`.  Each iteration asks whether the
node of the source relay chain is synced, reads the head of the parachain the target knows, and
checks the transaction it submitted last (`SubmittedHeadsTracker::update`): the target has the
head, or the transaction is on its way, or it was lost or finalized without the head, after which
the loop returns `FailedClient::Both`.  With no transaction on its way, it reads the head at the
best relay block the target knows and, if `is_update_required`, submits a proof of it.  Every
failed call ends the loop with the client that failed, and `relay_loop` reconnects it and starts
the loop again with no tracker (`step`).

A client is what it answers in one iteration (`SourceClient`, `TargetClient`), `none` for a call
that fails; the transaction's tracker is what polling it gives.  `ParachainsSource` is the source
client of `lib_substrate_relay` over the storage of the relay chain: it reports no head above
`max_head_id`, and proves the head the storage holds.

Along every run:

* a submission proves the head at the best relay block the target knows, and only when the
  target's head is behind it (`submitted_spec`);
* one transaction at a time (`submissions_run`): after a submission, the loop submits again only
  once the target has the head, or once an iteration failed and the loop started again;
* with `ParachainsSource`, what is submitted is the head in the storage, which may lie above the
  `max_head_id` the tracker waits for (`submitted_onChainHead`);
* a parachain the relay chain no longer has (`deregistered_run`): `is_update_required` asks to
  propagate its removal to a target that still has a head, but `prove_parachain_head` has no head
  to prove.  The loop never submits, and once its last transaction is done, every iteration fails
  with `FailedClient::Source`.
-/

set_option autoImplicit false

namespace ParachainsRelay

open HeaderChain (HeaderId)
open Finality (TrackedTransactionStatus)
open Trace

/-- `AvailableHeader`: a head of the parachain, as a client reports it. -/
inductive AvailableHeader (α : Type) where
  /-- The client cannot report the head now, and asks not to update it. -/
  | unavailable
  /-- The relay chain has no head of the parachain. -/
  | missing
  | available (header : α)
  deriving DecidableEq, Repr

/-- `FailedClient`: the client a relay loop failed with. -/
inductive FailedClient where
  | source
  | target
  | both
  deriving DecidableEq, Repr

variable {ParaHash Proof : Type}

/-- `is_update_required`. -/
def isUpdateRequired :
    AvailableHeader (HeaderId ParaHash) → Option (HeaderId ParaHash) → Bool
  -- the source client has asked not to update the head
  | .unavailable, _ => false
  | .available headAtSource, some headAtTarget =>
    decide (headAtSource.number > headAtTarget.number)
  -- the parachain is not yet known to the target
  | .available _, none => true
  -- the parachain has been offboarded, which needs to be propagated to the target
  | .missing, some _ => true
  | .missing, none => false

/-- The transaction `submit_parachain_head_proof` sends: the relay block the proof is at, the
hash of the head, and the proof. -/
structure Submission (ParaHash Proof : Type) where
  atRelayBlock : ℕ
  paraHeadHash : ParaHash
  proof : Proof
  deriving DecidableEq, Repr

/-- `SubmittedHeadsTracker`: the head submitted.  Its transaction's tracker is what polling it
gives in each iteration. -/
structure SubmittedHeadsTracker (ParaHash : Type) where
  submittedHead : AvailableHeader (HeaderId ParaHash)
  deriving DecidableEq, Repr

/-- `SubmittedHeadStatus`. -/
inductive SubmittedHeadStatus (ParaHash : Type) where
  | waiting (tracker : SubmittedHeadsTracker ParaHash)
  | final (status : TrackedTransactionStatus)
  deriving DecidableEq, Repr

/-- `is_head_updated` of `SubmittedHeadsTracker::update`: the target has the submitted head, or a
later one. -/
def isHeadUpdated :
    AvailableHeader (HeaderId ParaHash) → Option (HeaderId ParaHash) → Bool
  | .available submittedHead, some headAtTarget =>
    decide (headAtTarget.number ≥ submittedHead.number)
  | .missing, none => true
  | _, _ => false

/-- `SubmittedHeadsTracker::update`, with what polling the transaction's tracker gives: `none`
while the transaction is on its way. -/
def SubmittedHeadsTracker.update (tracker : SubmittedHeadsTracker ParaHash)
    (headAtTarget : Option (HeaderId ParaHash))
    (transactionStatus : Option TrackedTransactionStatus) : SubmittedHeadStatus ParaHash :=
  if isHeadUpdated tracker.submittedHead headAtTarget then .final .finalized
  else
    match transactionStatus with
    | some .lost => .final .lost
    -- mined and finalized, but the head was not updated: the loop has stalled
    | some .finalized => .final .lost
    | none => .waiting tracker

/-- What the source client answers in one iteration; `none` for a call that fails. -/
structure SourceClient (ParaHash Proof : Type) where
  /-- `ensure_synced`. -/
  ensureSynced : Option Bool
  /-- `parachain_head` at a relay block. -/
  parachainHead : ℕ → Option (AvailableHeader (HeaderId ParaHash))
  /-- `prove_parachain_head` at a relay block: the proof, and the hash of the head. -/
  proveParachainHead : ℕ → Option (Proof × ParaHash)

/-- What the target client answers in one iteration; `none` for a call that fails. -/
structure TargetClient (ParaHash : Type) where
  /-- `best_block`, then `parachain_head` at it. -/
  parachainHead : Option (Option (HeaderId ParaHash))
  /-- `best_finalized_source_relay_chain_block` at the best block. -/
  bestFinalizedSourceRelayChainBlock : Option ℕ
  /-- Whether `submit_parachain_head_proof` succeeds. -/
  submitParachainHeadProof : Bool

/-- What one iteration reads: the answers of the two clients, and what polling the tracker of the
last transaction gives. -/
structure Iteration (ParaHash Proof : Type) where
  source : SourceClient ParaHash Proof
  target : TargetClient ParaHash
  transactionStatus : Option TrackedTransactionStatus

/-- The end of an iteration with no transaction on its way: read the head at the best relay block
the target knows, and submit a proof of it if an update is required. -/
def submitIfRequired (it : Iteration ParaHash Proof) (headAtTarget : Option (HeaderId ParaHash)) :
    Except FailedClient
      (Option (SubmittedHeadsTracker ParaHash) × Option (Submission ParaHash Proof)) :=
  match it.target.bestFinalizedSourceRelayChainBlock with
  | none => .error .target
  | some bestFinalizedRelayBlock =>
    match it.source.parachainHead bestFinalizedRelayBlock with
    | none => .error .source
    | some headAtSource =>
      if isUpdateRequired headAtSource headAtTarget then
        match it.source.proveParachainHead bestFinalizedRelayBlock with
        | none => .error .source
        | some (headProof, headHash) =>
          if it.target.submitParachainHeadProof then
            .ok (some ⟨headAtSource⟩, some ⟨bestFinalizedRelayBlock, headHash, headProof⟩)
          else .error .target
      else .ok (none, none)

/-- One iteration of the loop of `run_until_connection_lost`, from the tracker of the last
transaction: the tracker it leaves and the transaction it submits, or the client that failed. -/
def iterate (tracker : Option (SubmittedHeadsTracker ParaHash)) (it : Iteration ParaHash Proof) :
    Except FailedClient
      (Option (SubmittedHeadsTracker ParaHash) × Option (Submission ParaHash Proof)) :=
  match it.source.ensureSynced with
  | none => .error .source
  -- the node of the source is syncing: nothing is done until it is synced
  | some false => .ok (tracker, none)
  | some true =>
    match it.target.parachainHead with
    | none => .error .target
    | some headAtTarget =>
      match tracker with
      | none => submitIfRequired it headAtTarget
      | some tracker =>
        match tracker.update headAtTarget it.transactionStatus with
        -- no news of the transaction: keep waiting
        | .waiting tracker => .ok (some tracker, none)
        | .final .lost => .error .both
        | .final .finalized => submitIfRequired it headAtTarget

/-- An iteration under `relay_loop`: a failed one ends `run_until_connection_lost`, and the relay
loop reconnects the failed client and starts it again, with no tracker. -/
def step (it : Iteration ParaHash Proof) (tracker : Option (SubmittedHeadsTracker ParaHash)) :
    Option (SubmittedHeadsTracker ParaHash) :=
  match iterate tracker it with
  | .ok (tracker, _) => tracker
  | .error _ => none

/-- The tracker before each iteration of a run. -/
def loopStates (iterations : ℕ → Iteration ParaHash Proof) :
    ℕ → Option (SubmittedHeadsTracker ParaHash) :=
  runInputs step none iterations

/-- The transaction iteration `i` of a run submits, if any. -/
def submitted (iterations : ℕ → Iteration ParaHash Proof) (i : ℕ) :
    Option (Submission ParaHash Proof) :=
  match iterate (loopStates iterations i) (iterations i) with
  | .ok (_, submission) => submission
  | .error _ => none

/-! ## The source client of `lib_substrate_relay` -/

/-- `std::cmp::min` of two header ids, under their derived order: numbers first, then hashes. -/
def minHeaderId [Ord ParaHash] (a b : HeaderId ParaHash) : HeaderId ParaHash :=
  if (compare a.number b.number).then (compare a.hash b.hash) = .gt then b else a

/-- The source relay chain as `ParachainsSource` reads it, its node answering every request:
besides the best finalized block and the head of the parachain in the storage at each block
(`on_chain_para_head_id`), whether the node is synced and the storage proof at each block.  The
hash of the head data is that of the header it encodes. -/
structure SourceRelayChain (ParaHash Proof : Type) extends OnDemand.SourceRelayChain ParaHash where
  isSynced : Bool
  proveStorage : ℕ → Proof

namespace ParachainsSource

variable [Ord ParaHash]

/-- `ParachainsSource::parachain_head`, under the limit `max_head_id`. -/
def parachainHead (chain : SourceRelayChain ParaHash Proof)
    (maxHeadId : AvailableHeader (HeaderId ParaHash)) (atBlock : ℕ) :
    AvailableHeader (HeaderId ParaHash) :=
  -- the state of an ancient block may be pruned
  if OnDemand.isAncientBlock atBlock chain.bestFinalizedHeader then .unavailable
  else
    match chain.paraHeadId atBlock with
    | none => .missing
    | some onChainParaHeadId =>
      match maxHeadId with
      | .unavailable => .unavailable
      -- no limit
      | .missing => .available onChainParaHeadId
      -- never a head above the one asked for
      | .available maxHeadId => .available (minHeaderId onChainParaHeadId maxHeadId)

/-- `ParachainsSource::prove_parachain_head`: it reads the head in the storage again, and fails
when there is none. -/
def proveParachainHead (chain : SourceRelayChain ParaHash Proof) (atBlock : ℕ) :
    Option (Proof × ParaHash) :=
  (chain.paraHeadId atBlock).map fun parachainHead ↦ (chain.proveStorage atBlock, parachainHead.hash)

/-- `ParachainsSource` as the loop's source client. -/
def client (chain : SourceRelayChain ParaHash Proof)
    (maxHeadId : AvailableHeader (HeaderId ParaHash)) : SourceClient ParaHash Proof :=
  ⟨some chain.isSynced, fun atBlock ↦ some (parachainHead chain maxHeadId atBlock),
    proveParachainHead chain⟩

end ParachainsSource

/-! ## What one iteration does -/

section Iteration

/-- Away from `Unavailable`, the tracker's check is the negation of `is_update_required`: the
target needs a head exactly when it does not have it. -/
theorem isHeadUpdated_eq_not_isUpdateRequired {head : AvailableHeader (HeaderId ParaHash)}
    (h : head ≠ .unavailable) (headAtTarget : Option (HeaderId ParaHash)) :
    isHeadUpdated head headAtTarget = !isUpdateRequired head headAtTarget := by
  cases head with
  | unavailable => exact absurd rfl h
  | missing => cases headAtTarget <;> rfl
  | available head =>
    cases headAtTarget with
    | none => rfl
    | some headAtTarget =>
      simp only [isHeadUpdated, isUpdateRequired, ge_iff_le, gt_iff_lt, ← decide_not, Nat.not_lt]

/-- **What the tracker's update does**: the target has the head; or it does not, and the
transaction is on its way; or it does not, and the transaction is done. -/
theorem update_cases (tracker : SubmittedHeadsTracker ParaHash)
    (headAtTarget : Option (HeaderId ParaHash))
    (transactionStatus : Option TrackedTransactionStatus) :
    (isHeadUpdated tracker.submittedHead headAtTarget = true ∧
        tracker.update headAtTarget transactionStatus = .final .finalized) ∨
      (isHeadUpdated tracker.submittedHead headAtTarget = false ∧ transactionStatus = none ∧
        tracker.update headAtTarget transactionStatus = .waiting tracker) ∨
      (isHeadUpdated tracker.submittedHead headAtTarget = false ∧
        tracker.update headAtTarget transactionStatus = .final .lost) := by
  unfold SubmittedHeadsTracker.update
  cases hupdated : isHeadUpdated tracker.submittedHead headAtTarget with
  | true => exact .inl ⟨rfl, rfl⟩
  | false =>
    rcases transactionStatus with _ | _ | _
    · exact .inr (.inl ⟨rfl, rfl, rfl⟩)
    · exact .inr (.inr ⟨rfl, rfl⟩)
    · exact .inr (.inr ⟨rfl, rfl⟩)

variable {it : Iteration ParaHash Proof} {headAtTarget : Option (HeaderId ParaHash)}
  {tracker tracker' : Option (SubmittedHeadsTracker ParaHash)}
  {submission : Option (Submission ParaHash Proof)}

/-- What an iteration with no transaction on its way does when it goes through: nothing, when no
update is required; otherwise it submits the proof of the head at the best relay block the target
knows, and tracks that head. -/
theorem submitIfRequired_eq_ok (h : submitIfRequired it headAtTarget = .ok (tracker', submission)) :
    ∃ relayBlock headAtSource, it.target.bestFinalizedSourceRelayChainBlock = some relayBlock ∧
      it.source.parachainHead relayBlock = some headAtSource ∧
      ((isUpdateRequired headAtSource headAtTarget = false ∧ tracker' = none ∧ submission = none) ∨
        ∃ headProof headHash, isUpdateRequired headAtSource headAtTarget = true ∧
          it.source.proveParachainHead relayBlock = some (headProof, headHash) ∧
          it.target.submitParachainHeadProof = true ∧ tracker' = some ⟨headAtSource⟩ ∧
          submission = some ⟨relayBlock, headHash, headProof⟩) := by
  unfold submitIfRequired at h
  cases hblock : it.target.bestFinalizedSourceRelayChainBlock with
  | none => simp [hblock] at h
  | some relayBlock =>
    cases hhead : it.source.parachainHead relayBlock with
    | none => simp [hblock, hhead] at h
    | some headAtSource =>
      simp only [hblock, hhead] at h
      refine ⟨relayBlock, headAtSource, rfl, hhead, ?_⟩
      cases hrequired : isUpdateRequired headAtSource headAtTarget with
      | false =>
        simp only [hrequired, Bool.false_eq_true, if_false, Except.ok.injEq, Prod.mk.injEq] at h
        exact .inl ⟨rfl, h.1.symm, h.2.symm⟩
      | true =>
        cases hproof : it.source.proveParachainHead relayBlock with
        | none => simp [hrequired, hproof] at h
        | some proved =>
          obtain ⟨headProof, headHash⟩ := proved
          cases hsubmit : it.target.submitParachainHeadProof with
          | false => simp [hrequired, hproof, hsubmit] at h
          | true =>
            simp only [hrequired, hproof, hsubmit, if_true, Except.ok.injEq, Prod.mk.injEq] at h
            exact .inr ⟨headProof, headHash, rfl, rfl, rfl, h.1.symm, h.2.symm⟩

/-- **What an iteration does when it goes through.**  The node of the source is syncing, and
nothing changes; or the transaction is on its way, its head not at the target; or there is no
transaction on its way, and the iteration ends as `submitIfRequired` does. -/
theorem iterate_eq_ok (h : iterate tracker it = .ok (tracker', submission)) :
    (it.source.ensureSynced = some false ∧ tracker' = tracker ∧ submission = none) ∨
      ∃ headAtTarget, it.source.ensureSynced = some true ∧
        it.target.parachainHead = some headAtTarget ∧
        ((∃ t, tracker = some t ∧ isHeadUpdated t.submittedHead headAtTarget = false ∧
            tracker' = tracker ∧ submission = none) ∨
          ((∀ t, tracker = some t → isHeadUpdated t.submittedHead headAtTarget = true) ∧
            submitIfRequired it headAtTarget = .ok (tracker', submission))) := by
  unfold iterate at h
  cases hsynced : it.source.ensureSynced with
  | none => simp [hsynced] at h
  | some synced =>
    cases synced with
    | false =>
      simp only [hsynced, Except.ok.injEq, Prod.mk.injEq] at h
      exact .inl ⟨rfl, h.1.symm, h.2.symm⟩
    | true =>
      cases hhead : it.target.parachainHead with
      | none => simp [hsynced, hhead] at h
      | some headAtTarget =>
        simp only [hsynced, hhead] at h
        refine .inr ⟨headAtTarget, rfl, rfl, ?_⟩
        cases tracker with
        | none => exact .inr ⟨(fun t ht ↦ nomatch ht), h⟩
        | some t =>
          rcases update_cases t headAtTarget it.transactionStatus with
            ⟨hupdated, hfinal⟩ | ⟨hupdated, -, hwaiting⟩ | ⟨-, hlost⟩
          · simp only [hfinal] at h
            exact .inr ⟨fun t' ht' ↦ Option.some.inj ht' ▸ hupdated, h⟩
          · simp only [hwaiting, Except.ok.injEq, Prod.mk.injEq] at h
            exact .inl ⟨t, rfl, hupdated, h.1.symm, h.2.symm⟩
          · simp [hlost] at h

end Iteration

/-! ## Along a run -/

section Run

variable (iterations : ℕ → Iteration ParaHash Proof)

@[simp] theorem loopStates_zero : loopStates iterations 0 = none :=
  rfl

theorem loopStates_succ (i : ℕ) :
    loopStates iterations (i + 1) = step (iterations i) (loopStates iterations i) :=
  rfl

variable {iterations}

/-- An iteration that goes through leaves its tracker for the next one, and submits its
transaction. -/
theorem loopStates_succ_of_eq_ok {i : ℕ} {tracker' : Option (SubmittedHeadsTracker ParaHash)}
    {submission : Option (Submission ParaHash Proof)}
    (h : iterate (loopStates iterations i) (iterations i) = .ok (tracker', submission)) :
    loopStates iterations (i + 1) = tracker' ∧ submitted iterations i = submission := by
  rw [loopStates_succ, step, submitted, h]
  exact ⟨rfl, rfl⟩

/-- A failed iteration submits nothing, and the loop starts again with no tracker. -/
theorem loopStates_succ_of_eq_error {i : ℕ} {failed : FailedClient}
    (h : iterate (loopStates iterations i) (iterations i) = .error failed) :
    loopStates iterations (i + 1) = none ∧ submitted iterations i = none := by
  rw [loopStates_succ, step, submitted, h]
  exact ⟨rfl, rfl⟩

/-- **What a submission is.**  The loop submits the proof and hash the source gives at the best
relay block the target knows, of a head the target's head is behind; it had no transaction on its
way, and tracks the new head from then on. -/
theorem submitted_spec {i : ℕ} {submission : Submission ParaHash Proof}
    (h : submitted iterations i = some submission) :
    ∃ headAtTarget headAtSource,
      (iterations i).target.parachainHead = some headAtTarget ∧
      (iterations i).target.bestFinalizedSourceRelayChainBlock = some submission.atRelayBlock ∧
      (iterations i).source.parachainHead submission.atRelayBlock = some headAtSource ∧
      isUpdateRequired headAtSource headAtTarget = true ∧
      (iterations i).source.proveParachainHead submission.atRelayBlock =
        some (submission.proof, submission.paraHeadHash) ∧
      (∀ tracker, loopStates iterations i = some tracker →
        isHeadUpdated tracker.submittedHead headAtTarget = true) ∧
      loopStates iterations (i + 1) = some ⟨headAtSource⟩ := by
  cases hiterate : iterate (loopStates iterations i) (iterations i) with
  | error failed =>
    rw [(loopStates_succ_of_eq_error hiterate).2] at h
    cases h
  | ok result =>
    obtain ⟨tracker', submission'⟩ := result
    obtain ⟨hnext, hsubmitted⟩ := loopStates_succ_of_eq_ok hiterate
    rw [hsubmitted] at h
    subst h
    rcases iterate_eq_ok hiterate with ⟨-, -, hnone⟩ | ⟨headAtTarget, -, htarget, hcases⟩
    · cases hnone
    rcases hcases with ⟨-, -, -, -, hnone⟩ | ⟨hdone, hsubmit⟩
    · cases hnone
    obtain ⟨relayBlock, headAtSource, hblock, hhead, hrequired⟩ := submitIfRequired_eq_ok hsubmit
    rcases hrequired with ⟨-, -, hnone⟩ | ⟨headProof, headHash, hrequired, hproof, -, htracker, hsome⟩
    · cases hnone
    obtain rfl := Option.some.inj hsome
    exact ⟨headAtTarget, headAtSource, htarget, hblock, hhead, hrequired, hproof, hdone,
      hnext.trans htracker⟩

/-- A relay chain whose parachain head at each block `n` is header `n`, with hash `n`. -/
def testChain : SourceRelayChain ℕ Unit :=
  { bestFinalizedHeader := 20, paraHeadId := fun n ↦ some ⟨n, n⟩, isSynced := true,
    proveStorage := fun _ ↦ () }

/-- The target has no head and knows the relay block `5`; from then on it has head `5` and knows
the relay block `7`. -/
def twoHeads : ℕ → Iteration ℕ Unit
  | 0 => ⟨ParachainsSource.client testChain .missing, ⟨some none, some 5, true⟩, none⟩
  | _ + 1 => ⟨ParachainsSource.client testChain .missing, ⟨some (some ⟨5, 5⟩), some 7, true⟩, none⟩

/-- The second iteration submits head `7` at the relay block `7`, once head `5` is at the
target. -/
example :
    ∃ headAtTarget headAtSource,
      (twoHeads 1).target.parachainHead = some headAtTarget ∧
      (twoHeads 1).target.bestFinalizedSourceRelayChainBlock = some 7 ∧
      (twoHeads 1).source.parachainHead 7 = some headAtSource ∧
      isUpdateRequired headAtSource headAtTarget = true ∧
      (twoHeads 1).source.proveParachainHead 7 = some ((), 7) ∧
      (∀ tracker, loopStates twoHeads 1 = some tracker →
        isHeadUpdated tracker.submittedHead headAtTarget = true) ∧
      loopStates twoHeads 2 = some ⟨headAtSource⟩ :=
  submitted_spec (rfl : submitted twoHeads 1 = some ⟨7, 7, ()⟩)

/-- While the head a tracker waits for is not at the target, the tracker stays and nothing is
submitted, unless the iteration fails. -/
theorem loopStates_succ_of_tracker {i : ℕ} {tracker : SubmittedHeadsTracker ParaHash}
    (h : loopStates iterations i = some tracker) :
    (∃ failed, iterate (loopStates iterations i) (iterations i) = .error failed) ∨
      (∃ headAtTarget, (iterations i).target.parachainHead = some headAtTarget ∧
        isHeadUpdated tracker.submittedHead headAtTarget = true) ∨
      (loopStates iterations (i + 1) = some tracker ∧ submitted iterations i = none) := by
  cases hiterate : iterate (loopStates iterations i) (iterations i) with
  | error failed => exact .inl ⟨failed, rfl⟩
  | ok result =>
    obtain ⟨tracker', submission⟩ := result
    obtain ⟨hnext, hsubmitted⟩ := loopStates_succ_of_eq_ok hiterate
    rcases iterate_eq_ok hiterate with ⟨-, hkept, hnone⟩ | ⟨headAtTarget, -, htarget, hcases⟩
    · exact .inr (.inr ⟨hnext.trans (hkept.trans h), hsubmitted.trans hnone⟩)
    rcases hcases with ⟨-, -, -, hkept, hnone⟩ | ⟨hdone, -⟩
    · exact .inr (.inr ⟨hnext.trans (hkept.trans h), hsubmitted.trans hnone⟩)
    · exact .inr (.inl ⟨headAtTarget, htarget, hdone tracker h⟩)

/-- **One transaction at a time.**  After the loop submits a head, it submits again only once
the target has that head or a later one, or once an iteration failed and the loop started again
with no tracker. -/
theorem submissions_run {i j : ℕ} {submission submission' : Submission ParaHash Proof}
    {headAtSource : AvailableHeader (HeaderId ParaHash)}
    (hi : submitted iterations i = some submission)
    (hhead : (iterations i).source.parachainHead submission.atRelayBlock = some headAtSource)
    (hj : submitted iterations j = some submission') (hij : i < j) :
    ∃ k, i < k ∧ k ≤ j ∧
      ((∃ failed, iterate (loopStates iterations k) (iterations k) = .error failed) ∨
        ∃ headAtTarget, (iterations k).target.parachainHead = some headAtTarget ∧
          isHeadUpdated headAtSource headAtTarget = true) := by
  obtain ⟨-, headAtSource', -, -, hhead', -, -, -, htracked⟩ := submitted_spec hi
  obtain rfl : headAtSource' = headAtSource := Option.some.inj (hhead'.symm.trans hhead)
  -- the tracker stays from iteration `i + 1` on, until its head is at the target or an
  -- iteration fails
  have hstays : ∀ n, i + 1 ≤ n → n ≤ j →
      (∃ k, i < k ∧ k < n ∧
        ((∃ failed, iterate (loopStates iterations k) (iterations k) = .error failed) ∨
          ∃ headAtTarget, (iterations k).target.parachainHead = some headAtTarget ∧
            isHeadUpdated headAtSource' headAtTarget = true)) ∨
        loopStates iterations n = some ⟨headAtSource'⟩ := by
    intro n hin
    induction n, hin using Nat.le_induction with
    | base => exact fun _ ↦ .inr htracked
    | succ n hin ih =>
      intro hnj
      rcases ih (by omega) with ⟨k, hik, hkn, hk⟩ | hn
      · exact .inl ⟨k, hik, by omega, hk⟩
      rcases loopStates_succ_of_tracker hn with hfailed | hreached | ⟨hkept, -⟩
      · exact .inl ⟨n, by omega, by omega, .inl hfailed⟩
      · exact .inl ⟨n, by omega, by omega, .inr hreached⟩
      · exact .inr hkept
  rcases hstays j hij le_rfl with ⟨k, hik, hkj, hk⟩ | hkept
  · exact ⟨k, hik, hkj.le, hk⟩
  refine ⟨j, hij, le_rfl, ?_⟩
  rcases loopStates_succ_of_tracker hkept with hfailed | hreached | ⟨-, hnone⟩
  · exact .inl hfailed
  · exact .inr hreached
  · rw [hnone] at hj
    cases hj

/-- The two submissions of `twoHeads`: head `5` is at the target when head `7` is submitted. -/
theorem submissions_run_twoHeads :
    ∃ k, 0 < k ∧ k ≤ 1 ∧
      ((∃ failed, iterate (loopStates twoHeads k) (twoHeads k) = .error failed) ∨
        ∃ headAtTarget, (twoHeads k).target.parachainHead = some headAtTarget ∧
          isHeadUpdated (.available ⟨5, 5⟩) headAtTarget = true) :=
  submissions_run (rfl : submitted twoHeads 0 = some ⟨5, 5, ()⟩)
    (rfl : (twoHeads 0).source.parachainHead 5 = some (.available ⟨5, 5⟩))
    (rfl : submitted twoHeads 1 = some ⟨7, 7, ()⟩) (by decide)

end Run

/-! ## With the source client of `lib_substrate_relay` -/

section Substrate

variable [Ord ParaHash]

/-- The smaller of two header ids is at most either, by number. -/
theorem minHeaderId_number_le (a b : HeaderId ParaHash) :
    (minHeaderId a b).number ≤ a.number ∧ (minHeaderId a b).number ≤ b.number := by
  unfold minHeaderId
  cases hcompare : compare a.number b.number with
  | lt =>
    have hlt := Nat.compare_eq_lt.mp hcompare
    simp only [Ordering.then, reduceCtorEq, if_false]
    omega
  | eq =>
    have heq := Nat.compare_eq_eq.mp hcompare
    split_ifs <;> omega
  | gt =>
    have hgt := Nat.compare_eq_gt.mp hcompare
    simp only [Ordering.then, if_true]
    omega

namespace ParachainsSource

variable {chain : SourceRelayChain ParaHash Proof} {atBlock : ℕ}

/-- **`ParachainsSource` reports no head above the one asked for**: under the limit `max_head_id`,
a head it reports is at most the limit and at most the head in the storage. -/
theorem parachainHead_le {maxHeadId head : HeaderId ParaHash}
    (h : parachainHead chain (.available maxHeadId) atBlock = .available head) :
    ∃ onChainParaHeadId, chain.paraHeadId atBlock = some onChainParaHeadId ∧
      head.number ≤ onChainParaHeadId.number ∧ head.number ≤ maxHeadId.number := by
  unfold parachainHead at h
  split_ifs at h
  cases honChain : chain.paraHeadId atBlock with
  | none => simp [honChain] at h
  | some onChainParaHeadId =>
    simp only [honChain, AvailableHeader.available.injEq] at h
    subst h
    exact ⟨onChainParaHeadId, rfl, minHeaderId_number_le _ _⟩

/-- At a recent relay block with no head of the parachain in the storage, `ParachainsSource`
reports it missing. -/
theorem parachainHead_of_missing {maxHeadId : AvailableHeader (HeaderId ParaHash)}
    (hrecent : OnDemand.isAncientBlock atBlock chain.bestFinalizedHeader = false)
    (hmissing : chain.paraHeadId atBlock = none) :
    parachainHead chain maxHeadId atBlock = .missing := by
  simp [parachainHead, hrecent, hmissing]

end ParachainsSource

variable {iterations : ℕ → Iteration ParaHash Proof}

/-- **What `ParachainsSource` has the loop submit**: the proof of the head in the storage at the
relay block, with that head's hash; while the tracker waits only for the head the client
reported, capped by `max_head_id`. -/
theorem submitted_onChainHead {chain : SourceRelayChain ParaHash Proof}
    {maxHeadId : AvailableHeader (HeaderId ParaHash)} {i : ℕ}
    {submission : Submission ParaHash Proof}
    (hsource : (iterations i).source = ParachainsSource.client chain maxHeadId)
    (h : submitted iterations i = some submission) :
    ∃ onChainParaHeadId, chain.paraHeadId submission.atRelayBlock = some onChainParaHeadId ∧
      submission.paraHeadHash = onChainParaHeadId.hash ∧
      submission.proof = chain.proveStorage submission.atRelayBlock ∧
      loopStates iterations (i + 1) =
        some ⟨ParachainsSource.parachainHead chain maxHeadId submission.atRelayBlock⟩ := by
  obtain ⟨-, headAtSource, -, -, hhead, -, hproof, -, htracked⟩ := submitted_spec h
  rw [hsource] at hhead hproof
  obtain rfl := Option.some.inj hhead
  cases honChain : chain.paraHeadId submission.atRelayBlock with
  | none => simp [ParachainsSource.client, ParachainsSource.proveParachainHead, honChain] at hproof
  | some onChainParaHeadId =>
    simp only [ParachainsSource.client, ParachainsSource.proveParachainHead, honChain,
      Option.map_some, Option.some.injEq, Prod.mk.injEq] at hproof
    exact ⟨onChainParaHeadId, rfl, hproof.2.symm, hproof.1.symm, htracked⟩

/-- The target has head `8` and knows the relay block `12`, and the relay was asked for head
`10`. -/
def aboveLimit : ℕ → Iteration ℕ Unit :=
  fun _ ↦ ⟨ParachainsSource.client testChain (.available ⟨10, 10⟩), ⟨some (some ⟨8, 8⟩), some 12, true⟩,
    none⟩

/-- Asked for head `10`, the relay submits head `12`, the one in the storage at the relay block
`12`, and waits for head `10`. -/
theorem submitted_onChainHead_aboveLimit :
    ∃ onChainParaHeadId : HeaderId ℕ, testChain.paraHeadId 12 = some onChainParaHeadId ∧
      submitted aboveLimit 0 = some ⟨12, onChainParaHeadId.hash, ()⟩ ∧
      10 < onChainParaHeadId.number ∧ loopStates aboveLimit 1 = some ⟨.available ⟨10, 10⟩⟩ := by
  obtain ⟨onChainParaHeadId, honChain, -, -, htracked⟩ :=
    submitted_onChainHead (i := 0) rfl (rfl : submitted aboveLimit 0 = some ⟨12, 12, ()⟩)
  obtain rfl := Option.some.inj honChain
  exact ⟨_, rfl, rfl, by decide, htracked⟩

/-- A parachain the relay chain no longer has, at a recent relay block the target knows while the
target still has a head of it: the update is required, and `prove_parachain_head` fails. -/
theorem submitIfRequired_deregistered {it : Iteration ParaHash Proof}
    {chain : SourceRelayChain ParaHash Proof} {maxHeadId : AvailableHeader (HeaderId ParaHash)}
    {relayBlock : ℕ} (headAtTarget : HeaderId ParaHash)
    (hsource : it.source = ParachainsSource.client chain maxHeadId)
    (hblock : it.target.bestFinalizedSourceRelayChainBlock = some relayBlock)
    (hrecent : OnDemand.isAncientBlock relayBlock chain.bestFinalizedHeader = false)
    (hmissing : chain.paraHeadId relayBlock = none) :
    submitIfRequired it (some headAtTarget) = .error .source := by
  simp [submitIfRequired, hblock, hsource, ParachainsSource.client,
    ParachainsSource.parachainHead_of_missing hrecent hmissing, isUpdateRequired,
    ParachainsSource.proveParachainHead, hmissing]

/-- **A deregistered parachain stalls the loop.**  From iteration `k` on, the source is
`ParachainsSource` over a synced relay chain that has no head of the parachain at the recent relay
block the target knows, while the target still has a head of it.  The loop never submits, and
from the first iteration with no tracker on, every iteration fails with `FailedClient::Source`:
the removal of the parachain never reaches the target. -/
theorem deregistered_run {chains : ℕ → SourceRelayChain ParaHash Proof}
    {maxHeadId : ℕ → AvailableHeader (HeaderId ParaHash)} {k : ℕ}
    (hsource : ∀ i, k ≤ i → (iterations i).source = ParachainsSource.client (chains i) (maxHeadId i) ∧
      (chains i).isSynced = true)
    (htarget : ∀ i, k ≤ i → ∃ headAtTarget relayBlock,
      (iterations i).target.parachainHead = some (some headAtTarget) ∧
      (iterations i).target.bestFinalizedSourceRelayChainBlock = some relayBlock ∧
      OnDemand.isAncientBlock relayBlock (chains i).bestFinalizedHeader = false ∧
      (chains i).paraHeadId relayBlock = none) :
    ∀ i, k ≤ i → submitted iterations i = none ∧
      (loopStates iterations i = none → ∀ j, i ≤ j →
        iterate (loopStates iterations j) (iterations j) = .error .source) := by
  have hiteration : ∀ i, k ≤ i → iterate none (iterations i) = .error .source ∧
      ∀ tracker result, iterate tracker (iterations i) = .ok result → result.2 = none := by
    intro i hi
    obtain ⟨hclient, hsynced⟩ := hsource i hi
    obtain ⟨headAtTarget, relayBlock, htarget, hblock, hrecent, hmissing⟩ := htarget i hi
    have hsubmit := submitIfRequired_deregistered headAtTarget hclient hblock hrecent hmissing
    refine ⟨by simp [iterate, hclient, ParachainsSource.client, hsynced, htarget, hsubmit], ?_⟩
    rintro tracker ⟨tracker', submission⟩ h
    rcases iterate_eq_ok h with ⟨hnotSynced, -⟩ | ⟨headAtTarget', -, htarget', hcases⟩
    · simp [hclient, ParachainsSource.client, hsynced] at hnotSynced
    rw [htarget] at htarget'
    obtain rfl := Option.some.inj htarget'
    rcases hcases with ⟨-, -, -, -, hnone⟩ | ⟨-, hsubmit'⟩
    · exact hnone
    · rw [hsubmit] at hsubmit'
      cases hsubmit'
  intro i hi
  refine ⟨?_, fun hnone j hij ↦ ?_⟩
  · cases hiterate : iterate (loopStates iterations i) (iterations i) with
    | error failed => exact (loopStates_succ_of_eq_error hiterate).2
    | ok result =>
      rw [(loopStates_succ_of_eq_ok hiterate).2]
      exact (hiteration i hi).2 _ result hiterate
  have hrestarts : ∀ j, i ≤ j → loopStates iterations j = none := by
    intro j hij
    induction j, hij using Nat.le_induction with
    | base => exact hnone
    | succ j hij ih =>
      have hfails := (hiteration j (hi.trans hij)).1
      rw [← ih] at hfails
      exact (loopStates_succ_of_eq_error hfails).1
  rw [hrestarts j hij]
  exact (hiteration j (hi.trans hij)).1

/-- A relay chain with no head of the parachain. -/
def offboardedChain : SourceRelayChain ℕ Unit :=
  { bestFinalizedHeader := 20, paraHeadId := fun _ ↦ none, isSynced := true,
    proveStorage := fun _ ↦ () }

/-- The target still has head `3`, and knows the relay block `5`. -/
def offboarded : ℕ → Iteration ℕ Unit :=
  fun _ ↦ ⟨ParachainsSource.client offboardedChain .missing, ⟨some (some ⟨3, 3⟩), some 5, true⟩,
    none⟩

/-- The loop over the offboarded parachain submits nothing, and its fourth iteration fails as
every one does. -/
theorem deregistered_run_offboarded :
    submitted offboarded 0 = none ∧
      iterate (loopStates offboarded 3) (offboarded 3) = .error .source := by
  have hrun : submitted offboarded 0 = none ∧ (loopStates offboarded 0 = none → ∀ j, 0 ≤ j →
      iterate (loopStates offboarded j) (offboarded j) = .error .source) :=
    deregistered_run (fun _ _ ↦ ⟨rfl, rfl⟩) (fun _ _ ↦ ⟨⟨3, 3⟩, 5, rfl, rfl, rfl, rfl⟩) 0
      (Nat.le_refl 0)
  exact ⟨hrun.1, hrun.2 rfl 3 (Nat.zero_le 3)⟩

end Substrate

end ParachainsRelay
