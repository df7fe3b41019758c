import SoloParaBridge.Finality.SelectHeader
import SoloParaBridge.Lib.Checkpoints

/-!
# The finality relay loop

`finality_relay::finality_loop::run_until_connection_lost` repeats `run_loop_iteration`: read the
best finalized numbers at the source and at the target, wait while the header submitted last is
still above the target's best, and otherwise submit what `select_header_to_submit` selects.  A
submission sets `last_submitted_header_number` and the tracker of the new transaction
(`LoopState.iterate`).  When the tracker ends, `Transaction::track` checks that the target reached
the header; if it did not, or the transaction was lost, the loop returns `FailedClient::Both` and
the relay starts it again from the beginning, with a new finality proofs stream and no recent
proofs (`LoopState.trackerEnds`).

The source and target clients answer every request, as in `Finality.SelectHeader`, so the only
error of an iteration is `MissingMandatoryFinalityProof`, which is not a connection error: the
loop goes on after it.  The fork check `ensure_same_fork`, the metrics and the progress log only
log, and are left out.

What a submission is (`LoopState.iterate_submits`): a header that does not pass the first header
above the target's best that changes the authority set and, while both best numbers are below
`Number::MAX`, one above the target's best and at most the source's best.  `Finality.Sync` builds
the bridge from this and the GRANDPA pallet.
-/

set_option autoImplicit false

namespace Finality

open Checkpoints

/-- `TrackedTransactionStatus`, without the block the transaction was finalized in. -/
inductive TrackedTransactionStatus where
  | finalized
  | lost
  deriving DecidableEq, Repr

/-- `Transaction`: the number of the header submitted; its tracker is the status it ends with. -/
structure Transaction where
  submittedHeaderNumber : ℕ
  deriving DecidableEq, Repr

/-- The errors of `Transaction::track`. -/
inductive TrackError where
  /-- "best block at target after tx is {:?} and we've submitted {:?}" -/
  | stalled (bestNumberAtTarget submittedHeaderNumber : ℕ)
  /-- "transaction failed" -/
  | transactionFailed
  deriving DecidableEq, Repr

/-- `Transaction::track`, with the best number read at the target after the tracker ended. -/
def Transaction.track (transaction : Transaction) (status : TrackedTransactionStatus)
    (bestNumberAtTarget : ℕ) : Except TrackError Unit :=
  match status with
  | .finalized =>
    -- the transaction may have been finalized in the failed state
    if transaction.submittedHeaderNumber > bestNumberAtTarget then
      .error (.stalled bestNumberAtTarget transaction.submittedHeaderNumber)
    else .ok ()
  | .lost => .error .transactionFailed

variable {Proof : Type}

/-- `run_loop_iteration`: the header to submit with its proof, and the buffers it leaves, or
`none` where it panics. -/
def runLoopIteration (targetHeaderNumber : Proof → ℕ) (source : SourceChain Proof)
    (buffers : Buffers Proof) (bestNumberAtSource bestNumberAtTarget : ℕ)
    (syncParams : FinalitySyncParams) (submittedHeaderNumber : Option ℕ) :
    Option (Except Error (Option (Header × Proof)) × Buffers Proof) :=
  match submittedHeaderNumber with
  | some submittedHeaderNumber =>
    -- if we have already submitted header, then we just need to wait for it
    if bestNumberAtTarget ≥ submittedHeaderNumber then
      selectHeaderToSubmit targetHeaderNumber source buffers bestNumberAtSource bestNumberAtTarget
        syncParams
    else some (.ok none, buffers)
  | none =>
    selectHeaderToSubmit targetHeaderNumber source buffers bestNumberAtSource bestNumberAtTarget
      syncParams

/-- The locals of `run_until_connection_lost` between two iterations: the finality proofs stream
and `recent_finality_proofs`, `last_submitted_header_number`, and the transaction whose tracker
`last_transaction_tracker` waits for (`none` once it has ended). -/
structure LoopState (Proof : Type) where
  buffers : Buffers Proof
  lastSubmittedHeaderNumber : Option ℕ
  lastTransaction : Option Transaction

/-- The locals when `run_until_connection_lost` starts. -/
def LoopState.init : LoopState Proof :=
  ⟨⟨[], []⟩, none, none⟩

namespace LoopState

/-- One turn of the loop of `run_until_connection_lost`: the iteration, and what is done with its
result; with the header and proof `Transaction::submit` sends, if any. -/
def iterate (targetHeaderNumber : Proof → ℕ) (source : SourceChain Proof)
    (syncParams : FinalitySyncParams) (loopState : LoopState Proof)
    (bestNumberAtSource bestNumberAtTarget : ℕ) :
    Option (LoopState Proof × Option (Header × Proof)) :=
  (runLoopIteration targetHeaderNumber source loopState.buffers bestNumberAtSource
      bestNumberAtTarget syncParams loopState.lastSubmittedHeaderNumber).map fun
    | (.ok (some (header, finalityProof)), buffers) =>
      (⟨buffers, some header.number, some ⟨header.number⟩⟩, some (header, finalityProof))
    | (_, buffers) => ({ loopState with buffers }, none)

/-- The finality proofs stream yields `finalityProofs`. -/
def receive (loopState : LoopState Proof) (finalityProofs : List Proof) : LoopState Proof :=
  { loopState with
    buffers := { loopState.buffers with
      finalityProofsStream := loopState.buffers.finalityProofsStream ++ finalityProofs } }

/-- The tracker of the last transaction ends with `status`, and `track` reads the target's best
number: the loop goes on, or it returns `FailedClient::Both` and starts again from the beginning.
`none` when no tracker is running. -/
def trackerEnds (loopState : LoopState Proof) (status : TrackedTransactionStatus)
    (bestNumberAtTarget : ℕ) : Option (LoopState Proof) :=
  loopState.lastTransaction.map fun transaction ↦
    match transaction.track status bestNumberAtTarget with
    | .ok () => { loopState with lastTransaction := none }
    | .error _ => LoopState.init

end LoopState

/-! ## What a submission is -/

section Submission

variable (targetHeaderNumber : Proof → ℕ) (source : SourceChain Proof) (syncParams : FinalitySyncParams)
  {buffers buffers' : Buffers Proof} {bestNumberAtSource bestNumberAtTarget : ℕ}
  {header : Header} {finalityProof : Proof}

/-- **Below `Number::MAX` a selected header lies in the range the relay read**: above the
target's best and at most the source's best. -/
theorem selectHeaderToSubmit_range (hsource : bestNumberAtSource < 2 ^ source.numberBits - 1)
    (htarget : bestNumberAtTarget < 2 ^ source.numberBits - 1)
    (hbuffered : Buffered targetHeaderNumber buffers)
    (h : selectHeaderToSubmit targetHeaderNumber source buffers bestNumberAtSource bestNumberAtTarget
      syncParams = some (.ok (some (header, finalityProof)), buffers')) :
    bestNumberAtTarget < header.number ∧ header.number ≤ bestNumberAtSource := by
  by_cases hmandatory : ∃ m, bestNumberAtTarget < m ∧ m ≤ bestNumberAtSource ∧
      source.isMandatory m = true
  · obtain ⟨hlt, hle, hm⟩ := Nat.find_spec hmandatory
    have hfirst : ∀ k, bestNumberAtTarget < k → k < Nat.find hmandatory →
        source.isMandatory k = false := by
      intro k hk hkm
      by_contra hk'
      exact Nat.find_min hmandatory hkm ⟨hk, by omega, by simpa using hk'⟩
    rw [selectHeaderToSubmit_of_mandatory source targetHeaderNumber buffers syncParams hsource
      htarget hlt hle hm hfirst] at h
    cases hproof : source.persistentProof (Nat.find hmandatory) with
    | none => simp [hproof] at h
    | some proof =>
      simp only [hproof, Option.some.injEq, Prod.mk.injEq, Except.ok.injEq] at h
      obtain ⟨⟨rfl, -⟩, -⟩ := h
      exact ⟨hlt, hle⟩
  · have hnone : ∀ n, bestNumberAtTarget < n → n ≤ bestNumberAtSource →
        source.isMandatory n = false := by
      intro n hn hn'
      by_contra hn''
      exact hmandatory ⟨n, hn, hn', by simpa using hn''⟩
    obtain ⟨selected, buffers'', hselect, hgood⟩ :=
      selectHeaderToSubmit_of_not_mandatory source targetHeaderNumber buffers syncParams hsource
        htarget hbuffered hnone
    rw [hselect] at h
    obtain ⟨hlt, hle, -⟩ := hgood header finalityProof (Except.ok.inj (Prod.mk.inj
      (Option.some.inj h)).1)
    exact ⟨hlt, hle⟩

/-- An iteration submits only once the target reached the header submitted before, and then
what `select_header_to_submit` selects. -/
theorem runLoopIteration_submits {submittedHeaderNumber : Option ℕ}
    (h : runLoopIteration targetHeaderNumber source buffers bestNumberAtSource bestNumberAtTarget
      syncParams submittedHeaderNumber = some (.ok (some (header, finalityProof)), buffers')) :
    (∀ submitted, submittedHeaderNumber = some submitted → submitted ≤ bestNumberAtTarget) ∧
      selectHeaderToSubmit targetHeaderNumber source buffers bestNumberAtSource bestNumberAtTarget
        syncParams = some (.ok (some (header, finalityProof)), buffers') := by
  cases submittedHeaderNumber with
  | none => exact ⟨(fun _ hs ↦ nomatch hs), h⟩
  | some submitted =>
    rw [runLoopIteration] at h
    split_ifs at h with hreached
    · exact ⟨fun _ hs ↦ Option.some.inj hs ▸ hreached, h⟩
    · simp at h

/-- The step lemma of the buffer through an iteration. -/
theorem Buffered.of_runLoopIteration (hbuffered : Buffered targetHeaderNumber buffers)
    {submittedHeaderNumber : Option ℕ} {result : Except Error (Option (Header × Proof))}
    (h : runLoopIteration targetHeaderNumber source buffers bestNumberAtSource bestNumberAtTarget
      syncParams submittedHeaderNumber = some (result, buffers')) :
    Buffered targetHeaderNumber buffers' := by
  unfold runLoopIteration at h
  split at h
  · split_ifs at h
    · exact hbuffered.of_selectHeaderToSubmit source targetHeaderNumber buffers syncParams h
    · cases h
      exact hbuffered
  · exact hbuffered.of_selectHeaderToSubmit source targetHeaderNumber buffers syncParams h

end Submission

namespace LoopState

variable (targetHeaderNumber : Proof → ℕ) (source : SourceChain Proof)
  (syncParams : FinalitySyncParams) {loopState loopState' : LoopState Proof}

/-- The buffered proofs of a loop's state are each kept with their own target number. -/
def Buffered (loopState : LoopState Proof) : Prop :=
  Finality.Buffered targetHeaderNumber loopState.buffers

theorem buffered_init : (LoopState.init : LoopState Proof).Buffered targetHeaderNumber :=
  buffered_nil targetHeaderNumber []

theorem Buffered.receive (h : loopState.Buffered targetHeaderNumber) (finalityProofs : List Proof) :
    (loopState.receive finalityProofs).Buffered targetHeaderNumber :=
  h

theorem Buffered.trackerEnds (h : loopState.Buffered targetHeaderNumber)
    {status : TrackedTransactionStatus} {bestNumberAtTarget : ℕ}
    (hends : loopState.trackerEnds status bestNumberAtTarget = some loopState') :
    loopState'.Buffered targetHeaderNumber := by
  obtain ⟨transaction, -, rfl⟩ := Option.map_eq_some_iff.mp hends
  cases transaction.track status bestNumberAtTarget with
  | ok u => exact h
  | error e => exact buffered_init targetHeaderNumber

/-- **One turn of the loop**: the buffer keeps its proofs with their own numbers, and a header it
submits does not pass the first mandatory header above the target's best and, while both best
numbers are below `Number::MAX`, lies above the target's best and at most the source's best. -/
theorem iterate_submits (h : loopState.Buffered targetHeaderNumber)
    {bestNumberAtSource bestNumberAtTarget : ℕ} {submitted : Option (Header × Proof)}
    (hiterate : loopState.iterate targetHeaderNumber source syncParams bestNumberAtSource
      bestNumberAtTarget = some (loopState', submitted)) :
    loopState'.Buffered targetHeaderNumber ∧
      ∀ header finalityProof, submitted = some (header, finalityProof) →
        StopsAt source.isMandatory bestNumberAtTarget header.number ∧
        (bestNumberAtSource < 2 ^ source.numberBits - 1 →
          bestNumberAtTarget < 2 ^ source.numberBits - 1 →
          bestNumberAtTarget < header.number ∧ header.number ≤ bestNumberAtSource) := by
  obtain ⟨⟨result, buffers⟩, hrun, hresult⟩ := Option.map_eq_some_iff.mp hiterate
  have hbuffers := Finality.Buffered.of_runLoopIteration targetHeaderNumber source syncParams h hrun
  -- a submission and the two ways of submitting nothing
  rcases result with e | _ | ⟨header, finalityProof⟩ <;> cases hresult
  · exact ⟨hbuffers, fun _ _ h ↦ nomatch h⟩
  · exact ⟨hbuffers, fun _ _ h ↦ nomatch h⟩
  · refine ⟨hbuffers, fun header' finalityProof' hsome ↦ ?_⟩
    obtain ⟨rfl, rfl⟩ := Prod.mk.inj (Option.some.inj hsome)
    have hselect := (runLoopIteration_submits targetHeaderNumber source syncParams hrun).2
    exact ⟨selectHeaderToSubmit_stopsAt source targetHeaderNumber _ syncParams hselect,
      fun hsource htarget ↦
        selectHeaderToSubmit_range targetHeaderNumber source syncParams hsource htarget h hselect⟩

end LoopState

end Finality
