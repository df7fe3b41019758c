import SoloParaBridge.RuntimeCommon.RefundRelayer
import SoloParaBridge.Parachains.Pallet

/-!
# What the relayer refund extension does after the dispatch

`RefundBridgedParachainMessages` remembers, from `pre_dispatch`, the relayer and the shape of its
transaction (`CallInfo`), and `analyze_call_result` decides after the dispatch what happens to the
relayer's account: a reward that refunds the transaction, a slash, or nothing.

## What is here

* `parseAndCheckForObsoleteCall_shapes` — the transactions the extension recognises: relay chain
  finality, the refunded parachain's heads and a messages call of the refunded lane; the last two;
  or the messages call alone — one call, or a `batch_all` of at most three.
* `analyzeCallResult_of_some` — the decision, with the early returns of the source folded into
  one condition: a relayer whose calls all succeeded, in a transaction that did not fail, is
  rewarded; otherwise it is slashed if the transaction is a delivery whose messages a
  confirmation can carry, and left alone if not.
* `analyzeCallResult_spec` — the same, action by action, with each pallet's `was_successful`
  read as the post-dispatch storage it checks.

The post-dispatch storage of the messages pallet is the `Runtime` record of the refund extension,
read after the dispatch; that of the two finality pallets is `FinalityStorage`.
-/

set_option autoImplicit false

namespace RuntimeCommon

open Messages Parachains

/-! ## The model -/

/-- `SubmitFinalityProofInfo`: the number of the header the call finalizes, and the extra weight
and size its submitter may have put in it. -/
structure SubmitFinalityProofInfo where
  blockNumber : ℕ
  extraWeight : Weight
  extraSize : ℕ

/-- `RewardsAccountOwner`: which side of the lane the rewards account pays for. -/
inductive RewardsAccountOwner where
  | thisChain
  | bridgedChain
  deriving DecidableEq, Repr

/-- `RewardsAccountParams`. -/
structure RewardsAccountParams (LaneId ChainId : Type) where
  laneId : LaneId
  bridgedChainId : ChainId
  owner : RewardsAccountOwner
  deriving DecidableEq, Repr

/-- `RelayerAccountAction`. -/
inductive RelayerAccountAction (AccountId Reward LaneId ChainId : Type) where
  | none
  | reward (relayer : AccountId) (params : RewardsAccountParams LaneId ChainId) (reward : Reward)
  | slash (relayer : AccountId) (params : RewardsAccountParams LaneId ChainId)
  deriving DecidableEq, Repr

/-- `DispatchClass`. -/
inductive DispatchClass where
  | normal
  | operational
  | mandatory
  deriving DecidableEq, Repr

/-- `Pays`. -/
inductive Pays where
  | yes
  | no
  deriving DecidableEq, Repr

/-- `DispatchInfo`. -/
structure DispatchInfo where
  weight : Weight
  dispatchClass : DispatchClass
  paysFee : Pays
  deriving DecidableEq, Repr

/-- `PostDispatchInfo`. -/
structure PostDispatchInfo where
  actualWeight : Option Weight
  paysFee : Pays
  deriving DecidableEq, Repr

/-- What `analyze_call_result` reads of the runtime besides storage: the bridged chain's id, the
weight a successful delivery is not charged for (a slash costs more than a reward), and
`Refund`. -/
structure RefundParameters (ChainId Reward : Type) where
  bridgedChainId : ChainId
  /-- `WeightInfo::extra_weight_of_successful_receive_messages_proof_call`. -/
  extraWeightOfSuccessfulReceiveMessagesProofCall : Weight
  /-- `Refund::compute_refund` with the zero tip. -/
  computeRefund : DispatchInfo → PostDispatchInfo → ℕ → Reward

/-- The storage of the two finality pallets that `was_successful` reads after the dispatch: the
number of the GRANDPA pallet's `BestFinalized` and the parachains pallet's `ParasInfo`. -/
structure FinalityStorage (ParaId ParaHash : Type) where
  bestFinalizedNumber : Option ℕ
  parasInfo : ParaId → Option (ParaInfo ParaHash)

variable {LaneId ParaId ParaHash : Type}

namespace FinalityStorage

variable (finality : FinalityStorage ParaId ParaHash)

/-- `SubmitFinalityProofHelper::was_successful`: the submitted header is the best finalized one. -/
def submitFinalityProofWasSuccessful (finalityTarget : ℕ) : Bool :=
  match finality.bestFinalizedNumber with
  | some bestFinalized => bestFinalized == finalityTarget
  | none => false

/-- `SubmitParachainHeadsHelper::was_successful`: the submitted head is the parachain's best. -/
def submitParachainHeadsWasSuccessful [DecidableEq ParaHash]
    (update : SubmitParachainHeadsInfo ParaId ParaHash) : Bool :=
  match finality.parasInfo update.paraId with
  | some storedBestHead =>
    storedBestHead.bestHeadHash == ⟨update.atRelayBlockNumber, update.paraHeadHash⟩
  | none => false

theorem submitFinalityProofWasSuccessful_iff {finalityTarget : ℕ} :
    finality.submitFinalityProofWasSuccessful finalityTarget = true ↔
      finality.bestFinalizedNumber = some finalityTarget := by
  unfold submitFinalityProofWasSuccessful
  split <;> simp_all

theorem submitParachainHeadsWasSuccessful_iff [DecidableEq ParaHash]
    {update : SubmitParachainHeadsInfo ParaId ParaHash} :
    finality.submitParachainHeadsWasSuccessful update = true ↔
      (finality.parasInfo update.paraId).map (·.bestHeadHash) =
        some ⟨update.atRelayBlockNumber, update.paraHeadHash⟩ := by
  unfold submitParachainHeadsWasSuccessful
  split <;> simp_all

end FinalityStorage

variable {F P : Type}

/-- `CallInfo::submit_finality_proof_info`. -/
def CallInfo.submitFinalityProofInfo : CallInfo LaneId F P → Option F
  | .allFinalityAndMsgs info _ _ => some info
  | _ => none

/-- `CallInfo::submit_parachain_heads_info`. -/
def CallInfo.submitParachainHeadsInfo : CallInfo LaneId F P → Option P
  | .allFinalityAndMsgs _ info _ => some info
  | .parachainFinalityAndMsgs info _ => some info
  | .msgs _ => none

/-- `expand_call` yields calls only for a `batch_all` of at most three calls, which it yields, or
for a call of another pallet, which it yields alone. -/
theorem expandCall_of_ne_nil {call : RuntimeCall LaneId F P} (h : expandCall call ≠ []) :
    expandCall call = [call] ∨
      ∃ calls, call = .batchAll calls ∧ calls.length ≤ 3 ∧ expandCall call = calls := by
  cases call with
  | batchAll calls =>
    simp only [expandCall] at h ⊢
    split_ifs at h ⊢ with hlength
    · exact .inr ⟨calls, rfl, hlength, rfl⟩
    · exact absurd rfl h
  | utility => exact absurd rfl h
  | submitFinalityProof | submitParachainHeads | receiveMessagesProof
    | receiveMessagesDeliveryProof | other => exact .inl rfl

theorem submitFinalityProofInfo_eq_some {call : RuntimeCall LaneId F P} {info : F} :
    submitFinalityProofInfo call = some info ↔ call = .submitFinalityProof info := by
  cases call <;> simp [submitFinalityProofInfo]

/-- `PreDispatchData`. -/
structure PreDispatchData (AccountId LaneId F P : Type) where
  relayer : AccountId
  callInfo : CallInfo LaneId F P

namespace Runtime

variable {RelayerId AccountId : Type} (r : Runtime LaneId RelayerId AccountId F P)

/-- `CallHelper::was_successful` of the messages pallet: a delivery delivered all its messages,
or, with an empty range, freed message slots of the lane; a confirmation confirmed all its
messages. -/
def messagesCallWasSuccessful : MessagesCallInfo LaneId → Bool
  | .receiveMessagesProof info =>
    match r.inboundLanes info.base.laneId with
    | none => false
    | some inboundLaneData =>
      if info.base.bundledRangeIsEmpty then
        let postOccupation := unrewardedRelayersOccupation r.limits inboundLaneData
        decide (info.unrewardedRelayers.freeMessageSlots < postOccupation.freeMessageSlots)
      else inboundLaneData.lastDeliveredNonce == info.base.bundledEnd
  | .receiveMessagesDeliveryProof info =>
    match r.outboundLanes info.base.laneId with
    | none => false
    | some outboundLaneData => outboundLaneData.latestReceivedNonce == info.base.bundledEnd

/-! ## The transactions the extension recognises -/

/-- A call that passes `check_obsolete_call` is returned as it is. -/
theorem checkObsoleteCall_eq_ok {call checked : RuntimeCall LaneId F P}
    (h : r.checkObsoleteCall call = .ok checked) : checked = call := by
  unfold checkObsoleteCall at h
  split at h
  · split_ifs at h
    exact (Except.ok.inj h).symm
  · split_ifs at h
    exact (Except.ok.inj h).symm
  · cases hcheck : r.checkObsoleteMessagesCall call <;> simp_all [Except.map]

/-- The calls that all pass `check_obsolete_call` are returned as they are. -/
theorem mapM_checkObsoleteCall_eq_ok {calls checked : List (RuntimeCall LaneId F P)}
    (h : calls.mapM r.checkObsoleteCall = .ok checked) : checked = calls := by
  induction calls generalizing checked with
  | nil =>
    simp only [List.mapM_nil, pure, Except.pure, Except.ok.injEq] at h
    exact h.symm
  | cons call calls ih =>
    rw [List.mapM_cons] at h
    cases hcall : r.checkObsoleteCall call with
    | error e => simp [hcall, bind, Except.bind] at h
    | ok checkedCall =>
      cases hrest : calls.mapM r.checkObsoleteCall with
      | error e => simp [hcall, hrest, bind, Except.bind] at h
      | ok checkedCalls =>
        simp only [hcall, hrest, bind, Except.bind, pure, Except.pure, Except.ok.injEq] at h
        rw [← h, r.checkObsoleteCall_eq_ok hcall, ih hrest]

theorem submitParachainHeadsInfoFor_eq_some {call : RuntimeCall LaneId F P} {info : P} :
    r.submitParachainHeadsInfoFor call = some info ↔
      call = .submitParachainHeads info ∧ r.updatesRefundableParachain info = true := by
  cases call with
  | submitParachainHeads update =>
    simp only [submitParachainHeadsInfoFor, RuntimeCall.submitParachainHeads.injEq]
    constructor
    · intro hupdate
      split_ifs at hupdate with hrefunded
      cases hupdate
      exact ⟨rfl, hrefunded⟩
    · rintro ⟨rfl, hrefunded⟩
      rw [if_pos hrefunded]
  | _ => simp [submitParachainHeadsInfoFor]

theorem callInfoFor_eq_some [DecidableEq LaneId] {call : RuntimeCall LaneId F P}
    {info : MessagesCallInfo LaneId} :
    r.callInfoFor call = some info ↔
      r.callInfo call = some info ∧ info.base.laneId = r.refundableLane := by
  simp [callInfoFor, Option.filter_eq_some_iff]

/-- **The transactions the extension recognises**: one call, or a `batch_all` of at most three;
and of these, relay chain finality, the refunded parachain's heads and a messages call of the
refunded lane, in this order; or the last two; or the messages call alone. -/
theorem parseAndCheckForObsoleteCall_shapes [DecidableEq LaneId] {call : RuntimeCall LaneId F P}
    {callInfo : CallInfo LaneId F P}
    (h : r.parseAndCheckForObsoleteCall call = .ok (some callInfo)) :
    (expandCall call = [call] ∨
      ∃ calls, call = .batchAll calls ∧ calls.length ≤ 3 ∧ expandCall call = calls) ∧
    ((∃ relay para msgsCall msgs,
        expandCall call = [.submitFinalityProof relay, .submitParachainHeads para, msgsCall] ∧
        r.updatesRefundableParachain para = true ∧ r.callInfo msgsCall = some msgs ∧
        msgs.base.laneId = r.refundableLane ∧ callInfo = .allFinalityAndMsgs relay para msgs) ∨
      (∃ para msgsCall msgs, expandCall call = [.submitParachainHeads para, msgsCall] ∧
        r.updatesRefundableParachain para = true ∧ r.callInfo msgsCall = some msgs ∧
        msgs.base.laneId = r.refundableLane ∧ callInfo = .parachainFinalityAndMsgs para msgs) ∨
      (∃ msgsCall msgs, expandCall call = [msgsCall] ∧ r.callInfo msgsCall = some msgs ∧
        msgs.base.laneId = r.refundableLane ∧ callInfo = .msgs msgs)) := by
  unfold parseAndCheckForObsoleteCall at h
  cases hchecked : (expandCall call).reverse.mapM r.checkObsoleteCall with
  | error e => simp [hchecked, bind, Except.bind] at h
  | ok checked =>
    simp only [hchecked, bind, Except.bind, pure, Except.pure, Except.ok.injEq] at h
    obtain rfl := r.mapM_checkObsoleteCall_eq_ok hchecked
    refine ⟨expandCall_of_ne_nil fun hnil ↦ by simp [hnil] at h, ?_⟩
    generalize expandCall call = calls at h ⊢
    rcases calls with _ | ⟨c₁, _ | ⟨c₂, _ | ⟨c₃, _ | ⟨c₄, rest⟩⟩⟩⟩
    all_goals simp at h
    · cases hmsgs : r.callInfoFor c₁ with
      | none => simp [hmsgs] at h
      | some msgs =>
        obtain ⟨hinfo, hlane⟩ := r.callInfoFor_eq_some.mp hmsgs
        simp only [hmsgs, Option.some.injEq] at h
        exact .inr (.inr ⟨c₁, msgs, rfl, hinfo, hlane, h.symm⟩)
    · cases hpara : r.submitParachainHeadsInfoFor c₁ with
      | none => simp [hpara] at h
      | some para =>
        cases hmsgs : r.callInfoFor c₂ with
        | none => simp [hpara, hmsgs] at h
        | some msgs =>
          obtain ⟨rfl, hrefunded⟩ := r.submitParachainHeadsInfoFor_eq_some.mp hpara
          obtain ⟨hinfo, hlane⟩ := r.callInfoFor_eq_some.mp hmsgs
          simp only [hpara, hmsgs, Option.some.injEq] at h
          exact .inr (.inl ⟨para, c₂, msgs, rfl, hrefunded, hinfo, hlane, h.symm⟩)
    · cases hrelay : submitFinalityProofInfo c₁ with
      | none => simp [hrelay] at h
      | some relay =>
        cases hpara : r.submitParachainHeadsInfoFor c₂ with
        | none => simp [hrelay, hpara] at h
        | some para =>
          cases hmsgs : r.callInfoFor c₃ with
          | none => simp [hrelay, hpara, hmsgs] at h
          | some msgs =>
            obtain rfl := submitFinalityProofInfo_eq_some.mp hrelay
            obtain ⟨rfl, hrefunded⟩ := r.submitParachainHeadsInfoFor_eq_some.mp hpara
            obtain ⟨hinfo, hlane⟩ := r.callInfoFor_eq_some.mp hmsgs
            simp only [hrelay, hpara, hmsgs, Option.some.injEq] at h
            exact .inl ⟨relay, para, c₃, msgs, rfl, hrefunded, hinfo, hlane, h.symm⟩

/-- `validate` could have boosted the transaction: a delivery of at most as many messages as a
confirmation can carry, an empty range counting as none. -/
theorem bundledMessagesForPriorityBoost_isSome_iff (callInfo : CallInfo LaneId F P) :
    (r.bundledMessagesForPriorityBoost (some callInfo)).isSome = true ↔
      callInfo.isReceiveMessagesProofCall = true ∧
        (checkedLen callInfo.messagesCallInfo.base.bundledStart
          callInfo.messagesCallInfo.base.bundledEnd).getD 0 ≤ r.limits.maxUnconfirmedMessages := by
  simp only [bundledMessagesForPriorityBoost]
  split_ifs <;> simp_all

end Runtime

/-! ## `analyze_call_result` -/

/-- The refund of a transaction whose calls all succeeded: `Refund::compute_refund` with the length
and the post-dispatch weight less what the submitter added to the relay chain finality call, and
for a delivery less the weight of the slash it did not cause. -/
def RefundParameters.relayerRefund {ChainId Reward : Type}
    (parameters : RefundParameters ChainId Reward)
    (callInfo : CallInfo LaneId SubmitFinalityProofInfo (SubmitParachainHeadsInfo ParaId ParaHash))
    (info : DispatchInfo) (postInfo : PostDispatchInfo) (len : ℕ) : Reward :=
  let extraWeight := (callInfo.submitFinalityProofInfo.map (·.extraWeight)).getD ⟨0, 0⟩
  let extraSize := (callInfo.submitFinalityProofInfo.map (·.extraSize)).getD 0
  let postInfoLen := len - extraSize
  let postInfoWeight := (postInfo.actualWeight.getD info.weight).sub extraWeight
  let postInfoWeight := if callInfo.isReceiveMessagesProofCall then
      postInfoWeight.sub parameters.extraWeightOfSuccessfulReceiveMessagesProofCall
    else postInfoWeight
  parameters.computeRefund info { postInfo with actualWeight := some postInfoWeight } postInfoLen

namespace Runtime

variable {RelayerId AccountId ChainId Reward DispatchError : Type} [DecidableEq ParaHash]
  (r : Runtime LaneId RelayerId AccountId SubmitFinalityProofInfo
    (SubmitParachainHeadsInfo ParaId ParaHash))
  (finality : FinalityStorage ParaId ParaHash) (parameters : RefundParameters ChainId Reward)

/-- The rewards account of a transaction: that of the refunded lane, paid by this chain for a
delivery and by the bridged chain for a confirmation. -/
def rewardAccountParams
    (callInfo : CallInfo LaneId SubmitFinalityProofInfo (SubmitParachainHeadsInfo ParaId ParaHash)) :
    RewardsAccountParams LaneId ChainId :=
  ⟨r.refundableLane, parameters.bridgedChainId,
    if callInfo.isReceiveMessagesProofCall then .thisChain else .bridgedChain⟩

/-- `analyze_call_result`, with the messages pallet's storage after the dispatch in `r` and the
finality pallets' in `finality`. -/
def analyzeCallResult
    (pre : Option (Option (PreDispatchData AccountId LaneId SubmitFinalityProofInfo
      (SubmitParachainHeadsInfo ParaId ParaHash))))
    (info : DispatchInfo) (postInfo : PostDispatchInfo) (len : ℕ)
    (result : Except DispatchError Unit) : RelayerAccountAction AccountId Reward LaneId ChainId :=
  match pre with
  | some (some pre) =>
    let relayer := pre.relayer
    let callInfo := pre.callInfo
    let rewardAccountParams := r.rewardAccountParams parameters callInfo
    let maySlashRelayer := (r.bundledMessagesForPriorityBoost (some callInfo)).isSome
    let slashRelayerIfDeliveryResult :=
      if maySlashRelayer then .slash relayer rewardAccountParams else .none
    match result with
    | .error _ => slashRelayerIfDeliveryResult
    | .ok () =>
      -- each `if let Some(..)` of the source: a call the transaction does not have passes
      if !(callInfo.submitFinalityProofInfo.all fun finalityProofInfo ↦
          finality.submitFinalityProofWasSuccessful finalityProofInfo.blockNumber) then
        slashRelayerIfDeliveryResult
      else if !(callInfo.submitParachainHeadsInfo.all
          finality.submitParachainHeadsWasSuccessful) then
        slashRelayerIfDeliveryResult
      else if !r.messagesCallWasSuccessful callInfo.messagesCallInfo then
        slashRelayerIfDeliveryResult
      else .reward relayer rewardAccountParams (parameters.relayerRefund callInfo info postInfo len)
  | _ => .none

/-! ## The decision -/

/-- Every call of the transaction did what it was sent for: the relay chain header it submits is
the best finalized one, the parachain head it submits is the parachain's best, and its messages
call was successful. -/
def CallSucceeded
    (callInfo : CallInfo LaneId SubmitFinalityProofInfo (SubmitParachainHeadsInfo ParaId ParaHash)) :
    Prop :=
  (∀ finalityProofInfo ∈ callInfo.submitFinalityProofInfo,
    finality.bestFinalizedNumber = some finalityProofInfo.blockNumber) ∧
  (∀ paraProofInfo ∈ callInfo.submitParachainHeadsInfo,
    (finality.parasInfo paraProofInfo.paraId).map (·.bestHeadHash) =
      some ⟨paraProofInfo.atRelayBlockNumber, paraProofInfo.paraHeadHash⟩) ∧
  r.messagesCallWasSuccessful callInfo.messagesCallInfo = true

instance
    (callInfo : CallInfo LaneId SubmitFinalityProofInfo (SubmitParachainHeadsInfo ParaId ParaHash)) :
    Decidable (r.CallSucceeded finality callInfo) :=
  inferInstanceAs (Decidable (_ ∧ _ ∧ _))

/-- The three `was_successful` checks of `analyze_call_result` pass exactly when every call
succeeded. -/
theorem wasSuccessful_iff_callSucceeded
    (callInfo : CallInfo LaneId SubmitFinalityProofInfo (SubmitParachainHeadsInfo ParaId ParaHash)) :
    ((callInfo.submitFinalityProofInfo.all fun finalityProofInfo ↦
        finality.submitFinalityProofWasSuccessful finalityProofInfo.blockNumber) &&
      callInfo.submitParachainHeadsInfo.all finality.submitParachainHeadsWasSuccessful &&
      r.messagesCallWasSuccessful callInfo.messagesCallInfo) = true ↔
    r.CallSucceeded finality callInfo := by
  simp only [Bool.and_eq_true, Option.all_eq_true, finality.submitFinalityProofWasSuccessful_iff,
    finality.submitParachainHeadsWasSuccessful_iff, CallSucceeded, and_assoc, Option.mem_def]

/-- **The decision of `analyze_call_result`**, its early returns folded into one condition: a
transaction that did not fail and whose calls all succeeded rewards its relayer; otherwise its
relayer is slashed if it is a delivery that `validate` could have boosted, and left alone if
not. -/
theorem analyzeCallResult_of_some
    (pre : PreDispatchData AccountId LaneId SubmitFinalityProofInfo
      (SubmitParachainHeadsInfo ParaId ParaHash))
    (info : DispatchInfo) (postInfo : PostDispatchInfo) (len : ℕ)
    (result : Except DispatchError Unit) :
    r.analyzeCallResult finality parameters (some (some pre)) info postInfo len result =
      if result.isOk = true ∧ r.CallSucceeded finality pre.callInfo then
        .reward pre.relayer (r.rewardAccountParams parameters pre.callInfo)
          (parameters.relayerRefund pre.callInfo info postInfo len)
      else if (r.bundledMessagesForPriorityBoost (some pre.callInfo)).isSome then
        .slash pre.relayer (r.rewardAccountParams parameters pre.callInfo)
      else .none := by
  have hsucceeded := r.wasSuccessful_iff_callSucceeded finality pre.callInfo
  cases result with
  | error e => simp [analyzeCallResult, Except.isOk, Except.toBool]
  | ok u =>
    simp only [analyzeCallResult, Except.isOk, Except.toBool, true_and]
    split_ifs <;> simp_all

/-- **What `analyze_call_result` does to the relayer's account.**  It rewards the relayer, on the
refunded lane's rewards account, exactly when the transaction did not fail and every call of it
succeeded; it slashes the relayer exactly when that is not so and the transaction is a delivery
of at most `MAX_UNCONFIRMED_MESSAGES_IN_CONFIRMATION_TX` messages; it does nothing in every other
case, and for a transaction it does not support.  The rewards account is paid by this chain
exactly for a delivery.  The transactions it supports are the shapes of
`parseAndCheckForObsoleteCall_shapes`, which come first. -/
theorem analyzeCallResult_spec [DecidableEq LaneId]
    (pre : Option (Option (PreDispatchData AccountId LaneId SubmitFinalityProofInfo
      (SubmitParachainHeadsInfo ParaId ParaHash))))
    (info : DispatchInfo) (postInfo : PostDispatchInfo) (len : ℕ)
    (result : Except DispatchError Unit) :
    let action := r.analyzeCallResult finality parameters pre info postInfo len result
    (∀ call callInfo, r.parseAndCheckForObsoleteCall call = .ok (some callInfo) →
      (expandCall call = [call] ∨
        ∃ calls, call = .batchAll calls ∧ calls.length ≤ 3 ∧ expandCall call = calls) ∧
      ((∃ relay para msgsCall msgs,
          expandCall call = [.submitFinalityProof relay, .submitParachainHeads para, msgsCall] ∧
          r.updatesRefundableParachain para = true ∧ r.callInfo msgsCall = some msgs ∧
          msgs.base.laneId = r.refundableLane ∧ callInfo = .allFinalityAndMsgs relay para msgs) ∨
        (∃ para msgsCall msgs, expandCall call = [.submitParachainHeads para, msgsCall] ∧
          r.updatesRefundableParachain para = true ∧ r.callInfo msgsCall = some msgs ∧
          msgs.base.laneId = r.refundableLane ∧ callInfo = .parachainFinalityAndMsgs para msgs) ∨
        (∃ msgsCall msgs, expandCall call = [msgsCall] ∧ r.callInfo msgsCall = some msgs ∧
          msgs.base.laneId = r.refundableLane ∧ callInfo = .msgs msgs))) ∧
    (∀ relayer params, (∃ reward, action = .reward relayer params reward) ↔
      ∃ callInfo, pre = some (some ⟨relayer, callInfo⟩) ∧ result = .ok () ∧
        r.CallSucceeded finality callInfo ∧ r.rewardAccountParams parameters callInfo = params) ∧
    (∀ relayer params, action = .slash relayer params ↔
      ∃ callInfo, pre = some (some ⟨relayer, callInfo⟩) ∧
        ¬ (result = .ok () ∧ r.CallSucceeded finality callInfo) ∧
        callInfo.isReceiveMessagesProofCall = true ∧
        (checkedLen callInfo.messagesCallInfo.base.bundledStart
          callInfo.messagesCallInfo.base.bundledEnd).getD 0 ≤ r.limits.maxUnconfirmedMessages ∧
        r.rewardAccountParams parameters callInfo = params) ∧
    (action = .none ↔ (∀ data, pre ≠ some (some data)) ∨
      ∃ data, pre = some (some data) ∧
        ¬ (result = .ok () ∧ r.CallSucceeded finality data.callInfo) ∧
        ¬ (data.callInfo.isReceiveMessagesProofCall = true ∧
          (checkedLen data.callInfo.messagesCallInfo.base.bundledStart
            data.callInfo.messagesCallInfo.base.bundledEnd).getD 0 ≤
              r.limits.maxUnconfirmedMessages)) ∧
    ∀ callInfo, (r.rewardAccountParams parameters callInfo).owner = .thisChain ↔
      callInfo.isReceiveMessagesProofCall = true := by
  dsimp only
  have hisOk : result.isOk = true ↔ result = .ok () := by
    cases result <;> simp [Except.isOk, Except.toBool]
  have howner (callInfo : CallInfo LaneId SubmitFinalityProofInfo
      (SubmitParachainHeadsInfo ParaId ParaHash)) :
      (r.rewardAccountParams parameters callInfo).owner = .thisChain ↔
        callInfo.isReceiveMessagesProofCall = true := by
    unfold rewardAccountParams
    split_ifs <;> simp_all
  refine ⟨fun _ _ hparse ↦ r.parseAndCheckForObsoleteCall_shapes hparse, ?_⟩
  rcases pre with _ | _ | ⟨relayer, callInfo⟩
  case none | some.none => exact ⟨by simp [analyzeCallResult], by simp [analyzeCallResult],
    by simp [analyzeCallResult], howner⟩
  case some.some =>
    have hslash := r.bundledMessagesForPriorityBoost_isSome_iff callInfo
    rw [analyzeCallResult_of_some]
    refine ⟨?_, ?_, ?_, howner⟩ <;> split_ifs with hsucceeded hmay <;> simp_all

end Runtime

end RuntimeCommon
