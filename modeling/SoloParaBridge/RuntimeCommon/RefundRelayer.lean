import SoloParaBridge.Messages.InboundLane

/-!
# The priority the relayer refund extension gives a message delivery

`RefundBridgedParachainMessages::validate` looks into a transaction: a messages call alone, or a
`batch_all` of at most three calls that ends in one, after the parachain's and the relay chain's
finality calls.  Every call must pass the obsolete check of its pallet's call extension —
`messages_call_ext` for the messages calls — and the transaction of a registered relayer that
delivers `n` messages then has its priority boosted by `compute_priority_boost(n)`, which is meant
to be `PriorityBoostPerMessage` for every message beyond the first.

`ReceiveMessagesProofInfo::is_obsolete` lets a delivery with an empty nonce range through when the
inbound lane is blocked, so that a relayer can bring the confirmations that unblock it.
`checked_len` counts `0` messages for such a range, and `compute_priority_boost` subtracts one
from that `u64`.  A runtime is built in release mode, where the subtraction wraps to `u64::MAX`,
and the saturating multiplication after it gives the largest priority there is
(`validate_empty_delivery_max_priority`).  For a delivery of `n ≥ 1` messages the boost is the
intended one, and at most `PriorityBoostPerMessage * (MAX_UNCONFIRMED_MESSAGES_IN_CONFIRMATION_TX
- 1)` (`validate_priority_le`).

The bridged relay chain's and parachain's finality calls are kept as what their pallets' call
extensions extract of them, of types `F` and `P`, with those pallets' obsolete checks as
parameters of the runtime.
-/

set_option autoImplicit false

namespace RuntimeCommon

open Messages

/-! ## `messages_call_ext` -/

/-- `BaseMessagesProofInfo`, with `bundled_range` as its start and (inclusive) end. -/
structure BaseMessagesProofInfo (LaneId : Type) where
  laneId : LaneId
  bundledStart : ℕ
  bundledEnd : ℕ
  bestStoredNonce : ℕ
  deriving DecidableEq, Repr

variable {LaneId : Type}

/-- `bundled_range.is_empty()`. -/
def BaseMessagesProofInfo.bundledRangeIsEmpty (info : BaseMessagesProofInfo LaneId) : Bool :=
  decide (info.bundledEnd < info.bundledStart)

/-- `appends_to_stored_nonce`: the range starts right after the best stored nonce. -/
def BaseMessagesProofInfo.appendsToStoredNonce (info : BaseMessagesProofInfo LaneId) : Bool :=
  decide (some info.bundledStart = Unsigned.checkedAdd 64 info.bestStoredNonce 1)

/-- `UnrewardedRelayerOccupation`. -/
structure UnrewardedRelayerOccupation where
  freeRelayerSlots : ℕ
  freeMessageSlots : ℕ
  deriving DecidableEq, Repr

/-- `ReceiveMessagesProofInfo`. -/
structure ReceiveMessagesProofInfo (LaneId : Type) where
  base : BaseMessagesProofInfo LaneId
  unrewardedRelayers : UnrewardedRelayerOccupation
  deriving DecidableEq, Repr

/-- `ReceiveMessagesProofInfo::is_obsolete`: an empty delivery is obsolete unless the lane is
blocked, and any other one must continue the delivered range. -/
def ReceiveMessagesProofInfo.isObsolete (info : ReceiveMessagesProofInfo LaneId) : Bool :=
  if info.base.bundledRangeIsEmpty then
    let emptyTransactionsAllowed :=
      info.unrewardedRelayers.freeRelayerSlots == 0 || info.unrewardedRelayers.freeMessageSlots == 0
    !emptyTransactionsAllowed
  else !info.base.appendsToStoredNonce

/-- `ReceiveMessagesDeliveryProofInfo`. -/
structure ReceiveMessagesDeliveryProofInfo (LaneId : Type) where
  base : BaseMessagesProofInfo LaneId
  deriving DecidableEq, Repr

/-- `ReceiveMessagesDeliveryProofInfo::is_obsolete`. -/
def ReceiveMessagesDeliveryProofInfo.isObsolete (info : ReceiveMessagesDeliveryProofInfo LaneId) :
    Bool :=
  info.base.bundledRangeIsEmpty || !info.base.appendsToStoredNonce

/-- `messages_call_ext::CallInfo`. -/
inductive MessagesCallInfo (LaneId : Type) where
  | receiveMessagesProof (info : ReceiveMessagesProofInfo LaneId)
  | receiveMessagesDeliveryProof (info : ReceiveMessagesDeliveryProofInfo LaneId)
  deriving DecidableEq, Repr

/-- The base info of either call. -/
def MessagesCallInfo.base : MessagesCallInfo LaneId → BaseMessagesProofInfo LaneId
  | .receiveMessagesProof info => info.base
  | .receiveMessagesDeliveryProof info => info.base

/-- `unrewarded_relayers_occupation`, against the bridged chain's limits. -/
def unrewardedRelayersOccupation {RelayerId : Type} (limits : InboundLaneLimits)
    (data : InboundLaneData RelayerId) : UnrewardedRelayerOccupation where
  freeRelayerSlots := limits.maxUnrewardedRelayerEntries - data.relayers.length
  freeMessageSlots :=
    limits.maxUnconfirmedMessages - (data.lastDeliveredNonce - data.lastConfirmedNonce)

/-! ## The runtime as the extension sees it -/

/-- The calls of the runtime that the extension tells apart. -/
inductive RuntimeCall (LaneId F P : Type) where
  /-- `submit_finality_proof` of the bridged relay chain's GRANDPA pallet. -/
  | submitFinalityProof (info : F)
  /-- `submit_parachain_heads` of the parachains pallet. -/
  | submitParachainHeads (info : P)
  /-- `receive_messages_proof`: the lane and the nonces of its proof. -/
  | receiveMessagesProof (lane : LaneId) (noncesStart noncesEnd : ℕ)
  /-- `receive_messages_delivery_proof`: the lane of its proof and
  `relayers_state.last_delivered_nonce`. -/
  | receiveMessagesDeliveryProof (lane : LaneId) (lastDeliveredNonce : ℕ)
  /-- `Utility::batch_all`. -/
  | batchAll (calls : List (RuntimeCall LaneId F P))
  /-- Any other call of `pallet_utility`. -/
  | utility
  /-- Any other call. -/
  | other

/-- What the extension reads of the runtime: the bridged chain's limits, the messages pallet's
lanes, the finality pallets' obsolete checks, the relayers pallet's registrations, and the lane
and parachain it refunds (`Msgs::Id`, `Para::Id`). -/
structure Runtime (LaneId RelayerId AccountId F P : Type) where
  /-- `MAX_UNREWARDED_RELAYERS_IN_CONFIRMATION_TX` and `MAX_UNCONFIRMED_MESSAGES_IN_CONFIRMATION_TX`
  of the bridged chain. -/
  limits : InboundLaneLimits
  inboundLanes : LaneId → Option (InboundLaneData RelayerId)
  outboundLanes : LaneId → Option OutboundLaneData
  /-- `check_obsolete_submit_finality_proof` rejects the call. -/
  finalityProofIsObsolete : F → Bool
  /-- `check_obsolete_submit_parachain_heads` rejects the call. -/
  parachainHeadsIsObsolete : P → Bool
  /-- The call updates `Para::Id`. -/
  updatesRefundableParachain : P → Bool
  /-- `Msgs::Id`. -/
  refundableLane : LaneId
  /-- `RelayersPallet::is_registration_active`. -/
  isRegistrationActive : AccountId → Bool

/-- `InvalidTransaction`, as far as the checks return one. -/
inductive InvalidTransaction where
  | stale
  deriving DecidableEq, Repr

/-- `refund_relayer_extension::CallInfo`: the transaction shapes the extension recognises. -/
inductive CallInfo (LaneId F P : Type) where
  | allFinalityAndMsgs (relay : F) (para : P) (msgs : MessagesCallInfo LaneId)
  | parachainFinalityAndMsgs (para : P) (msgs : MessagesCallInfo LaneId)
  | msgs (msgs : MessagesCallInfo LaneId)

variable {F P : Type}

/-- `CallInfo::messages_call_info`. -/
def CallInfo.messagesCallInfo : CallInfo LaneId F P → MessagesCallInfo LaneId
  | .allFinalityAndMsgs _ _ info => info
  | .parachainFinalityAndMsgs _ info => info
  | .msgs info => info

/-- `CallInfo::is_receive_messages_proof_call`. -/
def CallInfo.isReceiveMessagesProofCall (c : CallInfo LaneId F P) : Bool :=
  match c.messagesCallInfo with
  | .receiveMessagesProof _ => true
  | .receiveMessagesDeliveryProof _ => false

/-- `expand_call`: a `batch_all` of at most three calls is its calls, any other utility call is
nothing, and any other call is itself. -/
def expandCall : RuntimeCall LaneId F P → List (RuntimeCall LaneId F P)
  | .batchAll calls => if calls.length ≤ 3 then calls else []
  | .utility => []
  | call => [call]

/-- `submit_finality_proof_info`. -/
def submitFinalityProofInfo : RuntimeCall LaneId F P → Option F
  | .submitFinalityProof info => some info
  | _ => none

/-- `compute_priority_boost`: `PriorityBoostPerMessage` for each message beyond the first, with the
`messages - 1` of a release build. -/
def computePriorityBoost (priorityBoostPerMessage messages : ℕ) : ℕ :=
  Unsigned.saturatingMul 64 priorityBoostPerMessage (Unsigned.wrappingSub 64 messages 1)

namespace Runtime

variable {RelayerId AccountId : Type} (r : Runtime LaneId RelayerId AccountId F P)

/-- `MessagesCallSubType::call_info`: a messages call read against its lane's storage; nothing for
any other call, or for a lane that is not there. -/
def callInfo : RuntimeCall LaneId F P → Option (MessagesCallInfo LaneId)
  | .receiveMessagesProof lane noncesStart noncesEnd =>
    (r.inboundLanes lane).map fun data ↦ .receiveMessagesProof
      ⟨⟨lane, noncesStart, noncesEnd, data.lastDeliveredNonce⟩,
        unrewardedRelayersOccupation r.limits data⟩
  | .receiveMessagesDeliveryProof lane lastDeliveredNonce =>
    (r.outboundLanes lane).map fun data ↦ .receiveMessagesDeliveryProof
      ⟨⟨lane, Unsigned.wrappingAdd 64 data.latestReceivedNonce 1, lastDeliveredNonce,
        data.latestReceivedNonce⟩⟩
  | _ => none

/-- `MessagesCallSubType::check_obsolete_call`. -/
def checkObsoleteMessagesCall (call : RuntimeCall LaneId F P) : Except InvalidTransaction Unit :=
  match r.callInfo call with
  | some (.receiveMessagesProof info) => if info.isObsolete then .error .stale else .ok ()
  | some (.receiveMessagesDeliveryProof info) => if info.isObsolete then .error .stale else .ok ()
  | none => .ok ()

/-- `check_obsolete_call` of the extension: the GRANDPA, parachains and messages pallets' checks,
each of which passes any call that is not its pallet's. -/
def checkObsoleteCall (call : RuntimeCall LaneId F P) :
    Except InvalidTransaction (RuntimeCall LaneId F P) :=
  match call with
  | .submitFinalityProof info =>
    if r.finalityProofIsObsolete info then .error .stale else .ok call
  | .submitParachainHeads info =>
    if r.parachainHeadsIsObsolete info then .error .stale else .ok call
  | _ => (r.checkObsoleteMessagesCall call).map fun _ ↦ call

/-- `submit_parachain_heads_info_for(Para::Id)`. -/
def submitParachainHeadsInfoFor : RuntimeCall LaneId F P → Option P
  | .submitParachainHeads info => if r.updatesRefundableParachain info then some info else none
  | _ => none

variable [DecidableEq LaneId]

/-- `call_info_for(Msgs::Id)`. -/
def callInfoFor (call : RuntimeCall LaneId F P) : Option (MessagesCallInfo LaneId) :=
  (r.callInfo call).filter fun info ↦ decide (info.base.laneId = r.refundableLane)

/-- `parse_and_check_for_obsolete_call`: every call of the expanded transaction is checked, from
the last one back (they are at most three, so the lazy iterator checks them all); the last one
must be a messages call of the refunded lane, the one before it the refunded parachain's heads,
and the one before that relay chain finality. -/
def parseAndCheckForObsoleteCall (call : RuntimeCall LaneId F P) :
    Except InvalidTransaction (Option (CallInfo LaneId F P)) := do
  let calls := expandCall call
  let checked ← calls.reverse.mapM r.checkObsoleteCall
  let msgsCall := checked[0]?.bind r.callInfoFor
  let paraFinalityCall := checked[1]?.bind r.submitParachainHeadsInfoFor
  let relayFinalityCall := checked[2]?.bind submitFinalityProofInfo
  return match calls.length, relayFinalityCall, paraFinalityCall, msgsCall with
    | 3, some relay, some para, some msgs => some (.allFinalityAndMsgs relay para msgs)
    | 2, none, some para, some msgs => some (.parachainFinalityAndMsgs para msgs)
    | 1, none, none, some msgs => some (.msgs msgs)
    | _, _, _, _ => none

/-- `bundled_messages_for_priority_boost`: the number of messages a delivery bundles, unless it
bundles more than a confirmation can carry; `checked_len().unwrap_or(0)` counts an empty range as
`0`. -/
def bundledMessagesForPriorityBoost (callInfo : Option (CallInfo LaneId F P)) : Option ℕ :=
  match callInfo with
  | some parsedCall =>
    if parsedCall.isReceiveMessagesProofCall then
      let base := parsedCall.messagesCallInfo.base
      let bundledMessages := (checkedLen base.bundledStart base.bundledEnd).getD 0
      if bundledMessages > r.limits.maxUnconfirmedMessages then none else some bundledMessages
    else none
  | none => none

/-- `validate`: the priority the extension gives the transaction `call` of `who`, `0` being
`ValidTransaction::default()`. -/
def validate (priorityBoostPerMessage : ℕ) (who : AccountId) (call : RuntimeCall LaneId F P) :
    Except InvalidTransaction ℕ := do
  let parsedCall ← r.parseAndCheckForObsoleteCall call
  match r.bundledMessagesForPriorityBoost parsedCall with
  | none => return 0
  | some bundledMessages =>
    if !r.isRegistrationActive who then return 0
    else return computePriorityBoost priorityBoostPerMessage bundledMessages

end Runtime

/-! ## The boost -/

/-- For `n ≥ 1` messages the boost is `PriorityBoostPerMessage * (n - 1)`, saturating. -/
theorem computePriorityBoost_of_pos {priorityBoostPerMessage n : ℕ} (hn : 0 < n) (hn64 : n < 2 ^ 64) :
    computePriorityBoost priorityBoostPerMessage n =
      Unsigned.saturatingMul 64 priorityBoostPerMessage (n - 1) := by
  rw [computePriorityBoost, Unsigned.wrappingSub_of_le hn hn64]

/-- For no message, `0 - 1` wraps to `u64::MAX`, and so does the boost. -/
theorem computePriorityBoost_zero {priorityBoostPerMessage : ℕ} (hP : 0 < priorityBoostPerMessage) :
    computePriorityBoost priorityBoostPerMessage 0 = 2 ^ 64 - 1 := by
  rw [computePriorityBoost, Unsigned.wrappingSub_zero_one, Unsigned.saturatingMul_max hP]

/-- The boost of `1 ≤ n ≤ m` messages is at most that of `m`, computed without saturation. -/
theorem computePriorityBoost_le {priorityBoostPerMessage n m : ℕ} (hn : 0 < n) (hnm : n ≤ m)
    (hm : m < 2 ^ 64) :
    computePriorityBoost priorityBoostPerMessage n ≤ priorityBoostPerMessage * (m - 1) :=
  calc computePriorityBoost priorityBoostPerMessage n
      = Unsigned.saturatingMul 64 priorityBoostPerMessage (n - 1) :=
        computePriorityBoost_of_pos hn (Nat.lt_of_le_of_lt hnm hm)
    _ ≤ priorityBoostPerMessage * (n - 1) := Unsigned.saturatingMul_le
    _ ≤ priorityBoostPerMessage * (m - 1) := Nat.mul_le_mul_left _ (Nat.sub_le_sub_right hnm 1)

namespace Runtime

variable {RelayerId AccountId : Type} (r : Runtime LaneId RelayerId AccountId F P)

/-- A delivery is boosted for at most as many messages as a confirmation can carry. -/
theorem bundledMessagesForPriorityBoost_le {parsedCall : Option (CallInfo LaneId F P)} {n : ℕ}
    (h : r.bundledMessagesForPriorityBoost parsedCall = some n) :
    n ≤ r.limits.maxUnconfirmedMessages := by
  unfold bundledMessagesForPriorityBoost at h
  split at h
  · dsimp only at h
    split_ifs at h with hdelivery hmax
    injection h with h
    rw [← h]
    exact Nat.le_of_not_lt hmax
  · cases h

/-- An empty range counts as no message. -/
theorem bundledMessagesForPriorityBoost_of_empty {parsedCall : CallInfo LaneId F P}
    {info : ReceiveMessagesProofInfo LaneId}
    (hdelivery : parsedCall.messagesCallInfo = .receiveMessagesProof info)
    (hempty : info.base.bundledEnd < info.base.bundledStart) :
    r.bundledMessagesForPriorityBoost (some parsedCall) = some 0 := by
  have hlen : checkedLen info.base.bundledStart info.base.bundledEnd = none := by
    rw [checkedLen, Unsigned.checkedSub_of_lt hempty]
    rfl
  rw [bundledMessagesForPriorityBoost, CallInfo.isReceiveMessagesProofCall, hdelivery]
  simp [MessagesCallInfo.base, hlen]

/-- `validate` accepting a transaction: its calls passed the checks, and its priority is `0` or the
boost of the messages it bundles. -/
theorem validate_eq_ok {priorityBoostPerMessage : ℕ} {who : AccountId}
    {call : RuntimeCall LaneId F P} {priority : ℕ} [DecidableEq LaneId]
    (h : r.validate priorityBoostPerMessage who call = .ok priority) :
    ∃ parsedCall, r.parseAndCheckForObsoleteCall call = .ok parsedCall ∧
      (priority = 0 ∨ ∃ n, r.bundledMessagesForPriorityBoost parsedCall = some n ∧
        r.isRegistrationActive who = true ∧ priority = computePriorityBoost priorityBoostPerMessage n) := by
  rw [validate] at h
  cases hparse : r.parseAndCheckForObsoleteCall call with
  | error e =>
    rw [hparse] at h
    cases h
  | ok parsedCall =>
    rw [hparse] at h
    refine ⟨parsedCall, rfl, ?_⟩
    cases hbundled : r.bundledMessagesForPriorityBoost parsedCall with
    | none =>
      simp only [hbundled, bind, Except.bind, pure, Except.pure, Except.ok.injEq] at h
      exact .inl h.symm
    | some n =>
      by_cases hregistered : r.isRegistrationActive who = true
      · simp only [hbundled, hregistered, bind, Except.bind, pure, Except.pure, Bool.not_true,
          Bool.false_eq_true, if_false, Except.ok.injEq] at h
        exact .inr ⟨n, rfl, hregistered, h.symm⟩
      · simp only [hbundled, hregistered, bind, Except.bind, pure, Except.pure, Bool.not_false,
          if_true, Except.ok.injEq] at h
        exact .inl h.symm

/-- **The boost stays in its bound, except for an empty delivery.**  The priority `validate` gives
is at most `PriorityBoostPerMessage * (MAX_UNCONFIRMED_MESSAGES_IN_CONFIRMATION_TX - 1)`, unless
the transaction is a delivery that bundles no message. -/
theorem validate_priority_le {priorityBoostPerMessage : ℕ} {who : AccountId}
    {call : RuntimeCall LaneId F P} {priority : ℕ} [DecidableEq LaneId]
    (h : r.validate priorityBoostPerMessage who call = .ok priority)
    (hmax : r.limits.maxUnconfirmedMessages < 2 ^ 64) :
    priority ≤ priorityBoostPerMessage * (r.limits.maxUnconfirmedMessages - 1) ∨
      ∃ parsedCall, r.parseAndCheckForObsoleteCall call = .ok parsedCall ∧
        r.bundledMessagesForPriorityBoost parsedCall = some 0 := by
  obtain ⟨parsedCall, hparse, hzero | ⟨n, hbundled, -, hboost⟩⟩ := r.validate_eq_ok h
  · rw [hzero]
    exact .inl (Nat.zero_le _)
  · rcases Nat.eq_zero_or_pos n with hn | hpos
    · rw [hn] at hbundled
      exact .inr ⟨parsedCall, hparse, hbundled⟩
    · rw [hboost]
      exact .inl (computePriorityBoost_le hpos (r.bundledMessagesForPriorityBoost_le hbundled) hmax)

/-- A delivery on its own, on the refunded lane, that its lane's state does not make obsolete: it
is the transaction shape `Msgs`. -/
theorem parseAndCheckForObsoleteCall_receiveMessagesProof [DecidableEq LaneId] {lane : LaneId}
    {noncesStart noncesEnd : ℕ} {data : InboundLaneData RelayerId}
    (hlane : r.inboundLanes lane = some data) (hrefunded : lane = r.refundableLane)
    (hfresh : (⟨⟨lane, noncesStart, noncesEnd, data.lastDeliveredNonce⟩,
      unrewardedRelayersOccupation r.limits data⟩ : ReceiveMessagesProofInfo LaneId).isObsolete =
        false) :
    r.parseAndCheckForObsoleteCall (.receiveMessagesProof lane noncesStart noncesEnd) =
      .ok (some (.msgs (.receiveMessagesProof ⟨⟨lane, noncesStart, noncesEnd,
        data.lastDeliveredNonce⟩, unrewardedRelayersOccupation r.limits data⟩))) := by
  have hinfo : r.callInfo (.receiveMessagesProof lane noncesStart noncesEnd) =
      some (.receiveMessagesProof ⟨⟨lane, noncesStart, noncesEnd, data.lastDeliveredNonce⟩,
        unrewardedRelayersOccupation r.limits data⟩) := by
    simp [callInfo, hlane]
  have hcheck : r.checkObsoleteCall (.receiveMessagesProof lane noncesStart noncesEnd) =
      .ok (.receiveMessagesProof lane noncesStart noncesEnd) := by
    simp only [checkObsoleteCall, checkObsoleteMessagesCall, hinfo, hfresh]
    rfl
  have hfor : r.callInfoFor (.receiveMessagesProof lane noncesStart noncesEnd) =
      some (.receiveMessagesProof ⟨⟨lane, noncesStart, noncesEnd, data.lastDeliveredNonce⟩,
        unrewardedRelayersOccupation r.limits data⟩) := by
    rw [callInfoFor, hinfo]
    simp [MessagesCallInfo.base, hrefunded]
  simp [parseAndCheckForObsoleteCall, expandCall, hcheck, hfor, submitParachainHeadsInfoFor]

/-- **An empty delivery gets the largest priority there is.**  A delivery with an empty nonce range,
on the refunded lane while it is blocked — no free relayer slot or no free message slot, the case
`is_obsolete` lets through — from a registered relayer is accepted by `validate` with priority
`u64::MAX` for any positive `PriorityBoostPerMessage`, not with no boost. -/
theorem validate_empty_delivery_max_priority [DecidableEq LaneId] {priorityBoostPerMessage : ℕ}
    {who : AccountId} {lane : LaneId} {noncesStart noncesEnd : ℕ} {data : InboundLaneData RelayerId}
    (hlane : r.inboundLanes lane = some data) (hrefunded : lane = r.refundableLane)
    (hempty : noncesEnd < noncesStart)
    (hblocked : (unrewardedRelayersOccupation r.limits data).freeRelayerSlots = 0 ∨
      (unrewardedRelayersOccupation r.limits data).freeMessageSlots = 0)
    (hregistered : r.isRegistrationActive who = true) (hP : 0 < priorityBoostPerMessage) :
    r.validate priorityBoostPerMessage who (.receiveMessagesProof lane noncesStart noncesEnd) =
      .ok (2 ^ 64 - 1) := by
  -- the empty range passes `is_obsolete` because the lane is blocked
  have hfresh : (⟨⟨lane, noncesStart, noncesEnd, data.lastDeliveredNonce⟩,
      unrewardedRelayersOccupation r.limits data⟩ : ReceiveMessagesProofInfo LaneId).isObsolete =
        false := by
    have hallowed : ((unrewardedRelayersOccupation r.limits data).freeRelayerSlots == 0 ||
        (unrewardedRelayersOccupation r.limits data).freeMessageSlots == 0) = true := by
      rcases hblocked with hslots | hslots <;> simp [hslots]
    simp [ReceiveMessagesProofInfo.isObsolete, BaseMessagesProofInfo.bundledRangeIsEmpty, hempty,
      hallowed]
  have hbundled : r.bundledMessagesForPriorityBoost (some (.msgs (.receiveMessagesProof
      ⟨⟨lane, noncesStart, noncesEnd, data.lastDeliveredNonce⟩,
        unrewardedRelayersOccupation r.limits data⟩))) = some 0 :=
    r.bundledMessagesForPriorityBoost_of_empty rfl hempty
  rw [validate, r.parseAndCheckForObsoleteCall_receiveMessagesProof hlane hrefunded hfresh]
  simp only [bind, Except.bind, hbundled, hregistered, Bool.not_true, Bool.false_eq_true, if_false,
    pure, Except.pure]
  rw [computePriorityBoost_zero hP]

end Runtime

/-- The Millau runtime's refund extension for Rialto parachain messages, whose bridged chain
carries at most `1024` unrewarded relayer entries and `1024` unconfirmed messages, on its refunded
lane `0`: relayer `1` has delivered messages `1..=1024`, none of them confirmed yet, so the lane
takes no more messages; every account is a registered relayer. -/
def blockedLane : Runtime ℕ ℕ ℕ Unit Unit where
  limits := ⟨1024, 1024⟩
  inboundLanes := fun _ ↦ some ⟨.opened, [⟨1, ⟨1, 1024⟩⟩], 0⟩
  outboundLanes := fun _ ↦ none
  finalityProofIsObsolete := fun _ ↦ false
  parachainHeadsIsObsolete := fun _ ↦ false
  updatesRefundableParachain := fun _ ↦ true
  refundableLane := 0
  isRegistrationActive := fun _ ↦ true

/-- With Millau's `PriorityBoostPerMessage` of `351_343_108`, the empty delivery `1025..=1024`
gets priority `u64::MAX`, far above the `351_343_108 * 1023` that a delivery of `1024` messages
gets. -/
theorem validate_empty_delivery_max_priority_blockedLane :
    blockedLane.inboundLanes 0 = some ⟨.opened, [⟨1, ⟨1, 1024⟩⟩], 0⟩ ∧
      (0 : ℕ) = blockedLane.refundableLane ∧ 1024 < 1025 ∧
      (unrewardedRelayersOccupation blockedLane.limits
        (⟨.opened, [⟨1, ⟨1, 1024⟩⟩], 0⟩ : InboundLaneData ℕ)).freeMessageSlots = 0 ∧
      blockedLane.isRegistrationActive 1 = true ∧ 0 < 351343108 ∧
      blockedLane.validate 351343108 1 (.receiveMessagesProof 0 1025 1024) = .ok (2 ^ 64 - 1) ∧
      351343108 * (blockedLane.limits.maxUnconfirmedMessages - 1) < 2 ^ 64 - 1 := by
  have hblocked : (unrewardedRelayersOccupation blockedLane.limits
      (⟨.opened, [⟨1, ⟨1, 1024⟩⟩], 0⟩ : InboundLaneData ℕ)).freeMessageSlots = 0 := by
    decide
  exact ⟨rfl, rfl, by decide, hblocked, rfl, by decide,
    blockedLane.validate_empty_delivery_max_priority rfl rfl (by decide) (.inr hblocked) rfl
      (by decide),
    by decide⟩

/-- The refunded lane `0` of a runtime whose lanes take four unconfirmed messages, empty. -/
def openLane : Runtime ℕ ℕ ℕ Unit Unit where
  limits := ⟨4, 4⟩
  inboundLanes := fun _ ↦ some ⟨.opened, [], 0⟩
  outboundLanes := fun _ ↦ none
  finalityProofIsObsolete := fun _ ↦ false
  parachainHeadsIsObsolete := fun _ ↦ false
  updatesRefundableParachain := fun _ ↦ true
  refundableLane := 0
  isRegistrationActive := fun _ ↦ true

/-- A delivery of messages `1..=2` there gets priority `10`, within `10 * 3`. -/
theorem validate_priority_le_openLane :
    10 ≤ 10 * (openLane.limits.maxUnconfirmedMessages - 1) ∨
      ∃ parsedCall, openLane.parseAndCheckForObsoleteCall (.receiveMessagesProof 0 1 2) =
          .ok parsedCall ∧ openLane.bundledMessagesForPriorityBoost parsedCall = some 0 :=
  openLane.validate_priority_le
    (by decide +kernel : openLane.validate 10 1 (.receiveMessagesProof 0 1 2) = .ok 10) (by decide)

end RuntimeCommon
