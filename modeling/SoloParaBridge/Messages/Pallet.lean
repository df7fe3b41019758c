import SoloParaBridge.Messages.InboundLane
import SoloParaBridge.Messages.OutboundLane

/-!
# The messages pallet

`pallet-bridge-messages` holds every lane of a chain by its `LaneId`: the optional records
`InboundLanes` and `OutboundLanes`, and the payloads of `OutboundMessages`, keyed by lane and
nonce.  `LanesManager` turns a lane id into a lane of `InboundLane` or `OutboundLane` — failing
for a lane that does not exist, and, when an active lane is asked for, for a closed one — and the
lane writes what it changes back under its id.  Over them the pallet has three calls:

* `send_message`, which the chain's XCM exporter calls: while the pallet operates normally, it
  appends a payload to an active outbound lane;
* `receive_messages_proof`, a dispatchable: a proof of the bridged chain's outbound lane brings
  that lane's state, which may confirm delivered messages, and the messages themselves, received
  in order on the active inbound lane — unless the dispatch weight the relayer declared runs out,
  an error after which the storage layer discards everything the call wrote;
* `receive_messages_delivery_proof`, a dispatchable: a proof of the bridged chain's inbound lane
  confirms delivery on the outbound lane, in any state, and pays the relayers for what it
  confirmed.

A storage proof is modelled by the values it proves: `FromBridgedChainMessagesProof` holds the
bridged chain's `OutboundLanes` record and payloads, `FromBridgedChainMessagesDeliveryProof` its
`InboundLanes` record.  Whether they are what the bridged chain really stored is not this
pallet's business; the model of the two chains together (`Messages.Delivery`) assumes it.  The
calls are signed, and their caller appears only where the pallet uses it: as the relayer paid.
-/

set_option autoImplicit false

namespace Messages

/-- `BasicOperatingMode`. -/
inductive BasicOperatingMode where
  | normal
  | halted
  deriving DecidableEq, Repr

/-- `MessagesOperatingMode`. -/
inductive MessagesOperatingMode where
  | basic (mode : BasicOperatingMode)
  | rejectingOutboundMessages
  deriving DecidableEq, Repr

/-- `OperatingMode::is_halted`. -/
def MessagesOperatingMode.isHalted : MessagesOperatingMode → Bool
  | .basic .halted => true
  | _ => false

/-- `Weight`, in its two dimensions. -/
structure Weight where
  refTime : ℕ
  proofSize : ℕ
  deriving DecidableEq, Repr

namespace Weight

/-- `any_gt`: `a` exceeds `b` in some dimension. -/
def anyGt (a b : Weight) : Bool := decide (b.refTime < a.refTime ∨ b.proofSize < a.proofSize)

/-- `min`, in each dimension. -/
def min (a b : Weight) : Weight := ⟨Nat.min a.refTime b.refTime, Nat.min a.proofSize b.proofSize⟩

/-- `a - b`, in each dimension. -/
def sub (a b : Weight) : Weight := ⟨a.refTime - b.refTime, a.proofSize - b.proofSize⟩

end Weight

/-- `Message`: a nonce of the lane of the proof, and its payload. -/
structure Message where
  nonce : ℕ
  payload : MessagePayload
  deriving DecidableEq, Repr

/-- `FromBridgedChainMessagesProof`, as the storage values of the bridged chain it proves. -/
structure FromBridgedChainMessagesProof (LaneId : Type) where
  lane : LaneId
  noncesStart : ℕ
  noncesEnd : ℕ
  /-- `OutboundLanes[lane]` of the bridged chain, if the proof holds it. -/
  outboundLaneData : Option OutboundLaneData
  /-- The payloads of `OutboundMessages` of the lane that the proof holds. -/
  messagePayloads : ℕ → Option MessagePayload

/-- `ProvedLaneMessages`. -/
structure ProvedLaneMessages where
  laneState : Option OutboundLaneData
  messages : List Message

/-- `FromBridgedChainMessagesDeliveryProof`, as the value of `InboundLanes[lane]` of the bridged
chain it proves, if it holds one. -/
structure FromBridgedChainMessagesDeliveryProof (LaneId AccountId : Type) where
  lane : LaneId
  inboundLaneData : Option (InboundLaneData AccountId)

/-- `UnrewardedRelayersState`. -/
structure UnrewardedRelayersState where
  unrewardedRelayerEntries : ℕ
  messagesInOldestEntry : ℕ
  totalMessages : ℕ
  lastDeliveredNonce : ℕ
  deriving DecidableEq, Repr

/-- `UnrewardedRelayersState::from(&InboundLaneData)`. -/
def UnrewardedRelayersState.ofInboundLaneData {AccountId : Type}
    (lane : InboundLaneData AccountId) : UnrewardedRelayersState :=
  ⟨lane.relayers.length, (lane.relayers.head?.map fun entry ↦ entry.messages.totalMessages).getD 0,
    lane.totalUnrewardedMessages, lane.lastDeliveredNonce⟩

/-- `UnrewardedRelayersState::is_valid`: the declared state is the one of the proven lane. -/
def UnrewardedRelayersState.isValid {AccountId : Type} (relayersState : UnrewardedRelayersState)
    (laneData : InboundLaneData AccountId) : Bool :=
  decide (relayersState = ofInboundLaneData laneData)

/-- `verify_messages_proof`, past the storage proof itself: the declared count is the length of
the range, every nonce of the range has its payload in the proof, and the proof holds something.
`none` stands for each `VerificationError`, which the pallet reports as
`InvalidMessagesProof`. -/
def verifyMessagesProof {LaneId : Type} (proof : FromBridgedChainMessagesProof LaneId)
    (messagesCount : UInt32) : Option ProvedLaneMessages :=
  if (checkedLen proof.noncesStart proof.noncesEnd).getD 0 ≠ messagesCount.toNat then none
  else
    match (List.range' proof.noncesStart (proof.noncesEnd + 1 - proof.noncesStart)).mapM
        fun nonce ↦ (proof.messagePayloads nonce).map (Message.mk nonce) with
    | none => none
    | some messages =>
      if proof.outboundLaneData.isNone && messages.isEmpty then none
      else some ⟨proof.outboundLaneData, messages⟩

/-- A proof that verifies brings the outbound lane state it holds. -/
theorem verifyMessagesProof_laneState {LaneId : Type} {proof : FromBridgedChainMessagesProof LaneId}
    {messagesCount : UInt32} {laneData : ProvedLaneMessages}
    (h : verifyMessagesProof proof messagesCount = some laneData) :
    laneData.laneState = proof.outboundLaneData := by
  unfold verifyMessagesProof at h
  split_ifs at h
  split at h
  · cases h
  · split_ifs at h
    cases h
    rfl

/-- A proof of a non-empty range that holds the payload of each of its nonces verifies, with the
range's length as the count, and brings those messages. -/
theorem verifyMessagesProof_of_payloads {LaneId : Type} (proof : FromBridgedChainMessagesProof LaneId)
    {payloads : ℕ → MessagePayload} {messagesCount : UInt32}
    (hle : proof.noncesStart ≤ proof.noncesEnd)
    (hcount : messagesCount.toNat = proof.noncesEnd - proof.noncesStart + 1)
    (hpayloads : ∀ nonce, proof.noncesStart ≤ nonce → nonce ≤ proof.noncesEnd →
      proof.messagePayloads nonce = some (payloads nonce)) :
    verifyMessagesProof proof messagesCount =
      some ⟨proof.outboundLaneData, (List.range' proof.noncesStart
        (proof.noncesEnd - proof.noncesStart + 1)).map fun nonce ↦ ⟨nonce, payloads nonce⟩⟩ := by
  have hlt : proof.noncesEnd - proof.noncesStart + 1 < 2 ^ 64 := by
    have := messagesCount.toNat_lt
    omega
  have hlen : checkedLen proof.noncesStart proof.noncesEnd = some messagesCount.toNat := by
    rw [checkedLen, Unsigned.checkedSub_of_le hle, Option.bind_some,
      Unsigned.checkedAdd_of_lt hlt, hcount]
  have hrange : proof.noncesEnd + 1 - proof.noncesStart =
      proof.noncesEnd - proof.noncesStart + 1 := by omega
  have hmessages : (List.range' proof.noncesStart (proof.noncesEnd - proof.noncesStart + 1)).mapM
      (fun nonce ↦ (proof.messagePayloads nonce).map (Message.mk nonce)) =
      some ((List.range' proof.noncesStart (proof.noncesEnd - proof.noncesStart + 1)).map
        fun nonce ↦ ⟨nonce, payloads nonce⟩) := by
    refine mapM_eq_some_map fun nonce hnonce ↦ ?_
    rw [List.mem_range'_1] at hnonce
    rw [hpayloads nonce hnonce.1 (by omega)]
    rfl
  simp only [verifyMessagesProof, hlen, Option.getD_some, ne_eq, not_true_eq_false, if_false,
    hrange, hmessages]
  simp only [List.range'_succ, List.map_cons, List.isEmpty_cons, Bool.and_false,
    Bool.false_eq_true, if_false]

namespace Pallet

/-- `LanesManagerError`. -/
inductive LanesManagerError where
  | inboundLaneAlreadyExists
  | outboundLaneAlreadyExists
  | unknownInboundLane
  | unknownOutboundLane
  | closedInboundLane
  | closedOutboundLane
  deriving DecidableEq, Repr

/-- The pallet's `Error`; `bridgeModule` is `BridgeModule(OwnedBridgeModuleError::Halted)`. -/
inductive Error where
  | notOperatingNormally
  | lanesManager (e : LanesManagerError)
  | messageRejectedByPallet (e : VerificationError)
  | tooManyMessagesInTheProof
  | invalidMessagesProof
  | invalidMessagesDeliveryProof
  | invalidUnrewardedRelayersState
  | insufficientDispatchWeight
  | receivalConfirmation (e : ReceivalConfirmationError)
  | bridgeModule
  deriving DecidableEq, Repr

/-- What the pallet takes from its runtime: the bridged chain's payload size limit and inbound
lane limits, the dispatcher of incoming messages, and `T::DeliveryConfirmationPayments` on a
store of payments of type `Payments`.  The relayers of both chains are `AccountId`s. -/
structure Config (LaneId AccountId Payments : Type) where
  /-- `StoredMessagePayloadLimit`: the bridged chain's `maximal_incoming_message_size`. -/
  storedMessagePayloadLimit : ℕ
  /-- `MAX_UNREWARDED_RELAYERS_IN_CONFIRMATION_TX` and `MAX_UNCONFIRMED_MESSAGES_IN_CONFIRMATION_TX`
  of the bridged chain. -/
  inboundLaneLimits : InboundLaneLimits
  /-- `T::MessageDispatch::dispatch_weight`. -/
  dispatchWeight : LaneId → Message → Weight
  /-- The `unspent_weight` of `T::MessageDispatch::dispatch`. -/
  dispatch : LaneId → Message → Weight
  /-- `T::DeliveryConfirmationPayments::pay_reward(lane, relayers, confirmation_relayer,
  received_range)`. -/
  payReward : Payments → LaneId → List (UnrewardedRelayer AccountId) → AccountId →
    DeliveredMessages → Payments

/-- The storage of the pallet, and that of its payments. -/
structure State (LaneId AccountId Payments : Type) where
  palletOperatingMode : MessagesOperatingMode
  inboundLanes : LaneId → Option (InboundLaneData AccountId)
  outboundLanes : LaneId → Option OutboundLaneData
  outboundMessages : LaneId → ℕ → Option MessagePayload
  payments : Payments

variable {LaneId AccountId Payments : Type} [DecidableEq LaneId]

namespace State

variable (s : State LaneId AccountId Payments)

/-- `RuntimeInboundLaneStorage::from_lane_id`. -/
def inboundLaneStorage (laneId : LaneId) (checkActive : Bool) :
    Except LanesManagerError (InboundLaneData AccountId) :=
  match s.inboundLanes laneId with
  | none => .error .unknownInboundLane
  | some data => if checkActive && !data.state.isActive then .error .closedInboundLane else .ok data

/-- `RuntimeOutboundLaneStorage::from_lane_id`: the lane's data and its payloads. -/
def outboundLaneStorage (laneId : LaneId) (checkActive : Bool) :
    Except LanesManagerError OutboundLaneStore :=
  match s.outboundLanes laneId with
  | none => .error .unknownOutboundLane
  | some data =>
    if checkActive && !data.state.isActive then .error .closedOutboundLane
    else .ok ⟨data, s.outboundMessages laneId⟩

/-- An inbound lane writes its data back. -/
def setInboundLane (laneId : LaneId) (data : InboundLaneData AccountId) :
    State LaneId AccountId Payments :=
  { s with inboundLanes := Function.update s.inboundLanes laneId (some data) }

/-- An outbound lane writes its data and its payloads back. -/
def setOutboundLane (laneId : LaneId) (lane : OutboundLaneStore) :
    State LaneId AccountId Payments :=
  { s with
    outboundLanes := Function.update s.outboundLanes laneId (some lane.data)
    outboundMessages := Function.update s.outboundMessages laneId lane.messages }

/-- `LanesManager::create_inbound_lane`. -/
def createInboundLane (laneId : LaneId) :
    Except LanesManagerError (State LaneId AccountId Payments) :=
  match s.inboundLanes laneId with
  | some _ => .error .inboundLaneAlreadyExists
  | none => .ok (s.setInboundLane laneId InboundLaneData.opened)

/-- `LanesManager::create_outbound_lane`: only `OutboundLanes` is written, whatever
`OutboundMessages` holds under the id. -/
def createOutboundLane (laneId : LaneId) :
    Except LanesManagerError (State LaneId AccountId Payments) :=
  match s.outboundLanes laneId with
  | some _ => .error .outboundLaneAlreadyExists
  | none => .ok { s with
      outboundLanes := Function.update s.outboundLanes laneId (some OutboundLaneData.opened) }

end State

variable (T : Config LaneId AccountId Payments)

/-- `send_message`: the nonce of the new message, and the storage it leaves. -/
def sendMessage (s : State LaneId AccountId Payments) (laneId : LaneId)
    (payload : MessagePayload) : Except Error (ℕ × State LaneId AccountId Payments) :=
  if s.palletOperatingMode ≠ .basic .normal then .error .notOperatingNormally
  else
    match s.outboundLaneStorage laneId true with
    | .error e => .error (.lanesManager e)
    | .ok lane =>
      match OutboundLane.sendMessage T.storedMessagePayloadLimit payload lane with
      | (.error e, _) => .error (.messageRejectedByPallet e)
      | (.ok nonce, lane) => .ok (nonce, s.setOutboundLane laneId lane)

section Receiving

variable [DecidableEq AccountId]

/-- The loop of `receive_messages_proof` over the messages of the proof, with the dispatch weight
the relayer declared and has not used yet.  Its one error is `InsufficientDispatchWeight`, with
the lane as the messages before it left it. -/
def receiveMessages (laneId : LaneId) (relayer : AccountId) :
    Weight → InboundLaneData AccountId → List Message → Exec Error (InboundLaneData AccountId)
  | _, data, [] => .ok data
  | dispatchWeightLeft, data, message :: messages =>
    let messageDispatchWeight := T.dispatchWeight laneId message
    if messageDispatchWeight.anyGt dispatchWeightLeft then .err .insufficientDispatchWeight data
    else
      match InboundLane.receiveMessage T.inboundLaneLimits data relayer message.nonce
          fun _ ↦ T.dispatch laneId message with
      | (receivalResult, data) =>
        -- a rejected message gives its whole dispatch weight back
        let unspentWeight := match receivalResult with
          | .dispatched unspentWeight => unspentWeight
          | _ => messageDispatchWeight
        let unspentWeight := unspentWeight.min messageDispatchWeight
        receiveMessages laneId relayer
          (dispatchWeightLeft.sub (messageDispatchWeight.sub unspentWeight)) data messages

/-- The state update a proof brings, applied to the inbound lane's data. -/
def applyLaneState (data : InboundLaneData AccountId) :
    Option OutboundLaneData → InboundLaneData AccountId
  | some laneState => ((InboundLane.receiveStateUpdate data laneState).map Prod.snd).getD data
  | none => data

/-- `receive_messages_proof`, delivering as the bridged chain's relayer
`relayerIdAtBridgedChain`. -/
def receiveMessagesProof (s : State LaneId AccountId Payments) (relayerIdAtBridgedChain : AccountId)
    (proof : FromBridgedChainMessagesProof LaneId) (messagesCount : UInt32) (dispatchWeight : Weight) :
    Exec Error (State LaneId AccountId Payments) :=
  if s.palletOperatingMode.isHalted then .err .bridgeModule s
  else if T.inboundLaneLimits.maxUnconfirmedMessages < messagesCount.toNat then
    .err .tooManyMessagesInTheProof s
  else
    match verifyMessagesProof proof messagesCount with
    | none => .err .invalidMessagesProof s
    | some laneData =>
      match s.inboundLaneStorage proof.lane true with
      | .error e => .err (.lanesManager e) s
      | .ok data =>
        -- the state update is applied, and written, before any message is
        match receiveMessages T proof.lane relayerIdAtBridgedChain dispatchWeight
            (applyLaneState data laneData.laneState) laneData.messages with
        | .ok data => .ok (s.setInboundLane proof.lane data)
        | .err e data => .err e (s.setInboundLane proof.lane data)

end Receiving

/-- `receive_messages_delivery_proof`, signed by `confirmationRelayer`. -/
def receiveMessagesDeliveryProof (s : State LaneId AccountId Payments)
    (confirmationRelayer : AccountId) (proof : FromBridgedChainMessagesDeliveryProof LaneId AccountId)
    (relayersState : UnrewardedRelayersState) : Exec Error (State LaneId AccountId Payments) :=
  if s.palletOperatingMode.isHalted then .err .bridgeModule s
  else
    match proof.inboundLaneData with
    | none => .err .invalidMessagesDeliveryProof s
    | some laneData =>
      if !relayersState.isValid laneData then .err .invalidUnrewardedRelayersState s
      else
        match s.outboundLaneStorage proof.lane false with
        | .error e => .err (.lanesManager e) s
        | .ok lane =>
          match OutboundLane.confirmDelivery relayersState.totalMessages laneData.lastDeliveredNonce
              laneData.relayers lane with
          | (.error e, _) => .err (.receivalConfirmation e) s
          | (.ok none, lane) => .ok (s.setOutboundLane proof.lane lane)
          | (.ok (some confirmedMessages), lane) =>
            let s := s.setOutboundLane proof.lane lane
            .ok { s with
              payments := T.payReward s.payments proof.lane laneData.relayers confirmationRelayer
                confirmedMessages }

/-! ## What the calls do to the lanes -/

namespace State

variable {s : State LaneId AccountId Payments}

omit [DecidableEq LaneId] in
theorem inboundLaneStorage_eq_ok {laneId : LaneId} {checkActive : Bool}
    {data : InboundLaneData AccountId} (h : s.inboundLaneStorage laneId checkActive = .ok data) :
    s.inboundLanes laneId = some data ∧ (checkActive = true → data.state = .opened) := by
  unfold inboundLaneStorage at h
  cases hstored : s.inboundLanes laneId with
  | none =>
    rw [hstored] at h
    cases h
  | some stored =>
    simp only [hstored] at h
    by_cases hclosed : (checkActive && !stored.state.isActive) = true
    · rw [if_pos hclosed] at h
      cases h
    · rw [if_neg hclosed, Except.ok.injEq] at h
      subst h
      refine ⟨rfl, fun hcheck ↦ ?_⟩
      subst hcheck
      cases hstate : stored.state
      · rfl
      · simp [hstate, LaneState.isActive] at hclosed

omit [DecidableEq LaneId] in
theorem outboundLaneStorage_eq_ok {laneId : LaneId} {checkActive : Bool}
    {lane : OutboundLaneStore} (h : s.outboundLaneStorage laneId checkActive = .ok lane) :
    s.outboundLanes laneId = some lane.data ∧ s.outboundMessages laneId = lane.messages ∧
      (checkActive = true → lane.data.state = .opened) := by
  unfold outboundLaneStorage at h
  cases hstored : s.outboundLanes laneId with
  | none =>
    rw [hstored] at h
    cases h
  | some stored =>
    simp only [hstored] at h
    by_cases hclosed : (checkActive && !stored.state.isActive) = true
    · rw [if_pos hclosed] at h
      cases h
    · rw [if_neg hclosed, Except.ok.injEq] at h
      subst h
      refine ⟨rfl, rfl, fun hcheck ↦ ?_⟩
      subst hcheck
      cases hstate : stored.state
      · rfl
      · simp [hstate, LaneState.isActive] at hclosed

end State

/-- A message sent on a lane: the pallet operates normally, the lane exists and is opened, and
the lane's `send_message` succeeded and was written back. -/
theorem sendMessage_eq_ok {s s' : State LaneId AccountId Payments} {laneId : LaneId}
    {payload : MessagePayload} {nonce : ℕ} (h : sendMessage T s laneId payload = .ok (nonce, s')) :
    s.palletOperatingMode = .basic .normal ∧
      ∃ lane, s.outboundLaneStorage laneId true = .ok lane ∧
        (OutboundLane.sendMessage T.storedMessagePayloadLimit payload lane).1 = .ok nonce ∧
        s' = s.setOutboundLane laneId
          (OutboundLane.sendMessage T.storedMessagePayloadLimit payload lane).2 := by
  unfold sendMessage at h
  split_ifs at h with hmode
  refine ⟨not_not.mp hmode, ?_⟩
  split at h
  · cases h
  · next lane hlane =>
    refine ⟨lane, hlane, ?_⟩
    split at h
    · cases h
    · next n lane' hsend =>
      cases h
      rw [hsend]
      exact ⟨rfl, rfl⟩

/-- A proof of delivery that is accepted: it holds the bridged lane's data, the declared state
is that lane's, the outbound lane exists, and its `confirm_delivery` succeeded, was written back
and — when it confirmed something — paid for it. -/
theorem receiveMessagesDeliveryProof_eq_ok {s s' : State LaneId AccountId Payments}
    {confirmationRelayer : AccountId} {proof : FromBridgedChainMessagesDeliveryProof LaneId AccountId}
    {relayersState : UnrewardedRelayersState}
    (h : receiveMessagesDeliveryProof T s confirmationRelayer proof relayersState = .ok s') :
    ∃ laneData lane confirmed, proof.inboundLaneData = some laneData ∧
      relayersState = .ofInboundLaneData laneData ∧
      s.outboundLaneStorage proof.lane false = .ok lane ∧
      (OutboundLane.confirmDelivery relayersState.totalMessages laneData.lastDeliveredNonce
        laneData.relayers lane).1 = .ok confirmed ∧
      s' = { s.setOutboundLane proof.lane (OutboundLane.confirmDelivery relayersState.totalMessages
          laneData.lastDeliveredNonce laneData.relayers lane).2 with
        payments := confirmed.elim s.payments
          (T.payReward s.payments proof.lane laneData.relayers confirmationRelayer) } := by
  unfold receiveMessagesDeliveryProof at h
  split_ifs at h with hhalted
  split at h
  · cases h
  · next laneData hproof =>
    split_ifs at h with hinvalid
    have hvalid : relayersState = .ofInboundLaneData laneData := by
      simpa [UnrewardedRelayersState.isValid] using hinvalid
    split at h
    · cases h
    · next lane hlane =>
      refine ⟨laneData, lane, ?_⟩
      split at h
      · cases h
      · next lane' hconfirm =>
        cases h
        exact ⟨none, hproof, hvalid, hlane, by rw [hconfirm], by rw [hconfirm]; rfl⟩
      · next confirmed lane' hconfirm =>
        cases h
        exact ⟨some confirmed, hproof, hvalid, hlane, by rw [hconfirm], by rw [hconfirm]; rfl⟩

section Receiving

variable [DecidableEq AccountId]

omit [DecidableEq LaneId] [DecidableEq AccountId] in
/-- The state update a proof brings is one `receive_state_update` that succeeded, or none. -/
theorem applyLaneState_cases (data : InboundLaneData AccountId)
    (laneState : Option OutboundLaneData) :
    applyLaneState data laneState = data ∨
      ∃ outboundLaneData c, laneState = some outboundLaneData ∧
        InboundLane.receiveStateUpdate data outboundLaneData =
          some (c, applyLaneState data laneState) := by
  cases laneState with
  | none => exact .inl rfl
  | some outboundLaneData =>
    cases hupdate : InboundLane.receiveStateUpdate data outboundLaneData with
    | none =>
      left
      simp [applyLaneState, hupdate]
    | some r =>
      right
      refine ⟨outboundLaneData, r.1, rfl, ?_⟩
      simp [applyLaneState, hupdate]

omit [DecidableEq LaneId] in
/-- The state update a proof brings is an operation of the inbound lane, or none. -/
theorem applyLaneState_reflTransGen (data : InboundLaneData AccountId)
    (laneState : Option OutboundLaneData) :
    Relation.ReflTransGen (InboundLane.Step T.inboundLaneLimits) data
      (applyLaneState data laneState) := by
  cases laneState with
  | none => exact .refl
  | some laneState => exact .single (.receiveStateUpdate data laneState)

omit [DecidableEq LaneId] in
/-- The messages of a proof are received one after the other from the call's relayer: whether
the loop ends in `Ok` or runs out of dispatch weight. -/
theorem receiveMessages_receivedFrom (laneId : LaneId) (relayer : AccountId) :
    ∀ (messages : List Message) (dispatchWeightLeft : Weight) (data : InboundLaneData AccountId),
      Relation.ReflTransGen (InboundLane.ReceivedFrom T.inboundLaneLimits relayer) data
        (receiveMessages T laneId relayer dispatchWeightLeft data messages).state
  | [], _, _ => .refl
  | message :: messages, dispatchWeightLeft, data => by
    unfold receiveMessages
    dsimp only
    split_ifs with hweight
    · exact .refl
    · rcases hreceive : InboundLane.receiveMessage T.inboundLaneLimits data relayer message.nonce
        (fun _ ↦ T.dispatch laneId message) with ⟨receivalResult, data'⟩
      have hstep : InboundLane.ReceivedFrom T.inboundLaneLimits relayer data data' := by
        have hsnd := InboundLane.receiveMessage_snd T.inboundLaneLimits data relayer
          message.nonce (fun _ ↦ T.dispatch laneId message)
        rw [hreceive] at hsnd
        exact ⟨message.nonce, hsnd⟩
      exact .head hstep (receiveMessages_receivedFrom laneId relayer messages _ _)

omit [DecidableEq LaneId] in
/-- The messages of a proof are received by operations of the inbound lane. -/
theorem receiveMessages_reflTransGen (laneId : LaneId) (relayer : AccountId)
    (messages : List Message) (dispatchWeightLeft : Weight) (data : InboundLaneData AccountId) :
    Relation.ReflTransGen (InboundLane.Step T.inboundLaneLimits) data
      (receiveMessages T laneId relayer dispatchWeightLeft data messages).state :=
  Relation.ReflTransGen.mono (fun _ _ h ↦ InboundLane.ReceivedFrom.step h) _ _
    (receiveMessages_receivedFrom T laneId relayer messages dispatchWeightLeft data)

/-- A proof of messages that is received: the pallet is not halted, the proof verifies, the lane
exists and is opened, and the loop over the proof's messages, from the lane the proof's state
update left, ends in `Ok` with the data written back. -/
theorem receiveMessagesProof_eq_ok {s s' : State LaneId AccountId Payments}
    {relayer : AccountId} {proof : FromBridgedChainMessagesProof LaneId} {messagesCount : UInt32}
    {dispatchWeight : Weight}
    (h : receiveMessagesProof T s relayer proof messagesCount dispatchWeight = .ok s') :
    ∃ laneData data data', verifyMessagesProof proof messagesCount = some laneData ∧
      s.inboundLanes proof.lane = some data ∧ data.state = .opened ∧
      receiveMessages T proof.lane relayer dispatchWeight (applyLaneState data laneData.laneState)
        laneData.messages = .ok data' ∧
      s' = s.setInboundLane proof.lane data' := by
  unfold receiveMessagesProof at h
  split_ifs at h with hhalted hcount
  split at h
  · cases h
  · next laneData hverified =>
    split at h
    · cases h
    · next data hdata =>
      obtain ⟨hstored, hopened⟩ := State.inboundLaneStorage_eq_ok hdata
      split at h
      · next data' hloop =>
        cases h
        exact ⟨laneData, data, data', hverified, hstored, hopened rfl, hloop, rfl⟩
      · cases h

end Receiving

/-! ## The lanes over a call

`LanesStep` says once what any call of the pallet can do to its lanes: none appears,
disappears or changes its state; an inbound lane's data changes, and an outbound lane moves by one
`OutboundLane.Step` that keeps its state.  The pallet that manages bridges builds its invariants
on this, and not on the calls. -/

/-- What a call of the pallet can do to its lanes. -/
structure LanesStep (s s' : State LaneId AccountId Payments) : Prop where
  inbound : ∀ laneId, s'.inboundLanes laneId = s.inboundLanes laneId ∨
    ∃ data data', s.inboundLanes laneId = some data ∧ s'.inboundLanes laneId = some data' ∧
      data'.state = data.state
  outbound : ∀ laneId, (s'.outboundLanes laneId = s.outboundLanes laneId ∧
      s'.outboundMessages laneId = s.outboundMessages laneId) ∨
    ∃ data lane', s.outboundLanes laneId = some data ∧
      OutboundLane.Step AccountId ⟨data, s.outboundMessages laneId⟩ lane' ∧
      lane'.data.state = data.state ∧ s'.outboundLanes laneId = some lane'.data ∧
      s'.outboundMessages laneId = lane'.messages

namespace LanesStep

omit [DecidableEq LaneId] in
theorem refl (s : State LaneId AccountId Payments) : LanesStep s s :=
  ⟨fun _ ↦ .inl rfl, fun _ ↦ .inl ⟨rfl, rfl⟩⟩

omit [DecidableEq LaneId] in
/-- Payments are not lanes. -/
theorem payments {s s' : State LaneId AccountId Payments} (h : LanesStep s s')
    (payments : Payments) : LanesStep s { s' with payments } :=
  ⟨h.inbound, h.outbound⟩

theorem setInboundLane {s : State LaneId AccountId Payments} {laneId : LaneId}
    {data data' : InboundLaneData AccountId} (hdata : s.inboundLanes laneId = some data)
    (hstate : data'.state = data.state) : LanesStep s (s.setInboundLane laneId data') := by
  refine ⟨fun l ↦ ?_, fun _ ↦ .inl ⟨rfl, rfl⟩⟩
  by_cases hl : l = laneId
  · subst hl
    exact .inr ⟨data, data', hdata, Function.update_self .., hstate⟩
  · exact .inl (Function.update_of_ne hl ..)

theorem setOutboundLane {s : State LaneId AccountId Payments} {laneId : LaneId}
    {data : OutboundLaneData} {lane' : OutboundLaneStore}
    (hdata : s.outboundLanes laneId = some data)
    (hstep : OutboundLane.Step AccountId ⟨data, s.outboundMessages laneId⟩ lane')
    (hstate : lane'.data.state = data.state) : LanesStep s (s.setOutboundLane laneId lane') := by
  refine ⟨fun _ ↦ .inl rfl, fun l ↦ ?_⟩
  by_cases hl : l = laneId
  · subst hl
    exact .inr ⟨data, lane', hdata, hstep, hstate, Function.update_self .., Function.update_self ..⟩
  · exact .inl ⟨Function.update_of_ne hl .., Function.update_of_ne hl ..⟩

end LanesStep

theorem sendMessage_lanesStep {s s' : State LaneId AccountId Payments} {laneId : LaneId}
    {payload : MessagePayload} {nonce : ℕ} (h : sendMessage T s laneId payload = .ok (nonce, s')) :
    LanesStep s s' := by
  obtain ⟨-, lane, hlane, -, rfl⟩ := sendMessage_eq_ok T h
  obtain ⟨hdata, hmessages, -⟩ := State.outboundLaneStorage_eq_ok hlane
  have hstep : OutboundLane.Step AccountId ⟨lane.data, s.outboundMessages laneId⟩
      (OutboundLane.sendMessage T.storedMessagePayloadLimit payload lane).2 := by
    rw [hmessages]
    exact .sendMessage _ _ _
  exact LanesStep.setOutboundLane hdata hstep (OutboundLane.sendMessage_state _ _ _)

theorem receiveMessagesDeliveryProof_lanesStep (s : State LaneId AccountId Payments)
    (confirmationRelayer : AccountId) (proof : FromBridgedChainMessagesDeliveryProof LaneId AccountId)
    (relayersState : UnrewardedRelayersState) :
    LanesStep s (Exec.transactional s
      (receiveMessagesDeliveryProof T s confirmationRelayer proof relayersState)) := by
  apply Exec.transactional_of (LanesStep.refl s)
  intro s' h
  obtain ⟨laneData, lane, confirmed, -, -, hlane, -, rfl⟩ := receiveMessagesDeliveryProof_eq_ok T h
  obtain ⟨hdata, hmessages, -⟩ := State.outboundLaneStorage_eq_ok hlane
  have hstep : OutboundLane.Step AccountId ⟨lane.data, s.outboundMessages proof.lane⟩
      (OutboundLane.confirmDelivery relayersState.totalMessages laneData.lastDeliveredNonce
        laneData.relayers lane).2 := by
    rw [hmessages]
    exact .confirmDelivery _ _ _ _
  exact (LanesStep.setOutboundLane hdata hstep (OutboundLane.confirmDelivery_state ..)).payments _

theorem receiveMessagesProof_lanesStep [DecidableEq AccountId] (s : State LaneId AccountId Payments)
    (relayer : AccountId) (proof : FromBridgedChainMessagesProof LaneId) (messagesCount : UInt32)
    (dispatchWeight : Weight) :
    LanesStep s (Exec.transactional s
      (receiveMessagesProof T s relayer proof messagesCount dispatchWeight)) := by
  apply Exec.transactional_of (LanesStep.refl s)
  intro s' h
  obtain ⟨laneData, data, data', -, hdata, -, hloop, rfl⟩ := receiveMessagesProof_eq_ok T h
  have hrun := (applyLaneState_reflTransGen T data laneData.laneState).trans
    (receiveMessages_reflTransGen T proof.lane relayer laneData.messages dispatchWeight _)
  rw [hloop, Exec.state_ok] at hrun
  exact LanesStep.setInboundLane hdata (InboundLane.state_eq_of_reflTransGen hrun)

end Pallet

end Messages
