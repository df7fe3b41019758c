import SoloParaBridge.Messages.Pallet
import SoloParaBridge.Messages.Rewards

/-!
# Delivery and confirmation between two chains

A lane carries messages from a source chain to a target chain, each running the messages
pallet: the source holds the lane's outbound end, the target its inbound end.  Relayers carry
proofs of one chain's storage to the other, in any order and however stale:

* `receive_messages_proof` at the target brings messages, and optionally the outbound lane's
  state, as the source stored them at some point;
* `receive_messages_delivery_proof` at the source brings the inbound lane's data as the target
  stored it at some point; the source confirms the messages it proves delivered and pays the
  relayers through `DeliveryConfirmationPaymentsAdapter`, which credits each relayer with what
  `calc_relayers_rewards` gives it.

`World` holds both chains' storage and the ghost state the statement needs: every state each
chain has had — a storage proof is assumed sound, so it proves the lane as it was in one of
them — and `deliveredBy`, the relayer whose call dispatched each nonce at the target.  The
source's payments are the count of messages credited, per lane and relayer
(`payRelayersRewards`).

`DeliveryInv` holds of every world a run reaches while the source's `latest_generated_nonce`
stays below `u64::MAX`: the source's `latest_received_nonce` lies between the target's
`last_confirmed_nonce` and its `last_delivered_nonce`, every past inbound lane data agrees with
`deliveredBy` (`InboundLane.Agrees`), and each relayer has been credited, on the lane, with the
number of nonces up to `latest_received_nonce` it delivered — by `calcRelayersRewards_eq_card`,
since a confirmation credits the nonces from after `latest_received_nonce`, which no entry of a
stale proof has lost yet.
-/

set_option autoImplicit false

namespace Messages

open InboundLane

/-- The messages credited to each relayer, per lane. -/
abbrev Rewards (LaneId AccountId : Type) := LaneId → AccountId → ℕ

/-- `DeliveryConfirmationPaymentsAdapter::pay_reward`, counting messages: each relayer is
credited on the lane with the count the map of `calc_relayers_rewards` holds for it.  (The
adapter registers that count times the delivery reward, the confirmation relayer's own part
included.) -/
def payRelayersRewards {LaneId AccountId : Type} [DecidableEq LaneId] [DecidableEq AccountId]
    (rewards : Rewards LaneId AccountId) (laneId : LaneId)
    (messagesRelayers : List (UnrewardedRelayer AccountId)) (_confirmationRelayer : AccountId)
    (receivedRange : DeliveredMessages) : Rewards LaneId AccountId :=
  Function.update rewards laneId fun relayer ↦
    rewards laneId relayer +
      ((calcRelayersRewardsMap messagesRelayers receivedRange).lookup relayer).getD 0

/-- Both chains, and the ghost state of the model. -/
structure World (LaneId AccountId Payments : Type) where
  /-- The source chain's messages pallet. -/
  source : Pallet.State LaneId AccountId (Rewards LaneId AccountId)
  /-- The target chain's messages pallet. -/
  target : Pallet.State LaneId AccountId Payments
  /-- Every state the source has had, the current one first. -/
  sourcePast : List (Pallet.State LaneId AccountId (Rewards LaneId AccountId))
  /-- Every state the target has had, the current one first. -/
  targetPast : List (Pallet.State LaneId AccountId Payments)
  /-- The relayer whose `receive_messages_proof` dispatched each nonce at the target. -/
  deliveredBy : ℕ → Option AccountId

namespace World

variable {LaneId AccountId Payments : Type}

/-- Two chains as they start, with nothing delivered yet. -/
def init (source : Pallet.State LaneId AccountId (Rewards LaneId AccountId))
    (target : Pallet.State LaneId AccountId Payments) : World LaneId AccountId Payments :=
  ⟨source, target, [source], [target], fun _ ↦ none⟩

/-- The source moved to `source`. -/
def setSource (w : World LaneId AccountId Payments)
    (source : Pallet.State LaneId AccountId (Rewards LaneId AccountId)) :
    World LaneId AccountId Payments :=
  { w with source, sourcePast := source :: w.sourcePast }

/-- The target's last delivered nonce on the lane; `0` without a lane. -/
def lastDeliveredAt (laneId : LaneId) (target : Pallet.State LaneId AccountId Payments) : ℕ :=
  ((target.inboundLanes laneId).map (·.lastDeliveredNonce)).getD 0

/-- The target moved to `target` by a call of `relayer`, which dispatched the nonces the lane's
last delivered nonce moved over. -/
def setTarget (laneId : LaneId) (w : World LaneId AccountId Payments) (relayer : AccountId)
    (target : Pallet.State LaneId AccountId Payments) : World LaneId AccountId Payments :=
  { w with
    target
    targetPast := target :: w.targetPast
    deliveredBy := noteDelivered relayer (lastDeliveredAt laneId w.target)
      (lastDeliveredAt laneId target) w.deliveredBy }

/-- The source's outbound lane data. -/
def sent (laneId : LaneId) (w : World LaneId AccountId Payments) : OutboundLaneData :=
  (w.source.outboundLanes laneId).getD .opened

/-- The target's inbound lane data. -/
def received (laneId : LaneId) (w : World LaneId AccountId Payments) : InboundLaneData AccountId :=
  (w.target.inboundLanes laneId).getD .opened

variable {laneId : LaneId} {w : World LaneId AccountId Payments}

theorem sent_eq {data : OutboundLaneData} (h : w.source.outboundLanes laneId = some data) :
    w.sent laneId = data := by
  rw [sent, h]
  rfl

theorem received_eq {data : InboundLaneData AccountId} (h : w.target.inboundLanes laneId = some data) :
    w.received laneId = data := by
  rw [received, h]
  rfl

theorem lastDeliveredAt_eq {target : Pallet.State LaneId AccountId Payments}
    {data : InboundLaneData AccountId} (h : target.inboundLanes laneId = some data) :
    lastDeliveredAt laneId target = data.lastDeliveredNonce := by
  rw [lastDeliveredAt, h]
  rfl

end World

variable {LaneId AccountId Payments : Type} [DecidableEq LaneId] [DecidableEq AccountId]
variable (Ts : Pallet.Config LaneId AccountId (Rewards LaneId AccountId))
variable (Tt : Pallet.Config LaneId AccountId Payments) (laneId : LaneId)

/-- One call on the lane: a message sent at the source; a proof of messages received at the
target, made from a state the source has had; a proof of delivery received at the source, made
from a state the target has had.  The two proofs run under the storage layer. -/
inductive Step : World LaneId AccountId Payments → World LaneId AccountId Payments → Prop
  | sendMessage (w : World LaneId AccountId Payments) (payload : MessagePayload) (nonce : ℕ)
      (source : Pallet.State LaneId AccountId (Rewards LaneId AccountId)) :
      Pallet.sendMessage Ts w.source laneId payload = .ok (nonce, source) →
      Step w (w.setSource source)
  | receiveMessagesProof (w : World LaneId AccountId Payments) (relayer : AccountId)
      (proof : FromBridgedChainMessagesProof LaneId) (messagesCount : UInt32)
      (dispatchWeight : Weight) (past : Pallet.State LaneId AccountId (Rewards LaneId AccountId)) :
      past ∈ w.sourcePast → proof.lane = laneId →
      (proof.outboundLaneData = none ∨ proof.outboundLaneData = past.outboundLanes laneId) →
      proof.messagePayloads = past.outboundMessages laneId →
      Step w (w.setTarget laneId relayer (Exec.transactional w.target
        (Pallet.receiveMessagesProof Tt w.target relayer proof messagesCount dispatchWeight)))
  | receiveMessagesDeliveryProof (w : World LaneId AccountId Payments) (relayer : AccountId)
      (proof : FromBridgedChainMessagesDeliveryProof LaneId AccountId)
      (relayersState : UnrewardedRelayersState) (past : Pallet.State LaneId AccountId Payments) :
      past ∈ w.targetPast → proof.lane = laneId →
      proof.inboundLaneData = past.inboundLanes laneId →
      Step w (w.setSource (Exec.transactional w.source
        (Pallet.receiveMessagesDeliveryProof Ts w.source relayer proof relayersState)))

/-- The source's `latest_generated_nonce` has not reached `u64::MAX`. -/
def Bounded (w : World LaneId AccountId Payments) : Prop :=
  ∀ data, w.source.outboundLanes laneId = some data → data.latestGeneratedNonce + 1 < 2 ^ 64

/-- A call made while the source's `latest_generated_nonce` is below `u64::MAX`. -/
def BoundedStep (w w' : World LaneId AccountId Payments) : Prop :=
  Bounded laneId w ∧ Step Ts Tt laneId w w'

/-! ## The invariant -/

/-- What holds of every world a bounded run reaches.  Both lanes exist and are valid; the
source's latest received nonce lies between the target's confirmed and delivered nonces, and
bounds the received nonce of every state the source had; every state the target had holds valid
data that agrees with `deliveredBy`, and is behind the current one; `deliveredBy` knows exactly
the delivered nonces; and each relayer is credited with the nonces up to the latest received one
that it delivered. -/
structure DeliveryInv (w : World LaneId AccountId Payments) : Prop where
  outboundLanes_eq : w.source.outboundLanes laneId = some (w.sent laneId)
  inboundLanes_eq : w.target.inboundLanes laneId = some (w.received laneId)
  sent_valid : OutboundLaneStore.Valid ⟨w.sent laneId, w.source.outboundMessages laneId⟩
  received_valid : (w.received laneId).Valid Tt.inboundLaneLimits
  received_le_delivered :
    (w.sent laneId).latestReceivedNonce ≤ (w.received laneId).lastDeliveredNonce
  confirmed_le_received :
    (w.received laneId).lastConfirmedNonce ≤ (w.sent laneId).latestReceivedNonce
  sourcePast_le : ∀ past ∈ w.sourcePast, ∀ data, past.outboundLanes laneId = some data →
    data.latestReceivedNonce ≤ (w.sent laneId).latestReceivedNonce
  targetPast_le : ∀ past ∈ w.targetPast, ∀ data, past.inboundLanes laneId = some data →
    data.Valid Tt.inboundLaneLimits ∧
      data.lastConfirmedNonce ≤ (w.received laneId).lastConfirmedNonce ∧
      data.lastDeliveredNonce ≤ (w.received laneId).lastDeliveredNonce ∧
      Agrees w.deliveredBy data.relayers
  deliveredBy_ne_none : ∀ nonce, w.deliveredBy nonce ≠ none ↔
    1 ≤ nonce ∧ nonce ≤ (w.received laneId).lastDeliveredNonce
  rewards : ∀ relayer, w.source.payments laneId relayer =
    ((Finset.Icc 1 (w.sent laneId).latestReceivedNonce).filter
      fun nonce ↦ w.deliveredBy nonce = some relayer).card
  source_mem : w.source ∈ w.sourcePast
  target_mem : w.target ∈ w.targetPast

omit [DecidableEq LaneId] in
/-- Two chains whose lane is opened at both ends, with nothing sent and nothing credited. -/
theorem deliveryInv_init {source : Pallet.State LaneId AccountId (Rewards LaneId AccountId)}
    {target : Pallet.State LaneId AccountId Payments}
    (hout : source.outboundLanes laneId = some .opened)
    (hmessages : source.outboundMessages laneId = fun _ ↦ none)
    (hin : target.inboundLanes laneId = some .opened)
    (hrewards : source.payments laneId = fun _ ↦ 0) :
    DeliveryInv Tt laneId (World.init source target) where
  outboundLanes_eq := by rw [World.sent_eq hout]; exact hout
  inboundLanes_eq := by rw [World.received_eq hin]; exact hin
  sent_valid := by
    rw [World.sent_eq hout]
    show OutboundLaneStore.Valid ⟨_, source.outboundMessages laneId⟩
    rw [hmessages]
    exact OutboundLaneStore.valid_opened
  received_valid := by rw [World.received_eq hin]; exact InboundLaneData.valid_opened
  received_le_delivered := by rw [World.sent_eq hout]; exact Nat.zero_le _
  confirmed_le_received := by rw [World.received_eq hin, World.sent_eq hout]; exact Nat.le_refl 0
  sourcePast_le past hpast data hdata := by
    rw [List.mem_singleton.mp hpast, hout, Option.some.injEq] at hdata
    rw [← hdata, World.sent_eq hout]
  targetPast_le past hpast data hdata := by
    rw [List.mem_singleton.mp hpast, hin, Option.some.injEq] at hdata
    subst hdata
    rw [World.received_eq hin]
    exact ⟨InboundLaneData.valid_opened, Nat.le_refl 0, Nat.le_refl _, fun _ he ↦ nomatch he⟩
  deliveredBy_ne_none nonce := by
    rw [World.received_eq hin]
    simp only [World.init, InboundLaneData.opened, InboundLaneData.lastDeliveredNonce]
    simp only [List.getLast?_nil, Option.map_none, Option.getD_none, ne_eq, not_true_eq_false,
      false_iff, not_and]
    omega
  rewards relayer := by
    rw [World.sent_eq hout]
    simp [World.init, hrewards, OutboundLaneData.opened]
  source_mem := List.mem_singleton_self _
  target_mem := List.mem_singleton_self _

namespace DeliveryInv

variable {Ts Tt laneId} {w : World LaneId AccountId Payments}

omit [DecidableEq LaneId] in
theorem agrees_received (hinv : DeliveryInv Tt laneId w) :
    Agrees w.deliveredBy (w.received laneId).relayers :=
  (hinv.targetPast_le _ hinv.target_mem _ hinv.inboundLanes_eq).2.2.2

omit [DecidableEq LaneId] in
/-- **A step of the source.**  The invariant holds after the source moved its lane to valid data
whose received nonce moved up, not past the target's delivered nonce, with each relayer credited
for the nonces up to it that it delivered. -/
theorem setSource (hinv : DeliveryInv Tt laneId w)
    {source : Pallet.State LaneId AccountId (Rewards LaneId AccountId)} (data : OutboundLaneData)
    (hdata : source.outboundLanes laneId = some data)
    (hvalid : OutboundLaneStore.Valid ⟨data, source.outboundMessages laneId⟩)
    (hle : (w.sent laneId).latestReceivedNonce ≤ data.latestReceivedNonce)
    (hdelivered : data.latestReceivedNonce ≤ (w.received laneId).lastDeliveredNonce)
    (hrewards : ∀ relayer, source.payments laneId relayer =
      ((Finset.Icc 1 data.latestReceivedNonce).filter
        fun nonce ↦ w.deliveredBy nonce = some relayer).card) :
    DeliveryInv Tt laneId (w.setSource source) := by
  have hsent : (w.setSource source).sent laneId = data := World.sent_eq hdata
  have hconfirmed := hinv.confirmed_le_received
  refine ⟨?_, hinv.inboundLanes_eq, ?_, hinv.received_valid, ?_, ?_, ?_, hinv.targetPast_le,
    hinv.deliveredBy_ne_none, ?_, List.mem_cons_self, hinv.target_mem⟩
  · rw [hsent]
    exact hdata
  · rw [hsent]
    exact hvalid
  · rw [hsent]
    exact hdelivered
  · rw [hsent]
    exact Nat.le_trans hconfirmed hle
  · intro past hpast data' hdata'
    rw [hsent]
    rcases List.mem_cons.mp hpast with rfl | hpast
    · rw [hdata, Option.some.injEq] at hdata'
      rw [hdata']
    · exact Nat.le_trans (hinv.sourcePast_le past hpast data' hdata') hle
  · rw [hsent]
    exact hrewards

omit [DecidableEq LaneId] in
/-- **A step of the target.**  The invariant holds after the target moved its lane to valid
data whose confirmed nonce moved up, not past the source's received nonce, and whose delivered
nonce moved up, with the queue agreeing with `deliveredBy` once `relayer` is noted for the
nonces it moved over. -/
theorem setTarget (hinv : DeliveryInv Tt laneId w) {relayer : AccountId}
    {target : Pallet.State LaneId AccountId Payments} {data : InboundLaneData AccountId}
    (hdata : target.inboundLanes laneId = some data) (hvalid : data.Valid Tt.inboundLaneLimits)
    (hconfirmed : (w.received laneId).lastConfirmedNonce ≤ data.lastConfirmedNonce)
    (hconfirmed' : data.lastConfirmedNonce ≤ (w.sent laneId).latestReceivedNonce)
    (hdelivered : (w.received laneId).lastDeliveredNonce ≤ data.lastDeliveredNonce)
    (hagree : Agrees (noteDelivered relayer (w.received laneId).lastDeliveredNonce
      data.lastDeliveredNonce w.deliveredBy) data.relayers) :
    DeliveryInv Tt laneId (w.setTarget laneId relayer target) := by
  have hreceived : (w.setTarget laneId relayer target).received laneId = data :=
    World.received_eq hdata
  have hdeliveredBy : (w.setTarget laneId relayer target).deliveredBy =
      noteDelivered relayer (w.received laneId).lastDeliveredNonce data.lastDeliveredNonce
        w.deliveredBy := by
    rw [World.setTarget, World.lastDeliveredAt_eq hinv.inboundLanes_eq,
      World.lastDeliveredAt_eq hdata]
  have hsent := hinv.received_le_delivered
  refine ⟨hinv.outboundLanes_eq, ?_, hinv.sent_valid, ?_, ?_, ?_, hinv.sourcePast_le, ?_, ?_, ?_,
    hinv.source_mem, List.mem_cons_self⟩
  · rw [hreceived]
    exact hdata
  · rw [hreceived]
    exact hvalid
  · rw [hreceived]
    exact Nat.le_trans hsent hdelivered
  · rw [hreceived]
    exact hconfirmed'
  · intro past hpast data' hdata'
    rw [hreceived, hdeliveredBy]
    rcases List.mem_cons.mp hpast with rfl | hpast
    · rw [hdata, Option.some.injEq] at hdata'
      subst hdata'
      exact ⟨hvalid, Nat.le_refl _, Nat.le_refl _, hagree⟩
    · obtain ⟨hvalid', hconfirmed'', hdelivered', hagree'⟩ :=
        hinv.targetPast_le past hpast data' hdata'
      refine ⟨hvalid', Nat.le_trans hconfirmed'' hconfirmed, Nat.le_trans hdelivered' hdelivered,
        agrees_noteDelivered hagree' (fun e he ↦ ?_) relayer _⟩
      exact Nat.le_trans (hvalid'.endNonce_le e he) hdelivered'
  · intro nonce
    rw [hreceived, hdeliveredBy, noteDelivered]
    have hknown := hinv.deliveredBy_ne_none nonce
    split_ifs with hnew
    · simp only [ne_eq, reduceCtorEq, not_false_eq_true, true_iff]
      omega
    · rw [hknown]
      omega
  · intro relayer'
    show w.source.payments laneId relayer' = ((Finset.Icc 1 (w.sent laneId).latestReceivedNonce).filter
      fun nonce ↦ (w.setTarget laneId relayer target).deliveredBy nonce = some relayer').card
    rw [hinv.rewards relayer', hdeliveredBy]
    refine congrArg Finset.card (Finset.filter_congr fun nonce hnonce ↦ ?_)
    rw [Finset.mem_Icc] at hnonce
    rw [noteDelivered, if_neg (by omega)]

/-- A message sent at the source moves nothing but its generated nonce and payloads. -/
theorem sendMessage (hinv : DeliveryInv Tt laneId w) (hbounded : Bounded laneId w)
    {payload : MessagePayload} {nonce : ℕ}
    {source : Pallet.State LaneId AccountId (Rewards LaneId AccountId)}
    (h : Pallet.sendMessage Ts w.source laneId payload = .ok (nonce, source)) :
    DeliveryInv Tt laneId (w.setSource source) := by
  obtain ⟨-, lane, hlane, -, rfl⟩ := Pallet.sendMessage_eq_ok Ts h
  obtain ⟨hdata, hmessages, -⟩ := Pallet.State.outboundLaneStorage_eq_ok hlane
  have hsent : w.sent laneId = lane.data := World.sent_eq hdata
  have hvalid : lane.Valid := by
    have hstored := hinv.sent_valid
    rwa [hsent, hmessages] at hstored
  have hreceived := OutboundLane.sendMessage_latestReceivedNonce Ts.storedMessagePayloadLimit
    payload lane
  refine hinv.setSource _ (Function.update_self ..) ?_ ?_ ?_ ?_
  · simp only [Pallet.State.setOutboundLane, Function.update_self]
    exact OutboundLane.sendMessage_valid hvalid (hbounded _ hdata) _ _
  · rw [hreceived, hsent]
  · rw [hreceived, ← hsent]
    exact hinv.received_le_delivered
  · intro relayer
    rw [hreceived, ← hsent]
    exact hinv.rewards relayer

/-- A proof of messages received at the target: its state update confirms at most what the
source had received, and its messages are dispatched one by one from the proof's relayer. -/
theorem receiveMessagesProof (hinv : DeliveryInv Tt laneId w) {relayer : AccountId}
    {proof : FromBridgedChainMessagesProof LaneId} {messagesCount : UInt32} {dispatchWeight : Weight}
    {past : Pallet.State LaneId AccountId (Rewards LaneId AccountId)} (hpast : past ∈ w.sourcePast)
    (hlane : proof.lane = laneId)
    (hstate : proof.outboundLaneData = none ∨ proof.outboundLaneData = past.outboundLanes laneId)
    {target : Pallet.State LaneId AccountId Payments}
    (h : Pallet.receiveMessagesProof Tt w.target relayer proof messagesCount dispatchWeight =
      .ok target) :
    DeliveryInv Tt laneId (w.setTarget laneId relayer target) := by
  obtain ⟨laneData, data, data', hverified, hdata, -, hloop, rfl⟩ :=
    Pallet.receiveMessagesProof_eq_ok Tt h
  rw [hlane] at hdata hloop ⊢
  rw [hinv.inboundLanes_eq, Option.some.injEq] at hdata
  subst hdata
  have hvalid := hinv.received_valid
  have hconfirmed := hinv.confirmed_le_received
  obtain ⟨hvalid₁, hdelivered₁, hconfirmed₁, hconfirmed₁', hagree₁⟩ :
      let d₁ := Pallet.applyLaneState (w.received laneId) laneData.laneState
      d₁.Valid Tt.inboundLaneLimits ∧
        d₁.lastDeliveredNonce = (w.received laneId).lastDeliveredNonce ∧
        (w.received laneId).lastConfirmedNonce ≤ d₁.lastConfirmedNonce ∧
        d₁.lastConfirmedNonce ≤ (w.sent laneId).latestReceivedNonce ∧
        Agrees w.deliveredBy d₁.relayers := by
    rcases Pallet.applyLaneState_cases (w.received laneId) laneData.laneState with
      hsame | ⟨outboundLaneData, c, hsome, hupdate⟩
    · rw [hsame]
      exact ⟨hvalid, rfl, Nat.le_refl _, hconfirmed, hinv.agrees_received⟩
    · obtain ⟨hc, hlt, -, hc', -, -⟩ := InboundLane.receiveStateUpdate_eq_some hupdate
      obtain ⟨hvalid₁, hdelivered₁⟩ := InboundLane.receiveStateUpdate_valid hvalid hupdate
      have hpastData : past.outboundLanes laneId = some outboundLaneData := by
        rw [verifyMessagesProof_laneState hverified] at hsome
        rcases hstate with hnone | hpast'
        · rw [hnone] at hsome
          cases hsome
        · rw [← hpast']
          exact hsome
      have hle := hinv.sourcePast_le past hpast outboundLaneData hpastData
      exact ⟨hvalid₁, hdelivered₁, by omega, by omega,
        InboundLane.agrees_receiveStateUpdate hvalid hinv.agrees_received hupdate⟩
  have hrun := Pallet.receiveMessages_receivedFrom Tt laneId relayer laneData.messages
    dispatchWeight (Pallet.applyLaneState (w.received laneId) laneData.laneState)
  rw [hloop, Exec.state_ok] at hrun
  obtain ⟨hvalid', hdelivered', hagree'⟩ := agrees_of_receivedFrom hvalid₁ hagree₁ hrun
  have hconfirmed' := lastConfirmedNonce_of_receivedFrom hrun
  rw [hdelivered₁] at hdelivered' hagree'
  exact hinv.setTarget (Function.update_self ..) hvalid' (by omega) (by omega) hdelivered' hagree'

/-- A proof of delivery received at the source confirms what a past state of the target had
delivered, from after the source's latest received nonce, and credits each relayer with the
nonces of that range it delivered. -/
theorem receiveMessagesDeliveryProof (hinv : DeliveryInv Tt laneId w) (hbounded : Bounded laneId w)
    (hpay : Ts.payReward = payRelayersRewards) {relayer : AccountId}
    {proof : FromBridgedChainMessagesDeliveryProof LaneId AccountId}
    {relayersState : UnrewardedRelayersState} {past : Pallet.State LaneId AccountId Payments}
    (hpast : past ∈ w.targetPast) (hlane : proof.lane = laneId)
    (hdata : proof.inboundLaneData = past.inboundLanes laneId)
    {source : Pallet.State LaneId AccountId (Rewards LaneId AccountId)}
    (h : Pallet.receiveMessagesDeliveryProof Ts w.source relayer proof relayersState = .ok source) :
    DeliveryInv Tt laneId (w.setSource source) := by
  obtain ⟨laneData, lane, confirmed, hproof, -, hlane', hconfirm, rfl⟩ :=
    Pallet.receiveMessagesDeliveryProof_eq_ok Ts h
  rw [hlane] at hlane' ⊢
  obtain ⟨hstored, hmessages, -⟩ := Pallet.State.outboundLaneStorage_eq_ok hlane'
  have hsent : w.sent laneId = lane.data := World.sent_eq hstored
  have hvalid : lane.Valid := by
    have hstoredValid := hinv.sent_valid
    rwa [hsent, hmessages] at hstoredValid
  have hgen := hbounded _ hstored
  rw [hdata] at hproof
  obtain ⟨hqvalid, hqconfirmed, hqdelivered, hqagree⟩ :=
    hinv.targetPast_le past hpast laneData hproof
  have hconfirmed := hinv.confirmed_le_received
  have hreceived := hvalid.received_le_generated
  rcases OutboundLane.confirmDelivery_eq_ok hconfirm with ⟨rfl, hsame⟩ |
    ⟨rfl, hbegin, hgenerated, hnew⟩
  · refine hinv.setSource lane.data ?_ ?_ (by rw [hsent]) ?_ ?_
    · simp [Pallet.State.setOutboundLane, hsame]
    · simpa [Pallet.State.setOutboundLane, hsame] using hvalid
    · rw [← hsent]
      exact hinv.received_le_delivered
    · intro relayer'
      rw [← hsent]
      exact hinv.rewards relayer'
  · have hsat : Unsigned.saturatingAdd 64 lane.data.latestReceivedNonce 1 =
        lane.data.latestReceivedNonce + 1 := Unsigned.saturatingAdd_of_lt (by omega)
    have hlatest : (w.sent laneId).latestReceivedNonce = lane.data.latestReceivedNonce := by
      rw [hsent]
    rw [hsat] at hbegin hnew ⊢
    refine hinv.setSource (OutboundLane.confirmDelivery relayersState.totalMessages
      laneData.lastDeliveredNonce laneData.relayers lane).2.data ?_ ?_ ?_ ?_ ?_
    · simp [Pallet.State.setOutboundLane]
    · simpa [Pallet.State.setOutboundLane] using
        OutboundLane.confirmDelivery_valid hvalid hgen relayersState.totalMessages
          laneData.lastDeliveredNonce laneData.relayers
    · rw [hnew, hsent]
      dsimp only
      omega
    · rw [hnew]
      exact hqdelivered
    · have hcredit := InboundLane.calcRelayersRewards_eq_card hqvalid hqagree
        (b := lane.data.latestReceivedNonce + 1) (e := laneData.lastDeliveredNonce) (by omega)
        (Nat.le_refl _)
      have hfits : ∀ relayer', calcRelayersRewards laneData.relayers
          ⟨lane.data.latestReceivedNonce + 1, laneData.lastDeliveredNonce⟩ relayer' < 2 ^ 64 := by
        intro relayer'
        calc _ ≤ (Finset.Icc (lane.data.latestReceivedNonce + 1) laneData.lastDeliveredNonce).card :=
              (hcredit relayer').trans_le (Finset.card_filter_le _ _)
          _ < 2 ^ 64 := by
              rw [Nat.card_Icc]
              omega
      intro relayer'
      rw [hnew]
      simp only [Option.elim, hpay, payRelayersRewards, Function.update_self]
      rw [calcRelayersRewardsMap_getD _ _ hfits, hinv.rewards relayer', hsent, hcredit]
      exact Intervals.card_filter_Icc_add _ (Nat.zero_le _) (by omega)

/-- **Every call keeps the invariant**, while the source's generated nonce is below
`u64::MAX`.  A call rolled back leaves its chain as it was, one more time in its history. -/
theorem step (hinv : DeliveryInv Tt laneId w) (hbounded : Bounded laneId w)
    (hpay : Ts.payReward = payRelayersRewards) {w' : World LaneId AccountId Payments}
    (h : Step Ts Tt laneId w w') : DeliveryInv Tt laneId w' := by
  cases h with
  | sendMessage payload nonce source hsend => exact hinv.sendMessage hbounded hsend
  | receiveMessagesProof relayer proof messagesCount dispatchWeight past hpast hlane hstate _ =>
    cases hresult : Pallet.receiveMessagesProof Tt w.target relayer proof messagesCount
        dispatchWeight with
    | ok target => exact hinv.receiveMessagesProof hpast hlane hstate hresult
    | err e target =>
      exact hinv.setTarget hinv.inboundLanes_eq hinv.received_valid (Nat.le_refl _)
        hinv.confirmed_le_received (Nat.le_refl _)
        (by rw [noteDelivered_self]; exact hinv.agrees_received)
  | receiveMessagesDeliveryProof relayer proof relayersState past hpast hlane hdata =>
    cases hresult : Pallet.receiveMessagesDeliveryProof Ts w.source relayer proof
        relayersState with
    | ok source => exact hinv.receiveMessagesDeliveryProof hbounded hpay hpast hlane hdata hresult
    | err e source =>
      exact hinv.setSource _ hinv.outboundLanes_eq hinv.sent_valid (Nat.le_refl _)
        hinv.received_le_delivered hinv.rewards

end DeliveryInv

section Run

variable {source : Pallet.State LaneId AccountId (Rewards LaneId AccountId)}
  {target : Pallet.State LaneId AccountId Payments}

theorem deliveryInv_of_reflTransGen (hpay : Ts.payReward = payRelayersRewards)
    (hout : source.outboundLanes laneId = some .opened)
    (hmessages : source.outboundMessages laneId = fun _ ↦ none)
    (hin : target.inboundLanes laneId = some .opened)
    (hrewards : source.payments laneId = fun _ ↦ 0) {w : World LaneId AccountId Payments}
    (h : Relation.ReflTransGen (BoundedStep Ts Tt laneId) (World.init source target) w) :
    DeliveryInv Tt laneId w :=
  invariant_of_reflTransGen h (deliveryInv_init Tt laneId hout hmessages hin hrewards)
    fun _ _ hx hxy ↦ hx.step hxy.1 hpay hxy.2

/-- **Delivery and confirmation, over every run below `u64::MAX`.**  From a lane opened at both
ends, with nothing sent and nothing credited, by any interleaving of messages sent at the
source, proofs of messages received at the target made from any state the source had, and proofs
of delivery received at the source made from any state the target had, stale and repeated ones
included, each succeeding or rolled back, made while the source's `latest_generated_nonce` is
below `u64::MAX`: the source's `latest_received_nonce` never exceeds the target's
`last_delivered_nonce`, the target's `last_confirmed_nonce` never exceeds the source's
`latest_received_nonce`, every nonce up to `latest_received_nonce` was delivered at the target by
some relayer, and `calc_relayers_rewards` has credited each relayer, summed over the run, with
exactly the number of those nonces it delivered. -/
theorem delivery_reachable (hpay : Ts.payReward = payRelayersRewards)
    (hout : source.outboundLanes laneId = some .opened)
    (hmessages : source.outboundMessages laneId = fun _ ↦ none)
    (hin : target.inboundLanes laneId = some .opened)
    (hrewards : source.payments laneId = fun _ ↦ 0) {w : World LaneId AccountId Payments}
    (h : Relation.ReflTransGen (BoundedStep Ts Tt laneId) (World.init source target) w) :
    ∃ sent received, w.source.outboundLanes laneId = some sent ∧
      w.target.inboundLanes laneId = some received ∧
      sent.latestReceivedNonce ≤ received.lastDeliveredNonce ∧
      received.lastConfirmedNonce ≤ sent.latestReceivedNonce ∧
      (∀ nonce, 1 ≤ nonce → nonce ≤ sent.latestReceivedNonce → w.deliveredBy nonce ≠ none) ∧
      ∀ relayer, w.source.payments laneId relayer =
        ((Finset.Icc 1 sent.latestReceivedNonce).filter
          fun nonce ↦ w.deliveredBy nonce = some relayer).card := by
  have hinv := deliveryInv_of_reflTransGen Ts Tt laneId hpay hout hmessages hin hrewards h
  refine ⟨_, _, hinv.outboundLanes_eq, hinv.inboundLanes_eq, hinv.received_le_delivered,
    hinv.confirmed_le_received, fun nonce hpos hle ↦ ?_, hinv.rewards⟩
  exact (hinv.deliveredBy_ne_none nonce).mpr
    ⟨hpos, Nat.le_trans hle hinv.received_le_delivered⟩

end Run

/-! ## Runs on one lane

A source and a target with one lane id, and relayers numbered by `ℕ`: only the empty payload fits,
nothing is dispatched or weighed, a proof may bring two relayer entries and `u64::MAX` unconfirmed
messages, and the source pays relayers by count.  Each call below is made with a proof of the
other chain's current state. -/

/-- The source's runtime. -/
def sourceRuntime : Pallet.Config Unit ℕ (Rewards Unit ℕ) :=
  ⟨0, ⟨2, 2 ^ 64 - 1⟩, fun _ _ ↦ ⟨0, 0⟩, fun _ _ ↦ ⟨0, 0⟩, payRelayersRewards⟩

/-- The target's runtime, whose own payments are left out. -/
def targetRuntime : Pallet.Config Unit ℕ Unit :=
  ⟨0, ⟨2, 2 ^ 64 - 1⟩, fun _ _ ↦ ⟨0, 0⟩, fun _ _ ↦ ⟨0, 0⟩, fun payments _ _ _ _ ↦ payments⟩

/-- The source with `lane` as its outbound lane, and `rewards` credited. -/
def sourceWith (lane : OutboundLaneStore) (rewards : Rewards Unit ℕ) :
    Pallet.State Unit ℕ (Rewards Unit ℕ) :=
  ⟨.basic .normal, fun _ ↦ none, fun _ ↦ some lane.data, fun _ ↦ lane.messages, rewards⟩

/-- The target with `data` as its inbound lane. -/
def targetWith (data : InboundLaneData ℕ) : Pallet.State Unit ℕ Unit :=
  ⟨.basic .normal, fun _ ↦ some data, fun _ ↦ none, fun _ _ ↦ none, ()⟩

/-- The inbound lane once `relayer` has delivered the nonces `1..=k`, none of them confirmed. -/
def deliveredUpTo (relayer k : ℕ) : InboundLaneData ℕ := ⟨.opened, [⟨relayer, ⟨1, k⟩⟩], 0⟩

/-- Both chains before anything is sent. -/
def lanesOpened : World Unit ℕ Unit :=
  World.init (sourceWith .opened fun _ _ ↦ 0) (targetWith .opened)

/-- The source's outbound lane, with its payloads. -/
def sentLane (w : World Unit ℕ Unit) : OutboundLaneStore :=
  ⟨w.sent (), w.source.outboundMessages ()⟩

/-- The source sends an empty message. -/
def sendEmpty (w : World Unit ℕ Unit) : World Unit ℕ Unit :=
  w.setSource (sourceWith (OutboundLane.sendMessage 0 [] (sentLane w)).2 w.source.payments)

/-- `relayer` brings to the target, in one proof of the source's current state, the `n` messages
after the last one the target has. -/
def deliverNext (relayer : ℕ) (n : UInt32) (w : World Unit ℕ Unit) : World Unit ℕ Unit :=
  let delivered := (w.received ()).lastDeliveredNonce
  w.setTarget () relayer (Exec.transactional w.target
    (Pallet.receiveMessagesProof targetRuntime w.target relayer
      ⟨(), delivered + 1, delivered + n.toNat, none, w.source.outboundMessages ()⟩ n ⟨0, 0⟩))

/-- `relayer` brings to the source a proof of the target's current inbound lane. -/
def confirmCurrent (relayer : ℕ) (w : World Unit ℕ Unit) : World Unit ℕ Unit :=
  w.setSource (Exec.transactional w.source
    (Pallet.receiveMessagesDeliveryProof sourceRuntime w.source relayer
      ⟨(), w.target.inboundLanes ()⟩ (.ofInboundLaneData (w.received ()))))

/-! ### Each call is a step -/

/-- `send_message` on the opened lane of the source: the next nonce, and the lane written back
under its one id. -/
theorem sendMessage_sourceWith (lane : OutboundLaneStore) (h : lane.data.state = .opened)
    (rewards : Rewards Unit ℕ) :
    Pallet.sendMessage sourceRuntime (sourceWith lane rewards) () [] =
      .ok (Unsigned.wrappingAdd 64 lane.data.latestGeneratedNonce 1,
        sourceWith (OutboundLane.sendMessage 0 [] lane).2 rewards) := by
  simp [Pallet.sendMessage, Pallet.State.outboundLaneStorage, sourceWith, h, LaneState.isActive,
    OutboundLane.sendMessage_of_le, sourceRuntime]
  rfl

theorem sentLane_sendEmpty (w : World Unit ℕ Unit) :
    sentLane (sendEmpty w) = (OutboundLane.sendMessage 0 [] (sentLane w)).2 :=
  rfl

theorem sentLane_sendEmpty_iterate (k : ℕ) (w : World Unit ℕ Unit) :
    sentLane (sendEmpty^[k] w) = (fun s ↦ (OutboundLane.sendMessage 0 [] s).2)^[k] (sentLane w) :=
  Function.Semiconj.iterate_right
    (show Function.Semiconj sentLane sendEmpty fun s ↦ (OutboundLane.sendMessage 0 [] s).2 from
      sentLane_sendEmpty) k w

/-- A world in which the source has only sent empty messages on its opened lane, with nothing
credited, and the target is as it started. -/
def OnlySent (w : World Unit ℕ Unit) : Prop :=
  w.source = sourceWith (sentLane w) (fun _ _ ↦ 0) ∧ (w.sent ()).state = .opened ∧
    w.target = targetWith .opened ∧ w.source ∈ w.sourcePast ∧ w.target ∈ w.targetPast

theorem onlySent_lanesOpened : OnlySent lanesOpened :=
  ⟨rfl, rfl, rfl, List.mem_cons_self, List.mem_cons_self⟩

theorem OnlySent.payments {w : World Unit ℕ Unit} (h : OnlySent w) :
    w.source.payments = fun _ _ ↦ 0 := by
  rw [h.1]
  rfl

theorem OnlySent.sendEmpty {w : World Unit ℕ Unit} (h : OnlySent w) : OnlySent (sendEmpty w) := by
  refine ⟨?_, ?_, h.2.2.1, List.mem_cons_self, h.2.2.2.2⟩
  · show sourceWith _ w.source.payments = _
    rw [h.payments]
    rfl
  · exact (OutboundLane.sendMessage_state 0 [] (sentLane w)).trans h.2.1

theorem step_sendEmpty {w : World Unit ℕ Unit} (h : OnlySent w) :
    Step sourceRuntime targetRuntime () w (sendEmpty w) := by
  have hsend := sendMessage_sourceWith (sentLane w) h.2.1 fun _ _ ↦ 0
  rw [← h.1] at hsend
  rw [sendEmpty, h.payments]
  exact .sendMessage w [] _ _ hsend

/-- Any number of empty messages sent from `lanesOpened`. -/
theorem sendEmpty_iterate (k : ℕ) :
    Relation.ReflTransGen (Step sourceRuntime targetRuntime ()) lanesOpened
        (sendEmpty^[k] lanesOpened) ∧ OnlySent (sendEmpty^[k] lanesOpened) :=
  ⟨Trace.reflTransGen_iterate_of (f := sendEmpty) (P := OnlySent) (fun _ h ↦ h.sendEmpty)
      (fun _ h ↦ step_sendEmpty h) onlySent_lanesOpened k,
    Function.Iterate.rec OnlySent onlySent_lanesOpened (fun _ h ↦ h.sendEmpty) k⟩

/-- A proof of messages made from the source's current state is sound. -/
theorem step_deliverNext (relayer : ℕ) (n : UInt32) {w : World Unit ℕ Unit}
    (h : w.source ∈ w.sourcePast) : Step sourceRuntime targetRuntime () w (deliverNext relayer n w) :=
  .receiveMessagesProof w relayer _ _ _ w.source h rfl (.inl rfl) rfl

/-- A proof of delivery made from the target's current state is sound. -/
theorem step_confirmCurrent (relayer : ℕ) {w : World Unit ℕ Unit} (h : w.target ∈ w.targetPast) :
    Step sourceRuntime targetRuntime () w (confirmCurrent relayer w) :=
  .receiveMessagesDeliveryProof w relayer _ _ w.target h rfl rfl

theorem target_mem_deliverNext (relayer : ℕ) (n : UInt32) (w : World Unit ℕ Unit) :
    (deliverNext relayer n w).target ∈ (deliverNext relayer n w).targetPast :=
  List.mem_cons_self

theorem target_mem_confirmCurrent (relayer : ℕ) {w : World Unit ℕ Unit}
    (h : w.target ∈ w.targetPast) :
    (confirmCurrent relayer w).target ∈ (confirmCurrent relayer w).targetPast :=
  h

theorem bounded_of_source {w : World Unit ℕ Unit} {lane : OutboundLaneStore}
    {rewards : Rewards Unit ℕ} (hsource : w.source = sourceWith lane rewards)
    (h : lane.data.latestGeneratedNonce + 1 < 2 ^ 64) : Bounded () w := by
  rintro data hdata
  rw [hsource] at hdata
  cases hdata
  exact h

/-! ### One message, delivered and confirmed -/

/-- One empty message sent, delivered by relayer `5` and confirmed by relayer `9`. -/
def confirmedOnce : World Unit ℕ Unit :=
  confirmCurrent 9 (deliverNext 5 1 (sendEmpty lanesOpened))

example : confirmedOnce.source.payments () 5 = 1 ∧ (confirmedOnce.sent ()).latestReceivedNonce = 1 := by
  decide

theorem delivery_reachable_confirmedOnce :
    Relation.ReflTransGen (BoundedStep sourceRuntime targetRuntime ()) lanesOpened confirmedOnce ∧
      ∃ sent received, confirmedOnce.source.outboundLanes () = some sent ∧
        confirmedOnce.target.inboundLanes () = some received ∧
        sent.latestReceivedNonce ≤ received.lastDeliveredNonce ∧
        received.lastConfirmedNonce ≤ sent.latestReceivedNonce ∧
        (∀ nonce, 1 ≤ nonce → nonce ≤ sent.latestReceivedNonce →
          confirmedOnce.deliveredBy nonce ≠ none) ∧
        ∀ relayer, confirmedOnce.source.payments () relayer =
          ((Finset.Icc 1 sent.latestReceivedNonce).filter
            fun nonce ↦ confirmedOnce.deliveredBy nonce = some relayer).card :=
  have hsent : OnlySent (sendEmpty lanesOpened) := onlySent_lanesOpened.sendEmpty
  have h : Relation.ReflTransGen (BoundedStep sourceRuntime targetRuntime ()) lanesOpened
      confirmedOnce :=
    ((Relation.ReflTransGen.single
        ⟨bounded_of_source rfl (by decide), step_sendEmpty onlySent_lanesOpened⟩).tail
      ⟨bounded_of_source rfl (by decide), step_deliverNext 5 1 hsent.2.2.2.1⟩).tail
      ⟨bounded_of_source rfl (by decide), step_confirmCurrent 9 (target_mem_deliverNext 5 1 _)⟩
  ⟨h, delivery_reachable sourceRuntime targetRuntime () rfl rfl rfl rfl rfl h⟩

/-! ### Delivering the messages `u32::MAX` at a time -/

/-- Nothing is weighed: the weight a relayer declares always suffices. -/
theorem anyGt_dispatchWeight (message : Message) (weight : Weight) :
    (targetRuntime.dispatchWeight () message).anyGt weight = false := by
  simp [targetRuntime, Weight.anyGt]

theorem receiveMessage_opened {δ : Type} (relayer : ℕ) (dispatch : ℕ → δ) :
    InboundLane.receiveMessage targetRuntime.inboundLaneLimits .opened relayer 1 dispatch =
      (.dispatched (dispatch 1), deliveredUpTo relayer 1) :=
  rfl

/-- One more message from the relayer of the only entry extends the entry. -/
theorem receiveMessage_deliveredUpTo {δ : Type} {relayer k : ℕ} (hk : k + 1 < 2 ^ 64)
    (dispatch : ℕ → δ) :
    InboundLane.receiveMessage targetRuntime.inboundLaneLimits (deliveredUpTo relayer k) relayer
      (k + 1) dispatch = (.dispatched (dispatch (k + 1)), deliveredUpTo relayer (k + 1)) := by
  have hlast : (deliveredUpTo relayer k).lastDeliveredNonce = k := rfl
  have hunconfirmed : ¬2 ^ 64 - 1 < k + 1 - (deliveredUpTo relayer k).lastConfirmedNonce := by
    show ¬2 ^ 64 - 1 < k + 1 - 0
    omega
  simp only [InboundLane.receiveMessage, hlast, Unsigned.checkedAdd_of_lt hk, ne_eq,
    not_true_eq_false, if_false, targetRuntime, hunconfirmed]
  simp [deliveredUpTo, InboundLane.noteDelivery, DeliveredMessages.noteDispatchedMessage,
    Unsigned.wrappingAdd_of_lt hk]

theorem receiveMessages_deliveredUpTo (relayer : ℕ) :
    ∀ n k (weight : Weight), k + n < 2 ^ 64 →
      Pallet.receiveMessages targetRuntime () relayer weight (deliveredUpTo relayer k)
          ((List.range' (k + 1) n).map fun nonce ↦ ⟨nonce, []⟩) =
        .ok (deliveredUpTo relayer (k + n))
  | 0, _, _, _ => rfl
  | n + 1, k, weight, hn => by
    rw [List.range'_succ, List.map_cons, Pallet.receiveMessages]
    simp only [anyGt_dispatchWeight, Bool.false_eq_true, if_false,
      receiveMessage_deliveredUpTo (show k + 1 < 2 ^ 64 by omega)]
    rw [show k + (n + 1) = k + 1 + n by omega]
    exact receiveMessages_deliveredUpTo relayer n (k + 1) _ (by omega)

/-- Delivering the nonces `1..=n` to a fresh opened lane: the first message opens the relayer's
entry, and the loop extends it. -/
theorem receiveMessages_opened (relayer : ℕ) {n : ℕ} (hpos : 1 ≤ n) (hn : n < 2 ^ 64)
    (weight : Weight) :
    Pallet.receiveMessages targetRuntime () relayer weight .opened
        ((List.range' 1 n).map fun nonce ↦ ⟨nonce, []⟩) = .ok (deliveredUpTo relayer n) := by
  obtain ⟨m, rfl⟩ : ∃ m, n = m + 1 := ⟨n - 1, by omega⟩
  rw [List.range'_succ, List.map_cons, Pallet.receiveMessages]
  simp only [anyGt_dispatchWeight, Bool.false_eq_true, if_false, receiveMessage_opened]
  rw [Nat.add_comm m 1]
  exact receiveMessages_deliveredUpTo relayer m 1 _ (by omega)

/-- A proof of the `n` nonces after the last one an opened lane `data` delivered, all of whose
payloads are empty, is received: the pallet runs its loop over those messages from `data`. -/
theorem receiveMessagesProof_targetWith (relayer : ℕ) {data data' : InboundLaneData ℕ} {n : UInt32}
    (payloads : ℕ → Option MessagePayload) (hopened : data.state = .opened) (hpos : 1 ≤ n.toNat)
    (hpayloads : ∀ nonce, data.lastDeliveredNonce + 1 ≤ nonce →
      nonce ≤ data.lastDeliveredNonce + n.toNat → payloads nonce = some [])
    (hloop : Pallet.receiveMessages targetRuntime () relayer ⟨0, 0⟩ data
      ((List.range' (data.lastDeliveredNonce + 1) n.toNat).map fun nonce ↦ ⟨nonce, []⟩) =
        .ok data') :
    Pallet.receiveMessagesProof targetRuntime (targetWith data) relayer
        ⟨(), data.lastDeliveredNonce + 1, data.lastDeliveredNonce + n.toNat, none, payloads⟩ n
        ⟨0, 0⟩ =
      .ok (targetWith data') := by
  have hverify := verifyMessagesProof_of_payloads
    ⟨(), data.lastDeliveredNonce + 1, data.lastDeliveredNonce + n.toNat, none, payloads⟩
    (show data.lastDeliveredNonce + 1 ≤ data.lastDeliveredNonce + n.toNat by omega)
    (show n.toNat = data.lastDeliveredNonce + n.toNat - (data.lastDeliveredNonce + 1) + 1 by omega)
    hpayloads
  dsimp only at hverify
  rw [show data.lastDeliveredNonce + n.toNat - (data.lastDeliveredNonce + 1) + 1 = n.toNat by
    omega] at hverify
  have hhalted : (targetWith data).palletOperatingMode.isHalted = false := rfl
  have hunconfirmed : ¬targetRuntime.inboundLaneLimits.maxUnconfirmedMessages < n.toNat := by
    show ¬2 ^ 64 - 1 < n.toNat
    have := n.toNat_lt
    omega
  have hstorage : (targetWith data).inboundLaneStorage () true = .ok data := by
    simp [Pallet.State.inboundLaneStorage, targetWith, hopened, LaneState.isActive]
  have hstate : Pallet.applyLaneState data none = data := rfl
  simp only [Pallet.receiveMessagesProof, hhalted, Bool.false_eq_true, if_false, hunconfirmed,
    hverify, hstorage, hstate, hloop]
  rfl

/-- Delivering the next `n` messages, from an opened target lane `data`, of a source that has
sent only empty ones. -/
theorem deliverNext_eq (relayer : ℕ) {w : World Unit ℕ Unit} {lane : OutboundLaneStore}
    {rewards : Rewards Unit ℕ} {data data' : InboundLaneData ℕ} {n : UInt32}
    (hsource : w.source = sourceWith lane rewards) (htarget : w.target = targetWith data)
    (hopened : data.state = .opened) (hpos : 1 ≤ n.toNat)
    (hle : data.lastDeliveredNonce + n.toNat ≤ lane.data.latestGeneratedNonce)
    (hpayloads : ∀ nonce, 1 ≤ nonce → nonce ≤ lane.data.latestGeneratedNonce →
      lane.messages nonce = some [])
    (hloop : Pallet.receiveMessages targetRuntime () relayer ⟨0, 0⟩ data
      ((List.range' (data.lastDeliveredNonce + 1) n.toNat).map fun nonce ↦ ⟨nonce, []⟩) =
        .ok data') :
    deliverNext relayer n w = w.setTarget () relayer (targetWith data') := by
  have hreceived : w.received () = data := World.received_eq (by rw [htarget]; rfl)
  have hmessages : w.source.outboundMessages () = lane.messages := by rw [hsource]; rfl
  rw [deliverNext, hreceived, hmessages, htarget,
    receiveMessagesProof_targetWith relayer lane.messages hopened hpos
      (fun nonce h₁ h₂ ↦ hpayloads nonce (by omega) (by omega)) hloop]
  rfl

/-- Each further proof of the next `n` messages extends the relayer's entry by `n`, and leaves the
source as it is. -/
theorem deliverNext_iterate (relayer : ℕ) {n : UInt32} (hpos : 1 ≤ n.toNat)
    {lane : OutboundLaneStore} {rewards : Rewards Unit ℕ}
    (hlt : lane.data.latestGeneratedNonce < 2 ^ 64)
    (hpayloads : ∀ nonce, 1 ≤ nonce → nonce ≤ lane.data.latestGeneratedNonce →
      lane.messages nonce = some []) :
    ∀ j {w : World Unit ℕ Unit} {k : ℕ}, w.source = sourceWith lane rewards →
      w.target = targetWith (deliveredUpTo relayer k) →
      k + j * n.toNat ≤ lane.data.latestGeneratedNonce →
      ((deliverNext relayer n)^[j] w).source = w.source ∧
        ((deliverNext relayer n)^[j] w).target =
          targetWith (deliveredUpTo relayer (k + j * n.toNat))
  | 0, _, _, _, htarget, _ => ⟨rfl, by rw [Function.iterate_zero_apply, htarget, Nat.zero_mul,
      Nat.add_zero]⟩
  | j + 1, w, k, hsource, htarget, hle => by
    have hloop := receiveMessages_deliveredUpTo relayer n.toNat k ⟨0, 0⟩
      (by rw [Nat.succ_mul] at hle; omega)
    have hstep := deliverNext_eq relayer hsource htarget rfl hpos
      (by show k + n.toNat ≤ _; rw [Nat.succ_mul] at hle; omega) hpayloads hloop
    obtain ⟨hsource', htarget'⟩ := deliverNext_iterate relayer hpos hlt hpayloads j
      (w := w.setTarget () relayer (targetWith (deliveredUpTo relayer (k + n.toNat))))
      hsource rfl (by rw [Nat.succ_mul] at hle; omega)
    rw [Function.iterate_succ_apply, hstep]
    refine ⟨hsource', ?_⟩
    rw [htarget', Nat.succ_mul, Nat.add_comm (j * n.toNat) n.toNat, Nat.add_assoc]

/-! ### Confirming -/

/-- A proof of the target's lane `data`, at a source whose lane confirms `confirmed` from it,
credits the relayers of `data`'s entries with what `calc_relayers_rewards` gives them. -/
theorem receiveMessagesDeliveryProof_sourceWith (relayer : ℕ) {lane lane' : OutboundLaneStore}
    {rewards : Rewards Unit ℕ} {data : InboundLaneData ℕ} {confirmed : DeliveredMessages}
    (h : OutboundLane.confirmDelivery (UnrewardedRelayersState.ofInboundLaneData data).totalMessages
      data.lastDeliveredNonce data.relayers lane = (.ok (some confirmed), lane')) :
    Pallet.receiveMessagesDeliveryProof sourceRuntime (sourceWith lane rewards) relayer
        ⟨(), some data⟩ (.ofInboundLaneData data) =
      .ok (sourceWith lane' (payRelayersRewards rewards () data.relayers relayer confirmed)) := by
  have hhalted : (sourceWith lane rewards).palletOperatingMode.isHalted = false := rfl
  have hvalid : (UnrewardedRelayersState.ofInboundLaneData data).isValid data = true :=
    decide_eq_true rfl
  have hstorage : (sourceWith lane rewards).outboundLaneStorage () false = .ok lane := rfl
  simp only [Pallet.receiveMessagesDeliveryProof, hhalted, hvalid, hstorage, h,
    Bool.not_true, Bool.false_eq_true, if_false]
  rfl

theorem confirmCurrent_eq (relayer : ℕ) {w : World Unit ℕ Unit} {lane : OutboundLaneStore}
    {rewards : Rewards Unit ℕ} {data : InboundLaneData ℕ}
    {source : Pallet.State Unit ℕ (Rewards Unit ℕ)} (hsource : w.source = sourceWith lane rewards)
    (htarget : w.target = targetWith data)
    (h : Pallet.receiveMessagesDeliveryProof sourceRuntime (sourceWith lane rewards) relayer
      ⟨(), some data⟩ (.ofInboundLaneData data) = .ok source) :
    confirmCurrent relayer w = w.setSource source := by
  have hreceived : w.received () = data := World.received_eq (by rw [htarget]; rfl)
  rw [confirmCurrent, hreceived, htarget, hsource]
  exact congrArg (fun result ↦ w.setSource (Exec.transactional _ result)) h

/-! ### At `u64::MAX`

`confirm_delivery` confirms from `latest_received_nonce.saturating_add(1)`, which stays at
`u64::MAX` once `latest_received_nonce` is there: a proof of delivery received again then
confirms the nonce `u64::MAX` again, and its relayer is credited with it a second time. -/

/-- The source's lane after `u64::MAX` empty messages. -/
def maxSent : OutboundLaneStore :=
  ⟨{ OutboundLaneData.opened with latestGeneratedNonce := 2 ^ 64 - 1 },
    fun n ↦ if 1 ≤ n ∧ n ≤ 2 ^ 64 - 1 then some [] else none⟩

/-- The lane once all of them are confirmed. -/
def maxConfirmed : OutboundLaneStore :=
  ⟨{ maxSent.data with latestReceivedNonce := 2 ^ 64 - 1, oldestUnprunedNonce := 2 ^ 64 - 1 },
    OutboundLane.removeMessages 1 (2 ^ 64 - 1) maxSent.messages⟩

theorem confirmDelivery_maxSent :
    OutboundLane.confirmDelivery
        (UnrewardedRelayersState.ofInboundLaneData (deliveredUpTo 1 (2 ^ 64 - 1))).totalMessages
        (2 ^ 64 - 1) [⟨1, ⟨1, 2 ^ 64 - 1⟩⟩] maxSent =
      (.ok (some ⟨1, 2 ^ 64 - 1⟩), maxConfirmed) :=
  rfl

/-- The same proof again confirms `u64::MAX..=u64::MAX`. -/
theorem confirmDelivery_maxConfirmed :
    OutboundLane.confirmDelivery
        (UnrewardedRelayersState.ofInboundLaneData (deliveredUpTo 1 (2 ^ 64 - 1))).totalMessages
        (2 ^ 64 - 1) [⟨1, ⟨1, 2 ^ 64 - 1⟩⟩] maxConfirmed =
      (.ok (some ⟨2 ^ 64 - 1, 2 ^ 64 - 1⟩),
        ⟨maxConfirmed.data,
          OutboundLane.removeMessages (2 ^ 64 - 1) (2 ^ 64 - 1) maxConfirmed.messages⟩) :=
  rfl

/-- From a source that has sent `u64::MAX` empty messages and a target to which relayer `1` has
delivered them all, relayer `0` brings the proof of the target's lane twice.  The first
confirmation credits relayer `1` with `1..=u64::MAX`, the second with `u64::MAX..=u64::MAX` once
more. -/
theorem confirmTwice_source {w : World Unit ℕ Unit}
    (hsource : w.source = sourceWith maxSent fun _ _ ↦ 0)
    (htarget : w.target = targetWith (deliveredUpTo 1 (2 ^ 64 - 1))) :
    (confirmCurrent 0 (confirmCurrent 0 w)).source =
      sourceWith ⟨maxConfirmed.data,
          OutboundLane.removeMessages (2 ^ 64 - 1) (2 ^ 64 - 1) maxConfirmed.messages⟩
        (payRelayersRewards
          (payRelayersRewards (fun _ _ ↦ 0) () [⟨1, ⟨1, 2 ^ 64 - 1⟩⟩] 0 ⟨1, 2 ^ 64 - 1⟩) ()
          [⟨1, ⟨1, 2 ^ 64 - 1⟩⟩] 0 ⟨2 ^ 64 - 1, 2 ^ 64 - 1⟩) := by
  have hfirst := confirmCurrent_eq 0 hsource htarget
    (receiveMessagesDeliveryProof_sourceWith 0 confirmDelivery_maxSent)
  have hsecond := confirmCurrent_eq 0 (w := confirmCurrent 0 w) (by rw [hfirst]; rfl)
    (by rw [hfirst]; exact htarget)
    (receiveMessagesDeliveryProof_sourceWith 0 confirmDelivery_maxConfirmed)
  rw [hsecond]
  rfl

/-- `u32::MAX`, the most messages one `receive_messages_proof` declares. -/
def maxMessagesCount : UInt32 := 4294967295

/-- Relayer `1` delivers the `u64::MAX = (2^32 + 1) * u32::MAX` messages of `maxSent` to an opened
target, `u32::MAX` of them in each of `2^32 + 1` proofs of the source's current state. -/
theorem deliverNext_maxSent {w : World Unit ℕ Unit}
    (hsource : w.source = sourceWith maxSent fun _ _ ↦ 0) (hpast : w.source ∈ w.sourcePast)
    (htarget : w.target = targetWith .opened) :
    let w' := (deliverNext 1 maxMessagesCount)^[2 ^ 32 + 1] w
    Relation.ReflTransGen (Step sourceRuntime targetRuntime ()) w w' ∧ w'.source = w.source ∧
      w'.target = targetWith (deliveredUpTo 1 (2 ^ 64 - 1)) ∧ w'.target ∈ w'.targetPast := by
  intro w'
  have hcount : maxMessagesCount.toNat = 2 ^ 32 - 1 := rfl
  have hpayloads : ∀ nonce, 1 ≤ nonce → nonce ≤ maxSent.data.latestGeneratedNonce →
      maxSent.messages nonce = some [] := fun _ h₁ h₂ ↦ if_pos ⟨h₁, h₂⟩
  have hfirst := deliverNext_eq 1 hsource htarget rfl (by rw [hcount]; decide)
    (by rw [hcount]; decide) hpayloads (receiveMessages_opened 1 (by rw [hcount]; decide)
      (by rw [hcount]; decide) ⟨0, 0⟩)
  obtain ⟨hsource', htarget'⟩ := deliverNext_iterate 1 (by rw [hcount]; decide) (by decide)
    hpayloads (2 ^ 32) (w := deliverNext 1 maxMessagesCount w) (by rw [hfirst]; exact hsource)
    (by rw [hfirst]; rfl) (by rw [hcount]; decide)
  have hw' : w' = (deliverNext 1 maxMessagesCount)^[2 ^ 32] (deliverNext 1 maxMessagesCount w) :=
    Function.iterate_succ_apply _ _ _
  have hkeep : ∀ w : World Unit ℕ Unit, w.source ∈ w.sourcePast →
      (deliverNext 1 maxMessagesCount w).source ∈ (deliverNext 1 maxMessagesCount w).sourcePast :=
    fun _ h ↦ h
  have hrun : Relation.ReflTransGen (Step sourceRuntime targetRuntime ()) w w' :=
    Trace.reflTransGen_iterate_of hkeep (fun _ h ↦ step_deliverNext 1 maxMessagesCount h) hpast _
  refine ⟨hrun, ?_, ?_, ?_⟩
  · rw [hw', hsource', hfirst]
    rfl
  · rw [hw', htarget', hcount]
    rfl
  · rw [show w' = deliverNext 1 maxMessagesCount
        ((deliverNext 1 maxMessagesCount)^[2 ^ 32] w) from Function.iterate_succ_apply' _ _ _]
    exact target_mem_deliverNext 1 maxMessagesCount _

/-- `u64::MAX` empty messages sent, all delivered by relayer `1` in `2^32 + 1` proofs of
`u32::MAX` messages, and the proof of the target's lane received twice at the source, from relayer
`0`. -/
def confirmedTwiceAtMax : World Unit ℕ Unit :=
  confirmCurrent 0 (confirmCurrent 0
    ((deliverNext 1 maxMessagesCount)^[2 ^ 32 + 1] (sendEmpty^[2 ^ 64 - 1] lanesOpened)))

theorem delivery_rewards_twice_at_max :
    Relation.ReflTransGen (Step sourceRuntime targetRuntime ()) lanesOpened confirmedTwiceAtMax ∧
      (confirmedTwiceAtMax.sent ()).latestReceivedNonce = 2 ^ 64 - 1 ∧
      confirmedTwiceAtMax.source.payments () 1 = 2 ^ 64 ∧
      (Finset.Icc 1 (confirmedTwiceAtMax.sent ()).latestReceivedNonce).card <
        confirmedTwiceAtMax.source.payments () 1 := by
  obtain ⟨hrun, hsent⟩ := sendEmpty_iterate (2 ^ 64 - 1)
  have hlane : sentLane (sendEmpty^[2 ^ 64 - 1] lanesOpened) = maxSent :=
    (sentLane_sendEmpty_iterate _ _).trans
      (OutboundLane.sendMessage_iterate_opened _ (by decide))
  have hsource := hsent.1
  rw [hlane] at hsource
  obtain ⟨hdeliveries, hsource', htarget', hmem⟩ := deliverNext_maxSent hsource hsent.2.2.2.1 hsent.2.2.1
  have htwice := confirmTwice_source (hsource'.trans hsource) htarget'
  have hreceived : (confirmedTwiceAtMax.sent ()).latestReceivedNonce = 2 ^ 64 - 1 := by
    rw [confirmedTwiceAtMax, World.sent, htwice]
    rfl
  have hpaid : confirmedTwiceAtMax.source.payments () 1 = 2 ^ 64 := by
    rw [confirmedTwiceAtMax, htwice]
    decide
  refine ⟨((hrun.trans hdeliveries).tail (step_confirmCurrent 0 hmem)).tail
      (step_confirmCurrent 0 (target_mem_confirmCurrent 0 hmem)), hreceived, hpaid, ?_⟩
  rw [hreceived, hpaid, Nat.card_Icc]
  decide

end Messages
