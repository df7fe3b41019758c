import SoloParaBridge.Messages.Pallet
import Mathlib.Algebra.BigOperators.Group.Finset.Basic

/-!
# The bridges of a bridge hub

`pallet-xcm-bridge-hub` opens and closes bridges between a location of this consensus and one
of the bridged network's.  A bridge is kept under its lane id in `Bridges`, and the messages it
carries travel on the inbound and outbound lanes of that id of the messages pallet:

* `open_bridge` reserves `BridgeReserve` on the owner's account, records the bridge `Opened`, and
  creates both lanes; it relies on the storage layer to undo the reserve when a later step fails;
* `close_bridge` marks the bridge `Closed`, prunes at most `may_prune_messages` queued messages of
  the outbound lane, and then either closes both lanes, when messages are left, or purges both
  lanes, removes the bridge and returns the reserve.

`State` is the storage of both pallets and the owners' balances; `Step` is one call of either
pallet, each under the storage layer where it is a dispatchable.  `BridgesInv` is what holds of
every state a run reaches, as long as no call is made on an outbound lane whose
`latest_generated_nonce` has reached `u64::MAX` (`BoundedStep`): every bridge has both lanes and
every lane a bridge, in the bridge's state; a lane without bridge has no payloads; and the balance
reserved on an account is the sum of the reserves of the bridges it owns.

`T::NativeCurrency` is an exact ledger of free and reserved balances that no other pallet
touches.  `bridge_locations_from_origin` and `convert_location` are the runtime's; the model takes
them as functions of the call's origin and destination.
-/

set_option autoImplicit false

namespace XcmBridgeHub

open Messages

/-- `BridgeState`. -/
inductive BridgeState where
  | opened
  | closed
  deriving DecidableEq, Repr

/-- The state of the lanes of a bridge in this state. -/
def BridgeState.laneState : BridgeState → LaneState
  | .opened => .opened
  | .closed => .closed

@[simp] theorem BridgeState.laneState_eq_opened_iff (state : BridgeState) :
    state.laneState = .opened ↔ state = .opened := by
  cases state <;> decide

@[simp] theorem BridgeState.laneState_eq_closed_iff (state : BridgeState) :
    state.laneState = .closed ↔ state = .closed := by
  cases state <;> decide

/-- `Bridge`, but for `bridge_origin_relative_location`, which nothing here reads. -/
structure Bridge (AccountId : Type) where
  state : BridgeState
  bridgeOwnerAccount : AccountId
  reserve : ℕ
  deriving DecidableEq, Repr

/-- `BridgeLocations`: what the pallet uses of it. -/
structure BridgeLocations (Location LaneId : Type) where
  bridgeOriginRelativeLocation : Location
  laneId : LaneId

/-- The pallet's `Error`; `bridgeLocations` stands for each error of
`bridge_locations_from_origin`. -/
inductive Error where
  | bridgeLocations
  | invalidBridgeOriginAccount
  | bridgeAlreadyExists
  | lanesManager (e : Pallet.LanesManagerError)
  | unknownBridge
  | failedToReserveBridgeReserve
  deriving DecidableEq, Repr

/-- The free and reserved balance of each account. -/
structure Ledger (AccountId : Type) where
  free : AccountId → ℕ
  reserved : AccountId → ℕ

namespace Ledger

variable {AccountId : Type} [DecidableEq AccountId]

/-- `reserve(who, value)`: fails when `who` has less than `value` free. -/
def reserve (ledger : Ledger AccountId) (who : AccountId) (value : ℕ) : Option (Ledger AccountId) :=
  if ledger.free who < value then none
  else some ⟨Function.update ledger.free who (ledger.free who - value),
    Function.update ledger.reserved who (ledger.reserved who + value)⟩

/-- `unreserve(who, value)`: moves back what is reserved, up to `value`; the part it could not
move is only logged by the pallet. -/
def unreserve (ledger : Ledger AccountId) (who : AccountId) (value : ℕ) : Ledger AccountId :=
  let actual := min value (ledger.reserved who)
  ⟨Function.update ledger.free who (ledger.free who + actual),
    Function.update ledger.reserved who (ledger.reserved who - actual)⟩

theorem reserve_reserved {ledger ledger' : Ledger AccountId} {who : AccountId} {value : ℕ}
    (h : ledger.reserve who value = some ledger') :
    ledger'.reserved = Function.update ledger.reserved who (ledger.reserved who + value) := by
  unfold reserve at h
  split_ifs at h
  cases h
  rfl

/-- What is reserved is moved back whole when there is at least as much reserved. -/
theorem unreserve_reserved_of_le {ledger : Ledger AccountId} {who : AccountId} {value : ℕ}
    (h : value ≤ ledger.reserved who) :
    (ledger.unreserve who value).reserved =
      Function.update ledger.reserved who (ledger.reserved who - value) := by
  rw [unreserve, Nat.min_eq_left h]

end Ledger

/-- What the pallet takes from its runtime. -/
structure Config (Origin Destination Location LaneId AccountId Payments : Type) where
  /-- The configuration of the messages pallet the bridges use. -/
  messages : Pallet.Config LaneId AccountId Payments
  /-- `bridge_locations_from_origin`: `T::OpenBridgeOrigin::ensure_origin`, and the lane id of the
  two locations. -/
  bridgeLocationsFromOrigin : Origin → Destination → Option (BridgeLocations Location LaneId)
  /-- `T::BridgeOriginAccountIdConverter::convert_location`. -/
  bridgeOriginAccountIdConverter : Location → Option AccountId
  /-- `T::BridgeReserve`. -/
  bridgeReserve : ℕ

/-- The storage of the bridge hub: `Bridges`, the messages pallet, and the balances. -/
structure State (LaneId AccountId Payments : Type) where
  bridges : LaneId → Option (Bridge AccountId)
  messages : Pallet.State LaneId AccountId Payments
  currency : Ledger AccountId

variable {Origin Destination Location LaneId AccountId Payments : Type}
variable [DecidableEq LaneId] [DecidableEq AccountId]
variable (T : Config Origin Destination Location LaneId AccountId Payments)

/-- `open_bridge`. -/
def openBridge (s : State LaneId AccountId Payments) (origin : Origin)
    (bridgeDestinationUniversalLocation : Destination) : Exec Error (State LaneId AccountId Payments) :=
  match T.bridgeLocationsFromOrigin origin bridgeDestinationUniversalLocation with
  | none => .err .bridgeLocations s
  | some locations =>
    let reserve := T.bridgeReserve
    match T.bridgeOriginAccountIdConverter locations.bridgeOriginRelativeLocation with
    | none => .err .invalidBridgeOriginAccount s
    | some bridgeOwnerAccount =>
      match s.currency.reserve bridgeOwnerAccount reserve with
      | none => .err .failedToReserveBridgeReserve s
      | some currency =>
        -- the reserve is written before `Bridges` is even read
        let s := { s with currency }
        match s.bridges locations.laneId with
        | some _ => .err .bridgeAlreadyExists s
        | none =>
          let s := { s with
            bridges := Function.update s.bridges locations.laneId
              (some ⟨.opened, bridgeOwnerAccount, reserve⟩) }
          match s.messages.createInboundLane locations.laneId with
          | .error e => .err (.lanesManager e) s
          | .ok messages =>
            let s := { s with messages }
            match s.messages.createOutboundLane locations.laneId with
            | .error e => .err (.lanesManager e) s
            | .ok messages => .ok { s with messages }

/-- `close_bridge`. -/
def closeBridge (s : State LaneId AccountId Payments) (origin : Origin)
    (bridgeDestinationUniversalLocation : Destination) (mayPruneMessages : ℕ) :
    Exec Error (State LaneId AccountId Payments) :=
  match T.bridgeLocationsFromOrigin origin bridgeDestinationUniversalLocation with
  | none => .err .bridgeLocations s
  | some locations =>
    let laneId := locations.laneId
    match s.bridges laneId with
    | none => .err .unknownBridge s
    | some bridge =>
      let bridge := { bridge with state := .closed }
      let s := { s with bridges := Function.update s.bridges laneId (some bridge) }
      match s.messages.inboundLaneStorage laneId false with
      | .error e => .err (.lanesManager e) s
      | .ok inboundLane =>
        match s.messages.outboundLaneStorage laneId false with
        | .error e => .err (.lanesManager e) s
        | .ok outboundLane =>
          match OutboundLane.closeBridge mayPruneMessages outboundLane with
          | (some outboundLane, _) =>
            -- messages are left: both lanes are closed, and the bridge stays
            .ok { s with
              messages := (s.messages.setInboundLane laneId { inboundLane with state := .closed }).setOutboundLane
                laneId outboundLane }
          | (none, outboundMessages) =>
            -- the queue is empty: both lanes are purged, the bridge removed, the reserve returned
            .ok { s with
              messages := { s.messages with
                inboundLanes := Function.update s.messages.inboundLanes laneId none
                outboundLanes := Function.update s.messages.outboundLanes laneId none
                outboundMessages := Function.update s.messages.outboundMessages laneId outboundMessages }
              bridges := Function.update s.bridges laneId none
              currency := s.currency.unreserve bridge.bridgeOwnerAccount bridge.reserve }

/-! ## Runs -/

/-- A chain with no bridge and no lane: the messages pallet in some operating mode, its payments
in some state, and every balance free. -/
def genesis (palletOperatingMode : MessagesOperatingMode) (payments : Payments)
    (free : AccountId → ℕ) : State LaneId AccountId Payments :=
  ⟨fun _ ↦ none, ⟨palletOperatingMode, fun _ ↦ none, fun _ ↦ none, fun _ _ ↦ none, payments⟩,
    ⟨free, fun _ ↦ 0⟩⟩

/-- One call: `open_bridge` or `close_bridge` under the storage layer, a `send_message` that
succeeds, or one of the messages pallet's dispatchables under the storage layer, all with any
arguments. -/
inductive Step : State LaneId AccountId Payments → State LaneId AccountId Payments → Prop
  | openBridge (s : State LaneId AccountId Payments) (origin : Origin) (destination : Destination) :
      Step s (Exec.transactional s (openBridge T s origin destination))
  | closeBridge (s : State LaneId AccountId Payments) (origin : Origin) (destination : Destination)
      (mayPruneMessages : ℕ) :
      Step s (Exec.transactional s (closeBridge T s origin destination mayPruneMessages))
  | sendMessage (s : State LaneId AccountId Payments) (laneId : LaneId) (payload : MessagePayload)
      (nonce : ℕ) (messages : Pallet.State LaneId AccountId Payments) :
      Pallet.sendMessage T.messages s.messages laneId payload = .ok (nonce, messages) →
      Step s { s with messages }
  | receiveMessagesProof (s : State LaneId AccountId Payments) (relayer : AccountId)
      (proof : FromBridgedChainMessagesProof LaneId) (messagesCount : UInt32) (dispatchWeight : Weight) :
      Step s { s with
        messages := Exec.transactional s.messages
          (Pallet.receiveMessagesProof T.messages s.messages relayer proof messagesCount
            dispatchWeight) }
  | receiveMessagesDeliveryProof (s : State LaneId AccountId Payments) (relayer : AccountId)
      (proof : FromBridgedChainMessagesDeliveryProof LaneId AccountId)
      (relayersState : UnrewardedRelayersState) :
      Step s { s with
        messages := Exec.transactional s.messages
          (Pallet.receiveMessagesDeliveryProof T.messages s.messages relayer proof relayersState) }

/-- No outbound lane's `latest_generated_nonce` has reached `u64::MAX`. -/
def Bounded (s : State LaneId AccountId Payments) : Prop :=
  ∀ laneId data, s.messages.outboundLanes laneId = some data →
    data.latestGeneratedNonce + 1 < 2 ^ 64

/-- A call made while no outbound lane's `latest_generated_nonce` has reached `u64::MAX`. -/
def BoundedStep (s t : State LaneId AccountId Payments) : Prop :=
  Bounded s ∧ Step T s t

end XcmBridgeHub
