import SoloParaBridge.Lib.Unsigned
import SoloParaBridge.Lib.Intervals

/-!
# The data of a message lane

The types of `bp_messages` that both ends of a lane store and exchange.  A lane carries messages
numbered `1, 2, 3, …` — their nonces, `MessageNonce = u64` — from its outbound end on the source
chain to its inbound end on the target chain:

* `OutboundLaneData` is the source's view: the last nonce it generated, the last one it knows was
  received, and the oldest one whose payload it still stores;
* `InboundLaneData` is the target's view: the last nonce whose delivery the source has confirmed,
  and the queue of *unrewarded relayers* — who delivered which run of nonces since then, which the
  source needs to pay them.

Nonces (`MessageNonce`) are natural numbers below `2 ^ 64`, and every operation on them is the one the source
names (`Unsigned`).  `DeliveredMessages` is a closed range `begin..=end` of nonces, and the queue
of relayers is a list of such ranges with the front of the `VecDeque` first: the lane code keeps
the ranges consecutive, and `Intervals` is the theory of such queues.
-/

set_option autoImplicit false

namespace Messages

/-- `LaneState`. -/
inductive LaneState where
  | opened
  | closed
  deriving DecidableEq, Repr

/-- `LaneState::is_active`. -/
def LaneState.isActive : LaneState → Bool
  | .opened => true
  | .closed => false

/-- `(start..=end).saturating_len()` of `bp_runtime::RangeInclusiveExt`. -/
def saturatingLen (start endNonce : ℕ) : ℕ :=
  match Unsigned.checkedSub endNonce start with
  | some len => Unsigned.saturatingAdd 64 len 1
  | none => 0

/-- A range is empty exactly when it ends before it starts: a non-empty one saturates at
`u64::MAX`, not at `0`. -/
theorem saturatingLen_eq_zero_iff {start endNonce : ℕ} :
    saturatingLen start endNonce = 0 ↔ endNonce < start := by
  unfold saturatingLen
  by_cases h : start ≤ endNonce
  · simp only [Unsigned.checkedSub_of_le h, Unsigned.saturatingAdd]
    omega
  · simp only [Unsigned.checkedSub_of_lt (Nat.lt_of_not_le h), true_iff]
    exact Nat.lt_of_not_le h

/-- `(start..=end).checked_len()`. -/
def checkedLen (start endNonce : ℕ) : Option ℕ :=
  (Unsigned.checkedSub endNonce start).bind fun len ↦ Unsigned.checkedAdd 64 len 1

/-- `DeliveredMessages`: the nonces `begin..=end`. -/
structure DeliveredMessages where
  /-- `begin`, the first nonce (inclusive). -/
  begin : ℕ
  /-- `end`, the last nonce (inclusive). -/
  endNonce : ℕ
  deriving DecidableEq, Repr

/-- `DeliveredMessages::new`: a single nonce. -/
def DeliveredMessages.new (nonce : ℕ) : DeliveredMessages := ⟨nonce, nonce⟩

/-- `total_messages`. -/
def DeliveredMessages.totalMessages (d : DeliveredMessages) : ℕ :=
  saturatingLen d.begin d.endNonce

/-- `note_dispatched_message`: `self.end += 1`. -/
def DeliveredMessages.noteDispatchedMessage (d : DeliveredMessages) : DeliveredMessages :=
  { d with endNonce := Unsigned.wrappingAdd 64 d.endNonce 1 }

/-- `contains_message`. -/
def DeliveredMessages.containsMessage (d : DeliveredMessages) (nonce : ℕ) : Bool :=
  decide (d.begin ≤ nonce ∧ nonce ≤ d.endNonce)

/-- `UnrewardedRelayer`: a relayer of the bridged chain and the run of nonces it delivered. -/
structure UnrewardedRelayer (RelayerId : Type) where
  relayer : RelayerId
  messages : DeliveredMessages
  deriving DecidableEq, Repr

/-- `InboundLaneData`. -/
structure InboundLaneData (RelayerId : Type) where
  state : LaneState
  /-- `relayers`, front first. -/
  relayers : List (UnrewardedRelayer RelayerId)
  lastConfirmedNonce : ℕ
  deriving DecidableEq, Repr

namespace InboundLaneData

variable {RelayerId : Type}

/-- `InboundLaneData::opened()`. -/
def opened : InboundLaneData RelayerId := ⟨.opened, [], 0⟩

/-- `last_delivered_nonce`: the end of the back entry, or the last confirmed nonce. -/
def lastDeliveredNonce (d : InboundLaneData RelayerId) : ℕ :=
  (d.relayers.getLast?.map fun entry ↦ entry.messages.endNonce).getD d.lastConfirmedNonce

/-- `total_unrewarded_messages`: from the front entry's begin to the back entry's end. -/
def totalUnrewardedMessages (d : InboundLaneData RelayerId) : ℕ :=
  match d.relayers.head?, d.relayers.getLast? with
  | some front, some back => saturatingLen front.messages.begin back.messages.endNonce
  | _, _ => 0

end InboundLaneData

/-- `OutboundLaneData`. -/
structure OutboundLaneData where
  state : LaneState
  oldestUnprunedNonce : ℕ
  latestReceivedNonce : ℕ
  latestGeneratedNonce : ℕ
  deriving DecidableEq, Repr

/-- `OutboundLaneData::opened()`: `Default` (oldest unpruned `1`, nothing sent or received) in
the `Opened` state. -/
def OutboundLaneData.opened : OutboundLaneData := ⟨.opened, 1, 0, 0⟩

/-- `ReceivalResult`, with the dispatcher's result of type `δ`. -/
inductive ReceivalResult (δ : Type) where
  | dispatched (dispatchResult : δ)
  | invalidNonce
  | tooManyUnrewardedRelayers
  | tooManyUnconfirmedMessages
  deriving DecidableEq, Repr

/-- Whether a message was dispatched. -/
def ReceivalResult.isDispatched {δ : Type} : ReceivalResult δ → Bool
  | .dispatched _ => true
  | _ => false

/-! ## The run of nonces of a relayer entry -/

/-- The first nonce of an entry. -/
abbrev UnrewardedRelayer.begin {RelayerId : Type} (e : UnrewardedRelayer RelayerId) : ℕ :=
  e.messages.begin

/-- The last nonce of an entry. -/
abbrev UnrewardedRelayer.endNonce {RelayerId : Type} (e : UnrewardedRelayer RelayerId) : ℕ :=
  e.messages.endNonce

/-- The last delivered nonce is one before the first nonce after the runs of the queue. -/
theorem InboundLaneData.lastDeliveredNonce_add_one {RelayerId : Type}
    (d : InboundLaneData RelayerId) :
    d.lastDeliveredNonce + 1 =
      Intervals.nextAfter UnrewardedRelayer.endNonce (d.lastConfirmedNonce + 1) d.relayers := by
  rw [Intervals.nextAfter_eq, lastDeliveredNonce]
  cases d.relayers.getLast? <;> rfl

/-! ## Rewards -/

/-- `calc_relayers_rewards`: each entry's run, clipped to the received range, is credited to the
entry's relayer.  `RelayersRewards` is the map with `0` for a relayer it does not hold. -/
def calcRelayersRewards {RelayerId : Type} [DecidableEq RelayerId]
    (messagesRelayers : List (UnrewardedRelayer RelayerId)) (receivedRange : DeliveredMessages) :
    RelayerId → ℕ :=
  messagesRelayers.foldl (fun relayersRewards entry ↦
      let nonceBegin := max entry.messages.begin receivedRange.begin
      let nonceEnd := min entry.messages.endNonce receivedRange.endNonce
      if nonceBegin ≤ nonceEnd then
        Function.update relayersRewards entry.relayer
          (relayersRewards entry.relayer + (nonceEnd - nonceBegin + 1))
      else relayersRewards)
    fun _ ↦ 0

/-- What a relayer is credited: over its entries, the length of the part of the run in the
received range. -/
theorem calcRelayersRewards_apply {RelayerId : Type} [DecidableEq RelayerId]
    (messagesRelayers : List (UnrewardedRelayer RelayerId)) (receivedRange : DeliveredMessages)
    (relayer : RelayerId) :
    calcRelayersRewards messagesRelayers receivedRange relayer =
      (messagesRelayers.map fun entry ↦ (if entry.relayer = relayer then 1 else 0) *
        (min (entry.messages.endNonce + 1) (receivedRange.endNonce + 1) -
          max entry.messages.begin receivedRange.begin)).sum := by
  suffices h : ∀ (relayersRewards : RelayerId → ℕ),
      (messagesRelayers.foldl (fun relayersRewards entry ↦
          let nonceBegin := max entry.messages.begin receivedRange.begin
          let nonceEnd := min entry.messages.endNonce receivedRange.endNonce
          if nonceBegin ≤ nonceEnd then
            Function.update relayersRewards entry.relayer
              (relayersRewards entry.relayer + (nonceEnd - nonceBegin + 1))
          else relayersRewards) relayersRewards) relayer =
        relayersRewards relayer + (messagesRelayers.map fun entry ↦
          (if entry.relayer = relayer then 1 else 0) *
            (min (entry.messages.endNonce + 1) (receivedRange.endNonce + 1) -
              max entry.messages.begin receivedRange.begin)).sum by
    rw [calcRelayersRewards, h, Nat.zero_add]
  induction messagesRelayers with
  | nil => simp
  | cons entry rest ih =>
    intro relayersRewards
    rw [List.foldl_cons, ih, List.map_cons, List.sum_cons]
    split_ifs with hrange hrelayer hrelayer
    · subst hrelayer
      rw [Function.update_self]
      omega
    · rw [Function.update_of_ne (Ne.symm hrelayer)]
      omega
    · subst hrelayer
      omega
    · omega

end Messages
