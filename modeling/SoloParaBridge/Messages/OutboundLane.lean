import SoloParaBridge.Messages.Primitives
import SoloParaBridge.Lib.Storage
import SoloParaBridge.Lib.Trace

/-!
# The outbound end of a lane

`OutboundLane` keeps, on the source chain, the messages of one lane until their delivery is
confirmed.  Its storage is the lane's `OutboundLaneData` and the payloads stored under the lane
in `OutboundMessages`; every method is a function from that storage to its result and the
storage it leaves, each write done where the source does it:

* `send_message` numbers the payload with the next nonce, saves it — which fails for a payload
  over the bridged chain's size limit — and then writes the new counter;
* `confirm_delivery` learns from the bridged chain that the messages up to some nonce were
  delivered: after four checks, the last of them on the relayer entries of the proof, it removes
  the confirmed payloads and moves `latest_received_nonce` and `oldest_unpruned_nonce`;
* `remove_oldest_unpruned_message` drops the oldest payload with no check, for `close_bridge`,
  which calls it at most `may_prune_messages` times over the queue and then either closes the
  lane, when messages are left, or purges it.

The counters are `u64`: `+ 1` wraps (`Unsigned.wrappingAdd`) and `saturating_add` stops at
`u64::MAX`, as in a runtime build.
-/

set_option autoImplicit false

namespace Messages

/-- `MessagePayload = Vec<u8>`. -/
abbrev MessagePayload := List UInt8

/-- The storage of one outbound lane: `OutboundLanes[lane]` and the `OutboundMessages` entries
of the lane, by nonce. -/
structure OutboundLaneStore where
  data : OutboundLaneData
  messages : ℕ → Option MessagePayload

/-- A lane just created: `OutboundLaneData::opened()`, and no payloads under it. -/
def OutboundLaneStore.opened : OutboundLaneStore := ⟨OutboundLaneData.opened, fun _ ↦ none⟩

/-- The invariant of an outbound lane.  Its counters are `u64` values with
`latest_received_nonce ≤ latest_generated_nonce` and `latest_received_nonce <
oldest_unpruned_nonce ≤ latest_generated_nonce + 1`; a payload is stored only for a queued nonce;
and while the lane is `Opened` nothing but what was confirmed has been pruned, so every queued
nonce still has its payload. -/
structure OutboundLaneStore.Valid (s : OutboundLaneStore) : Prop where
  generated_lt : s.data.latestGeneratedNonce < 2 ^ 64
  oldest_lt : s.data.oldestUnprunedNonce < 2 ^ 64
  received_le_generated : s.data.latestReceivedNonce ≤ s.data.latestGeneratedNonce
  received_lt_oldest : s.data.latestReceivedNonce < s.data.oldestUnprunedNonce
  oldest_le_generated : s.data.oldestUnprunedNonce ≤ s.data.latestGeneratedNonce + 1
  stored_queued : ∀ n, s.messages n ≠ none →
    s.data.oldestUnprunedNonce ≤ n ∧ n ≤ s.data.latestGeneratedNonce
  opened_oldest : s.data.state = .opened →
    s.data.oldestUnprunedNonce = s.data.latestReceivedNonce + 1
  opened_complete : s.data.state = .opened → ∀ n, s.data.oldestUnprunedNonce ≤ n →
    n ≤ s.data.latestGeneratedNonce → s.messages n ≠ none

theorem OutboundLaneStore.valid_opened : OutboundLaneStore.opened.Valid where
  generated_lt := by decide
  oldest_lt := by decide
  received_le_generated := Nat.le_refl 0
  received_lt_oldest := Nat.zero_lt_one
  oldest_le_generated := Nat.le_refl 1
  stored_queued _ hn := absurd rfl hn
  opened_oldest _ := rfl
  opened_complete _ n h₁ h₂ := absurd (Nat.le_trans h₁ h₂) (by decide)

/-- The errors of `send_message`: the one `save_message` can return. -/
inductive VerificationError where
  | messageTooLarge
  deriving DecidableEq, Repr

/-- `ReceivalConfirmationError`. -/
inductive ReceivalConfirmationError where
  | failedToConfirmFutureMessages
  | emptyUnrewardedRelayerEntry
  | nonConsecutiveUnrewardedRelayerEntries
  | tryingToConfirmMoreMessagesThanExpected
  deriving DecidableEq, Repr

namespace OutboundLane

variable {RelayerId : Type}

/-- `queued_messages`: `oldest_unpruned_nonce..=latest_generated_nonce`, as its two ends. -/
def queuedMessages (s : OutboundLaneStore) : ℕ × ℕ :=
  (s.data.oldestUnprunedNonce, s.data.latestGeneratedNonce)

/-- Whether `queued_messages()` is empty. -/
def queueIsEmpty (s : OutboundLaneStore) : Bool :=
  decide (s.data.latestGeneratedNonce < s.data.oldestUnprunedNonce)

/-- `send_message`, with `StoredMessagePayloadLimit` as `maxMessageSize`. -/
def sendMessage (maxMessageSize : ℕ) (messagePayload : MessagePayload) (s : OutboundLaneStore) :
    Except VerificationError ℕ × OutboundLaneStore :=
  let nonce := Unsigned.wrappingAdd 64 s.data.latestGeneratedNonce 1
  -- `save_message`: the bounded payload is built first, and it is the only thing that can fail
  if maxMessageSize < messagePayload.length then (.error .messageTooLarge, s)
  else
    let s := { s with messages := Function.update s.messages nonce (some messagePayload) }
    (.ok nonce, { s with data := { s.data with latestGeneratedNonce := nonce } })

/-- The loop of `ensure_unrewarded_relayers_are_correct`, with the begin the next entry must
have. -/
def ensureEntries (latestReceivedNonce : ℕ) :
    Option ℕ → List (UnrewardedRelayer RelayerId) → Except ReceivalConfirmationError Unit
  | _, [] => .ok ()
  | expectedEntryBegin, entry :: rest =>
    if entry.messages.endNonce < entry.messages.begin then .error .emptyUnrewardedRelayerEntry
    else if expectedEntryBegin ≠ some entry.messages.begin then
      .error .nonConsecutiveUnrewardedRelayerEntries
    else if latestReceivedNonce < entry.messages.endNonce then
      .error .failedToConfirmFutureMessages
    else ensureEntries latestReceivedNonce (Unsigned.checkedAdd 64 entry.messages.endNonce 1) rest

/-- `ensure_unrewarded_relayers_are_correct`: the entries are non-empty, consecutive from the
first one's begin, and none ends after `latest_received_nonce`. -/
def ensureUnrewardedRelayersAreCorrect (latestReceivedNonce : ℕ)
    (relayers : List (UnrewardedRelayer RelayerId)) : Except ReceivalConfirmationError Unit :=
  ensureEntries latestReceivedNonce (relayers.head?.map fun entry ↦ entry.messages.begin) relayers

/-- `for nonce in begin..=end { remove_message(&nonce) }`. -/
def removeMessages (begin endNonce : ℕ) (messages : ℕ → Option MessagePayload) :
    ℕ → Option MessagePayload :=
  fun nonce ↦ if begin ≤ nonce ∧ nonce ≤ endNonce then none else messages nonce

/-- `confirm_delivery`: the range it confirmed, if any, or an error. -/
def confirmDelivery (maxAllowedMessages latestDeliveredNonce : ℕ)
    (relayers : List (UnrewardedRelayer RelayerId)) (s : OutboundLaneStore) :
    Except ReceivalConfirmationError (Option DeliveredMessages) × OutboundLaneStore :=
  let confirmedMessages : DeliveredMessages :=
    ⟨Unsigned.saturatingAdd 64 s.data.latestReceivedNonce 1, latestDeliveredNonce⟩
  if confirmedMessages.totalMessages = 0 then (.ok none, s)
  else if s.data.latestGeneratedNonce < confirmedMessages.endNonce then
    (.error .failedToConfirmFutureMessages, s)
  else if maxAllowedMessages < confirmedMessages.totalMessages then
    (.error .tryingToConfirmMoreMessagesThanExpected, s)
  else
    match ensureUnrewardedRelayersAreCorrect confirmedMessages.endNonce relayers with
    | .error e => (.error e, s)
    | .ok () =>
      -- prune all confirmed messages, then write the counters
      let s := { s with
        messages := removeMessages confirmedMessages.begin confirmedMessages.endNonce s.messages }
      (.ok (some confirmedMessages), { s with
        data := { s.data with
          latestReceivedNonce := confirmedMessages.endNonce
          oldestUnprunedNonce := Unsigned.saturatingAdd 64 confirmedMessages.endNonce 1 } })

/-- `remove_oldest_unpruned_message`. -/
def removeOldestUnprunedMessage (s : OutboundLaneStore) : OutboundLaneStore :=
  { messages := Function.update s.messages s.data.oldestUnprunedNonce none
    data := { s.data with
      oldestUnprunedNonce := Unsigned.wrappingAdd 64 s.data.oldestUnprunedNonce 1 } }

/-- `set_state`. -/
def setState (state : LaneState) (s : OutboundLaneStore) : OutboundLaneStore :=
  { s with data := { s.data with state } }

/-! ## The pruning loop of `close_bridge` -/

/-- The loop `for _ in outbound_lane.queued_messages() { if pruned_messages == may_prune_messages
{ break } ... }` over a range of `remaining` nonces computed before it starts; it returns the
lane and `pruned_messages`.  The counter stays below `may_prune_messages`, a `u64`, whenever it is
incremented. -/
def pruneQueuedMessages (mayPruneMessages : ℕ) :
    ℕ → ℕ → OutboundLaneStore → OutboundLaneStore × ℕ
  | 0, prunedMessages, s => (s, prunedMessages)
  | remaining + 1, prunedMessages, s =>
    if prunedMessages = mayPruneMessages then (s, prunedMessages)
    else pruneQueuedMessages mayPruneMessages remaining (prunedMessages + 1)
      (removeOldestUnprunedMessage s)

/-- The number of nonces `oldest_unpruned_nonce..=latest_generated_nonce` iterates over. -/
def queuedCount (s : OutboundLaneStore) : ℕ :=
  s.data.latestGeneratedNonce + 1 - s.data.oldestUnprunedNonce

/-- What `close_bridge` leaves of the outbound lane: after pruning, the lane closed when messages
are still queued, or no lane at all; and the lane's `OutboundMessages` entries either way. -/
def closeBridge (mayPruneMessages : ℕ) (s : OutboundLaneStore) :
    Option OutboundLaneStore × (ℕ → Option MessagePayload) :=
  let s := (pruneQueuedMessages mayPruneMessages (queuedCount s) 0 s).1
  if !queueIsEmpty s then (some (setState .closed s), s.messages) else (none, s.messages)

/-! ## What each method does -/

theorem sendMessage_of_le {maxMessageSize : ℕ} {messagePayload : MessagePayload}
    (h : messagePayload.length ≤ maxMessageSize) (s : OutboundLaneStore) :
    sendMessage maxMessageSize messagePayload s =
      (.ok (Unsigned.wrappingAdd 64 s.data.latestGeneratedNonce 1),
        ⟨{ s.data with latestGeneratedNonce := Unsigned.wrappingAdd 64 s.data.latestGeneratedNonce 1 },
          Function.update s.messages (Unsigned.wrappingAdd 64 s.data.latestGeneratedNonce 1)
            (some messagePayload)⟩) := by
  simp only [sendMessage, if_neg (Nat.not_lt.mpr h)]

theorem sendMessage_of_lt {maxMessageSize : ℕ} {messagePayload : MessagePayload}
    (h : maxMessageSize < messagePayload.length) (s : OutboundLaneStore) :
    sendMessage maxMessageSize messagePayload s = (.error .messageTooLarge, s) := by
  simp only [sendMessage, if_pos h]

/-- A payload that cannot be saved leaves the lane as it was. -/
theorem sendMessage_error {maxMessageSize : ℕ} {messagePayload : MessagePayload}
    {s : OutboundLaneStore} {e : VerificationError}
    (h : (sendMessage maxMessageSize messagePayload s).1 = .error e) :
    (sendMessage maxMessageSize messagePayload s).2 = s := by
  by_cases hlen : maxMessageSize < messagePayload.length
  · rw [sendMessage_of_lt hlen]
  · rw [sendMessage_of_le (Nat.le_of_not_lt hlen)] at h
    cases h

/-- **Everything `confirm_delivery` can do.**  Either it changes nothing, or the range from one
after `latest_received_nonce` to the proven `latest_delivered_nonce` is non-empty, lies below
`latest_generated_nonce`, is within the declared count, the relayer entries pass their checks,
and the range is confirmed: its payloads removed and the two counters moved past it. -/
theorem confirmDelivery_cases (maxAllowedMessages latestDeliveredNonce : ℕ)
    (relayers : List (UnrewardedRelayer RelayerId)) (s : OutboundLaneStore) :
    ((∀ confirmed, (confirmDelivery maxAllowedMessages latestDeliveredNonce relayers s).1 ≠
        .ok (some confirmed)) ∧
        (confirmDelivery maxAllowedMessages latestDeliveredNonce relayers s).2 = s) ∨
      (Unsigned.saturatingAdd 64 s.data.latestReceivedNonce 1 ≤ latestDeliveredNonce ∧
        latestDeliveredNonce ≤ s.data.latestGeneratedNonce ∧
        saturatingLen (Unsigned.saturatingAdd 64 s.data.latestReceivedNonce 1) latestDeliveredNonce ≤
          maxAllowedMessages ∧
        ensureUnrewardedRelayersAreCorrect latestDeliveredNonce relayers = .ok () ∧
        confirmDelivery maxAllowedMessages latestDeliveredNonce relayers s =
          (.ok (some ⟨Unsigned.saturatingAdd 64 s.data.latestReceivedNonce 1, latestDeliveredNonce⟩),
            ⟨{ s.data with
                latestReceivedNonce := latestDeliveredNonce
                oldestUnprunedNonce := Unsigned.saturatingAdd 64 latestDeliveredNonce 1 },
              removeMessages (Unsigned.saturatingAdd 64 s.data.latestReceivedNonce 1)
                latestDeliveredNonce s.messages⟩)) := by
  -- the four early returns, in the order the source makes them
  unfold confirmDelivery DeliveredMessages.totalMessages
  by_cases hzero : saturatingLen (Unsigned.saturatingAdd 64 s.data.latestReceivedNonce 1)
      latestDeliveredNonce = 0
  · rw [if_pos hzero]
    exact .inl ⟨fun _ h ↦ (by cases h), rfl⟩
  rw [if_neg hzero]
  by_cases hfuture : s.data.latestGeneratedNonce < latestDeliveredNonce
  · rw [if_pos hfuture]
    exact .inl ⟨fun _ h ↦ (by cases h), rfl⟩
  rw [if_neg hfuture]
  by_cases hmax : maxAllowedMessages <
      saturatingLen (Unsigned.saturatingAdd 64 s.data.latestReceivedNonce 1) latestDeliveredNonce
  · rw [if_pos hmax]
    exact .inl ⟨fun _ h ↦ (by cases h), rfl⟩
  rw [if_neg hmax]
  cases hok : ensureUnrewardedRelayersAreCorrect latestDeliveredNonce relayers with
  | error e => exact .inl ⟨fun _ h ↦ (by cases h), rfl⟩
  | ok u =>
    exact .inr ⟨Nat.le_of_not_lt (mt saturatingLen_eq_zero_iff.mpr hzero),
      Nat.le_of_not_lt hfuture, Nat.le_of_not_lt hmax, rfl, rfl⟩

/-- A confirmation that fails leaves the lane as it was. -/
theorem confirmDelivery_error {maxAllowedMessages latestDeliveredNonce : ℕ}
    {relayers : List (UnrewardedRelayer RelayerId)} {s : OutboundLaneStore}
    {e : ReceivalConfirmationError}
    (h : (confirmDelivery maxAllowedMessages latestDeliveredNonce relayers s).1 = .error e) :
    (confirmDelivery maxAllowedMessages latestDeliveredNonce relayers s).2 = s := by
  rcases confirmDelivery_cases maxAllowedMessages latestDeliveredNonce relayers s with
    ⟨-, hsame⟩ | ⟨-, -, -, -, hconfirm⟩
  · exact hsame
  · rw [hconfirm] at h
    cases h

/-- A confirmation that succeeds confirmed nothing and left the lane, or confirmed the nonces
from after `latest_received_nonce`, saturating, to `latest_delivered_nonce`, none of them beyond
the generated ones, and moved the counters there. -/
theorem confirmDelivery_eq_ok {maxAllowedMessages latestDeliveredNonce : ℕ}
    {relayers : List (UnrewardedRelayer RelayerId)} {s : OutboundLaneStore}
    {confirmed : Option DeliveredMessages}
    (h : (confirmDelivery maxAllowedMessages latestDeliveredNonce relayers s).1 = .ok confirmed) :
    (confirmed = none ∧ (confirmDelivery maxAllowedMessages latestDeliveredNonce relayers s).2 = s) ∨
      (confirmed = some ⟨Unsigned.saturatingAdd 64 s.data.latestReceivedNonce 1,
          latestDeliveredNonce⟩ ∧
        Unsigned.saturatingAdd 64 s.data.latestReceivedNonce 1 ≤ latestDeliveredNonce ∧
        latestDeliveredNonce ≤ s.data.latestGeneratedNonce ∧
        (confirmDelivery maxAllowedMessages latestDeliveredNonce relayers s).2 =
          ⟨{ s.data with
              latestReceivedNonce := latestDeliveredNonce
              oldestUnprunedNonce := Unsigned.saturatingAdd 64 latestDeliveredNonce 1 },
            removeMessages (Unsigned.saturatingAdd 64 s.data.latestReceivedNonce 1)
              latestDeliveredNonce s.messages⟩) := by
  rcases confirmDelivery_cases maxAllowedMessages latestDeliveredNonce relayers s with
    ⟨hnot, hsame⟩ | ⟨hbegin, hend, -, -, hconfirm⟩
  · cases confirmed with
    | none => exact .inl ⟨rfl, hsame⟩
    | some c => exact absurd h (hnot c)
  · rw [hconfirm] at h ⊢
    injection h with h
    exact .inr ⟨h.symm, hbegin, hend, rfl⟩

/-- `j` removals of the oldest message, none of which reaches `2 ^ 64`: the first `j` queued
nonces are gone, and `oldest_unpruned_nonce` moved past them (to `0`, if the last one was
`u64::MAX`). -/
theorem removeOldestUnprunedMessage_iterate (s : OutboundLaneStore)
    (holdest : s.data.oldestUnprunedNonce < 2 ^ 64) :
    ∀ j, s.data.oldestUnprunedNonce + j ≤ 2 ^ 64 →
      removeOldestUnprunedMessage^[j] s =
        ⟨{ s.data with oldestUnprunedNonce := (s.data.oldestUnprunedNonce + j) % 2 ^ 64 },
          fun n ↦ if s.data.oldestUnprunedNonce ≤ n ∧ n < s.data.oldestUnprunedNonce + j then none
            else s.messages n⟩
  | 0, _ => by
    rw [Function.iterate_zero_apply, Nat.add_zero, Nat.mod_eq_of_lt holdest]
    have hkept : ∀ n, ¬(s.data.oldestUnprunedNonce ≤ n ∧ n < s.data.oldestUnprunedNonce) := by
      omega
    simp only [hkept, if_false]
  | j + 1, hj => by
    rw [Function.iterate_succ_apply', removeOldestUnprunedMessage_iterate s holdest j (by omega)]
    have hlt : (s.data.oldestUnprunedNonce + j) % 2 ^ 64 = s.data.oldestUnprunedNonce + j :=
      Nat.mod_eq_of_lt (by omega)
    simp only [removeOldestUnprunedMessage, hlt, Unsigned.wrappingAdd, OutboundLaneStore.mk.injEq]
    refine ⟨by rw [Nat.add_assoc], ?_⟩
    funext n
    by_cases hn : n = s.data.oldestUnprunedNonce + j
    · simp [hn]
    · rw [Function.update_of_ne hn]
      by_cases hlo : s.data.oldestUnprunedNonce ≤ n ∧ n < s.data.oldestUnprunedNonce + j
      · rw [if_pos hlo, if_pos ⟨hlo.1, by omega⟩]
      · rw [if_neg hlo, if_neg (by omega)]

/-- The pruning loop removes the oldest message once per round, for as many rounds as both the
range and the budget allow. -/
theorem pruneQueuedMessages_eq (mayPruneMessages : ℕ) :
    ∀ (remaining prunedMessages : ℕ) (s : OutboundLaneStore),
      prunedMessages ≤ mayPruneMessages →
      pruneQueuedMessages mayPruneMessages remaining prunedMessages s =
        (removeOldestUnprunedMessage^[min remaining (mayPruneMessages - prunedMessages)] s,
          prunedMessages + min remaining (mayPruneMessages - prunedMessages))
  | 0, prunedMessages, s, _ => by simp [pruneQueuedMessages]
  | remaining + 1, prunedMessages, s, hle => by
    rw [pruneQueuedMessages]
    split_ifs with hdone
    · subst hdone
      simp
    · have hround : min (remaining + 1) (mayPruneMessages - prunedMessages) =
          min remaining (mayPruneMessages - (prunedMessages + 1)) + 1 := by
        omega
      rw [pruneQueuedMessages_eq mayPruneMessages remaining (prunedMessages + 1) _ (by omega),
        hround, Function.iterate_succ_apply]
      simp only [Prod.mk.injEq, true_and]
      omega

theorem closeBridge_of_queued {mayPruneMessages : ℕ} {s : OutboundLaneStore}
    (h : queueIsEmpty (pruneQueuedMessages mayPruneMessages (queuedCount s) 0 s).1 = false) :
    closeBridge mayPruneMessages s =
      (some (setState .closed (pruneQueuedMessages mayPruneMessages (queuedCount s) 0 s).1),
        (pruneQueuedMessages mayPruneMessages (queuedCount s) 0 s).1.messages) := by
  simp only [closeBridge, h, Bool.not_false, if_true]

theorem closeBridge_of_empty {mayPruneMessages : ℕ} {s : OutboundLaneStore}
    (h : queueIsEmpty (pruneQueuedMessages mayPruneMessages (queuedCount s) 0 s).1 = true) :
    closeBridge mayPruneMessages s =
      (none, (pruneQueuedMessages mayPruneMessages (queuedCount s) 0 s).1.messages) := by
  simp only [closeBridge, h, Bool.not_true]
  rfl

/-- Sending and confirming never change the state of the lane. -/
theorem sendMessage_state (maxMessageSize : ℕ) (messagePayload : MessagePayload)
    (s : OutboundLaneStore) : (sendMessage maxMessageSize messagePayload s).2.data.state = s.data.state := by
  by_cases hlen : maxMessageSize < messagePayload.length
  · rw [sendMessage_of_lt hlen]
  · rw [sendMessage_of_le (Nat.le_of_not_lt hlen)]

theorem sendMessage_latestReceivedNonce (maxMessageSize : ℕ) (messagePayload : MessagePayload)
    (s : OutboundLaneStore) :
    (sendMessage maxMessageSize messagePayload s).2.data.latestReceivedNonce =
      s.data.latestReceivedNonce := by
  by_cases hlen : maxMessageSize < messagePayload.length
  · rw [sendMessage_of_lt hlen]
  · rw [sendMessage_of_le (Nat.le_of_not_lt hlen)]

theorem confirmDelivery_state (maxAllowedMessages latestDeliveredNonce : ℕ)
    (relayers : List (UnrewardedRelayer RelayerId)) (s : OutboundLaneStore) :
    (confirmDelivery maxAllowedMessages latestDeliveredNonce relayers s).2.data.state = s.data.state := by
  rcases confirmDelivery_cases maxAllowedMessages latestDeliveredNonce relayers s with
    ⟨-, hsame⟩ | ⟨-, -, -, -, hconfirm⟩
  · rw [hsame]
  · rw [hconfirm]

/-- A lane that `close_bridge` keeps is closed. -/
theorem closeBridge_state {mayPruneMessages : ℕ} {s t : OutboundLaneStore}
    (h : (closeBridge mayPruneMessages s).1 = some t) : t.data.state = .closed := by
  cases hqueue : queueIsEmpty (pruneQueuedMessages mayPruneMessages (queuedCount s) 0 s).1 with
  | true =>
    rw [closeBridge_of_empty hqueue] at h
    cases h
  | false =>
    rw [closeBridge_of_queued hqueue, Option.some.injEq] at h
    rw [← h]
    rfl

/-! ## The invariant over a run

Each method keeps `OutboundLaneStore.Valid` when it is called while `latest_generated_nonce` is
below `u64::MAX`; at `u64::MAX` the next nonce wraps to `0`, and confirming up to it leaves
`oldest_unpruned_nonce` saturated at `latest_received_nonce`. -/

section Invariant

variable {s : OutboundLaneStore}

/-- `send_message` keeps a lane valid below `u64::MAX`: the new payload is stored at the new
`latest_generated_nonce`. -/
theorem sendMessage_valid (hv : s.Valid) (hgen : s.data.latestGeneratedNonce + 1 < 2 ^ 64)
    (maxMessageSize : ℕ) (messagePayload : MessagePayload) :
    (sendMessage maxMessageSize messagePayload s).2.Valid := by
  by_cases hlen : maxMessageSize < messagePayload.length
  · rw [sendMessage_of_lt hlen]
    exact hv
  rw [sendMessage_of_le (Nat.le_of_not_lt hlen), Unsigned.wrappingAdd_of_lt hgen]
  have := hv.received_le_generated
  have := hv.oldest_le_generated
  refine ⟨hgen, hv.oldest_lt, by dsimp only; omega, hv.received_lt_oldest, by dsimp only; omega,
    ?_, hv.opened_oldest, ?_⟩
  · intro n hn
    dsimp only at hn ⊢
    by_cases hnew : n = s.data.latestGeneratedNonce + 1
    · omega
    · rw [Function.update_of_ne hnew] at hn
      have := hv.stored_queued n hn
      omega
  · intro hopened n hlo hhi
    dsimp only at hlo hhi ⊢
    by_cases hnew : n = s.data.latestGeneratedNonce + 1
    · rw [hnew, Function.update_self]
      exact Option.some_ne_none _
    · rw [Function.update_of_ne hnew]
      exact hv.opened_complete hopened n hlo (by omega)

/-- `confirm_delivery` keeps a lane valid below `u64::MAX`, where neither `saturating_add`
saturates: the confirmed payloads are removed, and the others lie above them. -/
theorem confirmDelivery_valid (hv : s.Valid) (hgen : s.data.latestGeneratedNonce + 1 < 2 ^ 64)
    (maxAllowedMessages latestDeliveredNonce : ℕ) (relayers : List (UnrewardedRelayer RelayerId)) :
    (confirmDelivery maxAllowedMessages latestDeliveredNonce relayers s).2.Valid := by
  rcases confirmDelivery_cases maxAllowedMessages latestDeliveredNonce relayers s with
    ⟨-, hsame⟩ | ⟨hbegin, hend, -, -, hconfirm⟩
  · rw [hsame]
    exact hv
  have hreceived := hv.received_le_generated
  have hlt := hv.received_lt_oldest
  rw [Unsigned.saturatingAdd_of_lt (by omega)] at hbegin
  rw [hconfirm, Unsigned.saturatingAdd_of_lt (by omega),
    Unsigned.saturatingAdd_of_lt (a := latestDeliveredNonce) (by omega)]
  refine ⟨hv.generated_lt, by dsimp only; omega, hend, Nat.lt_succ_self _,
    Nat.succ_le_succ hend, ?_, fun _ ↦ rfl, ?_⟩
  · intro n hn
    dsimp only [removeMessages] at hn ⊢
    split_ifs at hn with hconfirmed
    · exact absurd rfl hn
    · have := hv.stored_queued n hn
      omega
  · intro hopened n hlo hhi
    dsimp only [removeMessages] at hlo hhi hopened ⊢
    rw [if_neg (by omega)]
    have := hv.opened_oldest hopened
    exact hv.opened_complete hopened n (by omega) hhi

/-- What the pruning loop of `close_bridge` leaves of a valid lane: `oldest_unpruned_nonce`
moved `j` places along the queue, wrapping at `2 ^ 64`, and the `j` payloads it passed removed. -/
theorem pruneQueuedMessages_of_valid (hv : s.Valid) (mayPruneMessages : ℕ) :
    ∃ j, s.data.oldestUnprunedNonce + j ≤ s.data.latestGeneratedNonce + 1 ∧
      (pruneQueuedMessages mayPruneMessages (queuedCount s) 0 s).1 =
        ⟨{ s.data with oldestUnprunedNonce := (s.data.oldestUnprunedNonce + j) % 2 ^ 64 },
          fun n ↦ if s.data.oldestUnprunedNonce ≤ n ∧ n < s.data.oldestUnprunedNonce + j then none
            else s.messages n⟩ := by
  have hle := hv.oldest_le_generated
  have hj : s.data.oldestUnprunedNonce + min (queuedCount s) mayPruneMessages ≤
      s.data.latestGeneratedNonce + 1 := by
    unfold queuedCount
    omega
  refine ⟨min (queuedCount s) mayPruneMessages, hj, ?_⟩
  rw [pruneQueuedMessages_eq _ _ _ _ (Nat.zero_le _), Nat.sub_zero]
  have := hv.generated_lt
  exact removeOldestUnprunedMessage_iterate s hv.oldest_lt _ (by omega)

theorem closeBridge_valid (hv : s.Valid) (hgen : s.data.latestGeneratedNonce + 1 < 2 ^ 64)
    {mayPruneMessages : ℕ} {t : OutboundLaneStore}
    (h : (closeBridge mayPruneMessages s).1 = some t) : t.Valid := by
  cases hqueue : queueIsEmpty (pruneQueuedMessages mayPruneMessages (queuedCount s) 0 s).1 with
  | true =>
    rw [closeBridge_of_empty hqueue] at h
    cases h
  | false =>
    rw [closeBridge_of_queued hqueue, Option.some.injEq] at h
    subst h
    obtain ⟨j, hj, hpruned⟩ := pruneQueuedMessages_of_valid hv mayPruneMessages
    -- below `u64::MAX` the loop never wraps `oldest_unpruned_nonce`
    rw [Nat.mod_eq_of_lt (by omega)] at hpruned
    rw [hpruned]
    have := hv.received_lt_oldest
    refine ⟨hv.generated_lt, by dsimp only [setState]; omega, hv.received_le_generated,
      by dsimp only [setState]; omega, hj, ?_, (fun h ↦ nomatch h), fun h ↦ nomatch h⟩
    intro n hn
    dsimp only [setState] at hn ⊢
    split_ifs at hn with hpassed
    · exact absurd rfl hn
    · have := hv.stored_queued n hn
      omega

/-- **A purged lane leaves no payload behind.**  `close_bridge` purges the lane only when the
pruning loop emptied the queue, and a valid lane stores payloads only for queued nonces. -/
theorem closeBridge_purged (hv : s.Valid) {mayPruneMessages : ℕ}
    {messages : ℕ → Option MessagePayload}
    (h : closeBridge mayPruneMessages s = (none, messages)) (n : ℕ) : messages n = none := by
  obtain ⟨j, -, hpruned⟩ := pruneQueuedMessages_of_valid hv mayPruneMessages
  cases hqueue : queueIsEmpty (pruneQueuedMessages mayPruneMessages (queuedCount s) 0 s).1 with
  | false =>
    rw [closeBridge_of_queued hqueue] at h
    cases h
  | true =>
    rw [closeBridge_of_empty hqueue, Prod.mk.injEq] at h
    rw [← h.2, hpruned]
    rw [hpruned, queueIsEmpty, decide_eq_true_iff] at hqueue
    -- the queue is empty, even if `oldest_unpruned_nonce` wrapped
    have hwrap := Nat.mod_le (s.data.oldestUnprunedNonce + j) (2 ^ 64)
    dsimp only at hqueue ⊢
    split_ifs with hpassed
    · rfl
    · by_contra hn
      have := hv.stored_queued n hn
      omega

end Invariant

variable (RelayerId) in
/-- One call on the lane: `send_message`, `confirm_delivery` or a `close_bridge` that left the
lane closed, with any arguments. -/
inductive Step : OutboundLaneStore → OutboundLaneStore → Prop
  | sendMessage (maxMessageSize : ℕ) (messagePayload : MessagePayload) (s : OutboundLaneStore) :
      Step s (sendMessage maxMessageSize messagePayload s).2
  | confirmDelivery (maxAllowedMessages latestDeliveredNonce : ℕ)
      (relayers : List (UnrewardedRelayer RelayerId)) (s : OutboundLaneStore) :
      Step s (confirmDelivery maxAllowedMessages latestDeliveredNonce relayers s).2
  | closeBridge (mayPruneMessages : ℕ) (s t : OutboundLaneStore) :
      (closeBridge mayPruneMessages s).1 = some t → Step s t

variable (RelayerId) in
/-- A call made while `latest_generated_nonce` is below `u64::MAX`. -/
def BoundedStep (s t : OutboundLaneStore) : Prop :=
  s.data.latestGeneratedNonce + 1 < 2 ^ 64 ∧ Step RelayerId s t

theorem Step.valid {s t : OutboundLaneStore} (hv : s.Valid)
    (hgen : s.data.latestGeneratedNonce + 1 < 2 ^ 64) (h : Step RelayerId s t) : t.Valid := by
  cases h with
  | sendMessage maxMessageSize messagePayload => exact sendMessage_valid hv hgen _ _
  | confirmDelivery maxAllowedMessages latestDeliveredNonce relayers =>
    exact confirmDelivery_valid hv hgen _ _ _
  | closeBridge mayPruneMessages _ _ hclose => exact closeBridge_valid hv hgen hclose

theorem valid_of_reflTransGen {s : OutboundLaneStore}
    (h : Relation.ReflTransGen (BoundedStep RelayerId) OutboundLaneStore.opened s) : s.Valid :=
  invariant_of_reflTransGen h OutboundLaneStore.valid_opened fun _ _ hx hxy ↦ hxy.2.valid hx hxy.1

/-- **The outbound lane, over every run below `u64::MAX`.**  From an opened lane, by any calls of
`send_message`, `confirm_delivery` and `close_bridge` made while `latest_generated_nonce` is
below `u64::MAX`: `latest_received_nonce ≤ latest_generated_nonce` and `latest_received_nonce <
oldest_unpruned_nonce ≤ latest_generated_nonce + 1`; a payload is stored only for a queued nonce,
and for every one of them while the lane is opened; a call of `send_message` or
`confirm_delivery` that fails changes nothing; and a `close_bridge` that purges the lane leaves
none of its payloads. -/
theorem outboundLane_reachable {s : OutboundLaneStore}
    (h : Relation.ReflTransGen (BoundedStep RelayerId) OutboundLaneStore.opened s) :
    s.data.latestReceivedNonce ≤ s.data.latestGeneratedNonce ∧
      s.data.latestReceivedNonce < s.data.oldestUnprunedNonce ∧
      s.data.oldestUnprunedNonce ≤ s.data.latestGeneratedNonce + 1 ∧
      (∀ n, s.messages n ≠ none →
        s.data.oldestUnprunedNonce ≤ n ∧ n ≤ s.data.latestGeneratedNonce) ∧
      (s.data.state = .opened → ∀ n, s.data.oldestUnprunedNonce ≤ n →
        n ≤ s.data.latestGeneratedNonce → s.messages n ≠ none) ∧
      (∀ (maxMessageSize : ℕ) (messagePayload : MessagePayload) (e : VerificationError),
        (sendMessage maxMessageSize messagePayload s).1 = .error e →
          (sendMessage maxMessageSize messagePayload s).2 = s) ∧
      (∀ (maxAllowedMessages latestDeliveredNonce : ℕ)
          (relayers : List (UnrewardedRelayer RelayerId)) (e : ReceivalConfirmationError),
        (confirmDelivery maxAllowedMessages latestDeliveredNonce relayers s).1 = .error e →
          (confirmDelivery maxAllowedMessages latestDeliveredNonce relayers s).2 = s) ∧
      ∀ (mayPruneMessages : ℕ) (messages : ℕ → Option MessagePayload),
        closeBridge mayPruneMessages s = (none, messages) → ∀ n, messages n = none := by
  have hv := valid_of_reflTransGen h
  exact ⟨hv.received_le_generated, hv.received_lt_oldest, hv.oldest_le_generated,
    hv.stored_queued, hv.opened_complete, fun _ _ _ ↦ sendMessage_error,
    fun _ _ _ _ ↦ confirmDelivery_error, fun _ _ hclose ↦ closeBridge_purged hv hclose⟩

/-- An opened lane after one message. -/
def sentOnce : OutboundLaneStore := (sendMessage 325 [7] OutboundLaneStore.opened).2

example : sentOnce.data.latestGeneratedNonce = 1 ∧ sentOnce.messages 1 = some [7] := by decide

theorem outboundLane_reachable_sentOnce :
    Relation.ReflTransGen (BoundedStep Unit) OutboundLaneStore.opened sentOnce ∧
      (sentOnce.data.latestReceivedNonce ≤ sentOnce.data.latestGeneratedNonce ∧
      sentOnce.data.latestReceivedNonce < sentOnce.data.oldestUnprunedNonce ∧
      sentOnce.data.oldestUnprunedNonce ≤ sentOnce.data.latestGeneratedNonce + 1 ∧
      (∀ n, sentOnce.messages n ≠ none →
        sentOnce.data.oldestUnprunedNonce ≤ n ∧ n ≤ sentOnce.data.latestGeneratedNonce) ∧
      (sentOnce.data.state = .opened → ∀ n, sentOnce.data.oldestUnprunedNonce ≤ n →
        n ≤ sentOnce.data.latestGeneratedNonce → sentOnce.messages n ≠ none) ∧
      (∀ (maxMessageSize : ℕ) (messagePayload : MessagePayload) (e : VerificationError),
        (sendMessage maxMessageSize messagePayload sentOnce).1 = .error e →
          (sendMessage maxMessageSize messagePayload sentOnce).2 = sentOnce) ∧
      (∀ (maxAllowedMessages latestDeliveredNonce : ℕ)
          (relayers : List (UnrewardedRelayer Unit)) (e : ReceivalConfirmationError),
        (confirmDelivery maxAllowedMessages latestDeliveredNonce relayers sentOnce).1 = .error e →
          (confirmDelivery maxAllowedMessages latestDeliveredNonce relayers sentOnce).2 =
            sentOnce) ∧
      ∀ (mayPruneMessages : ℕ) (messages : ℕ → Option MessagePayload),
        closeBridge mayPruneMessages sentOnce = (none, messages) → ∀ n, messages n = none) :=
  have h : Relation.ReflTransGen (BoundedStep Unit) OutboundLaneStore.opened sentOnce :=
    .single ⟨by decide, .sendMessage _ _ _⟩
  ⟨h, outboundLane_reachable h⟩

/-! ## At `u64::MAX`

The nonce after `u64::MAX` is `0`: the `2 ^ 64`-th message of a lane is stored under nonce `0`
and `latest_generated_nonce` drops to `0`, so the payloads of `1..=u64::MAX` are no longer
queued, and a `close_bridge` that then finds the queue empty purges the lane and leaves them. -/

/-- `k` sends of an empty payload from an opened lane, below the wrap. -/
theorem sendMessage_iterate_opened :
    ∀ k, k < 2 ^ 64 →
      (fun s ↦ (sendMessage 0 [] s).2)^[k] OutboundLaneStore.opened =
        ⟨{ OutboundLaneData.opened with latestGeneratedNonce := k },
          fun n ↦ if 1 ≤ n ∧ n ≤ k then some [] else none⟩
  | 0, _ => by
    have hnone : ∀ n, ¬(1 ≤ n ∧ n ≤ 0) := by omega
    simp only [Function.iterate_zero_apply, hnone, if_false]
    rfl
  | k + 1, hk => by
    rw [Function.iterate_succ_apply', sendMessage_iterate_opened k (by omega),
      sendMessage_of_le (Nat.le_refl 0), Unsigned.wrappingAdd_of_lt (by omega)]
    simp only [OutboundLaneStore.mk.injEq, true_and]
    funext n
    by_cases hn : n = k + 1
    · rw [hn, Function.update_self, if_pos (by omega)]
    · rw [Function.update_of_ne hn]
      by_cases hle : 1 ≤ n ∧ n ≤ k
      · rw [if_pos hle, if_pos (by omega)]
      · rw [if_neg hle, if_neg (by omega)]

/-- An opened lane after `2 ^ 64` messages. -/
def sentPastMax : OutboundLaneStore :=
  (fun s ↦ (sendMessage 0 [] s).2)^[2 ^ 64] OutboundLaneStore.opened

theorem sentPastMax_eq :
    sentPastMax =
      ⟨{ OutboundLaneData.opened with latestGeneratedNonce := 0 },
        Function.update (fun n ↦ if 1 ≤ n ∧ n ≤ 2 ^ 64 - 1 then some [] else none) 0
          (some [])⟩ := by
  rw [sentPastMax, show 2 ^ 64 = (2 ^ 64 - 1) + 1 from rfl, Function.iterate_succ_apply',
    sendMessage_iterate_opened _ (by omega), sendMessage_of_le (Nat.le_refl 0)]
  rfl

/-- The `close_bridge` after the wrap finds the queue empty, and purges the lane with every
payload still stored. -/
theorem closeBridge_sentPastMax : closeBridge 0 sentPastMax = (none, sentPastMax.messages) := by
  rw [sentPastMax_eq]
  rfl

theorem outboundLane_wraps_past_max :
    Relation.ReflTransGen (Step Unit) OutboundLaneStore.opened sentPastMax ∧
      sentPastMax.data.oldestUnprunedNonce = 1 ∧ sentPastMax.data.latestGeneratedNonce = 0 ∧
      sentPastMax.messages 1 = some [] ∧
      closeBridge 0 sentPastMax = (none, sentPastMax.messages) := by
  have hdata : sentPastMax.data.oldestUnprunedNonce = 1 ∧
      sentPastMax.data.latestGeneratedNonce = 0 ∧ sentPastMax.messages 1 = some [] := by
    rw [sentPastMax_eq]
    exact ⟨rfl, rfl, rfl⟩
  exact ⟨Trace.reflTransGen_iterate (fun s ↦ Step.sendMessage 0 [] s) _ _, hdata.1, hdata.2.1,
    hdata.2.2, closeBridge_sentPastMax⟩

end OutboundLane

end Messages
