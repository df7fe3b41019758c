import SoloParaBridge.Relay.Delivery
import SoloParaBridge.Lib.Intervals

/-!
# What the target does with the relay's batch

The delivery race chooses its batch from what the target client read of the inbound lane: the
last delivered and confirmed nonces, and the `UnrewardedRelayersState` summary of the queue of
unrewarded relayers.  The target's `receive_messages_proof` then applies the proof's outbound lane
state, if it carries one, and calls `receive_message` for each nonce of the batch in turn.

The strategy keeps to the target's unconfirmed limit, and it waits while the queue of relayers
is full unless the proof frees the oldest entry; so the first nonce of the batch is the next one
and there is room for it.  But `receive_message` checks the entry count before *every* message,
also one that would only grow the last entry, and the strategy does not look at the entry count
again: a relayer that is not the last one, arriving when the queue has one free entry, has its
first message dispatched and the second refused with `TooManyUnrewardedRelayers`.
`selectRaceAction_receiveMessagesFrom` says exactly when the whole batch is dispatched.
-/

set_option autoImplicit false

namespace Messages.InboundLane

open Intervals

variable {RelayerId : Type} {limits : InboundLaneLimits}

/-! ## The lane after the proof's outbound lane state -/

/-- The oldest entry of a valid lane holds the messages from the first unconfirmed one to its
end. -/
theorem totalMessages_head {d : InboundLaneData RelayerId} (hd : d.Valid limits)
    {entry : UnrewardedRelayer RelayerId} {rest : List (UnrewardedRelayer RelayerId)}
    (hrelayers : d.relayers = entry :: rest) :
    entry.messages.totalMessages = entry.messages.endNonce - d.lastConfirmedNonce ∧
      d.lastConfirmedNonce < entry.messages.endNonce := by
  have hcons := hd.consecutive
  rw [hrelayers] at hcons
  obtain ⟨hbegin, hle, -⟩ := hcons
  have hend := hd.endNonce_le entry (by simp [hrelayers])
  have hbound := hd.lastDeliveredNonce_lt
  simp only [UnrewardedRelayer.begin, UnrewardedRelayer.endNonce] at hbegin hle hend
  refine ⟨?_, by omega⟩
  -- the run's length is below `2 ^ 64`, so `saturating_len` is the length
  rw [DeliveredMessages.totalMessages, saturatingLen, Unsigned.checkedSub_of_le hle]
  dsimp only
  rw [Unsigned.saturatingAdd_of_lt (by omega)]
  omega

/-- A confirmation covering the oldest entry's messages, as the summary of the queue counts them:
the oldest entry ends at or before it, and after the lane's confirmed nonce. -/
theorem oldestEntry_confirmed {d : InboundLaneData RelayerId} (hd : d.Valid limits) {c : ℕ}
    (hrelayers : d.relayers ≠ [])
    (holdest : (UnrewardedRelayersState.ofInboundLaneData d).messagesInOldestEntry ≤
      c - d.lastConfirmedNonce) :
    ∃ entry rest, d.relayers = entry :: rest ∧ d.lastConfirmedNonce < entry.messages.endNonce ∧
      entry.messages.endNonce ≤ c := by
  obtain ⟨entry, rest, hcons⟩ := List.exists_cons_of_ne_nil hrelayers
  obtain ⟨htotal, hconfirmed⟩ := totalMessages_head hd hcons
  simp only [UnrewardedRelayersState.ofInboundLaneData, hcons, List.head?_cons, Option.map_some,
    Option.getD_some, htotal] at holdest
  exact ⟨entry, rest, hcons, hconfirmed, by omega⟩

/-- A confirmation never adds an entry. -/
theorem length_confirmedRuns_le (c : ℕ) (relayers : List (UnrewardedRelayer RelayerId)) :
    (confirmedRuns c relayers).length ≤ relayers.length := by
  rw [confirmedRuns, length_trimFront]
  exact (List.dropWhile_sublist _).length_le

/-- A confirmation of the oldest entry's messages drops that entry. -/
theorem length_confirmedRuns_lt {c : ℕ} {entry : UnrewardedRelayer RelayerId}
    {rest : List (UnrewardedRelayer RelayerId)} (hend : entry.messages.endNonce ≤ c) :
    (confirmedRuns c (entry :: rest)).length < (entry :: rest).length := by
  rw [confirmedRuns, length_trimFront, List.dropWhile_cons_of_pos (by simpa using hend)]
  exact Nat.lt_succ_of_le (List.dropWhile_sublist _).length_le

/-- **A proof's outbound lane state** that confirms beyond the confirmed nonces, and not beyond
the delivered ones, leaves a valid lane with the same last delivered nonce, confirmed up to the
state's nonce, and without the runs it confirmed. -/
theorem applyLaneState_of_lt {d : InboundLaneData RelayerId} (hd : d.Valid limits)
    (o : OutboundLaneData) (hlt : d.lastConfirmedNonce < o.latestReceivedNonce)
    (hle : o.latestReceivedNonce ≤ d.lastDeliveredNonce) :
    (Pallet.applyLaneState d (some o)).Valid limits ∧
      (Pallet.applyLaneState d (some o)).lastDeliveredNonce = d.lastDeliveredNonce ∧
      (Pallet.applyLaneState d (some o)).lastConfirmedNonce = o.latestReceivedNonce ∧
      (Pallet.applyLaneState d (some o)).relayers = confirmedRuns o.latestReceivedNonce d.relayers := by
  have hupdate : ∃ d', receiveStateUpdate d o = some (o.latestReceivedNonce, d') := by
    unfold receiveStateUpdate
    rw [if_neg (Nat.not_lt.mpr hle), if_neg (Nat.not_le.mpr hlt)]
    exact ⟨_, rfl⟩
  obtain ⟨d', hd'⟩ := hupdate
  obtain ⟨-, -, -, hconfirmed, hrelayers, -⟩ := receiveStateUpdate_eq_some hd'
  obtain ⟨hvalid, hdelivered⟩ := receiveStateUpdate_valid hd hd'
  rw [Pallet.applyLaneState, hd', Option.map_some, Option.getD_some]
  exact ⟨hvalid, hdelivered, hconfirmed, hrelayers⟩

/-- **The lane a batch finds at the target**: the valid lane `d`, after a proof's outbound lane
state confirming up to `c` when the proof carries it, which it does exactly when `c` confirms more
than the lane knows.  The lane stays valid with the same last delivered nonce; and where its
entries were full, the proof confirms the oldest one, which leaves room for a new entry. -/
theorem applyLaneState_carried {d : InboundLaneData RelayerId} (hd : d.Valid limits)
    {laneState : OutboundLaneData} {c : ℕ} {carried : Bool}
    (hcarried : carried = decide (d.lastConfirmedNonce < c))
    (hstate : laneState.latestReceivedNonce = c) (hle : carried = true → c ≤ d.lastDeliveredNonce)
    (hfull : limits.maxUnrewardedRelayerEntries ≤ d.relayers.length →
      (UnrewardedRelayersState.ofInboundLaneData d).messagesInOldestEntry ≤
        c - d.lastConfirmedNonce) :
    let d' := Pallet.applyLaneState d (if carried then some laneState else none)
    d'.Valid limits ∧ d'.lastDeliveredNonce = d.lastDeliveredNonce ∧
      d'.lastConfirmedNonce = (if carried then c else d.lastConfirmedNonce) ∧
      (0 < limits.maxUnrewardedRelayerEntries →
        d'.relayers.length < limits.maxUnrewardedRelayerEntries) := by
  have hfree (hpos : 0 < limits.maxUnrewardedRelayerEntries)
      (hlen : limits.maxUnrewardedRelayerEntries ≤ d.relayers.length) :
      ∃ entry rest, d.relayers = entry :: rest ∧ d.lastConfirmedNonce < entry.messages.endNonce ∧
        entry.messages.endNonce ≤ c :=
    oldestEntry_confirmed hd (List.ne_nil_of_length_pos (by omega)) (hfull hlen)
  intro d'
  have hlen := hd.length_le
  cases carried with
  | false =>
    have hkept : ¬ d.lastConfirmedNonce < c := of_decide_eq_false hcarried.symm
    have hd' : d' = d := rfl
    rw [hd']
    refine ⟨hd, rfl, rfl, fun hpos ↦ ?_⟩
    by_contra hroom
    obtain ⟨entry, rest, -, hconfirmed, hend⟩ := hfree hpos (by omega)
    exact hkept (by omega)
  | true =>
    have hlt : d.lastConfirmedNonce < c := of_decide_eq_true hcarried.symm
    obtain ⟨hvalid', hdelivered', hconfirmed', hrelayers'⟩ :=
      applyLaneState_of_lt hd laneState (by omega) (by have := hle rfl; omega)
    have hd' : d' = Pallet.applyLaneState d (some laneState) := rfl
    rw [hd', if_pos rfl]
    refine ⟨hvalid', hdelivered', by rw [hconfirmed', hstate], fun hpos ↦ ?_⟩
    rw [hrelayers', hstate]
    by_cases hroom : d.relayers.length < limits.maxUnrewardedRelayerEntries
    · exact Nat.lt_of_le_of_lt (length_confirmedRuns_le _ _) hroom
    · obtain ⟨entry, rest, hrelayers, -, hend⟩ := hfree hpos (by omega)
      have hdrop : (confirmedRuns c (entry :: rest)).length < (entry :: rest).length :=
        length_confirmedRuns_lt hend
      rw [← hrelayers] at hdrop
      omega

variable [DecidableEq RelayerId]

/-- `receive_message` for each nonce of `nonces` in turn, by one relayer: the results, and the
lane at the end. -/
def receiveMessagesFrom (limits : InboundLaneLimits) (relayer : RelayerId) :
    InboundLaneData RelayerId → List ℕ → List (ReceivalResult Unit) × InboundLaneData RelayerId
  | data, [] => ([], data)
  | data, nonce :: nonces =>
    let received := receiveMessage limits data relayer nonce fun _ ↦ ()
    let rest := receiveMessagesFrom limits relayer received.2 nonces
    (received.1 :: rest.1, rest.2)

/-! ## One message -/

/-- The relayer of the back entry of the queue. -/
abbrev lastRelayer (relayers : List (UnrewardedRelayer RelayerId)) : Option RelayerId :=
  relayers.getLast?.map UnrewardedRelayer.relayer

theorem lastRelayer_noteDelivery (relayers : List (UnrewardedRelayer RelayerId))
    (relayer : RelayerId) (nonce : ℕ) : lastRelayer (noteDelivery relayers relayer nonce) = some relayer := by
  unfold noteDelivery
  split
  · split <;> simp_all
  · simp

/-- A dispatch grows the queue by an entry exactly when the relayer is not the back entry's. -/
theorem length_noteDelivery (relayers : List (UnrewardedRelayer RelayerId)) (relayer : RelayerId)
    (nonce : ℕ) :
    (noteDelivery relayers relayer nonce).length =
      relayers.length + if lastRelayer relayers = some relayer then 0 else 1 := by
  unfold noteDelivery
  cases hlast : relayers.getLast? with
  | none => simp [hlast]
  | some entry =>
    have hpos : 0 < relayers.length := List.length_pos_iff.mpr (List.getLast?_isSome.mp (by simp [hlast]))
    by_cases hrelayer : entry.relayer = relayer
    · simp [hlast, hrelayer]
      omega
    · simp [hlast, hrelayer]

/-- A nonce other than the next one is refused, and nothing is written. -/
theorem receiveMessage_of_ne {δ : Type} {d : InboundLaneData RelayerId} {relayer : RelayerId}
    {nonce : ℕ} (dispatch : ℕ → δ) (hnonce : nonce ≠ d.lastDeliveredNonce + 1) :
    receiveMessage limits d relayer nonce dispatch = (.invalidNonce, d) := by
  unfold receiveMessage
  rw [if_pos]
  intro h
  exact hnonce (Unsigned.checkedAdd_eq_some_iff.mp h.symm).2

/-- The next nonce, with the queue full, is refused with `TooManyUnrewardedRelayers`. -/
theorem receiveMessage_of_full {δ : Type} {d : InboundLaneData RelayerId} {relayer : RelayerId}
    (dispatch : ℕ → δ) (hlt : d.lastDeliveredNonce + 1 < 2 ^ 64)
    (hfull : limits.maxUnrewardedRelayerEntries ≤ d.relayers.length) :
    receiveMessage limits d relayer (d.lastDeliveredNonce + 1) dispatch =
      (.tooManyUnrewardedRelayers, d) := by
  unfold receiveMessage
  rw [if_neg (by rw [Unsigned.checkedAdd_of_lt hlt]; exact not_not.mpr rfl), if_pos hfull]

/-- The next nonce, with room in the queue and within the unconfirmed limit, is dispatched. -/
theorem receiveMessage_of_room {δ : Type} {d : InboundLaneData RelayerId} {relayer : RelayerId}
    (dispatch : ℕ → δ) (hlt : d.lastDeliveredNonce + 1 < 2 ^ 64)
    (hroom : d.relayers.length < limits.maxUnrewardedRelayerEntries)
    (hunconfirmed : d.lastDeliveredNonce + 1 - d.lastConfirmedNonce ≤ limits.maxUnconfirmedMessages) :
    receiveMessage limits d relayer (d.lastDeliveredNonce + 1) dispatch =
      (.dispatched (dispatch (d.lastDeliveredNonce + 1)),
        { d with relayers := noteDelivery d.relayers relayer (d.lastDeliveredNonce + 1) }) := by
  unfold receiveMessage
  rw [if_neg (by rw [Unsigned.checkedAdd_of_lt hlt]; exact not_not.mpr rfl),
    if_neg (Nat.not_le.mpr hroom), if_neg (Nat.not_lt.mpr hunconfirmed)]

/-- **A dispatch of the next nonce** leaves the lane valid, one nonce further, with the relayer at
the back, and with one more entry unless the relayer was at the back already. -/
theorem receiveMessage_dispatched {δ : Type} {d : InboundLaneData RelayerId} (hd : d.Valid limits)
    (relayer : RelayerId) (dispatch : ℕ → δ) (hlt : d.lastDeliveredNonce + 1 < 2 ^ 64)
    (hroom : d.relayers.length < limits.maxUnrewardedRelayerEntries)
    (hunconfirmed : d.lastDeliveredNonce + 1 - d.lastConfirmedNonce ≤ limits.maxUnconfirmedMessages) :
    ∃ d₁ : InboundLaneData RelayerId,
      receiveMessage limits d relayer (d.lastDeliveredNonce + 1) dispatch =
          (.dispatched (dispatch (d.lastDeliveredNonce + 1)), d₁) ∧
        d₁.Valid limits ∧ d₁.lastDeliveredNonce = d.lastDeliveredNonce + 1 ∧
        d₁.lastConfirmedNonce = d.lastConfirmedNonce ∧ lastRelayer d₁.relayers = some relayer ∧
        d₁.relayers.length =
          d.relayers.length + if lastRelayer d.relayers = some relayer then 0 else 1 := by
  have heq : receiveMessage limits d relayer (d.lastDeliveredNonce + 1) dispatch =
      (.dispatched (dispatch (d.lastDeliveredNonce + 1)),
        { d with relayers := noteDelivery d.relayers relayer (d.lastDeliveredNonce + 1) }) :=
    receiveMessage_of_room dispatch hlt hroom hunconfirmed
  obtain ⟨hvalid, hdelivered, -⟩ := receiveMessage_valid hd relayer (d.lastDeliveredNonce + 1) dispatch
  rw [heq] at hvalid hdelivered
  exact ⟨_, heq, hvalid, hdelivered rfl, rfl, lastRelayer_noteDelivery _ _ _,
    length_noteDelivery _ _ _⟩

/-! ## A batch of nonces -/

/-- Nonces that are not the next one are all refused, and nothing is written. -/
theorem receiveMessagesFrom_of_ne {relayer : RelayerId} :
    ∀ {d : InboundLaneData RelayerId} {nonces : List ℕ},
      (∀ nonce ∈ nonces, nonce ≠ d.lastDeliveredNonce + 1) →
      receiveMessagesFrom limits relayer d nonces = (nonces.map fun _ ↦ .invalidNonce, d)
  | _, [], _ => rfl
  | d, nonce :: nonces, hne => by
    have hfirst : receiveMessage limits d relayer nonce (fun _ ↦ ()) = (.invalidNonce, d) :=
      receiveMessage_of_ne _ (hne nonce (List.mem_cons_self ..))
    rw [receiveMessagesFrom, hfirst,
      receiveMessagesFrom_of_ne fun nonce' h ↦ hne nonce' (List.mem_cons_of_mem _ h)]
    rfl

/-- The nonces after the next one are refused once the next one is. -/
theorem receiveMessagesFrom_range_succ (limits : InboundLaneLimits) (relayer : RelayerId)
    (d : InboundLaneData RelayerId) (n : ℕ) :
    receiveMessagesFrom limits relayer d (List.range' (d.lastDeliveredNonce + 1 + 1) n) =
      (List.replicate n .invalidNonce, d) := by
  rw [receiveMessagesFrom_of_ne fun nonce h ↦ by have := List.mem_range'_1.mp h; omega]
  simp

/-- **The relayer at the back of the queue** has every next nonce dispatched, within the
unconfirmed limit: its entry only grows. -/
theorem receiveMessagesFrom_of_lastRelayer {relayer : RelayerId} (n : ℕ) :
    ∀ {d : InboundLaneData RelayerId}, d.Valid limits → lastRelayer d.relayers = some relayer →
      d.relayers.length < limits.maxUnrewardedRelayerEntries →
      d.lastDeliveredNonce + n < 2 ^ 64 →
      d.lastDeliveredNonce + n - d.lastConfirmedNonce ≤ limits.maxUnconfirmedMessages →
      (receiveMessagesFrom limits relayer d (List.range' (d.lastDeliveredNonce + 1) n)).1 =
        List.replicate n (.dispatched ()) := by
  induction n with
  | zero => intro d _ _ _ _ _; rfl
  | succ n ih =>
    intro d hd hlast hroom hlt hunconfirmed
    obtain ⟨d₁, hrecv, hd₁, hdelivered₁, hconfirmed₁, hlast₁, hlen₁⟩ :=
      receiveMessage_dispatched hd relayer (fun _ ↦ ()) (by omega) hroom (by omega)
    rw [if_pos hlast, Nat.add_zero] at hlen₁
    rw [List.range'_succ, receiveMessagesFrom, hrecv, List.replicate_succ]
    have hrest := ih hd₁ hlast₁ (by omega) (by omega) (by omega)
    rw [hdelivered₁] at hrest
    simp only [List.cons.injEq, true_and]
    exact hrest

/-- **A batch of next nonces from one relayer**, within the unconfirmed limit: never refused for
too many unconfirmed messages, and all dispatched exactly when there is room for the first and
then for the relayer's entry — the relayer is at the back already, or a second entry is free, or
the batch is a single message. -/
theorem receiveMessagesFrom_range {d : InboundLaneData RelayerId} (hd : d.Valid limits)
    (relayer : RelayerId) {n : ℕ} (hn : 0 < n) (hlt : d.lastDeliveredNonce + n < 2 ^ 64)
    (hunconfirmed : d.lastDeliveredNonce + n - d.lastConfirmedNonce ≤ limits.maxUnconfirmedMessages) :
    let results := (receiveMessagesFrom limits relayer d (List.range' (d.lastDeliveredNonce + 1) n)).1
    ReceivalResult.tooManyUnconfirmedMessages ∉ results ∧
      (results = List.replicate n (.dispatched ()) ↔
        d.relayers.length < limits.maxUnrewardedRelayerEntries ∧
          (n = 1 ∨ lastRelayer d.relayers = some relayer ∨
            d.relayers.length + 2 ≤ limits.maxUnrewardedRelayerEntries)) := by
  dsimp only
  obtain ⟨k, rfl⟩ : ∃ k, n = k + 1 := ⟨n - 1, by omega⟩
  rw [List.range'_succ, receiveMessagesFrom]
  by_cases hroom : d.relayers.length < limits.maxUnrewardedRelayerEntries
  · obtain ⟨d₁, hrecv, hd₁, hdelivered₁, hconfirmed₁, hlast₁, hlen₁⟩ :=
      receiveMessage_dispatched hd relayer (fun _ ↦ ()) (by omega) hroom (by omega)
    rw [hrecv]
    dsimp only
    rw [show d.lastDeliveredNonce + 1 + 1 = d₁.lastDeliveredNonce + 1 by omega]
    by_cases hroom' : d₁.relayers.length < limits.maxUnrewardedRelayerEntries ∨ k = 0
    · have hall : (receiveMessagesFrom limits relayer d₁
          (List.range' (d₁.lastDeliveredNonce + 1) k)).1 = List.replicate k (.dispatched ()) := by
        rcases hroom' with hroom' | rfl
        · exact receiveMessagesFrom_of_lastRelayer k hd₁ hlast₁ hroom' (by omega) (by omega)
        · rfl
      rw [hall, ← List.replicate_succ]
      refine ⟨by simp [List.mem_replicate], iff_of_true rfl ⟨hroom, ?_⟩⟩
      split_ifs at hlen₁ with hlast
      · exact .inr (.inl hlast)
      · rcases hroom' with hroom' | rfl
        · exact .inr (.inr (by omega))
        · exact .inl rfl
    · obtain ⟨hfull, hk⟩ := not_or.mp hroom'
      obtain ⟨j, rfl⟩ : ∃ j, k = j + 1 := ⟨k - 1, by omega⟩
      rw [List.range'_succ, receiveMessagesFrom,
        receiveMessage_of_full _ (by omega) (Nat.not_lt.mp hfull)]
      dsimp only
      rw [receiveMessagesFrom_range_succ]
      refine ⟨by simp [List.mem_replicate], iff_of_false (by simp [List.replicate_succ]) ?_⟩
      rintro ⟨-, hcases⟩
      split_ifs at hlen₁ with hlast
      · omega
      · rcases hcases with hone | hlast' | htwo
        · omega
        · exact hlast hlast'
        · omega
  · rw [receiveMessage_of_full _ (by omega) (Nat.not_lt.mp hroom)]
    dsimp only
    rw [receiveMessagesFrom_range_succ]
    exact ⟨by simp [List.mem_replicate],
      iff_of_false (by simp [List.replicate_succ]) fun h ↦ hroom h.1⟩

end Messages.InboundLane

namespace Relay

open Messages Intervals NoncesRange

variable {SourceHash RelayerId : Type}

/-- The target's lane limits, as the strategy is configured with them. -/
def MessageDeliveryStrategy.targetLaneLimits (s : MessageDeliveryStrategy SourceHash) :
    InboundLaneLimits :=
  ⟨s.maxUnrewardedRelayerEntriesAtTarget, s.maxUnconfirmedNoncesAtTarget⟩

/-- `DeliveryRaceTarget::nonces`: what the delivery race reads of the target's inbound lane at a
block. -/
def deliveryRaceTargetNonces (data : InboundLaneData RelayerId) :
    TargetClientNonces DeliveryRaceTargetNoncesData :=
  ⟨data.lastDeliveredNonce, ⟨data.lastConfirmedNonce, .ofInboundLaneData data⟩⟩

variable [DecidableEq RelayerId]

/-- **The target and the relay's batch.**  Take a strategy that read the valid inbound lane
`data`, with a queue of consecutive ranges from at most the next nonce on.  When it selects the
non-empty batch `b..=e`, the target — after the proof's outbound lane state, if the batch carries
one, with the nonce the strategy confirmed at the source — finds `b` next and refuses nothing for
too many unconfirmed messages; and one relayer has the whole batch dispatched exactly when the
target has room for an entry and the batch is a single message, or the relayer's entry is already
at the back, or a second entry is free. -/
theorem selectRaceAction_receiveMessagesFrom {s : MessageDeliveryStrategy SourceHash}
    {raceState : RaceState SourceHash} {b e lo : ℕ} {params : MessageProofParameters}
    {data : InboundLaneData RelayerId} (relayer : RelayerId) (laneState : OutboundLaneData)
    (hvalid : data.Valid s.targetLaneLimits)
    (htarget : s.targetNonces = some (deliveryRaceTargetNonces data))
    (hbest : s.strategy.bestTargetNonce = some data.lastDeliveredNonce)
    (hqueue : Consecutive (fun entry ↦ begin entry.2) (fun entry ↦ endNonce entry.2) lo
      s.strategy.sourceQueue)
    (hlo : lo ≤ data.lastDeliveredNonce + 1)
    (hlaneState : ∀ header, raceState.bestFinalizedSourceHeaderIdAtBestTarget = some header →
      laneState.latestReceivedNonce =
        (s.latestConfirmedNonceAtSource header).getD data.lastConfirmedNonce)
    (hsel : s.selectRaceAction raceState = some ((b, e), params)) (hbe : b ≤ e)
    (he : e < 2 ^ 64) :
    let data' := Pallet.applyLaneState data
      (if params.outboundStateProofRequired then some laneState else none)
    let results := (InboundLane.receiveMessagesFrom s.targetLaneLimits relayer data'
      (List.range' b (e + 1 - b))).1
    b = data.lastDeliveredNonce + 1 ∧ ReceivalResult.tooManyUnconfirmedMessages ∉ results ∧
      (results = List.replicate (e + 1 - b) (.dispatched ()) ↔
        0 < s.maxUnrewardedRelayerEntriesAtTarget ∧
          (b = e ∨ InboundLane.lastRelayer data'.relayers = some relayer ∨
            data'.relayers.length + 2 ≤ s.maxUnrewardedRelayerEntriesAtTarget)) := by
  dsimp only
  generalize happlied : Pallet.applyLaneState data
    (if params.outboundStateProofRequired then some laneState else none) = data'
  obtain ⟨bestTargetNonce, header, targetNonces, indices, confirmedAtSource, hbest', hheader,
    htarget', hindices, hsource, hrequired, hfull, hfuture, hcount, -, hb⟩ :=
    MessageDeliveryStrategy.selectRaceAction_eq_some hsel hbe
  rw [hbest, Option.some.injEq] at hbest'
  rw [htarget, Option.some.injEq] at htarget'
  subst hbest' htarget'
  simp only [deliveryRaceTargetNonces] at hsource hfull hfuture hcount
  have hstart : b = data.lastDeliveredNonce + 1 := by
    obtain ⟨bestTargetNonce, hbest'', -, hbefore⟩ :=
      BasicStrategy.availableSourceQueueIndices_eq_some hindices
    rw [hbest, Option.some.injEq] at hbest''
    subst hbest''
    rw [hb]
    exact max_eq_left (hqueue.lo_le_of_hi_le hlo indices.1 hbefore)
  have hlane := InboundLane.applyLaneState_carried hvalid hrequired
    ((hlaneState header hheader).trans hsource.symm)
    (fun hreq ↦ by rw [hreq, if_pos rfl] at hfuture; exact hfuture) fun hlen ↦ hfull (.inl hlen)
  dsimp only at hlane
  rw [happlied] at hlane
  obtain ⟨hvalid', hdelivered', hconfirmed', hroom⟩ := hlane
  have hn : 0 < e + 1 - b := by omega
  have hlt : data'.lastDeliveredNonce + (e + 1 - b) < 2 ^ 64 := by omega
  have hunconfirmed : data'.lastDeliveredNonce + (e + 1 - b) - data'.lastConfirmedNonce ≤
      s.targetLaneLimits.maxUnconfirmedMessages := by
    rw [hdelivered', hconfirmed']
    simp only [MessageDeliveryStrategy.targetLaneLimits]
    split_ifs at hcount hfuture ⊢ <;> omega
  have hrange := InboundLane.receiveMessagesFrom_range hvalid' relayer hn hlt hunconfirmed
  rw [hdelivered', ← hstart] at hrange
  refine ⟨hstart, hrange.1, hrange.2.trans ?_⟩
  constructor
  · rintro ⟨hlen, hcases⟩
    refine ⟨Nat.lt_of_le_of_lt (Nat.zero_le _) hlen, ?_⟩
    rcases hcases with hone | hcases
    · exact .inl (by omega)
    · exact .inr hcases
  · rintro ⟨hpos, hcases⟩
    refine ⟨hroom hpos, ?_⟩
    rcases hcases with hone | hcases
    · exact .inl (by omega)
    · exact .inr hcases

/-- The messages `2` and `3` of the source, each of weight `(1, 1)` and size `1`. -/
def testMessages : MessageDetailsMap :=
  ⟨[(2, ⟨⟨1, 1⟩, 1⟩), (3, ⟨⟨1, 1⟩, 1⟩)], by decide⟩

/-- A lane of the target where relayer `1` delivered message `1`, not yet confirmed. -/
def testLane : InboundLaneData ℕ := ⟨.opened, [⟨1, ⟨1, 1⟩⟩], 0⟩

/-- A strategy with two entries of room at the target, that read `testLane` and has the messages
`2` and `3` queued at source header `1`. -/
def testStrategy : MessageDeliveryStrategy ℕ where
  maxUnrewardedRelayerEntriesAtTarget := 2
  maxUnconfirmedNoncesAtTarget := 8
  maxMessagesInSingleBatch := 8
  maxMessagesWeightInSingleBatch := ⟨100, 100⟩
  maxMessagesSizeInSingleBatch := 100
  latestConfirmedNoncesAtSource := []
  targetNonces := some (deliveryRaceTargetNonces testLane)
  strategy := ⟨[(⟨0, 1⟩, testMessages)], some 1⟩

/-- The target has finalized source header `1`, and nothing is in flight. -/
def testRaceState : RaceState ℕ := ⟨some ⟨0, 1⟩, none, none⟩

/-- The strategy selects `2..=3` without the outbound lane state, and relayer `2` — not the one
at the back of the lane's queue — does not have both dispatched: the lane has one free entry. -/
theorem selectRaceAction_receiveMessagesFrom_secondRelayer :
    testStrategy.selectRaceAction testRaceState = some ((2, 3), ⟨false, ⟨2, 2⟩⟩) ∧
      (InboundLane.receiveMessagesFrom testStrategy.targetLaneLimits 2 testLane
        (List.range' 2 2)).1 ≠ List.replicate 2 (.dispatched ()) := by
  have hsel : testStrategy.selectRaceAction testRaceState = some ((2, 3), ⟨false, ⟨2, 2⟩⟩) := by
    decide
  have hvalid : testLane.Valid testStrategy.targetLaneLimits :=
    ⟨⟨rfl, le_rfl, trivial⟩, by decide, by decide, by decide⟩
  have hqueue : Consecutive (fun entry ↦ begin entry.2) (fun entry ↦ endNonce entry.2) 2
      testStrategy.strategy.sourceQueue := ⟨rfl, by decide, trivial⟩
  have hagree := selectRaceAction_receiveMessagesFrom 2 OutboundLaneData.opened hvalid rfl rfl
    hqueue (by decide) (fun _ _ ↦ rfl) hsel (by decide) (by decide)
  refine ⟨hsel, fun hall ↦ ?_⟩
  obtain ⟨-, hcases⟩ := hagree.2.2.mp hall
  revert hcases
  decide

/-- Relayer `2` has message `2` dispatched, and message `3` refused for the entry count. -/
example : (InboundLane.receiveMessagesFrom testStrategy.targetLaneLimits 2 testLane
    (List.range' 2 2)).1 = [.dispatched (), .tooManyUnrewardedRelayers] := by
  decide

end Relay
