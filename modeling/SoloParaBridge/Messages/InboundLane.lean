import SoloParaBridge.Messages.Primitives
import SoloParaBridge.Lib.Storage

/-!
# The inbound end of a lane

`InboundLane` receives, on the target chain, the messages of one lane in nonce order, and the
state of the lane's outbound end that comes with them:

* `receive_message` dispatches the message with the next nonce — and nothing else: the nonce must
  be `last_delivered_nonce().checked_add(1)` — unless the queue of unrewarded relayers is full or
  too many messages are unconfirmed; the relayer is then noted at the back of the queue, by
  growing the back entry when it is the same relayer and by a new entry otherwise;
* `receive_state_update` learns that the source has confirmed the messages up to some nonce, and
  drops those messages from the front of the queue: whole entries while they end at or below the
  nonce, then the front of the first entry that reaches past it.

The queue is an instance of `Intervals`: its entries are runs of nonces that follow each other
from `last_confirmed_nonce + 1` to `last_delivered_nonce()` — the *valid* lane data of
`InboundLaneData.Valid`, which both operations keep.
-/

set_option autoImplicit false

namespace Messages

open Intervals

variable {RelayerId : Type}

/-- The bounds of an inbound lane: `InboundLaneStorage::max_unrewarded_relayer_entries` and
`max_unconfirmed_messages`, which `RuntimeInboundLaneStorage` takes from the bridged chain's
`MAX_UNREWARDED_RELAYERS_IN_CONFIRMATION_TX` and `MAX_UNCONFIRMED_MESSAGES_IN_CONFIRMATION_TX`. -/
structure InboundLaneLimits where
  maxUnrewardedRelayerEntries : ℕ
  maxUnconfirmedMessages : ℕ

namespace InboundLane

/-- The front of the queue after the confirmation of `newConfirmedNonce`: the first entry starts
after it. -/
def trimFront (newConfirmedNonce : ℕ) :
    List (UnrewardedRelayer RelayerId) → List (UnrewardedRelayer RelayerId)
  | entry :: rest =>
    if entry.messages.begin ≤ newConfirmedNonce then
      { entry with
        messages := { entry.messages with begin := Unsigned.wrappingAdd 64 newConfirmedNonce 1 } } ::
        rest
    else entry :: rest
  | [] => []

/-- `receive_state_update`: the new confirmed nonce and the new lane data, or `None` (and nothing
written) for a nonce beyond the delivered ones or not beyond the confirmed ones. -/
def receiveStateUpdate (data : InboundLaneData RelayerId) (outboundLaneData : OutboundLaneData) :
    Option (ℕ × InboundLaneData RelayerId) :=
  if data.lastDeliveredNonce < outboundLaneData.latestReceivedNonce then none
  else if outboundLaneData.latestReceivedNonce ≤ data.lastConfirmedNonce then none
  else
    let newConfirmedNonce := outboundLaneData.latestReceivedNonce
    let relayers := data.relayers.dropWhile fun entry ↦
      decide (entry.messages.endNonce ≤ newConfirmedNonce)
    some (newConfirmedNonce,
      { data with lastConfirmedNonce := newConfirmedNonce, relayers := trimFront newConfirmedNonce relayers })

variable [DecidableEq RelayerId]

/-- The update of the queue after a dispatch: the back entry grows when it is the same relayer's,
and a new entry is pushed otherwise. -/
def noteDelivery (relayers : List (UnrewardedRelayer RelayerId)) (relayer : RelayerId)
    (nonce : ℕ) : List (UnrewardedRelayer RelayerId) :=
  match relayers.getLast? with
  | some entry =>
    if entry.relayer = relayer then
      relayers.dropLast ++ [{ entry with messages := entry.messages.noteDispatchedMessage }]
    else relayers ++ [⟨relayer, .new nonce⟩]
  | none => relayers ++ [⟨relayer, .new nonce⟩]

/-- `receive_message`: the result, and the lane data afterwards (unchanged unless the message
was dispatched).  The dispatcher is `dispatch`, applied to the nonce. -/
def receiveMessage {δ : Type} (limits : InboundLaneLimits) (data : InboundLaneData RelayerId)
    (relayer : RelayerId) (nonce : ℕ) (dispatch : ℕ → δ) :
    ReceivalResult δ × InboundLaneData RelayerId :=
  if some nonce ≠ Unsigned.checkedAdd 64 data.lastDeliveredNonce 1 then (.invalidNonce, data)
  else if limits.maxUnrewardedRelayerEntries ≤ data.relayers.length then
    (.tooManyUnrewardedRelayers, data)
  else if limits.maxUnconfirmedMessages < nonce - data.lastConfirmedNonce then
    (.tooManyUnconfirmedMessages, data)
  else (.dispatched (dispatch nonce), { data with relayers := noteDelivery data.relayers relayer nonce })

end InboundLane

/-! ## Valid lane data -/

/-- What the lane code keeps true of its data: the entries are runs of nonces, one after the
other from `last_confirmed_nonce + 1`, there are no more of them than the limit, no more
unconfirmed messages than the limit, and every nonce fits in a `u64`. -/
structure InboundLaneData.Valid (limits : InboundLaneLimits) (d : InboundLaneData RelayerId) :
    Prop where
  consecutive :
    Consecutive UnrewardedRelayer.begin UnrewardedRelayer.endNonce (d.lastConfirmedNonce + 1)
      d.relayers
  length_le : d.relayers.length ≤ limits.maxUnrewardedRelayerEntries
  unconfirmed_le : d.lastDeliveredNonce - d.lastConfirmedNonce ≤ limits.maxUnconfirmedMessages
  lastDeliveredNonce_lt : d.lastDeliveredNonce < 2 ^ 64

namespace InboundLaneData

variable {limits : InboundLaneLimits}

theorem valid_opened : (opened : InboundLaneData RelayerId).Valid limits :=
  ⟨trivial, Nat.zero_le _, by simp [opened, lastDeliveredNonce], by simp [opened, lastDeliveredNonce]⟩

theorem Valid.lastConfirmedNonce_le {d : InboundLaneData RelayerId} (h : d.Valid limits) :
    d.lastConfirmedNonce ≤ d.lastDeliveredNonce := by
  have hnext := le_nextAfter h.consecutive
  rw [← lastDeliveredNonce_add_one] at hnext
  exact Nat.le_of_succ_le_succ hnext

/-- Every nonce of the queue is at most the last delivered one. -/
theorem Valid.endNonce_le {d : InboundLaneData RelayerId} (h : d.Valid limits) :
    ∀ e ∈ d.relayers, e.messages.endNonce ≤ d.lastDeliveredNonce := by
  intro e he
  have := h.consecutive.hi_lt_nextAfter e he
  rw [← lastDeliveredNonce_add_one] at this
  exact Nat.le_of_lt_succ this

end InboundLaneData

/-! ## What the two operations do -/

namespace InboundLane

variable {limits : InboundLaneLimits}

/-- The runs a confirmation of `c` leaves: those reaching past `c`, the first one cut at `c`. -/
abbrev confirmedRuns (c : ℕ) (relayers : List (UnrewardedRelayer RelayerId)) :
    List (UnrewardedRelayer RelayerId) :=
  trimFront c (relayers.dropWhile fun entry ↦ decide (entry.messages.endNonce ≤ c))

/-- `receive_state_update` on success: the confirmed nonce moved forward, not past the delivered
ones, and the queue lost the runs it confirmed. -/
theorem receiveStateUpdate_eq_some {d d' : InboundLaneData RelayerId} {o : OutboundLaneData}
    {c : ℕ} (h : receiveStateUpdate d o = some (c, d')) :
    c = o.latestReceivedNonce ∧ d.lastConfirmedNonce < c ∧ c ≤ d.lastDeliveredNonce ∧
      d'.lastConfirmedNonce = c ∧ d'.relayers = confirmedRuns c d.relayers ∧ d'.state = d.state := by
  unfold receiveStateUpdate at h
  split_ifs at h with hdelivered hconfirmed
  injection h with h
  obtain ⟨rfl, rfl⟩ := Prod.mk.inj h
  exact ⟨rfl, by omega, by omega, rfl, rfl, rfl⟩

/-- The runs left after a confirmation of `c` start at `c + 1` and end where they ended. -/
theorem consecutive_confirmedRuns {n c : ℕ} {l : List (UnrewardedRelayer RelayerId)}
    (h : Consecutive UnrewardedRelayer.begin UnrewardedRelayer.endNonce n l) (hn : n ≤ c + 1)
    (hc : c + 1 ≤ nextAfter UnrewardedRelayer.endNonce n l)
    (hbound : nextAfter UnrewardedRelayer.endNonce n l ≤ 2 ^ 64) :
    Consecutive UnrewardedRelayer.begin UnrewardedRelayer.endNonce (c + 1) (confirmedRuns c l) ∧
      nextAfter UnrewardedRelayer.endNonce (c + 1) (confirmedRuns c l) =
        nextAfter UnrewardedRelayer.endNonce n l := by
  obtain ⟨hnil, hcons⟩ := consecutive_dropWhile h hn
  rw [confirmedRuns]
  cases hdrop : l.dropWhile (fun entry ↦ decide (entry.messages.endNonce ≤ c)) with
  | nil =>
    have := hnil hdrop
    exact ⟨trivial, by rw [trimFront, nextAfter_nil]; omega⟩
  | cons a rest =>
    obtain ⟨hlo, hhi, hrest, hnext⟩ := hcons a rest hdrop
    have hlt : a.messages.endNonce < nextAfter UnrewardedRelayer.endNonce n l := by
      rw [← hnext]
      exact Nat.lt_of_lt_of_le (Nat.lt_succ_self _) (le_nextAfter hrest)
    simp only [UnrewardedRelayer.begin, UnrewardedRelayer.endNonce] at hlo hhi
    rw [trimFront]
    split
    · -- the first run is cut at `c`; the cut is below `2 ^ 64`, so `c + 1` does not wrap
      have hwrap : Unsigned.wrappingAdd 64 c 1 = c + 1 := Unsigned.wrappingAdd_of_lt (by omega)
      refine ⟨⟨?_, ?_, hrest⟩, hnext⟩
      · exact hwrap
      · show Unsigned.wrappingAdd 64 c 1 ≤ a.messages.endNonce
        omega
    · rename_i hbegin
      exact ⟨⟨by show a.messages.begin = c + 1; omega,
        by show a.messages.begin ≤ a.messages.endNonce; omega, hrest⟩,
        hnext⟩

theorem length_trimFront (c : ℕ) (l : List (UnrewardedRelayer RelayerId)) :
    (trimFront c l).length = l.length := by
  cases l with
  | nil => rfl
  | cons a rest => rw [trimFront]; split <;> rfl

/-- **`receive_state_update` keeps the lane data valid**, and the last delivered nonce where it
was. -/
theorem receiveStateUpdate_valid {d d' : InboundLaneData RelayerId} {o : OutboundLaneData}
    {c : ℕ} (hd : d.Valid limits) (h : receiveStateUpdate d o = some (c, d')) :
    d'.Valid limits ∧ d'.lastDeliveredNonce = d.lastDeliveredNonce := by
  obtain ⟨-, hconfirmed, hdelivered, hc, hrelayers, -⟩ := receiveStateUpdate_eq_some h
  have hnext := d.lastDeliveredNonce_add_one
  have hnext' := d'.lastDeliveredNonce_add_one
  rw [hc, hrelayers] at hnext'
  obtain ⟨hcons, hsame⟩ := consecutive_confirmedRuns hd.consecutive (c := c) (by omega) (by omega)
    (by have := hd.lastDeliveredNonce_lt; omega)
  have hdelivered' : d'.lastDeliveredNonce = d.lastDeliveredNonce := by omega
  refine ⟨⟨by rw [hc, hrelayers]; exact hcons, ?_, ?_, ?_⟩, hdelivered'⟩
  · calc d'.relayers.length
        = (d.relayers.dropWhile fun entry ↦ decide (entry.messages.endNonce ≤ c)).length := by
          rw [hrelayers, confirmedRuns, length_trimFront]
      _ ≤ d.relayers.length := (List.dropWhile_sublist _).length_le
      _ ≤ limits.maxUnrewardedRelayerEntries := hd.length_le
  · have := hd.unconfirmed_le
    omega
  · rw [hdelivered']
    exact hd.lastDeliveredNonce_lt

/-- A new run pushed at the back, starting right after the last one. -/
theorem consecutive_push {n nonce : ℕ} {l : List (UnrewardedRelayer RelayerId)}
    (h : Consecutive UnrewardedRelayer.begin UnrewardedRelayer.endNonce n l)
    (hnonce : nonce = nextAfter UnrewardedRelayer.endNonce n l) (relayer : RelayerId) :
    Consecutive UnrewardedRelayer.begin UnrewardedRelayer.endNonce n
        (l ++ [⟨relayer, .new nonce⟩]) ∧
      nextAfter UnrewardedRelayer.endNonce n (l ++ [⟨relayer, .new nonce⟩]) = nonce + 1 := by
  refine ⟨(consecutive_append n l _).mpr ⟨h, ?_⟩, by rw [nextAfter_append]; rfl⟩
  exact (consecutive_singleton _ _).mpr ⟨hnonce, Nat.le_refl nonce⟩

variable [DecidableEq RelayerId]

/-- **The queue after a dispatch** stays consecutive, ends one nonce later, and has at most one
entry more. -/
theorem consecutive_noteDelivery {n nonce : ℕ} {l : List (UnrewardedRelayer RelayerId)}
    (h : Consecutive UnrewardedRelayer.begin UnrewardedRelayer.endNonce n l)
    (hnonce : nonce = nextAfter UnrewardedRelayer.endNonce n l) (hlt : nonce < 2 ^ 64)
    (relayer : RelayerId) :
    Consecutive UnrewardedRelayer.begin UnrewardedRelayer.endNonce n (noteDelivery l relayer nonce) ∧
      nextAfter UnrewardedRelayer.endNonce n (noteDelivery l relayer nonce) = nonce + 1 ∧
      (noteDelivery l relayer nonce).length ≤ l.length + 1 := by
  unfold noteDelivery
  cases hlast : l.getLast? with
  | none =>
    obtain ⟨hcons, hnext⟩ := consecutive_push h hnonce relayer
    exact ⟨hcons, hnext, by simp⟩
  | some entry =>
    dsimp only
    split
    · -- the same relayer: its run grows by one, and `end + 1` is the nonce, below `2 ^ 64`
      obtain ⟨ys, rfl⟩ := List.getLast?_eq_some_iff.mp hlast
      obtain ⟨hys, hentry⟩ := (consecutive_append n ys [entry]).mp h
      obtain ⟨hbegin, hle⟩ := (consecutive_singleton _ _).mp hentry
      have hend : nonce = entry.messages.endNonce + 1 := by
        rw [hnonce, nextAfter_append]
        rfl
      have hwrap : Unsigned.wrappingAdd 64 entry.messages.endNonce 1 = nonce := by
        rw [Unsigned.wrappingAdd_of_lt (by omega), hend]
      rw [List.dropLast_concat]
      refine ⟨(consecutive_append n ys _).mpr ⟨hys, (consecutive_singleton _ _).mpr ⟨hbegin, ?_⟩⟩,
        ?_, by simp⟩
      · show entry.messages.begin ≤ Unsigned.wrappingAdd 64 entry.messages.endNonce 1
        simp only [UnrewardedRelayer.begin, UnrewardedRelayer.endNonce] at hle
        rw [hwrap]
        omega
      · rw [nextAfter_append]
        show Unsigned.wrappingAdd 64 entry.messages.endNonce 1 + 1 = nonce + 1
        rw [hwrap]
    · obtain ⟨hcons, hnext⟩ := consecutive_push h hnonce relayer
      exact ⟨hcons, hnext, by simp⟩

/-- `receive_message` either rejects the message and writes nothing, or dispatches the next
nonce — below `2 ^ 64`, with room in the queue and within the unconfirmed limit — and notes the
relayer. -/
theorem receiveMessage_cases {δ : Type} (limits : InboundLaneLimits)
    (d : InboundLaneData RelayerId) (relayer : RelayerId) (nonce : ℕ) (dispatch : ℕ → δ) :
    ((receiveMessage limits d relayer nonce dispatch).1.isDispatched = false ∧
        (receiveMessage limits d relayer nonce dispatch).2 = d) ∨
      (nonce = d.lastDeliveredNonce + 1 ∧ nonce < 2 ^ 64 ∧
        d.relayers.length < limits.maxUnrewardedRelayerEntries ∧
        nonce - d.lastConfirmedNonce ≤ limits.maxUnconfirmedMessages ∧
        receiveMessage limits d relayer nonce dispatch =
          (.dispatched (dispatch nonce), { d with relayers := noteDelivery d.relayers relayer nonce })) := by
  unfold receiveMessage
  split_ifs with hnonce hfull hunconfirmed
  · exact .inl ⟨rfl, rfl⟩
  · exact .inl ⟨rfl, rfl⟩
  · exact .inl ⟨rfl, rfl⟩
  · have hchecked := (Unsigned.checkedAdd_eq_some_iff.mp (not_not.mp hnonce).symm)
    exact .inr ⟨hchecked.2, by omega, by omega, by omega, rfl⟩

/-- **`receive_message` keeps the lane data valid**; a dispatch moves the last delivered nonce
up by one, and a rejection leaves the data as it was. -/
theorem receiveMessage_valid {δ : Type} {d : InboundLaneData RelayerId} (hd : d.Valid limits)
    (relayer : RelayerId) (nonce : ℕ) (dispatch : ℕ → δ) :
    (receiveMessage limits d relayer nonce dispatch).2.Valid limits ∧
      ((receiveMessage limits d relayer nonce dispatch).1.isDispatched = true →
        (receiveMessage limits d relayer nonce dispatch).2.lastDeliveredNonce =
          d.lastDeliveredNonce + 1) ∧
      ((receiveMessage limits d relayer nonce dispatch).1.isDispatched = false →
        (receiveMessage limits d relayer nonce dispatch).2 = d) := by
  rcases receiveMessage_cases limits d relayer nonce dispatch with
    ⟨hrejected, hsame⟩ | ⟨hnonce, hlt, hroom, hunconfirmed, heq⟩
  · rw [hsame, hrejected]
    exact ⟨hd, by simp, fun _ ↦ rfl⟩
  · rw [heq]
    have hnext := d.lastDeliveredNonce_add_one
    obtain ⟨hcons, hnext', hlen⟩ :=
      consecutive_noteDelivery hd.consecutive (by omega) hlt relayer
    have hdelivered : ({ d with relayers := noteDelivery d.relayers relayer nonce } :
        InboundLaneData RelayerId).lastDeliveredNonce = nonce := by
      have := InboundLaneData.lastDeliveredNonce_add_one
        ({ d with relayers := noteDelivery d.relayers relayer nonce } : InboundLaneData RelayerId)
      simp only at this
      omega
    refine ⟨⟨hcons, by simp only; omega, ?_, ?_⟩, fun _ ↦ by rw [hdelivered, hnonce],
      by simp [ReceivalResult.isDispatched]⟩
    · rw [hdelivered]
      exact hunconfirmed
    · rw [hdelivered]
      exact hlt

end InboundLane

/-! ## Runs of an inbound lane -/

namespace InboundLane

variable [DecidableEq RelayerId]

/-- One operation on an inbound lane: a message with any nonce from any relayer, or the state of
the outbound end with any confirmed nonce.  What the dispatcher returns plays no part in the
lane data. -/
inductive Step (limits : InboundLaneLimits) :
    InboundLaneData RelayerId → InboundLaneData RelayerId → Prop
  | receiveMessage (d : InboundLaneData RelayerId) (relayer : RelayerId) (nonce : ℕ) :
      Step limits d (InboundLane.receiveMessage limits d relayer nonce fun _ ↦ ()).2
  | receiveStateUpdate (d : InboundLaneData RelayerId) (outboundLaneData : OutboundLaneData) :
      Step limits d (((InboundLane.receiveStateUpdate d outboundLaneData).map Prod.snd).getD d)

variable {limits : InboundLaneLimits}

/-- A step keeps the lane data valid and never moves the last delivered nonce down. -/
theorem Step.valid {d d' : InboundLaneData RelayerId} (hd : d.Valid limits)
    (h : Step limits d d') : d'.Valid limits ∧ d.lastDeliveredNonce ≤ d'.lastDeliveredNonce := by
  cases h with
  | receiveMessage relayer nonce =>
    obtain ⟨hvalid, hdispatched, hrejected⟩ := receiveMessage_valid hd relayer nonce fun _ ↦ ()
    refine ⟨hvalid, ?_⟩
    cases hresult : (InboundLane.receiveMessage limits d relayer nonce fun _ ↦ ()).1.isDispatched
    · rw [hrejected hresult]
    · rw [hdispatched hresult]
      omega
  | receiveStateUpdate outboundLaneData =>
    cases hupdate : InboundLane.receiveStateUpdate d outboundLaneData with
    | none => exact ⟨hd, Nat.le_refl _⟩
    | some r =>
      obtain ⟨hvalid, hsame⟩ := receiveStateUpdate_valid hd hupdate
      exact ⟨hvalid, hsame.ge⟩

/-- The lane data a message leaves does not depend on what the dispatcher returns. -/
theorem receiveMessage_snd {δ : Type} (limits : InboundLaneLimits)
    (d : InboundLaneData RelayerId) (relayer : RelayerId) (nonce : ℕ) (dispatch : ℕ → δ) :
    (InboundLane.receiveMessage limits d relayer nonce dispatch).2 =
      (InboundLane.receiveMessage limits d relayer nonce fun _ ↦ ()).2 := by
  unfold InboundLane.receiveMessage
  split_ifs <;> rfl

/-- No operation of the lane changes its state. -/
theorem Step.state_eq {d d' : InboundLaneData RelayerId} (h : Step limits d d') :
    d'.state = d.state := by
  cases h with
  | receiveMessage relayer nonce =>
    rcases receiveMessage_cases limits d relayer nonce (fun _ ↦ ()) with
      ⟨-, hsame⟩ | ⟨-, -, -, -, hdispatched⟩
    · rw [hsame]
    · rw [hdispatched]
  | receiveStateUpdate outboundLaneData =>
    cases hupdate : InboundLane.receiveStateUpdate d outboundLaneData with
    | none => rfl
    | some r =>
      obtain ⟨c, d'⟩ := r
      obtain ⟨-, -, -, -, -, hstate⟩ := receiveStateUpdate_eq_some hupdate
      exact hstate

theorem state_eq_of_reflTransGen {d d' : InboundLaneData RelayerId}
    (h : Relation.ReflTransGen (Step limits) d d') : d'.state = d.state := by
  induction h with
  | refl => rfl
  | tail _ hstep ih => rw [hstep.state_eq, ih]

theorem valid_of_reflTransGen {d : InboundLaneData RelayerId}
    (h : Relation.ReflTransGen (Step limits) InboundLaneData.opened d) : d.Valid limits :=
  invariant_of_reflTransGen h InboundLaneData.valid_opened fun _ _ hx hxy ↦ (hxy.valid hx).1

/-- **The inbound lane, over every run.**  From `InboundLaneData::opened()`, whatever messages and
outbound states arrive: every relayer entry is a non-empty run of nonces, each run starts right
after the one before it and the first right after the last confirmed nonce, which is at most the
last delivered one; the queue holds at most `MAX_UNREWARDED_RELAYERS_IN_CONFIRMATION_TX` entries
and at most `MAX_UNCONFIRMED_MESSAGES_IN_CONFIRMATION_TX` unconfirmed messages.  From there, a
message is dispatched only with the next nonce, and then the last delivered nonce grows by exactly
one, while a rejected message and an outbound state leave it where it is.  No `+ 1` overflows:
every nonce stays below `2 ^ 64`, the dispatched nonce included, and so does the nonce after a
confirmation whenever a run is left to start there. -/
theorem inboundLane_reachable {d : InboundLaneData RelayerId}
    (h : Relation.ReflTransGen (Step limits) InboundLaneData.opened d) :
    (∀ e ∈ d.relayers, e.messages.begin ≤ e.messages.endNonce) ∧
      d.relayers.IsChain (fun e₁ e₂ ↦ e₂.messages.begin = e₁.messages.endNonce + 1) ∧
      (∀ e ∈ d.relayers.head?, e.messages.begin = d.lastConfirmedNonce + 1) ∧
      d.lastConfirmedNonce ≤ d.lastDeliveredNonce ∧
      d.relayers.length ≤ limits.maxUnrewardedRelayerEntries ∧
      d.lastDeliveredNonce - d.lastConfirmedNonce ≤ limits.maxUnconfirmedMessages ∧
      (∀ (relayer : RelayerId) (nonce : ℕ) (δ : Type) (dispatch : ℕ → δ),
        ((InboundLane.receiveMessage limits d relayer nonce dispatch).1.isDispatched = true →
          nonce = d.lastDeliveredNonce + 1 ∧ nonce < 2 ^ 64 ∧
          (InboundLane.receiveMessage limits d relayer nonce dispatch).2.lastDeliveredNonce =
            d.lastDeliveredNonce + 1) ∧
        ((InboundLane.receiveMessage limits d relayer nonce dispatch).1.isDispatched = false →
          (InboundLane.receiveMessage limits d relayer nonce dispatch).2 = d)) ∧
      (∀ (outboundLaneData : OutboundLaneData) (c : ℕ) (d' : InboundLaneData RelayerId),
        InboundLane.receiveStateUpdate d outboundLaneData = some (c, d') →
          d'.lastDeliveredNonce = d.lastDeliveredNonce ∧ (d'.relayers ≠ [] → c + 1 < 2 ^ 64)) ∧
      d.lastDeliveredNonce < 2 ^ 64 ∧ ∀ e ∈ d.relayers, e.messages.endNonce < 2 ^ 64 := by
  have hd := valid_of_reflTransGen h
  have hend := hd.endNonce_le
  refine ⟨hd.consecutive.lo_le_hi, hd.consecutive.isChain, hd.consecutive.lo_head,
    hd.lastConfirmedNonce_le, hd.length_le, hd.unconfirmed_le, ?_, ?_, hd.lastDeliveredNonce_lt,
    fun e he ↦ Nat.lt_of_le_of_lt (hend e he) hd.lastDeliveredNonce_lt⟩
  · intro relayer nonce δ dispatch
    obtain ⟨-, hdispatched, hrejected⟩ := receiveMessage_valid hd relayer nonce dispatch
    refine ⟨fun hres ↦ ?_, hrejected⟩
    rcases receiveMessage_cases limits d relayer nonce dispatch with
      ⟨hno, -⟩ | ⟨hnonce, hlt, -⟩
    · rw [hno] at hres
      exact absurd hres (by simp)
    · exact ⟨hnonce, hlt, hdispatched hres⟩
  · intro outboundLaneData c d' hupdate
    obtain ⟨hvalid, hsame⟩ := receiveStateUpdate_valid hd hupdate
    refine ⟨hsame, fun hne ↦ ?_⟩
    obtain ⟨-, -, -, hc, -, -⟩ := receiveStateUpdate_eq_some hupdate
    obtain ⟨e, he⟩ := List.exists_mem_of_ne_nil d'.relayers hne
    have hfirst : ∀ f ∈ d'.relayers.head?, f.messages.begin = c + 1 := by
      rw [← hc]
      exact hvalid.consecutive.lo_head
    cases hrel : d'.relayers with
    | nil => exact absurd hrel hne
    | cons f rest =>
      have hf := hfirst f (by rw [hrel]; rfl)
      have hle := hvalid.consecutive.lo_le_hi f (by rw [hrel]; exact List.mem_cons_self)
      have hlast := hvalid.endNonce_le f (by rw [hrel]; exact List.mem_cons_self)
      have := hvalid.lastDeliveredNonce_lt
      simp only [UnrewardedRelayer.begin, UnrewardedRelayer.endNonce] at hle
      omega

/-- Limits of two relayer entries and four unconfirmed messages. -/
def smallLimits : InboundLaneLimits := ⟨2, 4⟩

/-- An opened lane after relayer `7` delivered message `1`. -/
def deliveredOnce : InboundLaneData ℕ :=
  (receiveMessage smallLimits InboundLaneData.opened 7 1 fun _ ↦ ()).2

example : deliveredOnce.relayers = [⟨7, ⟨1, 1⟩⟩] ∧ deliveredOnce.lastDeliveredNonce = 1 := by
  decide

theorem inboundLane_reachable_deliveredOnce :
    Relation.ReflTransGen (Step smallLimits) InboundLaneData.opened deliveredOnce ∧
      ((∀ e ∈ deliveredOnce.relayers, e.messages.begin ≤ e.messages.endNonce) ∧
        deliveredOnce.relayers.IsChain (fun e₁ e₂ ↦ e₂.messages.begin = e₁.messages.endNonce + 1) ∧
        (∀ e ∈ deliveredOnce.relayers.head?,
          e.messages.begin = deliveredOnce.lastConfirmedNonce + 1) ∧
        deliveredOnce.lastConfirmedNonce ≤ deliveredOnce.lastDeliveredNonce ∧
        deliveredOnce.relayers.length ≤ smallLimits.maxUnrewardedRelayerEntries ∧
        deliveredOnce.lastDeliveredNonce - deliveredOnce.lastConfirmedNonce ≤
          smallLimits.maxUnconfirmedMessages ∧
        (∀ (relayer : ℕ) (nonce : ℕ) (δ : Type) (dispatch : ℕ → δ),
          ((receiveMessage smallLimits deliveredOnce relayer nonce dispatch).1.isDispatched = true →
            nonce = deliveredOnce.lastDeliveredNonce + 1 ∧ nonce < 2 ^ 64 ∧
            (receiveMessage smallLimits deliveredOnce relayer nonce dispatch).2.lastDeliveredNonce =
              deliveredOnce.lastDeliveredNonce + 1) ∧
          ((receiveMessage smallLimits deliveredOnce relayer nonce dispatch).1.isDispatched = false →
            (receiveMessage smallLimits deliveredOnce relayer nonce dispatch).2 = deliveredOnce)) ∧
        (∀ (outboundLaneData : OutboundLaneData) (c : ℕ) (d' : InboundLaneData ℕ),
          receiveStateUpdate deliveredOnce outboundLaneData = some (c, d') →
            d'.lastDeliveredNonce = deliveredOnce.lastDeliveredNonce ∧
              (d'.relayers ≠ [] → c + 1 < 2 ^ 64)) ∧
        deliveredOnce.lastDeliveredNonce < 2 ^ 64 ∧
        ∀ e ∈ deliveredOnce.relayers, e.messages.endNonce < 2 ^ 64) :=
  have h : Relation.ReflTransGen (Step smallLimits) InboundLaneData.opened deliveredOnce :=
    .single (.receiveMessage _ 7 1)
  ⟨h, inboundLane_reachable h⟩

/-! ## Who delivered each nonce

Each entry of the queue names the relayer that delivered its run.  A map `deliveredBy` from
nonces to relayers `Agrees` with the queue when it gives each nonce of a run the run's relayer.
Both operations keep that: a confirmation only shortens runs, and a dispatch adds its nonce to a
run of its relayer, which the map learns at the same time.  Over a queue that agrees, what
`calc_relayers_rewards` credits a relayer for a range is the number of nonces of the range it
delivered. -/

section Delivered

variable {limits : InboundLaneLimits}

/-- Each nonce of a run of the queue was delivered by the run's relayer. -/
def Agrees (deliveredBy : ℕ → Option RelayerId) (relayers : List (UnrewardedRelayer RelayerId)) :
    Prop :=
  ∀ e ∈ relayers, ∀ nonce, e.messages.begin ≤ nonce → nonce ≤ e.messages.endNonce →
    deliveredBy nonce = some e.relayer

/-- `deliveredBy` once `relayer` delivered the nonces `fromNonce + 1 ..= toNonce`. -/
def noteDelivered (relayer : RelayerId) (fromNonce toNonce : ℕ)
    (deliveredBy : ℕ → Option RelayerId) : ℕ → Option RelayerId :=
  fun nonce ↦ if fromNonce < nonce ∧ nonce ≤ toNonce then some relayer else deliveredBy nonce

omit [DecidableEq RelayerId] in
theorem noteDelivered_self (relayer : RelayerId) (n : ℕ) (deliveredBy : ℕ → Option RelayerId) :
    noteDelivered relayer n n deliveredBy = deliveredBy := by
  funext nonce
  rw [noteDelivered, if_neg (by omega)]

omit [DecidableEq RelayerId] in
theorem noteDelivered_succ {relayer : RelayerId} {fromNonce toNonce : ℕ}
    (h : fromNonce ≤ toNonce) (deliveredBy : ℕ → Option RelayerId) :
    Function.update (noteDelivered relayer fromNonce toNonce deliveredBy) (toNonce + 1)
        (some relayer) =
      noteDelivered relayer fromNonce (toNonce + 1) deliveredBy := by
  funext nonce
  by_cases hn : nonce = toNonce + 1
  · subst hn
    rw [Function.update_self, noteDelivered, if_pos (by omega)]
  · rw [Function.update_of_ne hn, noteDelivered, noteDelivered]
    by_cases hrange : fromNonce < nonce ∧ nonce ≤ toNonce
    · rw [if_pos hrange, if_pos (by omega)]
    · rw [if_neg hrange, if_neg (by omega)]

omit [DecidableEq RelayerId] in
theorem agrees_append {deliveredBy : ℕ → Option RelayerId}
    {l₁ l₂ : List (UnrewardedRelayer RelayerId)} :
    Agrees deliveredBy (l₁ ++ l₂) ↔ Agrees deliveredBy l₁ ∧ Agrees deliveredBy l₂ := by
  simp only [Agrees, List.forall_mem_append]

omit [DecidableEq RelayerId] in
/-- The map may learn anything about nonces past the runs. -/
theorem Agrees.update_of_lt {deliveredBy : ℕ → Option RelayerId}
    {l : List (UnrewardedRelayer RelayerId)} (hagree : Agrees deliveredBy l) {nonce : ℕ}
    (hlt : ∀ e ∈ l, e.messages.endNonce < nonce) (relayer : Option RelayerId) :
    Agrees (Function.update deliveredBy nonce relayer) l := by
  intro e he n hbegin hend
  have := hlt e he
  rw [Function.update_of_ne (by omega)]
  exact hagree e he n hbegin hend

omit [DecidableEq RelayerId] in
theorem agrees_noteDelivered {deliveredBy : ℕ → Option RelayerId}
    {l : List (UnrewardedRelayer RelayerId)} (hagree : Agrees deliveredBy l) {fromNonce : ℕ}
    (hle : ∀ e ∈ l, e.messages.endNonce ≤ fromNonce) (relayer : RelayerId) (toNonce : ℕ) :
    Agrees (noteDelivered relayer fromNonce toNonce deliveredBy) l := by
  intro e he n hbegin hend
  have := hle e he
  rw [noteDelivered, if_neg (by omega)]
  exact hagree e he n hbegin hend

omit [DecidableEq RelayerId] in
/-- An entry of the queue after a confirmation was an entry before it, or the first one cut. -/
theorem mem_trimFront {c : ℕ} {l : List (UnrewardedRelayer RelayerId)}
    {e : UnrewardedRelayer RelayerId} (he : e ∈ trimFront c l) :
    e ∈ l ∨ ∃ e₀ ∈ l, e₀.messages.begin ≤ c ∧ e.relayer = e₀.relayer ∧
      e.messages.endNonce = e₀.messages.endNonce := by
  cases l with
  | nil => simp [trimFront] at he
  | cons a rest =>
    rw [trimFront] at he
    split at he
    · rcases List.mem_cons.mp he with rfl | he
      · exact .inr ⟨a, List.mem_cons_self, ‹_›, rfl, rfl⟩
      · exact .inl (List.mem_cons_of_mem a he)
    · exact .inl he

omit [DecidableEq RelayerId] in
/-- A confirmation keeps the queue agreeing: the runs it leaves lie in runs that were there. -/
theorem agrees_receiveStateUpdate {deliveredBy : ℕ → Option RelayerId}
    {d d' : InboundLaneData RelayerId} {o : OutboundLaneData} {c : ℕ} (hd : d.Valid limits)
    (hagree : Agrees deliveredBy d.relayers) (h : receiveStateUpdate d o = some (c, d')) :
    Agrees deliveredBy d'.relayers := by
  obtain ⟨-, -, -, hc, hrelayers, -⟩ := receiveStateUpdate_eq_some h
  obtain ⟨hvalid, -⟩ := receiveStateUpdate_valid hd h
  intro e he n hbegin hend
  have hstart := hvalid.consecutive.le_lo e he
  simp only [UnrewardedRelayer.begin] at hstart
  rw [hrelayers, confirmedRuns] at he
  rcases mem_trimFront he with he₀ | ⟨e₀, he₀, hbegin₀, hrelayer, hend₀⟩
  · exact hagree e ((List.dropWhile_sublist _).subset he₀) n hbegin hend
  · rw [hrelayer]
    exact hagree e₀ ((List.dropWhile_sublist _).subset he₀) n (by omega) (by omega)

/-- A dispatch keeps the queue agreeing with the map that learnt the relayer of its nonce. -/
theorem agrees_noteDelivery {deliveredBy : ℕ → Option RelayerId} {n nonce : ℕ}
    {l : List (UnrewardedRelayer RelayerId)}
    (h : Consecutive UnrewardedRelayer.begin UnrewardedRelayer.endNonce n l)
    (hnonce : nonce = nextAfter UnrewardedRelayer.endNonce n l) (hlt : nonce < 2 ^ 64)
    (hagree : Agrees deliveredBy l) (relayer : RelayerId) :
    Agrees (Function.update deliveredBy nonce (some relayer)) (noteDelivery l relayer nonce) := by
  have hbelow : ∀ e ∈ l, e.messages.endNonce < nonce := fun e he ↦
    hnonce ▸ h.hi_lt_nextAfter e he
  have hold := hagree.update_of_lt hbelow (some relayer)
  have hnew : Agrees (Function.update deliveredBy nonce (some relayer))
      [⟨relayer, .new nonce⟩] := by
    intro e he m hbegin hend
    rw [List.mem_singleton] at he
    subst he
    have hm : m = nonce := Nat.le_antisymm hend hbegin
    rw [hm, Function.update_self]
  unfold noteDelivery
  cases hlast : l.getLast? with
  | none => exact agrees_append.mpr ⟨hold, hnew⟩
  | some entry =>
    dsimp only
    split
    · rename_i hsame
      obtain ⟨ys, rfl⟩ := List.getLast?_eq_some_iff.mp hlast
      have hend : nonce = entry.messages.endNonce + 1 := by
        rw [hnonce, nextAfter_append]
        rfl
      have hwrap : Unsigned.wrappingAdd 64 entry.messages.endNonce 1 = nonce := by
        rw [Unsigned.wrappingAdd_of_lt (by omega), hend]
      rw [List.dropLast_concat]
      refine agrees_append.mpr ⟨fun e he ↦ hold e (List.mem_append_left _ he), ?_⟩
      intro e he m hbegin hend'
      rw [List.mem_singleton] at he
      subst he
      change m ≤ Unsigned.wrappingAdd 64 entry.messages.endNonce 1 at hend'
      by_cases hm : m = nonce
      · rw [hm, Function.update_self, hsame]
      · exact hold entry (List.mem_append_right _ (List.mem_singleton_self entry)) m hbegin (by omega)
    · exact agrees_append.mpr ⟨hold, hnew⟩

/-- A message received from `relayer`, with any nonce, dispatched or not. -/
def ReceivedFrom (limits : InboundLaneLimits) (relayer : RelayerId)
    (d d' : InboundLaneData RelayerId) : Prop :=
  ∃ nonce, d' = (receiveMessage limits d relayer nonce fun _ ↦ ()).2

theorem ReceivedFrom.step {relayer : RelayerId} {d d' : InboundLaneData RelayerId}
    (h : ReceivedFrom limits relayer d d') : Step limits d d' := by
  obtain ⟨nonce, rfl⟩ := h
  exact .receiveMessage d relayer nonce

/-- **Messages received from one relayer** leave the lane data valid, the last delivered nonce
no lower, and the queue agreeing with the map that learnt that the relayer delivered every nonce
they moved the last delivered nonce over. -/
theorem agrees_of_receivedFrom {deliveredBy : ℕ → Option RelayerId} {relayer : RelayerId}
    {d d' : InboundLaneData RelayerId} (hd : d.Valid limits)
    (hagree : Agrees deliveredBy d.relayers)
    (h : Relation.ReflTransGen (ReceivedFrom limits relayer) d d') :
    d'.Valid limits ∧ d.lastDeliveredNonce ≤ d'.lastDeliveredNonce ∧
      Agrees (noteDelivered relayer d.lastDeliveredNonce d'.lastDeliveredNonce deliveredBy)
        d'.relayers := by
  induction h with
  | refl => exact ⟨hd, Nat.le_refl _, by rw [noteDelivered_self]; exact hagree⟩
  | tail _ hstep ih =>
    obtain ⟨hvalid, hle, hagree'⟩ := ih
    obtain ⟨nonce, rfl⟩ := hstep
    rcases receiveMessage_cases limits _ relayer nonce (fun _ ↦ ()) with
      ⟨-, hsame⟩ | ⟨hnonce, hlt, -, -, heq⟩
    · rw [hsame]
      exact ⟨hvalid, hle, hagree'⟩
    · obtain ⟨hvalid', hdispatched, -⟩ := receiveMessage_valid hvalid relayer nonce fun _ ↦ ()
      have hdelivered := hdispatched (by rw [heq]; rfl)
      refine ⟨hvalid', by omega, ?_⟩
      rw [hdelivered, ← noteDelivered_succ hle, ← hnonce, heq]
      exact agrees_noteDelivery hvalid.consecutive
        (by rw [← InboundLaneData.lastDeliveredNonce_add_one, hnonce]) hlt hagree' relayer

/-- Receiving messages confirms nothing. -/
theorem lastConfirmedNonce_of_receivedFrom {relayer : RelayerId} {d d' : InboundLaneData RelayerId}
    (h : Relation.ReflTransGen (ReceivedFrom limits relayer) d d') :
    d'.lastConfirmedNonce = d.lastConfirmedNonce := by
  induction h with
  | refl => rfl
  | tail _ hstep ih =>
    obtain ⟨nonce, rfl⟩ := hstep
    rcases receiveMessage_cases limits _ relayer nonce (fun _ ↦ ()) with
      ⟨-, hsame⟩ | ⟨-, -, -, -, heq⟩
    · rw [hsame, ih]
    · rw [heq]
      exact ih

/-- **What `calc_relayers_rewards` credits.**  Over a queue that agrees with `deliveredBy`, a
relayer is credited, for a range of nonces the queue holds, with the number of those nonces it
delivered. -/
theorem calcRelayersRewards_eq_card {deliveredBy : ℕ → Option RelayerId}
    {d : InboundLaneData RelayerId} (hd : d.Valid limits) (hagree : Agrees deliveredBy d.relayers)
    {b e : ℕ} (hb : d.lastConfirmedNonce + 1 ≤ b) (he : e ≤ d.lastDeliveredNonce)
    (relayer : RelayerId) :
    calcRelayersRewards d.relayers ⟨b, e⟩ relayer =
      ((Finset.Icc b e).filter fun nonce ↦ deliveredBy nonce = some relayer).card := by
  have hcover : e + 1 ≤ nextAfter UnrewardedRelayer.endNonce (d.lastConfirmedNonce + 1)
      d.relayers := by
    rw [← InboundLaneData.lastDeliveredNonce_add_one]
    omega
  rw [calcRelayersRewards_apply, Finset.card_filter, ← Finset.Ico_add_one_right_eq_Icc,
    sum_Ico_eq_sum_runs hd.consecutive (c := fun entry ↦ if entry.relayer = relayer then 1 else 0)
      ?_ hb hcover]
  intro entry hentry n hbegin hend
  simp only [hagree entry hentry n hbegin hend, Option.some.injEq]

end Delivered

end InboundLane

end Messages
