import SoloParaBridge.XcmBridgeHub.Bridges

/-!
# The bridges over a run
-/

set_option autoImplicit false

namespace XcmBridgeHub

open Messages

variable {Origin Destination Location LaneId AccountId Payments : Type}
variable [DecidableEq LaneId] [DecidableEq AccountId]
variable (T : Config Origin Destination Location LaneId AccountId Payments)

/-! ## What the two calls do -/

/-- **Everything an `open_bridge` that succeeds does.**  The locations and the owner's account
are resolved, the reserve taken, and — there being no bridge and no lane under the id — the
bridge recorded `Opened` and both lanes created. -/
theorem openBridge_eq_ok {s s' : State LaneId AccountId Payments} {origin : Origin}
    {destination : Destination} (h : openBridge T s origin destination = .ok s') :
    ∃ locations bridgeOwnerAccount currency,
      T.bridgeLocationsFromOrigin origin destination = some locations ∧
      T.bridgeOriginAccountIdConverter locations.bridgeOriginRelativeLocation =
        some bridgeOwnerAccount ∧
      s.currency.reserve bridgeOwnerAccount T.bridgeReserve = some currency ∧
      s.bridges locations.laneId = none ∧ s.messages.inboundLanes locations.laneId = none ∧
      s.messages.outboundLanes locations.laneId = none ∧
      s' = ⟨Function.update s.bridges locations.laneId
          (some ⟨.opened, bridgeOwnerAccount, T.bridgeReserve⟩),
        { s.messages.setInboundLane locations.laneId InboundLaneData.opened with
          outboundLanes := Function.update s.messages.outboundLanes locations.laneId
            (some OutboundLaneData.opened) },
        currency⟩ := by
  unfold openBridge at h
  cases hlocations : T.bridgeLocationsFromOrigin origin destination with
  | none => simp [hlocations] at h
  | some locations =>
    simp only [hlocations] at h
    cases howner : T.bridgeOriginAccountIdConverter locations.bridgeOriginRelativeLocation with
    | none => simp [howner] at h
    | some owner =>
      simp only [howner] at h
      cases hreserve : s.currency.reserve owner T.bridgeReserve with
      | none => simp [hreserve] at h
      | some currency =>
        simp only [hreserve] at h
        cases hbridge : s.bridges locations.laneId with
        | some _ => simp [hbridge] at h
        | none =>
          simp only [hbridge] at h
          cases hinbound : s.messages.inboundLanes locations.laneId with
          | some _ => simp [Pallet.State.createInboundLane, hinbound] at h
          | none =>
            simp only [Pallet.State.createInboundLane, hinbound] at h
            cases houtbound : s.messages.outboundLanes locations.laneId with
            | some _ =>
              simp [Pallet.State.createOutboundLane, Pallet.State.setInboundLane, houtbound] at h
            | none =>
              simp only [Pallet.State.createOutboundLane, Pallet.State.setInboundLane,
                houtbound] at h
              injection h with h
              subst h
              exact ⟨locations, owner, currency, rfl, howner, hreserve, hbridge, hinbound, houtbound,
                rfl⟩

/-- **Everything a `close_bridge` that succeeds does.**  The bridge and both its lanes exist; the
pruning loop of the outbound lane either leaves messages, and the bridge and both lanes are
closed, or empties the queue, and both lanes are purged — the outbound lane's payloads being what
the loop left — the bridge removed and its reserve returned to its owner. -/
theorem closeBridge_eq_ok {s s' : State LaneId AccountId Payments} {origin : Origin}
    {destination : Destination} {mayPruneMessages : ℕ}
    (h : closeBridge T s origin destination mayPruneMessages = .ok s') :
    ∃ locations bridge inboundLane outboundLane,
      T.bridgeLocationsFromOrigin origin destination = some locations ∧
      s.bridges locations.laneId = some bridge ∧
      s.messages.inboundLaneStorage locations.laneId false = .ok inboundLane ∧
      s.messages.outboundLaneStorage locations.laneId false = .ok outboundLane ∧
      ((∃ lane, (OutboundLane.closeBridge mayPruneMessages outboundLane).1 = some lane ∧
          s' = ⟨Function.update s.bridges locations.laneId (some { bridge with state := .closed }),
            (s.messages.setInboundLane locations.laneId { inboundLane with state := .closed }).setOutboundLane
              locations.laneId lane,
            s.currency⟩) ∨
        ((OutboundLane.closeBridge mayPruneMessages outboundLane).1 = none ∧
          s' = ⟨Function.update s.bridges locations.laneId none,
            { s.messages with
              inboundLanes := Function.update s.messages.inboundLanes locations.laneId none
              outboundLanes := Function.update s.messages.outboundLanes locations.laneId none
              outboundMessages := Function.update s.messages.outboundMessages locations.laneId
                (OutboundLane.closeBridge mayPruneMessages outboundLane).2 },
            s.currency.unreserve bridge.bridgeOwnerAccount bridge.reserve⟩)) := by
  unfold closeBridge at h
  cases hlocations : T.bridgeLocationsFromOrigin origin destination with
  | none => simp [hlocations] at h
  | some locations =>
    simp only [hlocations] at h
    cases hbridge : s.bridges locations.laneId with
    | none => simp [hbridge] at h
    | some bridge =>
      simp only [hbridge] at h
      cases hinbound : s.messages.inboundLaneStorage locations.laneId false with
      | error e => simp [hinbound] at h
      | ok inboundLane =>
        simp only [hinbound] at h
        cases houtbound : s.messages.outboundLaneStorage locations.laneId false with
        | error e => simp [houtbound] at h
        | ok outboundLane =>
          simp only [houtbound] at h
          refine ⟨locations, bridge, inboundLane, outboundLane, rfl, hbridge, hinbound, houtbound, ?_⟩
          rcases hclose : OutboundLane.closeBridge mayPruneMessages outboundLane with
            ⟨_ | lane, outboundMessages⟩
          · simp only [hclose] at h
            injection h with h
            subst h
            exact .inr ⟨rfl, by rw [Function.update_idem]⟩
          · simp only [hclose] at h
            injection h with h
            subst h
            exact .inl ⟨lane, rfl, rfl⟩

/-! ## The invariant -/

/-- The reserve a bridge holds on an account: its reserve when the account owns it. -/
def reserveOn (who : AccountId) : Option (Bridge AccountId) → ℕ
  | some bridge => if bridge.bridgeOwnerAccount = who then bridge.reserve else 0
  | none => 0

/-- What holds of every state a run reaches.  The three records of an id exist together and in
one state; a valid outbound lane lies under each `OutboundLanes` record; an id without bridge has
no payload left; and the balance reserved on an account is what the bridges it owns hold, summed
over a finite set of ids that is exactly the set of the bridges. -/
structure BridgesInv (s : State LaneId AccountId Payments) : Prop where
  inbound_state : ∀ laneId,
    (s.messages.inboundLanes laneId).map (·.state) = (s.bridges laneId).map (·.state.laneState)
  outbound_state : ∀ laneId,
    (s.messages.outboundLanes laneId).map (·.state) = (s.bridges laneId).map (·.state.laneState)
  outbound_valid : ∀ laneId data, s.messages.outboundLanes laneId = some data →
    OutboundLaneStore.Valid ⟨data, s.messages.outboundMessages laneId⟩
  no_payloads : ∀ laneId, s.bridges laneId = none →
    ∀ nonce, s.messages.outboundMessages laneId nonce = none
  reserved_sum : ∃ K : Finset LaneId, (∀ laneId, laneId ∈ K ↔ (s.bridges laneId).isSome) ∧
    ∀ who, s.currency.reserved who = ∑ laneId ∈ K, reserveOn who (s.bridges laneId)

/-- Writing one bridge changes a sum of reserves at most at its own id. -/
theorem sum_reserveOn_update {K : Finset LaneId} {bridges : LaneId → Option (Bridge AccountId)}
    {laneId : LaneId} {bridge : Option (Bridge AccountId)} {who : AccountId}
    (h : laneId ∈ K → reserveOn who bridge = reserveOn who (bridges laneId)) :
    ∑ l ∈ K, reserveOn who (Function.update bridges laneId bridge l) =
      ∑ l ∈ K, reserveOn who (bridges l) := by
  refine Finset.sum_congr rfl fun l hl ↦ ?_
  by_cases hlane : l = laneId
  · subst hlane
    rw [Function.update_self, h hl]
  · rw [Function.update_of_ne hlane]

omit [DecidableEq LaneId] in
theorem bridgesInv_genesis (palletOperatingMode : MessagesOperatingMode) (payments : Payments)
    (free : AccountId → ℕ) :
    BridgesInv (genesis palletOperatingMode payments free : State LaneId AccountId Payments) where
  inbound_state _ := rfl
  outbound_state _ := rfl
  outbound_valid _ _ h := nomatch h
  no_payloads _ _ _ := rfl
  reserved_sum := ⟨∅, fun _ ↦ by simp [genesis], fun _ ↦ rfl⟩

namespace BridgesInv

variable {s : State LaneId AccountId Payments}

omit [DecidableEq LaneId] in
/-- A call of the messages pallet keeps the invariant: it creates, removes and closes no lane,
and moves an outbound lane by one step of the lane, made below `u64::MAX`. -/
theorem lanesStep {messages : Pallet.State LaneId AccountId Payments} (hinv : BridgesInv s)
    (hbounded : Bounded s) (h : Pallet.LanesStep s.messages messages) :
    BridgesInv { s with messages } where
  inbound_state laneId := by
    show (messages.inboundLanes laneId).map _ = _
    rcases h.inbound laneId with heq | ⟨data, data', hdata, hdata', hstate⟩
    · rw [heq]
      exact hinv.inbound_state laneId
    · rw [hdata', ← hinv.inbound_state laneId, hdata, Option.map_some, Option.map_some, hstate]
  outbound_state laneId := by
    show (messages.outboundLanes laneId).map _ = _
    rcases h.outbound laneId with ⟨heq, -⟩ | ⟨data, lane', hdata, -, hstate, hdata', -⟩
    · rw [heq]
      exact hinv.outbound_state laneId
    · rw [hdata', ← hinv.outbound_state laneId, hdata, Option.map_some, Option.map_some, hstate]
  outbound_valid laneId data hdata := by
    change messages.outboundLanes laneId = some data at hdata
    show OutboundLaneStore.Valid ⟨data, messages.outboundMessages laneId⟩
    rcases h.outbound laneId with ⟨heq, hmessages⟩ |
      ⟨data₀, lane', hdata₀, hstep, -, hdata', hmessages'⟩
    · rw [heq] at hdata
      rw [hmessages]
      exact hinv.outbound_valid laneId data hdata
    · rw [hdata', Option.some.injEq] at hdata
      subst hdata
      rw [hmessages']
      exact hstep.valid (hinv.outbound_valid laneId data₀ hdata₀) (hbounded laneId data₀ hdata₀)
  no_payloads laneId hnone nonce := by
    change s.bridges laneId = none at hnone
    show messages.outboundMessages laneId nonce = none
    have hlane : s.messages.outboundLanes laneId = none := by
      have hstate := hinv.outbound_state laneId
      rwa [hnone, Option.map_none, Option.map_eq_none_iff] at hstate
    rcases h.outbound laneId with ⟨-, hmessages⟩ | ⟨data, -, hdata, -⟩
    · rw [hmessages]
      exact hinv.no_payloads laneId hnone nonce
    · rw [hlane] at hdata
      cases hdata
  reserved_sum := hinv.reserved_sum

/-- An `open_bridge` that succeeds keeps the invariant: under a fresh id, the bridge and both
lanes appear opened, the outbound lane with no payload, and the reserve is added on both sides
of the owner's sum. -/
theorem openBridge {s' : State LaneId AccountId Payments} {origin : Origin}
    {destination : Destination} (hinv : BridgesInv s)
    (h : XcmBridgeHub.openBridge T s origin destination = .ok s') : BridgesInv s' := by
  obtain ⟨locations, owner, currency, -, -, hreserve, hbridge, -, -, rfl⟩ := openBridge_eq_ok T h
  constructor
  · intro laneId
    by_cases hl : laneId = locations.laneId
    · subst hl
      simp [Pallet.State.setInboundLane, BridgeState.laneState, InboundLaneData.opened]
    · simp only [Pallet.State.setInboundLane, Function.update_of_ne hl]
      exact hinv.inbound_state laneId
  · intro laneId
    by_cases hl : laneId = locations.laneId
    · subst hl
      simp [BridgeState.laneState, OutboundLaneData.opened]
    · simp only [Function.update_of_ne hl]
      exact hinv.outbound_state laneId
  · intro laneId data hdata
    by_cases hl : laneId = locations.laneId
    · subst hl
      simp only [Function.update_self, Option.some.injEq] at hdata
      subst hdata
      have hempty : s.messages.outboundMessages locations.laneId = fun _ ↦ none :=
        funext (hinv.no_payloads _ hbridge)
      simp only [Pallet.State.setInboundLane, hempty]
      exact OutboundLaneStore.valid_opened
    · simp only [Pallet.State.setInboundLane, Function.update_of_ne hl] at hdata ⊢
      exact hinv.outbound_valid laneId data hdata
  · intro laneId hnone
    have hl : laneId ≠ locations.laneId := by
      rintro rfl
      simp at hnone
    simp only [Function.update_of_ne hl] at hnone
    exact hinv.no_payloads laneId hnone
  · obtain ⟨K, hK, hsum⟩ := hinv.reserved_sum
    have hfresh : locations.laneId ∉ K := by simp [hK, hbridge]
    refine ⟨insert locations.laneId K, fun laneId ↦ ?_, fun who ↦ ?_⟩
    · by_cases hl : laneId = locations.laneId
      · subst hl
        simp
      · simp [hK, hl]
    · dsimp only
      rw [Finset.sum_insert hfresh, Function.update_self,
        sum_reserveOn_update fun hmem ↦ absurd hmem hfresh, ← hsum, Ledger.reserve_reserved hreserve]
      by_cases hwho : who = owner
      · subst hwho
        simp [reserveOn, Nat.add_comm]
      · simp [reserveOn, hwho, Ne.symm hwho]

/-- Closing the lanes of a bridge keeps the invariant: the bridge and both lanes are closed
together, the outbound lane stays valid, and the reserve stays where it was. -/
theorem closeLanes {laneId : LaneId} {bridge : Bridge AccountId}
    {inboundLane : InboundLaneData AccountId} {lane : OutboundLaneStore} (hinv : BridgesInv s)
    (hbridge : s.bridges laneId = some bridge) (hlane : lane.Valid)
    (hstate : lane.data.state = .closed) :
    BridgesInv ⟨Function.update s.bridges laneId (some { bridge with state := .closed }),
      (s.messages.setInboundLane laneId { inboundLane with state := .closed }).setOutboundLane
        laneId lane,
      s.currency⟩ := by
  constructor
  · intro l
    by_cases hl : l = laneId
    · subst hl
      simp [Pallet.State.setInboundLane, Pallet.State.setOutboundLane, BridgeState.laneState]
    · simp only [Pallet.State.setInboundLane, Pallet.State.setOutboundLane,
        Function.update_of_ne hl]
      exact hinv.inbound_state l
  · intro l
    by_cases hl : l = laneId
    · subst hl
      simp [Pallet.State.setOutboundLane, BridgeState.laneState, hstate]
    · simp only [Pallet.State.setInboundLane, Pallet.State.setOutboundLane,
        Function.update_of_ne hl]
      exact hinv.outbound_state l
  · intro l data hdata
    by_cases hl : l = laneId
    · subst hl
      simp only [Pallet.State.setOutboundLane, Function.update_self, Option.some.injEq] at hdata
      subst hdata
      simpa [Pallet.State.setOutboundLane] using hlane
    · simp only [Pallet.State.setInboundLane, Pallet.State.setOutboundLane,
        Function.update_of_ne hl] at hdata ⊢
      exact hinv.outbound_valid l data hdata
  · intro l hnone
    have hl : l ≠ laneId := by
      rintro rfl
      simp at hnone
    simp only [Function.update_of_ne hl] at hnone
    simp only [Pallet.State.setInboundLane, Pallet.State.setOutboundLane, Function.update_of_ne hl]
    exact hinv.no_payloads l hnone
  · obtain ⟨K, hK, hsum⟩ := hinv.reserved_sum
    refine ⟨K, fun l ↦ ?_, fun who ↦ ?_⟩
    · by_cases hl : l = laneId
      · subst hl
        simp [hK, hbridge]
      · simp [Function.update_of_ne hl, hK]
    · rw [hsum who, sum_reserveOn_update fun _ ↦ by rw [hbridge]; rfl]

/-- Purging the lanes of a bridge keeps the invariant when no payload is left under its id:
the bridge and both lanes disappear together, and the reserve leaves both sides of the owner's
sum. -/
theorem purgeLanes {laneId : LaneId} {bridge : Bridge AccountId}
    {messages : ℕ → Option MessagePayload} (hinv : BridgesInv s)
    (hbridge : s.bridges laneId = some bridge) (hpurged : ∀ nonce, messages nonce = none) :
    BridgesInv ⟨Function.update s.bridges laneId none,
      { s.messages with
        inboundLanes := Function.update s.messages.inboundLanes laneId none
        outboundLanes := Function.update s.messages.outboundLanes laneId none
        outboundMessages := Function.update s.messages.outboundMessages laneId messages },
      s.currency.unreserve bridge.bridgeOwnerAccount bridge.reserve⟩ := by
  constructor
  · intro l
    by_cases hl : l = laneId
    · subst hl
      simp
    · simp only [Function.update_of_ne hl]
      exact hinv.inbound_state l
  · intro l
    by_cases hl : l = laneId
    · subst hl
      simp
    · simp only [Function.update_of_ne hl]
      exact hinv.outbound_state l
  · intro l data hdata
    have hl : l ≠ laneId := by
      rintro rfl
      simp at hdata
    simp only [Function.update_of_ne hl] at hdata ⊢
    exact hinv.outbound_valid l data hdata
  · intro l hnone
    by_cases hl : l = laneId
    · subst hl
      simpa using hpurged
    · simp only [Function.update_of_ne hl] at hnone ⊢
      exact hinv.no_payloads l hnone
  · obtain ⟨K, hK, hsum⟩ := hinv.reserved_sum
    have hmem : laneId ∈ K := by simp [hK, hbridge]
    refine ⟨K.erase laneId, fun l ↦ ?_, fun who ↦ ?_⟩
    · by_cases hl : l = laneId
      · subst hl
        simp
      · simp [hK, hl]
    · have hsplit : ∀ who, reserveOn who (some bridge) +
          ∑ l ∈ K.erase laneId, reserveOn who (s.bridges l) = s.currency.reserved who := by
        intro who
        rw [hsum, ← Finset.add_sum_erase K _ hmem, hbridge]
      have hle : bridge.reserve ≤ s.currency.reserved bridge.bridgeOwnerAccount := by
        rw [← hsplit]
        simp [reserveOn]
      dsimp only
      rw [sum_reserveOn_update fun h ↦ absurd h (Finset.notMem_erase _ _),
        Ledger.unreserve_reserved_of_le hle]
      by_cases hwho : who = bridge.bridgeOwnerAccount
      · subst hwho
        rw [Function.update_self, ← hsplit]
        simp [reserveOn]
      · rw [Function.update_of_ne hwho, ← hsplit]
        simp [reserveOn, Ne.symm hwho]

/-- A `close_bridge` that succeeds keeps the invariant, below `u64::MAX`: the lanes it closes
are valid and closed, and when it purges them the pruning loop has left no payload. -/
theorem closeBridge {s' : State LaneId AccountId Payments} {origin : Origin}
    {destination : Destination} {mayPruneMessages : ℕ} (hinv : BridgesInv s) (hbounded : Bounded s)
    (h : XcmBridgeHub.closeBridge T s origin destination mayPruneMessages = .ok s') :
    BridgesInv s' := by
  obtain ⟨locations, bridge, inboundLane, outboundLane, -, hbridge, -, houtbound, hcases⟩ :=
    closeBridge_eq_ok T h
  obtain ⟨hdata, hmessages, -⟩ := Pallet.State.outboundLaneStorage_eq_ok houtbound
  have hvalid : outboundLane.Valid := by
    have hstored := hinv.outbound_valid _ _ hdata
    rwa [hmessages] at hstored
  have hgen := hbounded _ _ hdata
  rcases hcases with ⟨lane, hlane, rfl⟩ | ⟨hnone, rfl⟩
  · exact hinv.closeLanes hbridge (OutboundLane.closeBridge_valid hvalid hgen hlane)
      (OutboundLane.closeBridge_state hlane)
  · exact hinv.purgeLanes hbridge (OutboundLane.closeBridge_purged hvalid (Prod.ext hnone rfl))

/-- **Every call keeps the invariant**, below `u64::MAX`. -/
theorem step {t : State LaneId AccountId Payments} (hinv : BridgesInv s) (hbounded : Bounded s)
    (h : Step T s t) : BridgesInv t := by
  cases h with
  | openBridge origin destination =>
    exact Exec.transactional_of hinv fun _ hok ↦ hinv.openBridge T hok
  | closeBridge origin destination mayPruneMessages =>
    exact Exec.transactional_of hinv fun _ hok ↦ hinv.closeBridge T hbounded hok
  | sendMessage laneId payload nonce messages hsend =>
    exact hinv.lanesStep hbounded (Pallet.sendMessage_lanesStep T.messages hsend)
  | receiveMessagesProof relayer proof messagesCount dispatchWeight =>
    exact hinv.lanesStep hbounded (Pallet.receiveMessagesProof_lanesStep T.messages ..)
  | receiveMessagesDeliveryProof relayer proof relayersState =>
    exact hinv.lanesStep hbounded (Pallet.receiveMessagesDeliveryProof_lanesStep T.messages ..)

end BridgesInv

/-- The invariant holds of every state a bounded run from a chain without bridges reaches. -/
theorem bridgesInv_of_reflTransGen {palletOperatingMode : MessagesOperatingMode}
    {payments : Payments} {free : AccountId → ℕ} {s : State LaneId AccountId Payments}
    (h : Relation.ReflTransGen (BoundedStep T) (genesis palletOperatingMode payments free) s) :
    BridgesInv s :=
  invariant_of_reflTransGen h (bridgesInv_genesis _ _ _) fun _ _ hx hxy ↦ hx.step T hxy.1 hxy.2

namespace BridgesInv

variable {s : State LaneId AccountId Payments}

omit [DecidableEq LaneId] in
theorem isSome_inboundLanes (hinv : BridgesInv s) (laneId : LaneId) :
    (s.messages.inboundLanes laneId).isSome = (s.bridges laneId).isSome := by
  rw [← Option.isSome_map (f := (·.state)), hinv.inbound_state, Option.isSome_map]

omit [DecidableEq LaneId] in
theorem isSome_outboundLanes (hinv : BridgesInv s) (laneId : LaneId) :
    (s.messages.outboundLanes laneId).isSome = (s.bridges laneId).isSome := by
  rw [← Option.isSome_map (f := (·.state)), hinv.outbound_state, Option.isSome_map]

omit [DecidableEq LaneId] in
theorem inboundLane_of_bridge (hinv : BridgesInv s) {laneId : LaneId} {bridge : Bridge AccountId}
    (h : s.bridges laneId = some bridge) :
    ∃ data, s.messages.inboundLanes laneId = some data ∧ data.state = bridge.state.laneState := by
  have hstate := hinv.inbound_state laneId
  rwa [h, Option.map_some, Option.map_eq_some_iff] at hstate

omit [DecidableEq LaneId] in
theorem outboundLane_of_bridge (hinv : BridgesInv s) {laneId : LaneId} {bridge : Bridge AccountId}
    (h : s.bridges laneId = some bridge) :
    ∃ data, s.messages.outboundLanes laneId = some data ∧ data.state = bridge.state.laneState := by
  have hstate := hinv.outbound_state laneId
  rwa [h, Option.map_some, Option.map_eq_some_iff] at hstate

omit [DecidableEq LaneId] in
theorem bridge_of_outboundLane (hinv : BridgesInv s) {laneId : LaneId} {data : OutboundLaneData}
    (h : s.messages.outboundLanes laneId = some data) :
    ∃ bridge, s.bridges laneId = some bridge ∧ bridge.state.laneState = data.state := by
  have hstate := (hinv.outbound_state laneId).symm
  rwa [h, Option.map_some, Option.map_eq_some_iff] at hstate

omit [DecidableEq LaneId] in
/-- The bridge's state is the state of both its lanes. -/
theorem bridge_state_iff (hinv : BridgesInv s) {laneId : LaneId} {bridge : Bridge AccountId}
    (h : s.bridges laneId = some bridge) (state : BridgeState) :
    bridge.state = state ↔
      (∃ data, s.messages.inboundLanes laneId = some data ∧ data.state = state.laneState) ∧
      ∃ data, s.messages.outboundLanes laneId = some data ∧ data.state = state.laneState := by
  obtain ⟨inbound, hinbound, hinboundState⟩ := hinv.inboundLane_of_bridge h
  obtain ⟨outbound, houtbound, houtboundState⟩ := hinv.outboundLane_of_bridge h
  simp only [hinbound, houtbound, Option.some.injEq, exists_eq_left', hinboundState,
    houtboundState, and_self]
  cases bridge.state <;> cases state <;> decide

/-- A message is sent only on a lane whose bridge is opened. -/
theorem bridge_opened_of_sendMessage (hinv : BridgesInv s) {laneId : LaneId}
    {payload : MessagePayload} {nonce : ℕ} {messages : Pallet.State LaneId AccountId Payments}
    (h : Pallet.sendMessage T.messages s.messages laneId payload = .ok (nonce, messages)) :
    ∃ bridge, s.bridges laneId = some bridge ∧ bridge.state = .opened := by
  obtain ⟨-, lane, hlane, -⟩ := Pallet.sendMessage_eq_ok T.messages h
  obtain ⟨hdata, -, hopened⟩ := Pallet.State.outboundLaneStorage_eq_ok hlane
  obtain ⟨bridge, hbridge, hstate⟩ := hinv.bridge_of_outboundLane hdata
  rw [hopened rfl, BridgeState.laneState_eq_opened_iff] at hstate
  exact ⟨bridge, hbridge, hstate⟩

end BridgesInv

/-- **The bridges over every run below `u64::MAX`.**  From a chain without bridges, by any calls
of `open_bridge`, `close_bridge`, `send_message`, `receive_messages_proof` and
`receive_messages_delivery_proof`, each succeeding or rolled back, made while no outbound lane's
`latest_generated_nonce` has reached `u64::MAX`: a bridge, an inbound lane and an outbound lane
exist under an id together; the bridge is opened, or closed, exactly when both lanes are; a
message is sent only on a lane whose bridge is opened; an id without bridge has no payload left;
and the balance reserved on an account is the sum of the reserves of the bridges it owns. -/
theorem bridgeHub_reachable {palletOperatingMode : MessagesOperatingMode} {payments : Payments}
    {free : AccountId → ℕ} {s : State LaneId AccountId Payments}
    (h : Relation.ReflTransGen (BoundedStep T) (genesis palletOperatingMode payments free) s) :
    (∀ laneId, ((s.bridges laneId).isSome ↔ (s.messages.inboundLanes laneId).isSome) ∧
      ((s.messages.inboundLanes laneId).isSome ↔ (s.messages.outboundLanes laneId).isSome)) ∧
    (∀ laneId bridge, s.bridges laneId = some bridge →
      (bridge.state = .opened ↔
        (∃ data, s.messages.inboundLanes laneId = some data ∧ data.state = .opened) ∧
        ∃ data, s.messages.outboundLanes laneId = some data ∧ data.state = .opened) ∧
      (bridge.state = .closed ↔
        (∃ data, s.messages.inboundLanes laneId = some data ∧ data.state = .closed) ∧
        ∃ data, s.messages.outboundLanes laneId = some data ∧ data.state = .closed)) ∧
    (∀ laneId payload nonce messages,
      Pallet.sendMessage T.messages s.messages laneId payload = .ok (nonce, messages) →
        ∃ bridge, s.bridges laneId = some bridge ∧ bridge.state = .opened) ∧
    (∀ laneId, s.bridges laneId = none →
      ∀ nonce, s.messages.outboundMessages laneId nonce = none) ∧
    ∃ K : Finset LaneId, (∀ laneId, laneId ∈ K ↔ (s.bridges laneId).isSome) ∧
      ∀ who, s.currency.reserved who = ∑ laneId ∈ K, reserveOn who (s.bridges laneId) := by
  have hinv := bridgesInv_of_reflTransGen T h
  refine ⟨fun laneId ↦ ?_, fun laneId bridge hbridge ↦ ?_, fun _ _ _ _ hsend ↦
    hinv.bridge_opened_of_sendMessage T hsend, hinv.no_payloads, hinv.reserved_sum⟩
  · rw [hinv.isSome_inboundLanes, hinv.isSome_outboundLanes]
    exact ⟨Iff.rfl, Iff.rfl⟩
  · exact ⟨hinv.bridge_state_iff hbridge .opened, hinv.bridge_state_iff hbridge .closed⟩

/-! ## A hub with one lane

A runtime with one location, one lane id and one account, whose bridges cost a reserve of one.
After `open_bridge` on a fresh chain the hub holds one opened bridge and both its lanes, and a
message sent on the lane is one more step. -/

/-- The runtime. -/
def oneLaneRuntime : Config Unit Unit Unit Unit Unit Unit where
  messages := ⟨0, ⟨0, 0⟩, fun _ _ ↦ ⟨0, 0⟩, fun _ _ ↦ ⟨0, 0⟩, fun payments _ _ _ _ ↦ payments⟩
  bridgeLocationsFromOrigin _ _ := some ⟨(), ()⟩
  bridgeOriginAccountIdConverter _ := some ()
  bridgeReserve := 1

/-- The hub with its bridge opened, and `lane` as the outbound lane. -/
def bridgedHub (lane : OutboundLaneStore) : State Unit Unit Unit :=
  ⟨fun _ ↦ some ⟨.opened, (), 1⟩,
    ⟨.basic .normal, fun _ ↦ some InboundLaneData.opened, fun _ ↦ some lane.data,
      fun _ ↦ lane.messages, ()⟩,
    ⟨fun _ ↦ 0, fun _ ↦ 1⟩⟩

theorem step_openBridge_genesis :
    Step oneLaneRuntime (genesis (.basic .normal) () fun _ ↦ 1)
      (bridgedHub OutboundLaneStore.opened) :=
  .openBridge _ () ()

/-- `send_message` on the opened lane is a step of the hub: the lane is written back under its
one id. -/
theorem step_sendMessage_bridgedHub {lane : OutboundLaneStore} (h : lane.data.state = .opened) :
    Step oneLaneRuntime (bridgedHub lane) (bridgedHub (OutboundLane.sendMessage 0 [] lane).2) := by
  have hsend : Pallet.sendMessage oneLaneRuntime.messages (bridgedHub lane).messages () [] =
      .ok (Unsigned.wrappingAdd 64 lane.data.latestGeneratedNonce 1,
        (bridgedHub (OutboundLane.sendMessage 0 [] lane).2).messages) := by
    simp [Pallet.sendMessage, Pallet.State.outboundLaneStorage, bridgedHub, h, LaneState.isActive,
      OutboundLane.sendMessage_of_le, oneLaneRuntime]
    rfl
  exact .sendMessage _ () [] _ _ hsend

theorem bounded_bridgedHub {lane : OutboundLaneStore}
    (h : lane.data.latestGeneratedNonce + 1 < 2 ^ 64) : Bounded (bridgedHub lane) := by
  rintro _ data hdata
  cases hdata
  exact h

/-- The hub after one message. -/
def sentOnceHub : State Unit Unit Unit :=
  bridgedHub (OutboundLane.sendMessage 0 [] OutboundLaneStore.opened).2

example : sentOnceHub.messages.outboundMessages () 1 = some [] := by decide

theorem bridgeHub_reachable_sentOnce :
    Relation.ReflTransGen (BoundedStep oneLaneRuntime) (genesis (.basic .normal) () fun _ ↦ 1)
        sentOnceHub ∧
      (∀ laneId, ((sentOnceHub.bridges laneId).isSome ↔
          (sentOnceHub.messages.inboundLanes laneId).isSome) ∧
        ((sentOnceHub.messages.inboundLanes laneId).isSome ↔
          (sentOnceHub.messages.outboundLanes laneId).isSome)) ∧
      (∀ laneId bridge, sentOnceHub.bridges laneId = some bridge →
        (bridge.state = .opened ↔
          (∃ data, sentOnceHub.messages.inboundLanes laneId = some data ∧ data.state = .opened) ∧
          ∃ data, sentOnceHub.messages.outboundLanes laneId = some data ∧ data.state = .opened) ∧
        (bridge.state = .closed ↔
          (∃ data, sentOnceHub.messages.inboundLanes laneId = some data ∧ data.state = .closed) ∧
          ∃ data, sentOnceHub.messages.outboundLanes laneId = some data ∧ data.state = .closed)) ∧
      (∀ laneId payload nonce messages,
        Pallet.sendMessage oneLaneRuntime.messages sentOnceHub.messages laneId payload =
            .ok (nonce, messages) →
          ∃ bridge, sentOnceHub.bridges laneId = some bridge ∧ bridge.state = .opened) ∧
      (∀ laneId, sentOnceHub.bridges laneId = none →
        ∀ nonce, sentOnceHub.messages.outboundMessages laneId nonce = none) ∧
      ∃ K : Finset Unit, (∀ laneId, laneId ∈ K ↔ (sentOnceHub.bridges laneId).isSome) ∧
        ∀ who, sentOnceHub.currency.reserved who =
          ∑ laneId ∈ K, reserveOn who (sentOnceHub.bridges laneId) :=
  have h : Relation.ReflTransGen (BoundedStep oneLaneRuntime)
      (genesis (.basic .normal) () fun _ ↦ 1) sentOnceHub :=
    (Relation.ReflTransGen.single ⟨(fun _ _ h ↦ nomatch h), step_openBridge_genesis⟩).tail
      ⟨bounded_bridgedHub (by decide), step_sendMessage_bridgedHub rfl⟩
  ⟨h, bridgeHub_reachable oneLaneRuntime h⟩

/-! ## At `u64::MAX`

After `2 ^ 64` messages on a lane its `latest_generated_nonce` wraps to `0` below its
`oldest_unpruned_nonce`: the queue looks empty, `close_bridge` purges both lanes and removes the
bridge, and the payloads of nonces `1..=u64::MAX` stay in `OutboundMessages`. -/

/-- The hub once its bridge is removed, with `messages` left under the lane id. -/
def purgedHub (messages : ℕ → Option MessagePayload) : State Unit Unit Unit :=
  ⟨fun _ ↦ none, ⟨.basic .normal, fun _ ↦ none, fun _ ↦ none, fun _ ↦ messages, ()⟩,
    ⟨fun _ ↦ 1, fun _ ↦ 0⟩⟩

theorem closeBridge_bridgedHub {lane : OutboundLaneStore} {messages : ℕ → Option MessagePayload}
    (h : OutboundLane.closeBridge 0 lane = (none, messages)) :
    closeBridge oneLaneRuntime (bridgedHub lane) () () 0 = .ok (purgedHub messages) := by
  simp [closeBridge, oneLaneRuntime, bridgedHub, Pallet.State.inboundLaneStorage,
    Pallet.State.outboundLaneStorage, h]
  rfl

/-- **The hub purges a bridge whose queue wrapped**: from genesis the bridge is opened, its lane
sends `2 ^ 64` messages while it stays opened, and `close_bridge` then removes the bridge while the
payload of nonce `1` is still stored. -/
theorem bridgeHub_wraps_past_max :
    Relation.ReflTransGen (Step oneLaneRuntime) (genesis (.basic .normal) () fun _ ↦ 1)
        (purgedHub OutboundLane.sentPastMax.messages) ∧
      (purgedHub OutboundLane.sentPastMax.messages).bridges () = none ∧
      (purgedHub OutboundLane.sentPastMax.messages).messages.outboundMessages () 1 = some [] := by
  have hsends : Relation.ReflTransGen (Step oneLaneRuntime) (bridgedHub OutboundLaneStore.opened)
      (bridgedHub OutboundLane.sentPastMax) :=
    Relation.ReflTransGen.lift bridgedHub (fun _ _ h ↦ h) _ _
      (Trace.reflTransGen_iterate_of (P := fun lane ↦ lane.data.state = .opened)
        (fun lane h ↦ (OutboundLane.sendMessage_state 0 [] lane).trans h)
        (fun _ h ↦ step_sendMessage_bridgedHub h) rfl (2 ^ 64))
  have hclose : Step oneLaneRuntime (bridgedHub OutboundLane.sentPastMax)
      (purgedHub OutboundLane.sentPastMax.messages) := by
    have hstep := Step.closeBridge (T := oneLaneRuntime) (bridgedHub OutboundLane.sentPastMax) () () 0
    rwa [closeBridge_bridgedHub OutboundLane.closeBridge_sentPastMax] at hstep
  refine ⟨(Relation.ReflTransGen.head step_openBridge_genesis hsends).tail hclose, rfl, ?_⟩
  rw [OutboundLane.sentPastMax_eq]
  rfl

end XcmBridgeHub
