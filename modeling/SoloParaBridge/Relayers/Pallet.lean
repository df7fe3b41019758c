import SoloParaBridge.XcmBridgeHub.Bridges

/-!
# The relayers pallet

The relayers pallet keeps two maps.  `RegisteredRelayers` holds, for a relayer that registered,
the block its registration is valid till and the stake it holds; the stake is kept reserved on
the relayer's account by `StakeAndSlash`.  `RelayerRewards` holds, for a relayer and the rewards
account it served, the reward it has earned and not yet claimed.

`register` and `deregister` move the stake in and out of the reserve, `slash_and_deregister`
(called when a relayer's delivery transaction misbehaves) moves it to a rewards account,
`register_relayer_reward` adds to a reward and `claim_rewards` pays it out through
`T::PaymentProcedure`.

`StakeAndSlash` is the balances pallet's named reserve: the free and reserved balance of each
account, as the bridge hub pallet has them in `XcmBridgeHub.Ledger`.  A reserve is refused when
the free balance is short; `unreserve` moves what is reserved, up to the amount asked, and
returns what it could not move.  What the slash relies on of `repatriate_reserved_named` is
stated as laws the runtime's configuration carries (`RepatriateLaws`): it fails exactly when
the beneficiary account does not exist, and otherwise moves what is reserved, up to the amount
asked, and returns what it could not move.  `Ledger.repatriateReservedNamed`, for which an
account exists when it holds some free balance, keeps them.

The three dispatchables run under the storage layer, `Exec.transactional`: a call that fails
leaves nothing behind.  `slash_and_deregister` and `register_relayer_reward` are called from
other pallets and cannot fail.  Each call's time, the required stake and the required lease are
arguments of the call, so that every run sees them change as the runtime may.
-/

set_option autoImplicit false

namespace Relayers

open XcmBridgeHub (Ledger)

/-- `Registration`. -/
structure Registration where
  /-- The last block of the registration. -/
  validTill : ℕ
  /-- The stake reserved for it. -/
  stake : ℕ
  deriving DecidableEq, Repr

/-- The pallet's `Error`. -/
inductive Error where
  | noRewardForRelayer
  | failedToPayReward
  | invalidRegistrationLease
  | cannotReduceRegistrationLease
  | failedToReserve
  | failedToUnreserve
  | notRegistered
  | registrationIsStillActive
  deriving DecidableEq, Repr

/-- The pallet's `Event`; `Params` are the `RewardsAccountParams`. -/
inductive Event (AccountId Params : Type) where
  | rewardPaid (relayer : AccountId) (rewardsAccountParams : Params) (reward : ℕ)
  | registrationUpdated (relayer : AccountId) (registration : Registration)
  | deregistered (relayer : AccountId)
  deriving DecidableEq, Repr

/-- **What the slash asks of `repatriate_reserved_named`**: it fails exactly when the beneficiary
does not exist, and otherwise lowers what `who` has reserved by what it moves, `amount` up to
what is reserved, and returns the rest of `amount`. -/
structure RepatriateLaws {AccountId : Type} [DecidableEq AccountId]
    (accountExists : Ledger AccountId → AccountId → Bool)
    (repatriateReservedNamed :
      Ledger AccountId → AccountId → AccountId → ℕ → Option (Ledger AccountId × ℕ)) : Prop where
  eq_none_iff : ∀ ledger who beneficiary amount,
    repatriateReservedNamed ledger who beneficiary amount = none ↔
      accountExists ledger beneficiary = false
  eq_some : ∀ ledger who beneficiary amount ledger' failedToSlash,
    repatriateReservedNamed ledger who beneficiary amount = some (ledger', failedToSlash) →
      ledger'.reserved = Function.update ledger.reserved who
          (ledger.reserved who - min amount (ledger.reserved who)) ∧
        failedToSlash = amount - min amount (ledger.reserved who)

/-- What the pallet takes from its runtime. -/
structure Config (AccountId Params Payments : Type) [DecidableEq AccountId] where
  /-- The width of `T::Reward`. -/
  rewardBits : ℕ
  /-- `T::PaymentProcedure::pay_reward`, on a store of payments: it fails, or pays. -/
  payReward : Payments → AccountId → Params → ℕ → Option Payments
  /-- `PayRewardFromAccount::rewards_account`: the account of a rewards account. -/
  rewardsAccount : Params → AccountId
  /-- Whether an account exists in the balances pallet. -/
  accountExists : Ledger AccountId → AccountId → Bool
  /-- `Currency::repatriate_reserved_named(ReserveId, who, beneficiary, amount, Free)`, which
  `StakeAndSlashNamed::repatriate_reserved` calls: the ledger after it and the part of `amount`
  it could not move, or `none` where it fails. -/
  repatriateReservedNamed :
    Ledger AccountId → AccountId → AccountId → ℕ → Option (Ledger AccountId × ℕ)
  repatriate_laws : RepatriateLaws accountExists repatriateReservedNamed

/-- The storage of the pallet, with its events, the balances and the payments. -/
structure State (AccountId Params Payments : Type) where
  registeredRelayers : AccountId → Option Registration
  relayerRewards : AccountId → Params → Option ℕ
  currency : Ledger AccountId
  payments : Payments
  events : List (Event AccountId Params)

namespace Ledger

variable {AccountId : Type} [DecidableEq AccountId]

/-- `unreserve_named`: what is reserved moves back, up to `amount`; the part it could not move
is returned. -/
def unreserveNamed (ledger : Ledger AccountId) (who : AccountId) (amount : ℕ) :
    Ledger AccountId × ℕ :=
  (ledger.unreserve who amount, amount - min amount (ledger.reserved who))

/-- `repatriate_reserved_named` of the balances pallet, to the free balance of `beneficiary`:
what `who` has reserved moves, up to `amount`, and the part it could not move is returned.  It
fails when `beneficiary` does not exist, that is when it holds no free balance. -/
def repatriateReservedNamed (ledger : Ledger AccountId) (who beneficiary : AccountId)
    (amount : ℕ) : Option (Ledger AccountId × ℕ) :=
  if ledger.free beneficiary = 0 then none
  else
    let actual := min amount (ledger.reserved who)
    let reserved := Function.update ledger.reserved who (ledger.reserved who - actual)
    some (⟨Function.update ledger.free beneficiary (ledger.free beneficiary + actual), reserved⟩,
      amount - actual)

/-- The balances pallet keeps the laws of the slash. -/
theorem repatriateReservedNamed_laws :
    RepatriateLaws (fun ledger who ↦ ledger.free who != 0)
      (@repatriateReservedNamed AccountId _) where
  eq_none_iff ledger who beneficiary amount := by
    unfold repatriateReservedNamed
    split_ifs with hexists <;> simp [hexists]
  eq_some ledger who beneficiary amount ledger' failedToSlash h := by
    unfold repatriateReservedNamed at h
    split_ifs at h
    simp only [Option.some.injEq, Prod.mk.injEq] at h
    obtain ⟨rfl, rfl⟩ := h
    exact ⟨rfl, rfl⟩

end Ledger

variable {AccountId Params Payments : Type} [DecidableEq AccountId] [DecidableEq Params]
  (T : Config AccountId Params Payments)

namespace State

variable (s : State AccountId Params Payments)

/-- `RelayerRewards::insert(relayer, rewards_account_params, ..)`, or `remove` for `none`. -/
def setRelayerReward (relayer : AccountId) (rewardsAccountParams : Params) (reward : Option ℕ) :
    State AccountId Params Payments :=
  { s with
    relayerRewards := Function.update s.relayerRewards relayer
      (Function.update (s.relayerRewards relayer) rewardsAccountParams reward) }

/-- `claim_rewards`, signed by `relayer`: the whole reward is taken and paid. -/
def claimRewards (relayer : AccountId) (rewardsAccountParams : Params) :
    Exec Error (State AccountId Params Payments) :=
  match s.relayerRewards relayer rewardsAccountParams with
  | none => .err .noRewardForRelayer s
  | some reward =>
    match T.payReward s.payments relayer rewardsAccountParams reward with
    | none => .err .failedToPayReward s
    | some payments =>
      let s := s.setRelayerReward relayer rewardsAccountParams none
      .ok { s with
        payments
        events := s.events ++ [.rewardPaid relayer rewardsAccountParams reward] }

/-- `do_unreserve`: fails when some of `amount` could not be unreserved, after unreserving what
could be. -/
def doUnreserve (currency : Ledger AccountId) (relayer : AccountId) (amount : ℕ) :
    Exec Error (Ledger AccountId) :=
  let (currency, failedToUnreserve) := Ledger.unreserveNamed currency relayer amount
  if failedToUnreserve ≠ 0 then .err .failedToUnreserve currency else .ok currency

/-- The stake part of `register`: the stake held is brought to `requiredStake`, unreserving the
excess or reserving what is missing. -/
def moveStake (currency : Ledger AccountId) (relayer : AccountId) (stake requiredStake : ℕ) :
    Exec Error (Ledger AccountId) :=
  match Unsigned.checkedSub stake requiredStake with
  | some toUnreserve => doUnreserve currency relayer toUnreserve
  | none =>
    match Unsigned.checkedSub requiredStake stake with
    | some toReserve =>
      match currency.reserve relayer toReserve with
      | none => .err .failedToReserve currency
      | some currency => .ok currency
    | none => .ok currency

/-- `register`, signed by `relayer` at block `blockNumber`, with the runtime's
`RequiredStake` and `RequiredRegistrationLease`. -/
def register (relayer : AccountId) (validTill blockNumber requiredStake
    requiredRegistrationLease : ℕ) : Exec Error (State AccountId Params Payments) :=
  let lease := validTill - blockNumber
  if ¬lease > requiredRegistrationLease then .err .invalidRegistrationLease s
  else
    let registration := (s.registeredRelayers relayer).getD ⟨validTill, 0⟩
    if ¬validTill ≥ registration.validTill then .err .cannotReduceRegistrationLease s
    else
      match moveStake s.currency relayer registration.stake requiredStake with
      | .err e currency => .err e { s with currency }
      | .ok currency =>
        let registration : Registration := ⟨validTill, requiredStake⟩
        .ok { s with
          registeredRelayers := Function.update s.registeredRelayers relayer (some registration)
          currency
          events := s.events ++ [.registrationUpdated relayer registration] }

/-- `deregister`, signed by `relayer` at block `blockNumber`. -/
def deregister (relayer : AccountId) (blockNumber : ℕ) :
    Exec Error (State AccountId Params Payments) :=
  match s.registeredRelayers relayer with
  | none => .err .notRegistered s
  | some registration =>
    if ¬registration.validTill < blockNumber then .err .registrationIsStillActive s
    else
      let currency := if registration.stake ≠ 0 then doUnreserve s.currency relayer registration.stake
        else .ok s.currency
      match currency with
      | .err e currency => .err e { s with currency }
      | .ok currency =>
        .ok { s with
          registeredRelayers := Function.update s.registeredRelayers relayer none
          currency
          events := s.events ++ [.deregistered relayer] }

/-- `slash_and_deregister`: the registration is taken, and its stake moved to the rewards account
`slashDestination`; a failure is only logged. -/
def slashAndDeregister (relayer : AccountId) (slashDestination : Params) :
    State AccountId Params Payments :=
  match s.registeredRelayers relayer with
  | none => s
  | some registration =>
    let s := { s with registeredRelayers := Function.update s.registeredRelayers relayer none }
    match T.repatriateReservedNamed s.currency relayer (T.rewardsAccount slashDestination)
        registration.stake with
    | some (currency, _) => { s with currency }
    | none => s

/-- `register_relayer_reward`: a non-zero reward is added, saturating, to what the relayer has
earned from the rewards account. -/
def registerRelayerReward (rewardsAccountParams : Params) (relayer : AccountId) (reward : ℕ) :
    State AccountId Params Payments :=
  if reward = 0 then s
  else
    let newReward := Unsigned.saturatingAdd T.rewardBits
      ((s.relayerRewards relayer rewardsAccountParams).getD 0) reward
    s.setRelayerReward relayer rewardsAccountParams (some newReward)

end State

/-- The calls of the pallet, and the functions other pallets call. -/
inductive Call (AccountId Params : Type) where
  | claimRewards (relayer : AccountId) (rewardsAccountParams : Params)
  | register (relayer : AccountId) (validTill blockNumber requiredStake
      requiredRegistrationLease : ℕ)
  | deregister (relayer : AccountId) (blockNumber : ℕ)
  | slashAndDeregister (relayer : AccountId) (slashDestination : Params)
  | registerRelayerReward (rewardsAccountParams : Params) (relayer : AccountId) (reward : ℕ)
  deriving DecidableEq, Repr

/-- A call, the dispatchables under the storage layer. -/
def Call.apply (s : State AccountId Params Payments) : Call AccountId Params →
    State AccountId Params Payments
  | .claimRewards relayer rewardsAccountParams =>
    Exec.transactional s (s.claimRewards T relayer rewardsAccountParams)
  | .register relayer validTill blockNumber requiredStake requiredRegistrationLease =>
    Exec.transactional s
      (s.register relayer validTill blockNumber requiredStake requiredRegistrationLease)
  | .deregister relayer blockNumber => Exec.transactional s (s.deregister relayer blockNumber)
  | .slashAndDeregister relayer slashDestination => s.slashAndDeregister T relayer slashDestination
  | .registerRelayerReward rewardsAccountParams relayer reward =>
    s.registerRelayerReward T rewardsAccountParams relayer reward

/-- The calls, one after the other. -/
def run (s : State AccountId Params Payments) (calls : List (Call AccountId Params)) :
    State AccountId Params Payments :=
  calls.foldl (Call.apply T) s

/-- The pallet at genesis: nothing registered, no reward, nothing reserved. -/
def genesis (free : AccountId → ℕ) (payments : Payments) : State AccountId Params Payments :=
  ⟨fun _ ↦ none, fun _ _ ↦ none, ⟨free, fun _ ↦ 0⟩, payments, []⟩

/-! ## What each call does -/

namespace State

variable {s : State AccountId Params Payments}

/-- `do_unreserve` succeeds only when the whole amount was reserved, and then unreserves it. -/
theorem doUnreserve_eq_ok {currency currency' : Ledger AccountId} {relayer : AccountId}
    {amount : ℕ} (h : doUnreserve currency relayer amount = .ok currency') :
    amount ≤ currency.reserved relayer ∧
      currency'.reserved = Function.update currency.reserved relayer
        (currency.reserved relayer - amount) := by
  unfold doUnreserve Ledger.unreserveNamed at h
  dsimp only at h
  split_ifs at h with hfailed
  cases h
  have hle : amount ≤ currency.reserved relayer := by omega
  exact ⟨hle, XcmBridgeHub.Ledger.unreserve_reserved_of_le hle⟩

/-- The stake of a registration brought to `requiredStake`: what is reserved moves with it, when
the old stake was reserved. -/
theorem moveStake_reserved {currency currency' : Ledger AccountId} {relayer : AccountId}
    {stake requiredStake : ℕ} (h : moveStake currency relayer stake requiredStake = .ok currency')
    (hstake : stake ≤ currency.reserved relayer) :
    currency'.reserved = Function.update currency.reserved relayer
      (currency.reserved relayer - stake + requiredStake) := by
  unfold moveStake at h
  by_cases hle : requiredStake ≤ stake
  · rw [Unsigned.checkedSub_of_le hle] at h
    rw [(doUnreserve_eq_ok h).2]
    congr 1
    omega
  · rw [Unsigned.checkedSub_of_lt (by omega), Unsigned.checkedSub_of_le (by omega)] at h
    dsimp only at h
    split at h
    · cases h
    · cases h
      rw [XcmBridgeHub.Ledger.reserve_reserved ‹_›]
      congr 1
      omega

/-- **`claim_rewards`** either leaves the storage as it was, or takes the whole reward, pays it and
says so. -/
theorem claimRewards_apply (relayer : AccountId) (rewardsAccountParams : Params) :
    (Call.claimRewards relayer rewardsAccountParams).apply T s = s ∨
      ∃ reward payments, s.relayerRewards relayer rewardsAccountParams = some reward ∧
        T.payReward s.payments relayer rewardsAccountParams reward = some payments ∧
        (Call.claimRewards relayer rewardsAccountParams).apply T s =
          { s.setRelayerReward relayer rewardsAccountParams none with
            payments
            events := s.events ++ [.rewardPaid relayer rewardsAccountParams reward] } := by
  rw [Call.apply, claimRewards]
  split
  · exact .inl rfl
  · rename_i reward hreward
    split
    · exact .inl rfl
    · rename_i payments hpay
      exact .inr ⟨reward, payments, hreward, hpay, rfl⟩

/-- **`register`** either leaves the storage as it was, or moves the stake to the required one,
keeps or extends the registration, and records it. -/
theorem register_apply (relayer : AccountId) (validTill blockNumber requiredStake
    requiredRegistrationLease : ℕ) :
    let registration := (s.registeredRelayers relayer).getD ⟨validTill, 0⟩
    (Call.register relayer validTill blockNumber requiredStake requiredRegistrationLease).apply
        T s = s ∨
      ∃ currency, registration.validTill ≤ validTill ∧
        moveStake s.currency relayer registration.stake requiredStake = .ok currency ∧
        (Call.register relayer validTill blockNumber requiredStake
            requiredRegistrationLease).apply T s =
          { s with
            registeredRelayers := Function.update s.registeredRelayers relayer
              (some ⟨validTill, requiredStake⟩)
            currency
            events := s.events ++ [.registrationUpdated relayer ⟨validTill, requiredStake⟩] } := by
  intro registration
  rw [Call.apply, register]
  dsimp only
  by_cases hlease : validTill - blockNumber > requiredRegistrationLease
  · by_cases hreduce : validTill ≥ registration.validTill
    · rw [if_neg (not_not.mpr hlease), if_neg (not_not.mpr hreduce)]
      split
      · exact .inl rfl
      · rename_i currency hmove
        exact .inr ⟨currency, hreduce, hmove, rfl⟩
    · rw [if_neg (not_not.mpr hlease), if_pos hreduce]
      exact .inl rfl
  · rw [if_pos hlease]
    exact .inl rfl

/-- **`deregister`** either leaves the storage as it was, or removes an expired registration and
unreserves its stake. -/
theorem deregister_apply (relayer : AccountId) (blockNumber : ℕ) :
    (Call.deregister relayer blockNumber).apply T s = s ∨
      ∃ registration currency, s.registeredRelayers relayer = some registration ∧
        registration.validTill < blockNumber ∧
        (if registration.stake ≠ 0 then doUnreserve s.currency relayer registration.stake
          else .ok s.currency) = .ok currency ∧
        (Call.deregister relayer blockNumber).apply T s =
          { s with
            registeredRelayers := Function.update s.registeredRelayers relayer none
            currency
            events := s.events ++ [.deregistered relayer] } := by
  rw [Call.apply, deregister]
  split
  · exact .inl rfl
  · rename_i registration hregistration
    dsimp only
    by_cases hvalid : registration.validTill < blockNumber
    · rw [if_neg (not_not.mpr hvalid)]
      split
      · exact .inl rfl
      · rename_i currency hcurrency
        exact .inr ⟨registration, currency, hregistration, hvalid, hcurrency, rfl⟩
    · rw [if_pos hvalid]
      exact .inl rfl

omit [DecidableEq Params] in
/-- **`slash_and_deregister`** removes the registration, and moves its stake when the slash
destination exists. -/
theorem slashAndDeregister_eq (relayer : AccountId) (slashDestination : Params) :
    s.slashAndDeregister T relayer slashDestination =
      match s.registeredRelayers relayer with
      | none => s
      | some registration =>
        { s with
          registeredRelayers := Function.update s.registeredRelayers relayer none
          currency := ((T.repatriateReservedNamed s.currency relayer
            (T.rewardsAccount slashDestination) registration.stake).map Prod.fst).getD
              s.currency } := by
  rw [slashAndDeregister]
  rcases s.registeredRelayers relayer with _ | registration
  · rfl
  · dsimp only
    rcases T.repatriateReservedNamed s.currency relayer (T.rewardsAccount slashDestination)
      registration.stake with _ | ⟨currency, failedToSlash⟩ <;> rfl

end State

end Relayers
