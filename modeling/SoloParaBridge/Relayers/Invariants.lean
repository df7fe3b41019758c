import SoloParaBridge.Relayers.Pallet

/-!
# What the relayers pallet keeps true

Three facts hold along every run of the pallet's calls.

* **The stake is what is reserved.**  The reserve of a relayer holds the stake of its
  registration, or nothing when it has none, besides what slashes could not repatriate
  (`StakeHeld`, `stakeHeld_run`).  By the laws of `repatriate_reserved_named` a slash moves the
  whole stake or, when the slash destination does not exist, nothing at all (`unrepatriated_eq`).
* **A registration is never shortened.**  While a relayer stays registered, `valid_till` does not
  decrease (`validTill_le_apply`).
* **A reward is paid at most once.**  What was paid out to a relayer for a rewards account, with
  what it can still claim, is at most what was registered for it, and all of it while the sum
  fits in `T::Reward`, which saturates (`paid_add_reward_run`).
-/

set_option autoImplicit false

namespace Relayers

open XcmBridgeHub (Ledger)

variable {AccountId Params Payments : Type} [DecidableEq AccountId] [DecidableEq Params]
  (T : Config AccountId Params Payments)

/-! ## The stake ledger -/

/-- The stake of a relayer's registration, `0` for none. -/
def stakeOf (s : State AccountId Params Payments) (relayer : AccountId) : ℕ :=
  ((s.registeredRelayers relayer).map Registration.stake).getD 0

/-- What a call leaves reserved for `who` with no registration to hold it: the stake a slash
could not repatriate. -/
def Call.unrepatriated (s : State AccountId Params Payments) :
    Call AccountId Params → AccountId → ℕ
  | .slashAndDeregister relayer slashDestination, who =>
    if who = relayer then
      match s.registeredRelayers relayer with
      | none => 0
      | some registration =>
        match T.repatriateReservedNamed s.currency relayer
            (T.rewardsAccount slashDestination) registration.stake with
        | some (_, failedToSlash) => failedToSlash
        | none => registration.stake
    else 0
  | _, _ => 0

/-- What the calls of a run leave reserved with no registration to hold it. -/
def unrepatriatedAlong : State AccountId Params Payments → List (Call AccountId Params) →
    AccountId → ℕ
  | _, [], _ => 0
  | s, c :: calls, who => c.unrepatriated T s who + unrepatriatedAlong (c.apply T s) calls who

/-- The reserve of each account holds the stake of its registration, and `unrepatriated` besides. -/
def StakeHeld (s : State AccountId Params Payments) (unrepatriated : AccountId → ℕ) : Prop :=
  ∀ who, s.currency.reserved who = stakeOf s who + unrepatriated who

omit [DecidableEq AccountId] [DecidableEq Params] in
theorem stakeHeld_genesis (free : AccountId → ℕ) (payments : Payments) :
    StakeHeld (genesis free payments : State AccountId Params Payments) fun _ ↦ 0 :=
  fun _ ↦ rfl

section Step

variable {T} {s : State AccountId Params Payments} {unrepatriated : AccountId → ℕ}

omit [DecidableEq AccountId] [DecidableEq Params] in
/-- A call that moves neither registrations nor reserves keeps the ledger. -/
theorem StakeHeld.of_eq {t : State AccountId Params Payments} (h : StakeHeld s unrepatriated)
    (hregistered : t.registeredRelayers = s.registeredRelayers) (hcurrency : t.currency = s.currency) :
    StakeHeld t unrepatriated := fun who ↦ by
  rw [hcurrency, h who, stakeOf, stakeOf, hregistered]

/-- `register` keeps the stake ledger: the old stake was reserved, and the required one is
reserved instead. -/
theorem StakeHeld.register (h : StakeHeld s unrepatriated) (relayer : AccountId)
    (validTill blockNumber requiredStake requiredRegistrationLease : ℕ) :
    StakeHeld ((Call.register relayer validTill blockNumber requiredStake
      requiredRegistrationLease).apply T s) unrepatriated := by
  rcases State.register_apply T relayer validTill blockNumber requiredStake
    requiredRegistrationLease (s := s) with heq | ⟨currency, -, hmove, heq⟩
  · rw [heq]
    exact h
  · have hstake : ((s.registeredRelayers relayer).getD ⟨validTill, 0⟩).stake = stakeOf s relayer := by
      rw [stakeOf]
      cases s.registeredRelayers relayer <;> rfl
    have hreserved := State.moveStake_reserved hmove
      (by rw [hstake, h relayer]; exact Nat.le_add_right _ _)
    intro who
    rw [heq, stakeOf]
    simp only [hreserved]
    by_cases hwho : who = relayer
    · subst hwho
      have := h who
      simp only [Function.update_self, Option.map_some, Option.getD_some] at this ⊢
      omega
    · simp only [Function.update_of_ne hwho]
      exact h who

/-- `deregister` keeps the stake ledger: the stake of the registration is unreserved whole. -/
theorem StakeHeld.deregister (h : StakeHeld s unrepatriated) (relayer : AccountId)
    (blockNumber : ℕ) :
    StakeHeld ((Call.deregister relayer blockNumber).apply T s) unrepatriated := by
  rcases State.deregister_apply T relayer blockNumber (s := s) with
    heq | ⟨registration, currency, hregistration, -, hcurrency, heq⟩
  · rw [heq]
    exact h
  · have hreserved : currency.reserved = Function.update s.currency.reserved relayer
        (s.currency.reserved relayer - registration.stake) := by
      split_ifs at hcurrency with hstake
      · exact (State.doUnreserve_eq_ok hcurrency).2
      · cases hcurrency
        rw [not_not.mp hstake, Nat.sub_zero, Function.update_eq_self]
    intro who
    rw [heq, stakeOf]
    simp only [hreserved]
    by_cases hwho : who = relayer
    · subst hwho
      have := h who
      simp only [stakeOf, hregistration, Option.map_some, Option.getD_some] at this
      simp only [Function.update_self, Option.map_none, Option.getD_none]
      omega
    · simp only [Function.update_of_ne hwho]
      exact h who

/-- `slash_and_deregister` keeps the stake ledger, with what it could not repatriate added: when
the slash destination does not exist the whole stake stays reserved, and otherwise all of it,
being reserved, moves. -/
theorem StakeHeld.slashAndDeregister (h : StakeHeld s unrepatriated) (relayer : AccountId)
    (slashDestination : Params) :
    StakeHeld ((Call.slashAndDeregister relayer slashDestination).apply T s)
      fun who ↦ unrepatriated who +
        (Call.slashAndDeregister relayer slashDestination).unrepatriated T s who := by
  intro who
  rw [Call.apply, State.slashAndDeregister_eq]
  simp only [Call.unrepatriated]
  rcases hregistration : s.registeredRelayers relayer with _ | registration
  · split_ifs <;> simpa using h who
  · dsimp only
    have hheld := h relayer
    simp only [stakeOf, hregistration, Option.map_some, Option.getD_some] at hheld
    rcases hrepatriate : T.repatriateReservedNamed s.currency relayer
      (T.rewardsAccount slashDestination) registration.stake with _ | ⟨currency, failedToSlash⟩
    · by_cases hwho : who = relayer
      · subst hwho
        simp [stakeOf, hheld]
        omega
      · simpa [stakeOf, hwho, Function.update_of_ne hwho] using h who
    · obtain ⟨hreserved, hfailed⟩ := T.repatriate_laws.eq_some _ _ _ _ _ _ hrepatriate
      by_cases hwho : who = relayer
      · subst hwho
        simp only [Option.map_some, Option.getD_some, hreserved, Function.update_self, stakeOf,
          Option.map_none, Option.getD_none, if_true, hfailed]
        omega
      · simpa [stakeOf, hwho, hreserved, Function.update_of_ne hwho] using h who

/-- **One call.**  Every call keeps the stake ledger, with what a slash could not repatriate
added. -/
theorem StakeHeld.apply (h : StakeHeld s unrepatriated) (c : Call AccountId Params) :
    StakeHeld (c.apply T s) fun who ↦ unrepatriated who + c.unrepatriated T s who := by
  cases c with
  | claimRewards relayer rewardsAccountParams =>
    rcases State.claimRewards_apply T relayer rewardsAccountParams (s := s) with
      heq | ⟨reward, payments, -, -, heq⟩ <;>
    · rw [heq]
      exact h.of_eq rfl rfl
  | register relayer validTill blockNumber requiredStake requiredRegistrationLease =>
    exact h.register relayer validTill blockNumber requiredStake requiredRegistrationLease
  | deregister relayer blockNumber => exact h.deregister relayer blockNumber
  | slashAndDeregister relayer slashDestination => exact h.slashAndDeregister relayer slashDestination
  | registerRelayerReward rewardsAccountParams relayer reward =>
    rw [Call.apply, State.registerRelayerReward]
    split_ifs <;> exact h.of_eq rfl rfl

end Step

/-- **A run.**  The calls keep the stake ledger, with what their slashes could not repatriate
added. -/
theorem stakeHeld_run : ∀ (calls : List (Call AccountId Params))
    (s : State AccountId Params Payments) (unrepatriated : AccountId → ℕ),
    StakeHeld s unrepatriated →
      StakeHeld (run T s calls) fun who ↦ unrepatriated who + unrepatriatedAlong T s calls who
  | [], s, unrepatriated, h => by simpa [run, unrepatriatedAlong] using h
  | c :: calls, s, unrepatriated, h => by
    have hrun := stakeHeld_run calls (c.apply T s) _ (h.apply c)
    intro who
    have hwho := hrun who
    simp only [run] at hwho
    simp only [run, List.foldl_cons, unrepatriatedAlong]
    omega

omit [DecidableEq Params] in
/-- With the stake held, a slash moves the whole stake, or nothing when the slash destination
does not exist: what it leaves behind is all or nothing. -/
theorem unrepatriated_eq {s : State AccountId Params Payments} {unrepatriated : AccountId → ℕ}
    (h : StakeHeld s unrepatriated) (relayer : AccountId) (slashDestination : Params) :
    (Call.slashAndDeregister relayer slashDestination).unrepatriated T s relayer =
      if T.accountExists s.currency (T.rewardsAccount slashDestination) then 0
      else stakeOf s relayer := by
  simp only [Call.unrepatriated, if_true, stakeOf]
  rcases hregistration : s.registeredRelayers relayer with _ | registration
  · split_ifs <;> rfl
  · have hheld := h relayer
    simp only [stakeOf, hregistration, Option.map_some, Option.getD_some] at hheld
    dsimp only
    rcases hrepatriate : T.repatriateReservedNamed s.currency relayer
      (T.rewardsAccount slashDestination) registration.stake with _ | ⟨currency, failedToSlash⟩
    · rw [(T.repatriate_laws.eq_none_iff _ _ _ _).mp hrepatriate]
      rfl
    · have hexists : T.accountExists s.currency (T.rewardsAccount slashDestination) = true := by
        by_contra hmissing
        rw [(T.repatriate_laws.eq_none_iff _ _ _ _).mpr (by simpa using hmissing)] at hrepatriate
        cases hrepatriate
      obtain ⟨-, hfailed⟩ := T.repatriate_laws.eq_some _ _ _ _ _ _ hrepatriate
      rw [hexists, if_pos rfl]
      dsimp only
      omega

/-! ## Registrations -/

/-- **A registration is never shortened**: a call that leaves a relayer registered leaves its
registration valid till no earlier block. -/
theorem validTill_le_apply (s : State AccountId Params Payments) (c : Call AccountId Params)
    {relayer : AccountId} {registration registration' : Registration}
    (h : s.registeredRelayers relayer = some registration)
    (h' : (c.apply T s).registeredRelayers relayer = some registration') :
    registration.validTill ≤ registration'.validTill := by
  cases c with
  | claimRewards claimer rewardsAccountParams =>
    rcases State.claimRewards_apply T claimer rewardsAccountParams (s := s) with
      heq | ⟨reward, payments, -, -, heq⟩ <;>
    · rw [heq] at h'
      simp only [State.setRelayerReward, h, Option.some.injEq] at h'
      exact h' ▸ le_rfl
  | register registrant validTill blockNumber requiredStake requiredRegistrationLease =>
    rcases State.register_apply T registrant validTill blockNumber requiredStake
      requiredRegistrationLease (s := s) with heq | ⟨currency, hextends, -, heq⟩
    · rw [heq, h, Option.some.injEq] at h'
      exact h' ▸ le_rfl
    · rw [heq] at h'
      by_cases hrelayer : relayer = registrant
      · subst hrelayer
        simp only [Function.update_self, Option.some.injEq] at h'
        rw [h, Option.getD_some] at hextends
        rw [← h']
        exact hextends
      · simp only [Function.update_of_ne hrelayer, h, Option.some.injEq] at h'
        exact h' ▸ le_rfl
  | deregister registrant blockNumber =>
    rcases State.deregister_apply T registrant blockNumber (s := s) with
      heq | ⟨deregistered, currency, -, -, -, heq⟩
    · rw [heq, h, Option.some.injEq] at h'
      exact h' ▸ le_rfl
    · rw [heq] at h'
      by_cases hrelayer : relayer = registrant
      · subst hrelayer
        simp at h'
      · simp only [Function.update_of_ne hrelayer, h, Option.some.injEq] at h'
        exact h' ▸ le_rfl
  | slashAndDeregister slashed slashDestination =>
    rw [Call.apply, State.slashAndDeregister_eq] at h'
    rcases hslashed : s.registeredRelayers slashed with _ | slashedRegistration
    · simp only [hslashed, h, Option.some.injEq] at h'
      exact h' ▸ le_rfl
    · simp only [hslashed] at h'
      by_cases hrelayer : relayer = slashed
      · subst hrelayer
        simp at h'
      · simp only [Function.update_of_ne hrelayer, h, Option.some.injEq] at h'
        exact h' ▸ le_rfl
  | registerRelayerReward rewardsAccountParams rewarded reward =>
    rw [Call.apply, State.registerRelayerReward] at h'
    split_ifs at h' <;>
    · simp only [State.setRelayerReward, h, Option.some.injEq] at h'
      exact h' ▸ le_rfl

/-! ## Rewards -/

/-- What an event says was paid to `relayer` for `rewardsAccountParams`. -/
def Event.paid (relayer : AccountId) (rewardsAccountParams : Params) :
    Event AccountId Params → ℕ
  | .rewardPaid relayer' rewardsAccountParams' reward =>
    if relayer' = relayer ∧ rewardsAccountParams' = rewardsAccountParams then reward else 0
  | .registrationUpdated _ _ | .deregistered _ => 0

/-- What the events say was paid to `relayer` for `rewardsAccountParams`. -/
def paidTo (events : List (Event AccountId Params)) (relayer : AccountId)
    (rewardsAccountParams : Params) : ℕ :=
  (events.map (Event.paid relayer rewardsAccountParams)).sum

/-- The reward a relayer can claim from a rewards account, `0` for none. -/
def rewardOf (s : State AccountId Params Payments) (relayer : AccountId)
    (rewardsAccountParams : Params) : ℕ :=
  (s.relayerRewards relayer rewardsAccountParams).getD 0

/-- The reward a call registers for `relayer` and `rewardsAccountParams`. -/
def Call.registered (relayer : AccountId) (rewardsAccountParams : Params) :
    Call AccountId Params → ℕ
  | .registerRelayerReward rewardsAccountParams' relayer' reward =>
    if relayer' = relayer ∧ rewardsAccountParams' = rewardsAccountParams then reward else 0
  | .claimRewards _ _ | .register _ _ _ _ _ | .deregister _ _ | .slashAndDeregister _ _ => 0

/-- The rewards the calls of a run register for `relayer` and `rewardsAccountParams`. -/
def registeredAlong (calls : List (Call AccountId Params)) (relayer : AccountId)
    (rewardsAccountParams : Params) : ℕ :=
  (calls.map (Call.registered relayer rewardsAccountParams)).sum

section Rewards

variable {T} {s : State AccountId Params Payments} (relayer : AccountId)
  (rewardsAccountParams : Params)

theorem paidTo_append (events events' : List (Event AccountId Params)) :
    paidTo (events ++ events') relayer rewardsAccountParams =
      paidTo events relayer rewardsAccountParams + paidTo events' relayer rewardsAccountParams := by
  rw [paidTo, paidTo, paidTo, List.map_append, List.sum_append]

theorem rewardOf_setRelayerReward (relayer' : AccountId) (rewardsAccountParams' : Params)
    (reward : Option ℕ) :
    rewardOf (s.setRelayerReward relayer' rewardsAccountParams' reward) relayer
        rewardsAccountParams =
      if relayer' = relayer ∧ rewardsAccountParams' = rewardsAccountParams then reward.getD 0
      else rewardOf s relayer rewardsAccountParams := by
  rw [rewardOf, rewardOf, State.setRelayerReward]
  by_cases hrelayer : relayer = relayer'
  · subst hrelayer
    by_cases hparams : rewardsAccountParams = rewardsAccountParams'
    · subst hparams
      simp
    · simp [Ne.symm hparams, Function.update_of_ne hparams]
  · simp [Ne.symm hrelayer, Function.update_of_ne hrelayer]

/-- A call only adds events. -/
theorem events_apply (c : Call AccountId Params) :
    ∃ events, (c.apply T s).events = s.events ++ events := by
  cases c with
  | claimRewards claimer params =>
    rcases State.claimRewards_apply T claimer params (s := s) with
      heq | ⟨reward, payments, -, -, heq⟩
    · exact ⟨[], by rw [heq, List.append_nil]⟩
    · exact ⟨_, by rw [heq]⟩
  | register registrant validTill blockNumber requiredStake requiredRegistrationLease =>
    rcases State.register_apply T registrant validTill blockNumber requiredStake
      requiredRegistrationLease (s := s) with heq | ⟨currency, -, -, heq⟩
    · exact ⟨[], by rw [heq, List.append_nil]⟩
    · exact ⟨_, by rw [heq]⟩
  | deregister registrant blockNumber =>
    rcases State.deregister_apply T registrant blockNumber (s := s) with
      heq | ⟨deregistered, currency, -, -, -, heq⟩
    · exact ⟨[], by rw [heq, List.append_nil]⟩
    · exact ⟨_, by rw [heq]⟩
  | slashAndDeregister slashed slashDestination =>
    refine ⟨[], ?_⟩
    rw [Call.apply, State.slashAndDeregister_eq, List.append_nil]
    split <;> rfl
  | registerRelayerReward params rewarded reward =>
    refine ⟨[], ?_⟩
    rw [Call.apply, State.registerRelayerReward, List.append_nil]
    split_ifs <;> rfl

/-- A call that neither pays nor registers a reward keeps what was paid and what can be
claimed. -/
theorem paidTo_add_rewardOf_of_keeps {t : State AccountId Params Payments}
    (hrewards : t.relayerRewards = s.relayerRewards)
    (hpaid : paidTo t.events relayer rewardsAccountParams =
      paidTo s.events relayer rewardsAccountParams) :
    paidTo t.events relayer rewardsAccountParams + rewardOf t relayer rewardsAccountParams =
      paidTo s.events relayer rewardsAccountParams + rewardOf s relayer rewardsAccountParams := by
  rw [hpaid, rewardOf, rewardOf, hrewards]

theorem register_keeps_rewards (registrant : AccountId)
    (validTill blockNumber requiredStake requiredRegistrationLease : ℕ) :
    let t := (Call.register registrant validTill blockNumber requiredStake
      requiredRegistrationLease).apply T s
    t.relayerRewards = s.relayerRewards ∧
      paidTo t.events relayer rewardsAccountParams = paidTo s.events relayer rewardsAccountParams := by
  rcases State.register_apply T registrant validTill blockNumber requiredStake
    requiredRegistrationLease (s := s) with heq | ⟨currency, -, -, heq⟩ <;>
  · rw [heq]
    refine ⟨rfl, ?_⟩
    simp [paidTo, Event.paid]

theorem deregister_keeps_rewards (registrant : AccountId) (blockNumber : ℕ) :
    let t := (Call.deregister registrant blockNumber).apply T s
    t.relayerRewards = s.relayerRewards ∧
      paidTo t.events relayer rewardsAccountParams = paidTo s.events relayer rewardsAccountParams := by
  rcases State.deregister_apply T registrant blockNumber (s := s) with
    heq | ⟨deregistered, currency, -, -, -, heq⟩ <;>
  · rw [heq]
    refine ⟨rfl, ?_⟩
    simp [paidTo, Event.paid]

theorem slashAndDeregister_keeps_rewards (slashed : AccountId) (slashDestination : Params) :
    let t := (Call.slashAndDeregister slashed slashDestination).apply T s
    t.relayerRewards = s.relayerRewards ∧
      paidTo t.events relayer rewardsAccountParams = paidTo s.events relayer rewardsAccountParams := by
  rw [Call.apply, State.slashAndDeregister_eq]
  split <;> exact ⟨rfl, rfl⟩

/-- `claim_rewards` moves the whole reward from what can be claimed to what was paid. -/
theorem claimRewards_keeps_sum (claimer : AccountId) (params : Params) :
    let t := (Call.claimRewards claimer params).apply T s
    paidTo t.events relayer rewardsAccountParams + rewardOf t relayer rewardsAccountParams =
      paidTo s.events relayer rewardsAccountParams + rewardOf s relayer rewardsAccountParams := by
  intro t
  rcases State.claimRewards_apply T claimer params (s := s) with
    heq | ⟨reward, payments, hreward, -, heq⟩
  · rw [show t = s from heq]
  · have hevents : t.events = s.events ++ [.rewardPaid claimer params reward] := by
      rw [show t = _ from heq]
    have hrewards : rewardOf t relayer rewardsAccountParams =
        rewardOf (s.setRelayerReward claimer params none) relayer rewardsAccountParams := by
      rw [show t = _ from heq]
      rfl
    rw [hevents, hrewards, paidTo_append, rewardOf_setRelayerReward]
    simp only [paidTo, List.map_cons, List.map_nil, List.sum_cons, List.sum_nil, Event.paid]
    split_ifs with hkey
    · obtain ⟨rfl, rfl⟩ := hkey
      simp [rewardOf, hreward]
    · simp

/-- `register_relayer_reward` adds the reward to what can be claimed, saturating. -/
theorem registerRelayerReward_sum (params : Params) (rewarded : AccountId) (reward : ℕ) :
    let t := (Call.registerRelayerReward params rewarded reward).apply T s
    let registered := (Call.registerRelayerReward params rewarded reward).registered relayer
      rewardsAccountParams
    paidTo t.events relayer rewardsAccountParams + rewardOf t relayer rewardsAccountParams ≤
        paidTo s.events relayer rewardsAccountParams + rewardOf s relayer rewardsAccountParams +
          registered ∧
      (rewardOf s relayer rewardsAccountParams + registered < 2 ^ T.rewardBits →
        paidTo t.events relayer rewardsAccountParams + rewardOf t relayer rewardsAccountParams =
          paidTo s.events relayer rewardsAccountParams + rewardOf s relayer rewardsAccountParams +
            registered) := by
  intro t registered
  by_cases hzero : reward = 0
  · have ht : t = s := by
      simp only [t, Call.apply, State.registerRelayerReward, if_pos hzero]
    have hregistered : registered = 0 := by
      simp only [registered, Call.registered, hzero]
      split_ifs <;> rfl
    rw [ht, hregistered, Nat.add_zero, Nat.add_zero]
    exact ⟨le_rfl, fun _ ↦ rfl⟩
  · have ht : t = s.setRelayerReward rewarded params
        (some (Unsigned.saturatingAdd T.rewardBits (rewardOf s rewarded params) reward)) := by
      simp only [t, Call.apply, State.registerRelayerReward, if_neg hzero]
      rfl
    have hevents : t.events = s.events := by
      rw [ht]
      rfl
    rw [hevents, ht, rewardOf_setRelayerReward]
    by_cases hkey : rewarded = relayer ∧ params = rewardsAccountParams
    · obtain ⟨rfl, rfl⟩ := hkey
      have hregistered : registered = reward := if_pos ⟨rfl, rfl⟩
      have hle := Unsigned.saturatingAdd_le (w := T.rewardBits) (a := rewardOf s rewarded params)
        (b := reward)
      rw [if_pos ⟨rfl, rfl⟩, Option.getD_some, hregistered]
      refine ⟨by omega, fun hfits ↦ ?_⟩
      rw [Unsigned.saturatingAdd_of_lt hfits]
      omega
    · have hregistered : registered = 0 := if_neg hkey
      rw [if_neg hkey, hregistered, Nat.add_zero]
      exact ⟨le_rfl, fun _ ↦ rfl⟩

/-- **One call.**  What was paid, with what can still be claimed, grows by at most what the call
registers, and by all of it when the sum fits in `T::Reward`. -/
theorem paid_add_reward_apply (c : Call AccountId Params) :
    paidTo (c.apply T s).events relayer rewardsAccountParams +
        rewardOf (c.apply T s) relayer rewardsAccountParams ≤
      paidTo s.events relayer rewardsAccountParams + rewardOf s relayer rewardsAccountParams +
        c.registered relayer rewardsAccountParams ∧
    (rewardOf s relayer rewardsAccountParams + c.registered relayer rewardsAccountParams <
        2 ^ T.rewardBits →
      paidTo (c.apply T s).events relayer rewardsAccountParams +
          rewardOf (c.apply T s) relayer rewardsAccountParams =
        paidTo s.events relayer rewardsAccountParams + rewardOf s relayer rewardsAccountParams +
          c.registered relayer rewardsAccountParams) := by
  cases c with
  | claimRewards claimer params =>
    have hkeep := claimRewards_keeps_sum (T := T) (s := s) relayer rewardsAccountParams claimer
      params
    rw [Call.registered, Nat.add_zero]
    exact ⟨hkeep.le, fun _ ↦ hkeep⟩
  | register registrant validTill blockNumber requiredStake requiredRegistrationLease =>
    obtain ⟨hrewards, hpaid⟩ := register_keeps_rewards (T := T) (s := s) relayer
      rewardsAccountParams registrant validTill blockNumber requiredStake requiredRegistrationLease
    have hkeep := paidTo_add_rewardOf_of_keeps relayer rewardsAccountParams hrewards hpaid
    rw [Call.registered, Nat.add_zero]
    exact ⟨hkeep.le, fun _ ↦ hkeep⟩
  | deregister registrant blockNumber =>
    obtain ⟨hrewards, hpaid⟩ := deregister_keeps_rewards (T := T) (s := s) relayer
      rewardsAccountParams registrant blockNumber
    have hkeep := paidTo_add_rewardOf_of_keeps relayer rewardsAccountParams hrewards hpaid
    rw [Call.registered, Nat.add_zero]
    exact ⟨hkeep.le, fun _ ↦ hkeep⟩
  | slashAndDeregister slashed slashDestination =>
    obtain ⟨hrewards, hpaid⟩ := slashAndDeregister_keeps_rewards (T := T) (s := s) relayer
      rewardsAccountParams slashed slashDestination
    have hkeep := paidTo_add_rewardOf_of_keeps relayer rewardsAccountParams hrewards hpaid
    rw [Call.registered, Nat.add_zero]
    exact ⟨hkeep.le, fun _ ↦ hkeep⟩
  | registerRelayerReward params rewarded reward =>
    exact registerRelayerReward_sum relayer rewardsAccountParams params rewarded reward

end Rewards

/-- **A run.**  What was paid, with what can still be claimed, grows by at most what the run
registers, and by all of it when the sum fits in `T::Reward`. -/
theorem paid_add_reward_run (relayer : AccountId) (rewardsAccountParams : Params) :
    ∀ (calls : List (Call AccountId Params)) (s : State AccountId Params Payments),
      paidTo (run T s calls).events relayer rewardsAccountParams +
          rewardOf (run T s calls) relayer rewardsAccountParams ≤
        paidTo s.events relayer rewardsAccountParams + rewardOf s relayer rewardsAccountParams +
          registeredAlong calls relayer rewardsAccountParams ∧
      (rewardOf s relayer rewardsAccountParams + registeredAlong calls relayer rewardsAccountParams <
          2 ^ T.rewardBits →
        paidTo (run T s calls).events relayer rewardsAccountParams +
            rewardOf (run T s calls) relayer rewardsAccountParams =
          paidTo s.events relayer rewardsAccountParams + rewardOf s relayer rewardsAccountParams +
            registeredAlong calls relayer rewardsAccountParams)
  | [], s => by simp [run, registeredAlong]
  | c :: calls, s => by
    obtain ⟨hstep, hstepEq⟩ := paid_add_reward_apply (T := T) (s := s) relayer
      rewardsAccountParams c
    obtain ⟨hrest, hrestEq⟩ := paid_add_reward_run relayer rewardsAccountParams calls (c.apply T s)
    have hgrow : paidTo s.events relayer rewardsAccountParams ≤
        paidTo (c.apply T s).events relayer rewardsAccountParams := by
      obtain ⟨events, hevents⟩ := events_apply (T := T) (s := s) c
      rw [hevents, paidTo_append]
      exact Nat.le_add_right _ _
    simp only [run, List.foldl_cons, registeredAlong, List.map_cons, List.sum_cons] at hrest hrestEq ⊢
    refine ⟨by omega, fun hfits ↦ ?_⟩
    have heq := hstepEq (by omega)
    rw [hrestEq (by omega)]
    omega

/-! ## Runs from genesis -/

/-- **The relayers pallet.**  Along every run from genesis, the reserve of a relayer holds the
stake of its registration, or nothing without one, besides what its slashes could not
repatriate; a call never shortens a registration it leaves in place; `claim_rewards` either
leaves the storage as it was or pays the whole reward and removes it; and what was paid to a
relayer for a rewards account, with what it can still claim, is at most what was registered for
it, and all of it when that sum fits in `T::Reward`. -/
theorem relayers_run (free : AccountId → ℕ) (payments : Payments)
    (calls : List (Call AccountId Params)) :
    let s := run T (genesis free payments) calls
    (∀ relayer, s.currency.reserved relayer =
        stakeOf s relayer + unrepatriatedAlong T (genesis free payments) calls relayer) ∧
      (∀ (t : State AccountId Params Payments) (c : Call AccountId Params) (relayer : AccountId)
          (registration registration' : Registration),
        t.registeredRelayers relayer = some registration →
        (c.apply T t).registeredRelayers relayer = some registration' →
        registration.validTill ≤ registration'.validTill) ∧
      (∀ (t : State AccountId Params Payments) (relayer : AccountId)
          (rewardsAccountParams : Params),
        (Call.claimRewards relayer rewardsAccountParams).apply T t = t ∨
          ∃ reward payments, t.relayerRewards relayer rewardsAccountParams = some reward ∧
            T.payReward t.payments relayer rewardsAccountParams reward = some payments ∧
            (Call.claimRewards relayer rewardsAccountParams).apply T t =
              { t.setRelayerReward relayer rewardsAccountParams none with
                payments
                events := t.events ++ [.rewardPaid relayer rewardsAccountParams reward] }) ∧
      ∀ relayer rewardsAccountParams,
        paidTo s.events relayer rewardsAccountParams + rewardOf s relayer rewardsAccountParams ≤
            registeredAlong calls relayer rewardsAccountParams ∧
          (registeredAlong calls relayer rewardsAccountParams < 2 ^ T.rewardBits →
            paidTo s.events relayer rewardsAccountParams + rewardOf s relayer rewardsAccountParams =
              registeredAlong calls relayer rewardsAccountParams) := by
  intro s
  have hheld := stakeHeld_run T calls (genesis free payments) _ (stakeHeld_genesis free payments)
  refine ⟨fun relayer ↦ ?_, fun t c _ _ _ h h' ↦ validTill_le_apply T t c h h',
    fun t relayer rewardsAccountParams ↦ State.claimRewards_apply T relayer rewardsAccountParams
      (s := t), fun relayer rewardsAccountParams ↦ ?_⟩
  · have hrelayer := hheld relayer
    simp only [Nat.zero_add] at hrelayer
    exact hrelayer
  · obtain ⟨hle, heq⟩ := paid_add_reward_run T relayer rewardsAccountParams calls
      (genesis free payments)
    have hpaid : paidTo (genesis free payments : State AccountId Params Payments).events relayer
        rewardsAccountParams = 0 := rfl
    have hreward : rewardOf (genesis free payments : State AccountId Params Payments) relayer
        rewardsAccountParams = 0 := rfl
    simp only [hpaid, hreward, Nat.zero_add] at hle heq
    exact ⟨hle, heq⟩

/-- A runtime with the `u128` rewards of the Rialto runtime, whose payments never fail. -/
def u128Rewards : Config ℕ ℕ Unit :=
  ⟨128, fun _ _ _ _ ↦ some (), fun _ ↦ 0, fun ledger who ↦ ledger.free who != 0,
    Ledger.repatriateReservedNamed, Ledger.repatriateReservedNamed_laws⟩

/-- Rewards of `u128::MAX - 5` and `100` registered, then claimed: the saturated
`u128::MAX` is paid of the `2^128 + 94` registered. -/
theorem relayers_run_saturated :
    let calls : List (Call ℕ ℕ) :=
      [.registerRelayerReward 0 0 (2 ^ 128 - 6), .registerRelayerReward 0 0 100, .claimRewards 0 0]
    let s := run u128Rewards (genesis (fun _ ↦ 1) ()) calls
    paidTo s.events 0 0 + rewardOf s 0 0 = 2 ^ 128 - 1 ∧ registeredAlong calls 0 0 = 2 ^ 128 + 94 := by
  decide

end Relayers
