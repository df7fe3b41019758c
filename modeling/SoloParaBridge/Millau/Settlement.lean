import SoloParaBridge.Millau.Consensus
import SoloParaBridge.Millau.RoundInvariants

/-!
# Settling a round on `pallet_balances`

`issue_rewards` and `resolve_metadata_dispute` settle a round in three passes over the ledger,
each of which reads the round's lists again: `do_issue_rewards` pays the winners,
`release_tokens_of_participants` removes the round's lock from every committer, and
`burn_eligible_account_tokens` burns `FundsToLock` from the committers it finds eligible.  The
winning hash that `issue_rewards` records and sends over the bridge is not the hash consensus
decided on but the answer of the first winner's commitment, read back from `Commits`.

Elsewhere the currency is six operations that nothing is assumed of.  `pallet_balances` lies
outside this repository; what the settlement needs of it is stated as laws on the currency
(`BalancesLaws`), over the data `pallet_balances` keeps for an account, a free balance and a
list of locks, each with an identifier (`AccountData`): `remove_lock`, `resolve_creating` and
`settle` of a burn each rewrite the data of the one account they name.  `balancesCurrency` is
a currency that keeps them.  So each pass of a settlement is an instance of
`foldl_update_apply`, and what a settlement does is stated account by account (`Settlement`).  Over a round whose two lists agree
(`ListsAgree`, true of every reachable state), `issueRewards_resolveMetadataDispute_settlement`
shows that both dispatchables settle the round this way, and that the hash `issue_rewards`
records and sends is the majority hash.
-/

set_option autoImplicit false

namespace LogicProvider

open Millau Commitments

/-! ## `pallet_balances` -/

/-- What `pallet_balances` keeps for one account that the pallet's six operations read or write:
the free balance, and the locks, each an identifier and an amount, in the order they were set.
The pallet locks with `WithdrawReasons::all()` and never reserves, so the reasons of a lock and
the reserved balance are left out. -/
structure AccountData where
  /-- The free balance. -/
  free : ℕ
  /-- `Locks[who]`. -/
  locks : List (MetadataId × ℕ)
  deriving DecidableEq, Repr

namespace AccountData

/-- The amount of the lock with identifier `id`, if there is one. -/
def lock (a : AccountData) (id : MetadataId) : Option ℕ := a.locks.lookup id

/-- The balance the locks freeze: the largest of them. -/
def frozen (a : AccountData) : ℕ := (a.locks.map Prod.snd).foldr max 0

/-- The `filter_map` of `set_lock`: the first lock with the identifier takes the new amount and
any later one is dropped; when there is none, the new lock is pushed at the end. -/
def setLockList (id : MetadataId) (amount : ℕ) : List (MetadataId × ℕ) → List (MetadataId × ℕ)
  | [] => [(id, amount)]
  | lock :: locks =>
    if lock.1 = id then (id, amount) :: locks.filter fun l ↦ l.1 ≠ id
    else lock :: setLockList id amount locks

/-- `set_lock(id, who, amount, WithdrawReasons::all())`, which does nothing for a zero amount. -/
def setLock (id : MetadataId) (amount : ℕ) (a : AccountData) : AccountData :=
  if amount = 0 then a else { a with locks := setLockList id amount a.locks }

/-- `remove_lock(id, who)`: the locks of every other identifier are retained. -/
def removeLock (id : MetadataId) (a : AccountData) : AccountData :=
  { a with locks := a.locks.filter fun l ↦ l.1 ≠ id }

/-- `resolve_creating(who, issue(amount))`: the amount is added to the free balance.  The pallet
pays committers only, whose accounts exist, so the refusal of `deposit_creating` to create an
account below the existential deposit does not arise. -/
def deposit (amount : ℕ) (a : AccountData) : AccountData := { a with free := a.free + amount }

/-- `settle(who, burn(amount), WithdrawReasons::all(), KeepAlive)`, which withdraws the amount.
The withdrawal fails when the free balance does not cover it, when it would take an account that
holds the existential deposit below it, or when what is left is below the frozen balance; a
failed one changes nothing, since the burnt imbalance is dropped with it. -/
def burn (existentialDeposit amount : ℕ) (a : AccountData) : AccountData :=
  if amount ≤ a.free ∧ ¬(a.free - amount < existentialDeposit ∧ existentialDeposit ≤ a.free) ∧
      (amount = 0 ∨ a.frozen ≤ a.free - amount) then
    { a with free := a.free - amount }
  else a

@[simp] theorem removeLock_free (id : MetadataId) (a : AccountData) :
    (a.removeLock id).free = a.free := rfl

@[simp] theorem deposit_locks (amount : ℕ) (a : AccountData) :
    (a.deposit amount).locks = a.locks := rfl

@[simp] theorem burn_locks (existentialDeposit amount : ℕ) (a : AccountData) :
    (a.burn existentialDeposit amount).locks = a.locks := by
  unfold burn
  split_ifs <;> rfl

@[simp] theorem lock_burn (existentialDeposit amount : ℕ) (a : AccountData) (id : MetadataId) :
    (a.burn existentialDeposit amount).lock id = a.lock id := by
  rw [lock, lock, burn_locks]

/-- `remove_lock` leaves no lock of its identifier. -/
theorem lock_removeLock (id : MetadataId) (a : AccountData) : (a.removeLock id).lock id = none := by
  rw [lock, List.lookup_eq_none_iff]
  intro l hl
  rw [removeLock, List.mem_filter, decide_eq_true_eq] at hl
  exact bne_iff_ne.mpr (Ne.symm hl.2)

end AccountData

variable {AccountId : Type} [DecidableEq AccountId]

/-- `T::LocalCurrency = pallet_balances::Pallet`, over the data of every account; the
existential deposit is the one `withdraw` keeps an account alive with. -/
def balancesCurrency (existentialDeposit : ℕ) : Currency AccountId (AccountId → AccountData) where
  freeBalance ledger who := (ledger who).free
  ensureCanWithdraw ledger who amount newBalance :=
    decide (amount = 0 ∨ (ledger who).frozen ≤ newBalance)
  setLock ledger m who amount := Function.update ledger who ((ledger who).setLock m amount)
  removeLock ledger m who := Function.update ledger who ((ledger who).removeLock m)
  issueResolveCreating ledger who amount := Function.update ledger who ((ledger who).deposit amount)
  burnSettle ledger who amount :=
    Function.update ledger who ((ledger who).burn existentialDeposit amount)

/-- **What the settlement asks of `T::LocalCurrency`**: `remove_lock` drops the locks of its
identifier from the account it names, `resolve_creating` of an issue credits the account, and
`settle` of a burn withdraws from it as `AccountData.burn` does, under the existential deposit
`existentialDeposit`; no other account changes. -/
structure BalancesLaws (currency : Currency AccountId (AccountId → AccountData))
    (existentialDeposit : ℕ) : Prop where
  removeLock_eq : ∀ ledger m who,
    currency.removeLock ledger m who = Function.update ledger who ((ledger who).removeLock m)
  issueResolveCreating_eq : ∀ ledger who amount,
    currency.issueResolveCreating ledger who amount =
      Function.update ledger who ((ledger who).deposit amount)
  burnSettle_eq : ∀ ledger who amount,
    currency.burnSettle ledger who amount =
      Function.update ledger who ((ledger who).burn existentialDeposit amount)

theorem balancesCurrency_laws (existentialDeposit : ℕ) :
    BalancesLaws (balancesCurrency existentialDeposit : Currency AccountId _) existentialDeposit :=
  ⟨fun _ _ _ ↦ rfl, fun _ _ _ ↦ rfl, fun _ _ _ ↦ rfl⟩

/-! ## The committers a settlement burns -/

section Eligible

variable {Hash Public Ledger : Type} [LinearOrder Hash] {T : Config AccountId Hash Public Ledger}

/-- `who` is one of the committers `burn_eligible_account_tokens` burns when `hash` is the correct
answer: its answer is not `hash`, or burning is enforced and it did not reveal in the window. -/
def BurnEligible (s : State T) (m : MetadataId) (hash : Hash) (who : AccountId) : Prop :=
  ∃ c ∈ (s.commits m).toList, c.submitter = who ∧
    (c.fulfillment ≠ some hash ∨ (T.enforceBurningTokens = true ∧ c.inRevealPeriod = false))

instance (s : State T) (m : MetadataId) (hash : Hash) (who : AccountId) :
    Decidable (BurnEligible s m hash who) :=
  inferInstanceAs (Decidable (∃ c ∈ (s.commits m).toList, _))

omit [DecidableEq AccountId] [LinearOrder Hash] in
theorem BurnEligible.mem_submitters {s : State T} {m : MetadataId} {hash : Hash} {who : AccountId}
    (h : BurnEligible s m hash who) : who ∈ (s.commits m).toList.map Commitment.submitter := by
  obtain ⟨c, hc, rfl, -⟩ := h
  exact List.mem_map_of_mem hc

omit [DecidableEq AccountId] in
/-- The accounts `burn_eligible_account_tokens` collects are the eligible ones. -/
theorem mem_burnEligible {s : State T} {m : MetadataId} {hash : Hash} {who : AccountId} :
    who ∈ ((s.commits m).toList.filter fun c ↦
        c.fulfillment != some hash || (T.enforceBurningTokens && !c.inRevealPeriod)).map
      Commitment.submitter ↔ BurnEligible s m hash who := by
  simp only [List.mem_map, List.mem_filter, Bool.or_eq_true, bne_iff_ne, Bool.and_eq_true,
    Bool.not_eq_true', BurnEligible]
  constructor
  · rintro ⟨c, ⟨hc, hburn⟩, rfl⟩
    exact ⟨c, hc, rfl, hburn⟩
  · rintro ⟨c, hc, rfl, hburn⟩
    exact ⟨c, ⟨hc, hburn⟩, rfl⟩

omit [DecidableEq AccountId] [LinearOrder Hash] in
theorem RevealedInWindow.mem_submitters {s : State T} {m : MetadataId} {hash : Hash}
    {who : AccountId} (h : RevealedInWindow s m hash who) :
    who ∈ (s.commits m).toList.map Commitment.submitter := by
  obtain ⟨c, hc, rfl, -⟩ := h
  exact List.mem_map_of_mem hc

omit [DecidableEq AccountId] [LinearOrder Hash] in
/-- A committer that revealed `hash` in the window is not burned for it — provided it committed
once, so that the commitment it revealed is its only one. -/
theorem not_burnEligible_of_revealedInWindow {s : State T} {m : MetadataId} {hash : Hash}
    {who : AccountId} (hS : ((s.commits m).toList.map Commitment.submitter).Nodup)
    (h : RevealedInWindow s m hash who) : ¬BurnEligible s m hash who := by
  obtain ⟨c, hc, hsubmitter, hfulfillment, hflag⟩ := h
  rintro ⟨c', hc', hsubmitter', hburn⟩
  have hsame : c' = c := List.inj_on_of_nodup_map hS hc' hc (hsubmitter'.trans hsubmitter.symm)
  subst hsame
  rcases hburn with hwrong | ⟨-, hunflagged⟩
  · exact hwrong hfulfillment
  · rw [hflag] at hunflagged
    cases hunflagged

end Eligible

/-! ## The three passes over the ledger -/

section Passes

variable {Hash Public : Type} [LinearOrder Hash]
  {T : Config AccountId Hash Public (AccountId → AccountData)} {existentialDeposit : ℕ}

omit [LinearOrder Hash] in
/-- `do_issue_rewards` over winners that name no account twice pays each of them once. -/
theorem doIssueRewards_apply (hT : BalancesLaws T.currency existentialDeposit)
    {winners : List AccountId} (hW : winners.Nodup) (ledger : AccountId → AccountData)
    (reward : ℕ) (who : AccountId) :
    doIssueRewards T ledger winners reward who =
      if who ∈ winners then (ledger who).deposit reward else ledger who := by
  simp only [doIssueRewards, hT.issueResolveCreating_eq]
  exact foldl_update_apply (AccountData.deposit reward) hW ledger who

omit [LinearOrder Hash] in
/-- `release_tokens_of_participants` removes the round's lock from each committer. -/
theorem releaseTokensOfParticipants_apply (hT : BalancesLaws T.currency existentialDeposit)
    {s : State T} {m : MetadataId} (hS : ((s.commits m).toList.map Commitment.submitter).Nodup)
    (who : AccountId) :
    releaseTokensOfParticipants s m who =
      if who ∈ (s.commits m).toList.map Commitment.submitter then (s.ledger who).removeLock m
      else s.ledger who := by
  rw [releaseTokensOfParticipants]
  simp only [releaseTokens, hT.removeLock_eq]
  exact foldl_update_apply (AccountData.removeLock m) hS s.ledger who

/-- `burn_eligible_account_tokens` burns `FundsToLock` once from each eligible committer. -/
theorem burnEligibleAccountTokens_apply (hT : BalancesLaws T.currency existentialDeposit)
    {s : State T} {m : MetadataId} (hS : ((s.commits m).toList.map Commitment.submitter).Nodup)
    (hash : Hash) (who : AccountId) :
    burnEligibleAccountTokens s hash m who =
      if BurnEligible s m hash who then (s.ledger who).burn existentialDeposit T.fundsToLock
      else s.ledger who := by
  have hE : (((s.commits m).toList.filter fun c ↦
      c.fulfillment != some hash || (T.enforceBurningTokens && !c.inRevealPeriod)).map
        Commitment.submitter).Nodup :=
    ((List.filter_sublist).map Commitment.submitter).nodup hS
  rw [burnEligibleAccountTokens]
  simp only [burnTokens, hT.burnSettle_eq]
  refine (foldl_update_apply (AccountData.burn existentialDeposit T.fundsToLock) hE s.ledger
    who).trans ?_
  simp only [mem_burnEligible]

omit [DecidableEq AccountId] in
/-- A settlement burns after it releases. -/
theorem settleRound_ledger (s : State T) (m : MetadataId) (hash : Hash) :
    (settleRound s m hash).ledger =
      burnEligibleAccountTokens { s with ledger := releaseTokensOfParticipants s m } hash m :=
  rfl

/-- **Settling a round, account by account**: an eligible committer has its lock removed and
`FundsToLock` burned, any other committer has its lock removed, and no other account changes. -/
theorem settleRound_ledger_apply (hT : BalancesLaws T.currency existentialDeposit)
    {s : State T} {m : MetadataId} (hS : ((s.commits m).toList.map Commitment.submitter).Nodup)
    (hash : Hash) (who : AccountId) :
    (settleRound s m hash).ledger who =
      if BurnEligible s m hash who then
        ((s.ledger who).removeLock m).burn existentialDeposit T.fundsToLock
      else if who ∈ (s.commits m).toList.map Commitment.submitter then (s.ledger who).removeLock m
      else s.ledger who := by
  rw [settleRound_ledger,
    burnEligibleAccountTokens_apply (s := { s with ledger := releaseTokensOfParticipants s m }) hT hS]
  change (if BurnEligible s m hash who then _ else _) = _
  dsimp only
  rw [releaseTokensOfParticipants_apply hT hS]
  by_cases heligible : BurnEligible s m hash who
  · rw [if_pos heligible, if_pos heligible, if_pos heligible.mem_submitters]
  · rw [if_neg heligible, if_neg heligible]

end Passes

/-! ## What a settlement does -/

section Settlement

variable {Hash Public : Type} [LinearOrder Hash]
  {T : Config AccountId Hash Public (AccountId → AccountData)}

/-- **What a settlement does to the ledger**, account by account: round `m` of `s` is settled with
`hash` as the correct answer and `winners` paid `reward` each, leaving `ledger`. -/
structure Settlement (existentialDeposit : ℕ) (s : State T) (ledger : AccountId → AccountData)
    (m : MetadataId) (hash : Hash) (winners : List AccountId) (reward : ℕ) : Prop where
  /-- No committer of the round is left with the round's lock. -/
  lock_removed : ∀ who ∈ (s.commits m).toList.map Commitment.submitter,
    (ledger who).lock m = none
  /-- A winner is paid the reward once and loses the round's lock. -/
  rewarded : ∀ who ∈ winners, ledger who = ((s.ledger who).deposit reward).removeLock m
  /-- An eligible committer loses the round's lock and has `FundsToLock` burned once. -/
  burned : ∀ who, BurnEligible s m hash who →
    ledger who = ((s.ledger who).removeLock m).burn existentialDeposit T.fundsToLock
  /-- Any other committer only loses the round's lock. -/
  released : ∀ who ∈ (s.commits m).toList.map Commitment.submitter, who ∉ winners →
    ¬BurnEligible s m hash who → ledger who = (s.ledger who).removeLock m
  /-- No other account changes. -/
  untouched : ∀ who ∉ (s.commits m).toList.map Commitment.submitter, ledger who = s.ledger who
  /-- No winner is burned. -/
  winners_not_burned : ∀ who ∈ winners, ¬BurnEligible s m hash who

variable {existentialDeposit : ℕ}

/-- Paying winners that revealed `hash` in the window and then settling the round on `hash` is a
`Settlement`, whatever is recorded as the round's state in between. -/
theorem settleRound_doIssueRewards_settlement (hT : BalancesLaws T.currency existentialDeposit)
    {s : State T} {m : MetadataId} (hS : ((s.commits m).toList.map Commitment.submitter).Nodup)
    {hash : Hash} {winners : List AccountId} (hW : winners.Nodup)
    (hrevealed : ∀ who ∈ winners, RevealedInWindow s m hash who) (reward : ℕ)
    (roundStates : MetadataId → Option RoundState) :
    Settlement existentialDeposit s (settleRound { s with
      ledger := doIssueRewards T s.ledger winners reward, roundStates } m hash).ledger
      m hash winners reward := by
  have hwinners : ∀ who ∈ winners, ¬BurnEligible s m hash who :=
    fun who hwho ↦ not_burnEligible_of_revealedInWindow hS (hrevealed who hwho)
  have hledger : ∀ who, (settleRound { s with
      ledger := doIssueRewards T s.ledger winners reward, roundStates } m hash).ledger who =
      if BurnEligible s m hash who then
        ((s.ledger who).removeLock m).burn existentialDeposit T.fundsToLock
      else if who ∈ (s.commits m).toList.map Commitment.submitter then
        ((if who ∈ winners then (s.ledger who).deposit reward else s.ledger who)).removeLock m
      else s.ledger who := by
    intro who
    rw [settleRound_ledger_apply
      (s := { s with ledger := doIssueRewards T s.ledger winners reward, roundStates }) hT hS hash who]
    dsimp only
    change (if BurnEligible s m hash who then _ else _) = _
    rw [doIssueRewards_apply hT hW]
    by_cases heligible : BurnEligible s m hash who
    · have hloser : who ∉ winners := fun hwho ↦ hwinners who hwho heligible
      rw [if_pos heligible, if_pos heligible, if_neg hloser]
    · rw [if_neg heligible, if_neg heligible]
      by_cases hcommitted : who ∈ (s.commits m).toList.map Commitment.submitter
      · rw [if_pos hcommitted, if_pos hcommitted]
      · have hloser : who ∉ winners := fun hwho ↦ hcommitted (hrevealed who hwho).mem_submitters
        rw [if_neg hcommitted, if_neg hcommitted, if_neg hloser]
  refine ⟨fun who hcommitted ↦ ?_, fun who hwho ↦ ?_, fun who heligible ↦ ?_,
    fun who hcommitted hloser heligible ↦ ?_, fun who hcommitted ↦ ?_, hwinners⟩
  · rw [hledger who]
    by_cases heligible : BurnEligible s m hash who
    · rw [if_pos heligible, AccountData.lock_burn]
      exact AccountData.lock_removeLock m _
    · rw [if_neg heligible, if_pos hcommitted]
      exact AccountData.lock_removeLock m _
  · rw [hledger who, if_neg (hwinners who hwho),
      if_pos (hrevealed who hwho).mem_submitters, if_pos hwho]
  · rw [hledger who, if_pos heligible]
  · rw [hledger who, if_neg heligible, if_pos hcommitted, if_neg hloser]
  · have heligible : ¬BurnEligible s m hash who := fun h ↦ hcommitted h.mem_submitters
    rw [hledger who, if_neg heligible, if_neg hcommitted]

/-- The winners of a round whose two lists agree: each account once, and each revealed the hash
consensus decided on in the window. -/
theorem ListsAgree.winners_revealed {s : State T} {m : MetadataId}
    {forceCorrectResult : Option Hash} {winners : List AccountId} {reward : ℕ}
    (hagree : ListsAgree (s.round m))
    (hcalc : calculateRewards s m forceCorrectResult = .ok (winners, reward)) :
    ∃ hash, getMostFrequentHash s.majorityType (finalSubmissions s m) forceCorrectResult =
        .ok hash ∧
      winners.Nodup ∧ ∀ who ∈ winners, RevealedInWindow s m hash who := by
  have haccounts : (s.commitmentBlockNumbers m).toList.map Prod.fst =
      (s.commits m).toList.map Commitment.submitter := hagree.accounts_eq
  have hnodup : ((s.commitmentBlockNumbers m).toList.map Prod.fst).Nodup := by
    rw [haccounts]
    exact hagree.nodup
  obtain ⟨hash, hhash, hW, -, hwinners⟩ := calculateRewards_winners hnodup hcalc
  exact ⟨hash, hhash, hW, fun who hwho ↦ ((hwinners who).mp hwho).1⟩

/-- `issue_rewards` on success settles the round on the majority hash, and records and sends that
hash. -/
theorem issueRewards_settlement (hT : BalancesLaws T.currency existentialDeposit)
    {s t : State T} {m : MetadataId} (hagree : ListsAgree (s.round m))
    (h : issueRewards s .none m = some (.ok t)) :
    ∃ hash winners reward,
      getMostFrequentHash s.majorityType (finalSubmissions s m) none = .ok hash ∧
      calculateRewards s m none = .ok (winners, reward) ∧
      Settlement existentialDeposit s t.ledger m hash winners reward ∧
      t.processedHashes m = some hash ∧ t.sentProofs = s.sentProofs ++ [(m, hash)] := by
  obtain ⟨winners, reward, first, c, winningHash, hcalc, hfirst, hfind, hfulfillment, rfl⟩ :=
    issueRewards_eq_some_ok h
  have hS : ((s.commits m).toList.map Commitment.submitter).Nodup := hagree.nodup
  obtain ⟨hash, hhash, hW, hrevealed⟩ := hagree.winners_revealed hcalc
  obtain ⟨c', hc', hsubmitter', hfulfillment', -⟩ := hrevealed first (List.mem_of_mem_head? hfirst)
  have hsubmitter : c.submitter = first := by simpa using List.find?_some hfind
  have hsame : c = c' := List.inj_on_of_nodup_map hS (List.mem_of_find?_eq_some hfind) hc'
    (hsubmitter.trans hsubmitter'.symm)
  have hwinning : winningHash = hash := by
    rw [hsame, hfulfillment'] at hfulfillment
    exact (Option.some.inj hfulfillment).symm
  subst hwinning
  refine ⟨winningHash, winners, reward, hhash, hcalc,
    settleRound_doIssueRewards_settlement hT hS hW hrevealed reward _, ?_, rfl⟩
  exact Function.update_self m (some winningHash) s.processedHashes

/-- `resolve_metadata_dispute` on success settles the round on the forced hash. -/
theorem resolveMetadataDispute_settlement (hT : BalancesLaws T.currency existentialDeposit)
    {s t : State T} {origin : Origin AccountId} {m : MetadataId} {forceHash : Hash}
    (hagree : ListsAgree (s.round m)) (h : resolveMetadataDispute s origin m forceHash = .ok t) :
    ∃ winners reward, calculateRewards s m (some forceHash) = .ok (winners, reward) ∧
      Settlement existentialDeposit s t.ledger m forceHash winners reward := by
  obtain ⟨-, -, winners, reward, hcalc, rfl⟩ := resolveMetadataDispute_eq_ok h
  obtain ⟨hash, hhash, hW, hrevealed⟩ := hagree.winners_revealed hcalc
  have hforced : (Except.ok forceHash : Except Error Hash) = .ok hash := hhash
  obtain rfl := Except.ok.inj hforced
  exact ⟨winners, reward, hcalc,
    settleRound_doIssueRewards_settlement hT hagree.nodup hW hrevealed reward _⟩

/-- **Settling a round.**  Over a round whose two lists agree, with `pallet_balances` as the
currency: when `issue_rewards` succeeds, the deciding hash is the majority hash, and when
`resolve_metadata_dispute` succeeds it is the forced hash.  Either way the round is settled on it
account by account (`Settlement`): every committer loses the round's lock; the eligible
committers — a wrong answer, or no reveal in the window while burning is enforced — have
`FundsToLock` burned once and are never winners; the winners are paid once.  `issue_rewards`
records the majority hash in `ProcessedHashes` and sends it over the bridge. -/
theorem issueRewards_resolveMetadataDispute_settlement (existentialDeposit : ℕ)
    (hT : BalancesLaws T.currency existentialDeposit) {s : State T} {m : MetadataId}
    (hagree : ListsAgree (s.round m)) :
    (∀ t, issueRewards s .none m = some (.ok t) →
      ∃ hash winners reward,
        getMostFrequentHash s.majorityType (finalSubmissions s m) none = .ok hash ∧
        calculateRewards s m none = .ok (winners, reward) ∧
        Settlement existentialDeposit s t.ledger m hash winners reward ∧
        t.processedHashes m = some hash ∧ t.sentProofs = s.sentProofs ++ [(m, hash)]) ∧
    (∀ origin forceHash t, resolveMetadataDispute s origin m forceHash = .ok t →
      ∃ winners reward, calculateRewards s m (some forceHash) = .ok (winners, reward) ∧
        Settlement existentialDeposit s t.ledger m forceHash winners reward) :=
  ⟨fun _ h ↦ issueRewards_settlement hT hagree h,
    fun _ _ _ h ↦ resolveMetadataDispute_settlement hT hagree h⟩

end Settlement

/-- The configuration of the Millau runtime built with `runtime-benchmarks`, with its currency,
`Balances`, and its `ExistentialDeposit` of `500`. -/
def millauBalancesConfig : Config ℕ ℕ ℕ (ℕ → AccountData) :=
  { millauBenchmarksConfig with currency := balancesCurrency 500 }

/-- A disputed round of metadata id `0` with three committers, all revealed in the window: `1`
committed to the hash `0` in block `2`, `2` to `0` in block `3`, and `3` to `1` in block `3`.
Each holds `10^12` and the round's lock of `FundsToLock`. -/
def disputedRoundOfThree : State millauBalancesConfig where
  blockNumber := 10
  commits := fun _ ↦ ⟨[⟨10, some 0, 1, true⟩, ⟨11, some 0, 2, true⟩, ⟨12, some 1, 3, true⟩],
    by decide⟩
  revealWindow := fun _ ↦ none
  commitmentBlockNumbers := fun _ ↦ ⟨[(1, 2), (2, 3), (3, 3)], by decide⟩
  majorityType := .twoThirds
  roundStates := fun _ ↦ some .disputed
  processedHashes := fun _ ↦ none
  ledger := fun _ ↦ ⟨1000000000000, [(0, 500000000000)]⟩
  sentProofs := []

/-- `issue_rewards` settles the round on `0`, the answer of two of three, paying `1` and burning
`3`; the `ForceOrigin` may instead settle it on `1`, paying `3` and burning `1` and `2`. -/
theorem issueRewards_resolveMetadataDispute_settlement_disputedRoundOfThree :
    BalancesLaws millauBalancesConfig.currency 500 ∧
      ListsAgree (disputedRoundOfThree.round 0) ∧
      (∃ t, issueRewards disputedRoundOfThree .none 0 = some (.ok t) ∧
        ∃ hash winners reward,
          getMostFrequentHash disputedRoundOfThree.majorityType
            (finalSubmissions disputedRoundOfThree 0) none = .ok hash ∧
          calculateRewards disputedRoundOfThree 0 none = .ok (winners, reward) ∧
          Settlement 500 disputedRoundOfThree t.ledger 0 hash winners reward ∧
          t.processedHashes 0 = some hash ∧
          t.sentProofs = disputedRoundOfThree.sentProofs ++ [(0, hash)]) ∧
      (∃ t, resolveMetadataDispute disputedRoundOfThree .root 0 1 = .ok t ∧
        ∃ winners reward, calculateRewards disputedRoundOfThree 0 (some 1) = .ok (winners, reward) ∧
          Settlement 500 disputedRoundOfThree t.ledger 0 1 winners reward) := by
  have hT : BalancesLaws millauBalancesConfig.currency 500 := balancesCurrency_laws 500
  have hagree : ListsAgree (disputedRoundOfThree.round 0) := ⟨rfl, by decide⟩
  have hsorted : ((disputedRoundOfThree.commitmentBlockNumbers 0).toList.mergeSort
      fun a b ↦ decide (a.2 ≤ b.2)) = (disputedRoundOfThree.commitmentBlockNumbers 0).toList :=
    List.mergeSort_of_pairwise (by decide)
  obtain ⟨t, ht⟩ : ∃ t, issueRewards disputedRoundOfThree .none 0 = some (.ok t) := by
    have hcalc : calculateRewards disputedRoundOfThree 0 none = .ok ([1], 1000000000000000) := by
      rw [calculateRewards]
      dsimp only
      rw [hsorted]
      decide
    rw [issueRewards, hcalc]
    exact ⟨_, rfl⟩
  obtain ⟨t', ht'⟩ : ∃ t, resolveMetadataDispute disputedRoundOfThree .root 0 1 = .ok t := by
    have hcalc : calculateRewards disputedRoundOfThree 0 (some 1) = .ok ([3], 1000000000000000) := by
      rw [calculateRewards]
      dsimp only
      rw [hsorted]
      decide
    rw [resolveMetadataDispute, hcalc]
    exact ⟨_, rfl⟩
  have hsettle := issueRewards_resolveMetadataDispute_settlement 500 hT hagree
  exact ⟨hT, hagree, ⟨t, ht, hsettle.1 t ht⟩, ⟨t', ht', hsettle.2 _ _ t' ht'⟩⟩

end LogicProvider
