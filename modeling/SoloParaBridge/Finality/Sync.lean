import SoloParaBridge.Finality.Loop
import SoloParaBridge.Grandpa.Authorities

/-!
# The finality bridge: relayers and the GRANDPA pallet

The GRANDPA pallet at the target chain follows the finality of the bridged chain as finality
relays feed it.  `World` puts together the pallet's storage, the loop of each relayer (any number
of them, indexed by any type) and the transactions they submitted that are not in a block yet.
Any party moves at any time (`Event`): a relayer runs an iteration against the pallet's best
finalized header as it is then, its finality proofs stream yields proofs, its tracker ends, or it
restarts; a pending transaction lands in a block, where the pallet dispatches it under the
storage layer, or it is lost; or some other call of the pallet is made.  A relayer's reads go
stale: its transaction may land after others moved the pallet on.

The relay's mandatory headers are those that schedule a change of the authority set:
`SyncHeader::is_mandatory` asks `GrandpaConsensusLogReader` for a scheduled change, the lookup the
pallet's `try_enact_authority_change` makes.  A pallet that skipped one would keep authorities the
bridged chain no longer uses.  `Synced` says that it never happens: the pallet imported headers
of the chain only, in order, and every header that changes the authority set up to its best
(`Checkpoints.Visits`); each pending transaction does not pass the first such header above the
pallet's best (`Checkpoints.StopsAt`), which the relay's selection ensures when the transaction
is made and which stays true as the best goes up; and each relayer's buffer keeps its proofs with
their own numbers.

`run_follows_chain` reads it off every run from a pallet initialized at a header of the chain:
the pallet's best finalized header is a header of the chain, its authorities are those that the
last change the chain scheduled up to there names (`Grandpa.Config.authoritiesAfter`), and its
authority set id is the initial one plus the number of changes the chain scheduled since, in
`u64` arithmetic: the pallet verifies the next justification with the chain's own authority set.

Only the relayers submit finality proofs.  A justification goes to the pallet as the relay
selected it: `optimize_proof`, which drops redundant votes first, is left out, and nothing here
depends on the justification.
-/

set_option autoImplicit false

/-- `FinalityProof::target_header_number` of a justification: its commit's target number. -/
def HeaderChain.GrandpaJustification.targetHeaderNumber {Header Hash AuthorityId Signature : Type}
    (justification : HeaderChain.GrandpaJustification Header Hash AuthorityId Signature) : ℕ :=
  justification.commit.targetNumber

namespace Finality

open Checkpoints HeaderChain
open LogicProvider (Origin)
open Grandpa (Imports)

variable {BridgedHeader Hash AuthorityId Signature AccountId R : Type}

/-- The bridged chain: the width of its block numbers, its finalized header of each number, and the
justification its node keeps for some of them. -/
structure BridgedChain (T : Grandpa.Config BridgedHeader Hash AuthorityId Signature) where
  numberBits : ℕ
  header : ℕ → BridgedHeader
  number_header : ∀ n, T.number (header n) = n
  persistentJustification : ℕ → Option (GrandpaJustification BridgedHeader Hash AuthorityId Signature)

namespace BridgedChain

variable {T : Grandpa.Config BridgedHeader Hash AuthorityId Signature} (chain : BridgedChain T)

/-- `SyncHeader::is_mandatory`: `GrandpaConsensusLogReader::schedules_authorities_change`, that
is `find_scheduled_change(..).is_some()`. -/
def isMandatory (n : ℕ) : Bool :=
  (T.findScheduledChange (chain.header n)).isSome

/-- What the relay's source client answers for each number (`header_and_finality_proof`). -/
def source : SourceChain (GrandpaJustification BridgedHeader Hash AuthorityId Signature) :=
  ⟨chain.numberBits, chain.isMandatory, chain.persistentJustification⟩

end BridgedChain

/-- What each relayer runs with: its `FinalitySyncParams`, and the account that signs its
transactions. -/
structure Relayers (R AccountId : Type) where
  syncParams : R → FinalitySyncParams
  signer : R → AccountId

/-- The bridge: the pallet's storage, the loop of each relayer, and the transactions submitted
and not in a block yet. -/
structure World (T : Grandpa.Config BridgedHeader Hash AuthorityId Signature) (AccountId R : Type) where
  pallet : Grandpa.State T AccountId
  loops : R → LoopState (GrandpaJustification BridgedHeader Hash AuthorityId Signature)
  pool : List (Grandpa.Call BridgedHeader Hash AuthorityId Signature AccountId)

/-- What can happen next, and who makes it happen. -/
inductive Event (R Proof Call : Type) where
  /-- The relayer runs an iteration of its loop; the source's best finalized number is given. -/
  | iterate (relayer : R) (bestNumberAtSource : ℕ)
  /-- The relayer's finality proofs stream yields proofs. -/
  | receive (relayer : R) (finalityProofs : List Proof)
  /-- The tracker of the relayer's last transaction ends. -/
  | trackerEnds (relayer : R) (status : TrackedTransactionStatus)
  /-- The relayer loses a connection, and its loop starts again. -/
  | restart (relayer : R)
  /-- The pending transaction at `index` is mined: it lands in a block. -/
  | mine (index : ℕ)
  /-- The pending transaction at `index` is lost. -/
  | drop (index : ℕ)
  /-- Some other call of the pallet, or one of its hooks. -/
  | call (call : Call)

namespace World

variable {T : Grandpa.Config BridgedHeader Hash AuthorityId Signature}

/-- The transaction `Transaction::submit` sends: `submit_finality_proof` of the chain's header of
the selected number, with its justification, signed by the relayer. -/
def submission (chain : BridgedChain T) (signer : AccountId) (header : Header)
    (justification : GrandpaJustification BridgedHeader Hash AuthorityId Signature) :
    Grandpa.Call BridgedHeader Hash AuthorityId Signature AccountId :=
  .submitFinalityProof (.signed signer) (chain.header header.number) justification

/-- The bridge once the pallet is initialized: no relayer has run, and nothing is pending. -/
def start (pallet : Grandpa.State T AccountId) : World T AccountId R :=
  ⟨pallet, fun _ ↦ .init, []⟩

variable [HeaderT BridgedHeader Hash] [DecidableEq R] [DecidableEq Hash] [DecidableEq AuthorityId]
  [DecidableEq AccountId]

/-- The bridge's moves; `none` when the event cannot happen, or a relayer panics, or a call does
not return. -/
def step (chain : BridgedChain T) (relayers : Relayers R AccountId) (w : World T AccountId R) :
    Event R (GrandpaJustification BridgedHeader Hash AuthorityId Signature)
      (Grandpa.Call BridgedHeader Hash AuthorityId Signature AccountId) →
    Option (World T AccountId R)
  | .iterate relayer bestNumberAtSource =>
    -- `best_finalized_source_block_id` reads the pallet's best finalized header
    w.pallet.bestFinalized.bind fun best ↦
      ((w.loops relayer).iterate GrandpaJustification.targetHeaderNumber chain.source
          (relayers.syncParams relayer) bestNumberAtSource best.number).map fun result ↦
        { w with
          loops := Function.update w.loops relayer result.1
          pool := w.pool ++ (result.2.map fun submitted ↦
            submission chain (relayers.signer relayer) submitted.1 submitted.2).toList }
  | .receive relayer finalityProofs =>
    some { w with
      loops := Function.update w.loops relayer ((w.loops relayer).receive finalityProofs) }
  | .trackerEnds relayer status =>
    w.pallet.bestFinalized.bind fun best ↦
      ((w.loops relayer).trackerEnds status best.number).map fun loopState ↦
        { w with loops := Function.update w.loops relayer loopState }
  | .restart relayer => some { w with loops := Function.update w.loops relayer .init }
  | .mine index =>
    w.pool[index]?.bind fun call ↦
      (w.pallet.apply call).map fun pallet ↦ { w with pallet, pool := w.pool.eraseIdx index }
  | .drop index =>
    if index < w.pool.length then some { w with pool := w.pool.eraseIdx index } else none
  | .call call =>
    -- finality proofs come from the relayers
    if call.finalityTarget?.isSome then none
    else (w.pallet.apply call).map fun pallet ↦ { w with pallet }

end World

/-! ## The invariant -/

section Invariant

variable {T : Grandpa.Config BridgedHeader Hash AuthorityId Signature} (chain : BridgedChain T)
  (initData : Grandpa.InitializationData BridgedHeader AuthorityId) (n₀ : ℕ)

/-- The pallet was initialized at the chain's header `n₀` and then imported the chain's headers
`numbers`, in order, skipping none of those that change the authority set. -/
structure FollowsChain [HeaderT BridgedHeader Hash] (s : Grandpa.State T AccountId)
    (numbers : List ℕ) : Prop where
  imports : Imports s initData (numbers.map chain.header)
  authorities : s.currentAuthoritySet.authorities.toList =
    T.authoritiesAfter initData.authorityList (numbers.map chain.header)
  visits : Visits chain.isMandatory n₀ (last n₀ numbers) numbers

/-- Each pending transaction imports a header of the chain that does not pass the first header
above `best` that changes the authority set. -/
def Pending (best : ℕ) (pool : List (Grandpa.Call BridgedHeader Hash AuthorityId Signature AccountId)) :
    Prop :=
  ∀ call ∈ pool, ∃ origin n justification, call = .submitFinalityProof origin (chain.header n)
    justification ∧ StopsAt chain.isMandatory best n

/-- **The invariant of the bridge.** -/
structure Synced [HeaderT BridgedHeader Hash] (w : World T AccountId R) : Prop where
  follows : ∃ numbers, FollowsChain chain initData n₀ w.pallet numbers ∧
    Pending chain (last n₀ numbers) w.pool
  buffered : ∀ relayer, (w.loops relayer).Buffered GrandpaJustification.targetHeaderNumber

variable {chain}

theorem Pending.mono {best best' : ℕ}
    {pool : List (Grandpa.Call BridgedHeader Hash AuthorityId Signature AccountId)}
    (h : Pending chain best pool) (hle : best ≤ best') : Pending chain best' pool := by
  intro call hcall
  obtain ⟨origin, n, justification, rfl, hstop⟩ := h call hcall
  exact ⟨origin, n, justification, rfl, hstop.mono hle⟩

theorem Pending.of_subset {best : ℕ}
    {pool pool' : List (Grandpa.Call BridgedHeader Hash AuthorityId Signature AccountId)}
    (h : Pending chain best pool) (hsub : ∀ call ∈ pool', call ∈ pool) : Pending chain best pool' :=
  fun call hcall ↦ h call (hsub call hcall)

variable {initData n₀} [HeaderT BridgedHeader Hash] {s : Grandpa.State T AccountId}
  {numbers : List ℕ}

section Follows

variable (hinit : initData.header = chain.header n₀)
include hinit

theorem FollowsChain.ordered (hs : FollowsChain chain initData n₀ s numbers) :
    (n₀ :: numbers).Pairwise (· < ·) := by
  have h := hs.imports.ordered
  rw [hinit, ← List.map_cons, List.pairwise_map] at h
  simpa only [chain.number_header] using h

/-- The pallet's best finalized header is the chain's header of the last number imported. -/
theorem FollowsChain.bestFinalized (hs : FollowsChain chain initData n₀ s numbers) :
    s.bestFinalized = some (T.headerId (chain.header (last n₀ numbers))) := by
  rw [hs.imports.bestFinalized_eq, last]
  congr 2
  simp only [hinit, ← List.map_cons, List.getLast_map]

/-- **The set id follows the chain**: the initial id plus the number of the chain's headers that
schedule a change up to the best, modulo `2 ^ 64`. -/
theorem FollowsChain.setId_eq (hs : FollowsChain chain initData n₀ s numbers) :
    s.currentAuthoritySet.setId = (initData.setId +
      (List.range' (n₀ + 1) (last n₀ numbers - n₀)).countP chain.isMandatory) % 2 ^ 64 := by
  rw [hs.imports.setId_eq, ← List.countP_eq_length_filter, List.countP_map]
  rw [← hs.visits.countP_eq (hs.ordered hinit)]
  rfl

/-- **The authorities follow the chain**: the pallet holds those that the last of the chain's
headers up to the best that schedules a change names. -/
theorem FollowsChain.authorities_eq (hs : FollowsChain chain initData n₀ s numbers) :
    s.currentAuthoritySet.authorities.toList = T.authoritiesAfter initData.authorityList
      ((List.range' (n₀ + 1) (last n₀ numbers - n₀)).map chain.header) := by
  have hchanges : ∀ numbers : List ℕ, T.authoritiesAfter initData.authorityList
      (numbers.map chain.header) = T.authoritiesAfter initData.authorityList
        ((numbers.filter chain.isMandatory).map chain.header) := fun numbers ↦ by
    rw [← T.authoritiesAfter_filter, List.filter_map]
    rfl
  rw [hs.authorities, hchanges numbers, hchanges (List.range' _ _),
    hs.visits.filter_eq (hs.ordered hinit)]

variable [DecidableEq Hash] [DecidableEq AuthorityId] [DecidableEq AccountId]
  (hinj : ∀ a b : BridgedHeader, HeaderT.hash a = HeaderT.hash b → T.number a = T.number b)
  (hcap : 0 < T.headersToKeep)
include hinj hcap

/-- **A call keeps the pallet on the chain**, when the header it imports, if any, is the chain's
and does not pass the first change above the best; the best does not go down. -/
theorem FollowsChain.dispatch (hs : FollowsChain chain initData n₀ s numbers)
    {call : Grandpa.Call BridgedHeader Hash AuthorityId Signature AccountId}
    {r : Exec Grandpa.Error (Grandpa.State T AccountId)}
    (hcall : ∀ header, call.finalityTarget? = some header →
      ∃ n, header = chain.header n ∧ StopsAt chain.isMandatory (last n₀ numbers) n)
    (h : s.dispatch call = some r) :
    ∃ numbers', FollowsChain chain initData n₀ (Exec.transactional s r) numbers' ∧
      last n₀ numbers ≤ last n₀ numbers' := by
  have himports := hs.imports.dispatch hinj hcap h
  have hauthorities := Grandpa.State.dispatch_authorities
    (by rw [hs.imports.bestFinalized_eq]; exact Option.some_ne_none _) h
  rw [hs.authorities, ← T.authoritiesAfter_append] at hauthorities
  cases hok : r.isOk with
  | false =>
    exact ⟨numbers, ⟨by simpa [hok] using himports, by simpa [hok] using hauthorities,
      hs.visits⟩, le_rfl⟩
  | true =>
    cases htarget : call.finalityTarget? with
    | none =>
      exact ⟨numbers, ⟨by simpa [hok, htarget] using himports,
        by simpa [hok, htarget] using hauthorities, hs.visits⟩, le_rfl⟩
    | some header =>
      obtain ⟨n, rfl, hstop⟩ := hcall header htarget
      have hfollows : FollowsChain chain initData n₀ (Exec.transactional s r) (numbers ++ [n]) :=
        ⟨by simpa [hok, htarget] using himports, by simpa [hok, htarget] using hauthorities,
          by simpa using hs.visits.push hstop⟩
      refine ⟨numbers ++ [n], hfollows, ?_⟩
      rw [last_append_singleton]
      exact Nat.le_of_lt (last_lt_of_pairwise_append (hfollows.ordered hinit))

end Follows

/-! ## Each move keeps the invariant -/

section Steps

variable [DecidableEq R] {relayers : Relayers R AccountId} {w w' : World T AccountId R}

omit [HeaderT BridgedHeader Hash] in
theorem buffered_update {loops : R → LoopState (GrandpaJustification BridgedHeader Hash AuthorityId Signature)}
    (h : ∀ relayer, (loops relayer).Buffered GrandpaJustification.targetHeaderNumber) (relayer : R)
    {loopState : LoopState (GrandpaJustification BridgedHeader Hash AuthorityId Signature)}
    (hloopState : loopState.Buffered GrandpaJustification.targetHeaderNumber) :
    ∀ relayer', (Function.update loops relayer loopState relayer').Buffered
      GrandpaJustification.targetHeaderNumber := by
  intro relayer'
  by_cases hrelayer : relayer' = relayer
  · subst hrelayer
    rwa [Function.update_self]
  · rw [Function.update_of_ne hrelayer]
    exact h relayer'

/-- A move of one relayer's loop alone keeps the invariant, when its buffer stays sound. -/
theorem Synced.update (hw : Synced chain initData n₀ w) (relayer : R)
    {loopState : LoopState (GrandpaJustification BridgedHeader Hash AuthorityId Signature)}
    (hloopState : loopState.Buffered GrandpaJustification.targetHeaderNumber) :
    Synced chain initData n₀ { w with loops := Function.update w.loops relayer loopState } :=
  ⟨hw.follows, buffered_update hw.buffered relayer hloopState⟩

variable [DecidableEq Hash] [DecidableEq AuthorityId] [DecidableEq AccountId]
  (hinit : initData.header = chain.header n₀)
include hinit

/-- **An iteration keeps the invariant**: what the relayer submits was selected against the
pallet's best, so it does not pass the first change above it. -/
theorem Synced.iterate (hw : Synced chain initData n₀ w) {relayer : R} {bestNumberAtSource : ℕ}
    (h : w.step chain relayers (.iterate relayer bestNumberAtSource) = some w') :
    Synced chain initData n₀ w' := by
  obtain ⟨numbers, hfollows, hpending⟩ := hw.follows
  obtain ⟨best, hbest, hiterate⟩ := Option.bind_eq_some_iff.mp h
  obtain ⟨⟨loopState, submitted⟩, hloop, rfl⟩ := Option.map_eq_some_iff.mp hiterate
  obtain rfl : best = T.headerId (chain.header (last n₀ numbers)) :=
    Option.some.inj (hbest.symm.trans (hfollows.bestFinalized hinit))
  have hnumber : (T.headerId (chain.header (last n₀ numbers))).number = last n₀ numbers :=
    chain.number_header _
  obtain ⟨hbuffered, hsubmits⟩ := LoopState.iterate_submits GrandpaJustification.targetHeaderNumber
    chain.source _ (hw.buffered relayer) hloop
  refine ⟨⟨numbers, hfollows, fun call hcall ↦ ?_⟩, buffered_update hw.buffered relayer hbuffered⟩
  rcases List.mem_append.mp hcall with hold | hnew
  · exact hpending call hold
  · obtain ⟨⟨header, justification⟩, rfl, rfl⟩ : ∃ selected, submitted = some selected ∧
        call = World.submission chain (relayers.signer relayer) selected.1 selected.2 := by
      cases submitted with
      | none => cases hnew
      | some selected => exact ⟨selected, rfl, List.mem_singleton.mp hnew⟩
    obtain ⟨hstop, -⟩ := hsubmits header justification rfl
    rw [hnumber] at hstop
    exact ⟨_, header.number, justification, rfl, hstop⟩

/-- A transaction landing in a block keeps the invariant: the pallet imports a header that does
not pass the first change above its best, or fails and leaves its storage as it was. -/
theorem Synced.mine (hinj : ∀ a b : BridgedHeader, HeaderT.hash a = HeaderT.hash b →
      T.number a = T.number b) (hcap : 0 < T.headersToKeep)
    (hw : Synced chain initData n₀ w) {index : ℕ}
    (h : w.step chain relayers (.mine index) = some w') : Synced chain initData n₀ w' := by
  obtain ⟨numbers, hfollows, hpending⟩ := hw.follows
  obtain ⟨call, hcall, happly⟩ := Option.bind_eq_some_iff.mp h
  obtain ⟨pallet, hpallet, rfl⟩ := Option.map_eq_some_iff.mp happly
  obtain ⟨r, hr, rfl⟩ := Option.map_eq_some_iff.mp hpallet
  obtain ⟨origin, n, justification, rfl, hstop⟩ := hpending _ (List.mem_of_getElem? hcall)
  obtain ⟨numbers', hfollows', hle⟩ := hfollows.dispatch hinit hinj hcap
    (fun header htarget ↦ ⟨n, by simpa [Grandpa.Call.finalityTarget?] using htarget.symm, hstop⟩) hr
  exact ⟨⟨numbers', hfollows', (hpending.of_subset fun _ ↦ List.mem_of_mem_eraseIdx).mono hle⟩,
    hw.buffered⟩

/-- Any other call keeps the invariant: it imports nothing. -/
theorem Synced.call (hinj : ∀ a b : BridgedHeader, HeaderT.hash a = HeaderT.hash b →
      T.number a = T.number b) (hcap : 0 < T.headersToKeep)
    (hw : Synced chain initData n₀ w)
    {call : Grandpa.Call BridgedHeader Hash AuthorityId Signature AccountId}
    (h : w.step chain relayers (.call call) = some w') : Synced chain initData n₀ w' := by
  obtain ⟨numbers, hfollows, hpending⟩ := hw.follows
  simp only [World.step] at h
  split at h
  · cases h
  rename_i hnone
  obtain ⟨pallet, hpallet, rfl⟩ := Option.map_eq_some_iff.mp h
  obtain ⟨r, hr, rfl⟩ := Option.map_eq_some_iff.mp hpallet
  obtain ⟨numbers', hfollows', hle⟩ := hfollows.dispatch hinit hinj hcap
    (fun header htarget ↦ absurd (by simp [htarget]) hnone) hr
  exact ⟨⟨numbers', hfollows', hpending.mono hle⟩, hw.buffered⟩

/-- **Every move keeps the invariant.** -/
theorem Synced.step (hinj : ∀ a b : BridgedHeader, HeaderT.hash a = HeaderT.hash b →
      T.number a = T.number b) (hcap : 0 < T.headersToKeep)
    (hw : Synced chain initData n₀ w) {event}
    (h : w.step chain relayers event = some w') : Synced chain initData n₀ w' := by
  cases event with
  | iterate relayer bestNumberAtSource => exact hw.iterate hinit h
  | receive relayer finalityProofs =>
    cases h
    exact hw.update relayer ((hw.buffered relayer).receive _ finalityProofs)
  | trackerEnds relayer status =>
    obtain ⟨best, -, hends⟩ := Option.bind_eq_some_iff.mp h
    obtain ⟨loopState, hloopState, rfl⟩ := Option.map_eq_some_iff.mp hends
    exact hw.update relayer ((hw.buffered relayer).trackerEnds _ hloopState)
  | restart relayer =>
    cases h
    exact hw.update relayer (LoopState.buffered_init _)
  | mine index => exact hw.mine hinit hinj hcap h
  | drop index =>
    simp only [World.step] at h
    split at h
    · cases h
      obtain ⟨numbers, hfollows, hpending⟩ := hw.follows
      exact ⟨⟨numbers, hfollows, hpending.of_subset fun _ ↦ List.mem_of_mem_eraseIdx⟩, hw.buffered⟩
    · cases h
  | call call => exact hw.call hinit hinj hcap h

end Steps

/-! ## Every run -/

section Run

variable [DecidableEq Hash] [DecidableEq AccountId]

/-- The invariant holds once the pallet is initialized: it imported nothing yet, no relayer has
run, and nothing is pending. -/
theorem synced_start (hcap : 0 < T.headersToKeep) {s₀ s₁ : Grandpa.State T AccountId}
    (hempty : s₀.imported = RingMap.empty) (hset : initData.setId < 2 ^ 64)
    {origin : Origin AccountId} (hinitCall : s₀.initializeCall origin initData = .ok s₁) :
    Synced chain initData n₀ (World.start s₁ : World T AccountId R) :=
  ⟨⟨[], ⟨Grandpa.imports_initializeCall hcap hempty hset hinitCall,
    Grandpa.State.initializeCall_authorities hinitCall, visits_nil n₀⟩,
    fun _ hcall ↦ nomatch hcall⟩, fun _ ↦ LoopState.buffered_init _⟩

variable [DecidableEq R] [DecidableEq AuthorityId] {relayers : Relayers R AccountId}

/-- **The pallet follows the bridged chain**, along every run of the bridge from a pallet
initialized at the chain's header `n₀`, whatever the relayers read and whenever their transactions
land: its best finalized header is the chain's header of some number `top`, and its authority set
id is the initial one plus the number of the chain's headers in `(n₀, top]` that schedule a
change, in `u64` arithmetic.  No header that changes the authority set is ever skipped. -/
theorem run_follows_chain
    (hinj : ∀ a b : BridgedHeader, HeaderT.hash a = HeaderT.hash b → T.number a = T.number b)
    (hcap : 0 < T.headersToKeep) (hinit : initData.header = chain.header n₀)
    {s₀ s₁ : Grandpa.State T AccountId} (hempty : s₀.imported = RingMap.empty)
    (hset : initData.setId < 2 ^ 64) {origin : Origin AccountId}
    (hinitCall : s₀.initializeCall origin initData = .ok s₁)
    {events : List (Event R (GrandpaJustification BridgedHeader Hash AuthorityId Signature)
      (Grandpa.Call BridgedHeader Hash AuthorityId Signature AccountId))}
    {w : World T AccountId R}
    (hrun : Trace.runEvents (World.step chain relayers) (World.start s₁) events = some w) :
    ∃ top, n₀ ≤ top ∧ w.pallet.bestFinalized = some (T.headerId (chain.header top)) ∧
      w.pallet.currentAuthoritySet.authorities.toList = T.authoritiesAfter initData.authorityList
        ((List.range' (n₀ + 1) (top - n₀)).map chain.header) ∧
      w.pallet.currentAuthoritySet.setId =
        (initData.setId + (List.range' (n₀ + 1) (top - n₀)).countP chain.isMandatory) % 2 ^ 64 := by
  have hsynced : Synced chain initData n₀ w :=
    invariant_of_reflTransGen (Trace.reflTransGen_of_runEvents hrun)
      (synced_start hcap hempty hset hinitCall) fun _ _ hw ⟨_, h⟩ ↦ hw.step hinit hinj hcap h
  obtain ⟨⟨numbers, hfollows, -⟩, -⟩ := hsynced
  exact ⟨last n₀ numbers, le_last_of_mem (hfollows.ordered hinit) List.mem_cons_self,
    hfollows.bestFinalized hinit, hfollows.authorities_eq hinit, hfollows.setId_eq hinit⟩

end Run

end Invariant

/-- The test chain of the GRANDPA pallet's tests, with `u32` block numbers: header `n` has the
hash `n` and the parent `n - 1`, header `10` schedules a change, and the node keeps a
justification of header `10` only. -/
def testChain : BridgedChain Grandpa.testConfig where
  numberBits := 32
  header n := ⟨n, n - 1⟩
  number_header _ := rfl
  persistentJustification n := if n = 10 then some optimizedTestJustification else none

/-- One relayer, which submits regular headers too, signing as account `0`. -/
def testRelayers : Relayers Unit ℕ :=
  ⟨fun _ ↦ ⟨4, false⟩, fun _ ↦ 0⟩

/-- From header `5`, the relayer reads the source up to `12` and submits the mandatory header
`10`, which the pallet imports: the set id goes from `u64::MAX` round to `0`. -/
theorem run_follows_chain_testRun :
    ∃ s₁ w, Grandpa.testGenesis.initializeCall .root Grandpa.testInitData = .ok s₁ ∧
      Trace.runEvents (World.step testChain testRelayers) (World.start s₁)
        [.iterate () 12, .mine 0] = some w ∧
      ∃ top, 5 ≤ top ∧
        w.pallet.bestFinalized = some (Grandpa.testConfig.headerId (testChain.header top)) ∧
        w.pallet.currentAuthoritySet.authorities.toList =
          Grandpa.testConfig.authoritiesAfter Grandpa.testInitData.authorityList
            ((List.range' (5 + 1) (top - 5)).map testChain.header) ∧
        w.pallet.currentAuthoritySet.setId = (Grandpa.testInitData.setId +
          (List.range' (5 + 1) (top - 5)).countP testChain.isMandatory) % 2 ^ 64 := by
  obtain ⟨top, hle, hbest, hauthorities, hsetId⟩ := run_follows_chain (fun _ _ h ↦ h) (by decide)
    (rfl : Grandpa.testInitData.header = testChain.header 5)
    (rfl : Grandpa.testGenesis.imported = RingMap.empty) (by decide)
    (rfl : Grandpa.testGenesis.initializeCall .root Grandpa.testInitData = _)
    (rfl : Trace.runEvents (World.step testChain testRelayers) (World.start _)
      [.iterate () 12, .mine 0] = _)
  exact ⟨_, _, rfl, rfl, top, hle, hbest, hauthorities, hsetId⟩

end Finality
