import SoloParaBridge.Parachains.Pallet

/-!
# What the parachains pallet holds of a parachain after a run

`ParaHeads T s parachain items` says what the storage `s` holds of `parachain` once the heads
`items` (hash and data, oldest first) were accepted for it.  The hashes are those of the
`UpdatedParachainHead` events.  The best head is the last of them.  The position of the ring
buffer has gone round once per `HeadsToKeep` heads.  Whatever was accepted, the ring buffer is
tidy (`RingMap.Tidy`): it holds data only of hashes in its slots, and writes no slot at or beyond
`HeadsToKeep`.  And if no hash was accepted twice, it holds the heads as `RingMap.Holds` says.

The last part needs its condition.  `is_obsolete` rejects a head that has the best head's hash,
but not one with the hash of an older head.  A hash accepted again while an older copy is in the
window is pushed into the ring buffer as a new key.  When the older copy is pruned, its data goes,
and with it the data of the best head.  `bestParachainHead_repeat` runs exactly this.

A pass of the loop of `submit_parachain_heads` keeps the invariant (`ParaHeads.submitParachainHead`),
and so does a whole call (`ParaHeads.apply`).  Along the way a call that accepts no head of a
parachain leaves its `ParasInfo` as it was, and one that accepts some moves its best head to a
later relay block (`Advances.apply`).  `updatedHeads_run` reads both back along any run
from the genesis storage.
-/

set_option autoImplicit false

namespace Parachains

open LogicProvider (Origin)
open Messages (BasicOperatingMode)

variable {ParaId Hash ParaHead HeadData StorageProof Storage AccountId : Type}

/-- What the storage holds of `parachain` once the heads `items` were accepted for it, in that
order. -/
structure ParaHeads [DecidableEq ParaId]
    (T : Config ParaId Hash ParaHead HeadData StorageProof Storage)
    (s : State ParaId Hash HeadData AccountId) (parachain : ParaId)
    (items : List (Hash × HeadData)) : Prop where
  /-- The accepted heads are those the events announce. -/
  hashes_eq : items.map Prod.fst = s.updatedHeads parachain
  /-- The best head is the last one accepted, and there is none before the first. -/
  bestHeadHash_eq : (s.parasInfo parachain).map (·.bestHeadHash.headHash) =
    items.getLast?.map Prod.fst
  /-- The next position has gone round once per `HeadsToKeep` accepted heads. -/
  position_eq : (s.ringOf parachain).pointer = items.length % T.headsToKeep
  /-- Whatever was accepted, the ring buffer is tidy. -/
  tidy : RingMap.Tidy T.headsToKeep (s.ringOf parachain)
  /-- With no hash accepted twice, the ring buffer holds the accepted heads. -/
  holds : (items.map Prod.fst).Nodup → RingMap.Holds T.headsToKeep (s.ringOf parachain) items

/-- From `s` to `s'`, no head of `parachain` was accepted and its `ParasInfo` stayed, or some
were accepted and its best head moved to a later relay block. -/
def Advances [DecidableEq ParaId] (parachain : ParaId)
    (s s' : State ParaId Hash HeadData AccountId) : Prop :=
  (s'.updatedHeads parachain = s.updatedHeads parachain ∧
      s'.parasInfo parachain = s.parasInfo parachain) ∨
    ∃ accepted, accepted ≠ [] ∧ s'.updatedHeads parachain = s.updatedHeads parachain ++ accepted ∧
      ∃ info', s'.parasInfo parachain = some info' ∧ ∀ info, s.parasInfo parachain = some info →
        info.bestHeadHash.atRelayBlockNumber < info'.bestHeadHash.atRelayBlockNumber

variable [DecidableEq ParaId] {T : Config ParaId Hash ParaHead HeadData StorageProof Storage}
  {s s' : State ParaId Hash HeadData AccountId} {parachain : ParaId}
  {items : List (Hash × HeadData)}

/-! ## The invariant at the genesis storage -/

/-- The invariant reads the best head, the ring buffer and the accepted heads of the parachain
only. -/
theorem ParaHeads.of_eq (hs : ParaHeads T s parachain items)
    (hinfo : s'.parasInfo parachain = s.parasInfo parachain)
    (hring : s'.ringOf parachain = s.ringOf parachain)
    (hheads : s'.updatedHeads parachain = s.updatedHeads parachain) :
    ParaHeads T s' parachain items where
  hashes_eq := hheads ▸ hs.hashes_eq
  bestHeadHash_eq := hinfo ▸ hs.bestHeadHash_eq
  position_eq := hring ▸ hs.position_eq
  tidy := hring ▸ hs.tidy
  holds := hring ▸ hs.holds

theorem updatedHeads_depositEvent_of_none {event : Event ParaId Hash}
    (hevent : event.updatedHeadOf parachain = none) :
    (s.depositEvent event).updatedHeads parachain = s.updatedHeads parachain := by
  rw [State.updatedHeads_depositEvent, hevent, Option.toList_none, List.append_nil]

theorem ParaHeads.depositEvent (hs : ParaHeads T s parachain items) {event : Event ParaId Hash}
    (hevent : event.updatedHeadOf parachain = none) :
    ParaHeads T (s.depositEvent event) parachain items :=
  hs.of_eq rfl rfl (updatedHeads_depositEvent_of_none hevent)

theorem paraHeads_genesis (hcap : 0 < T.headsToKeep) (owner : Option AccountId)
    (operatingMode : BasicOperatingMode) :
    ParaHeads T (State.genesis owner operatingMode : State ParaId Hash HeadData AccountId)
      parachain [] where
  hashes_eq := rfl
  bestHeadHash_eq := rfl
  position_eq := (Nat.zero_mod _).symm
  tidy := RingMap.tidy_empty hcap
  holds := fun _ ↦ RingMap.holds_empty _

/-! ## What the invariant says of the storage -/

theorem ParaHeads.nextImportedHashPosition_eq (hs : ParaHeads T s parachain items)
    {info : ParaInfo Hash} (hinfo : s.parasInfo parachain = some info) :
    info.nextImportedHashPosition = items.length % T.headsToKeep := by
  have hpos := hs.position_eq
  simp only [State.ringOf, hinfo, Option.map_some, Option.getD_some] at hpos
  exact hpos

/-- With no hash accepted twice, `best_parachain_head` is the data of the last accepted head. -/
theorem ParaHeads.bestParachainHead_eq (hs : ParaHeads T s parachain items)
    (hcap : 0 < T.headsToKeep) (hnodup : (items.map Prod.fst).Nodup) :
    s.bestParachainHead parachain = items.getLast?.map Prod.snd := by
  have hbest := hs.bestHeadHash_eq
  cases hlast : items.getLast? with
  | none =>
    rw [hlast, Option.map_none, Option.map_eq_none_iff] at hbest
    rw [State.bestParachainHead, hbest, Option.bind_none, Option.map_none]
  | some item =>
    obtain ⟨headHash, headData⟩ := item
    rw [hlast, Option.map_some, Option.map_eq_some_iff] at hbest
    obtain ⟨info, hinfo, hhash⟩ := hbest
    rw [State.bestParachainHead, hinfo, Option.bind_some, hhash, Option.map_some]
    exact (hs.holds hnodup).entries_last hcap hlast

/-! ## The best head only moves to later relay blocks -/

theorem Advances.refl : Advances parachain s s := .inl ⟨rfl, rfl⟩

theorem Advances.trans {s₁ s₂ s₃ : State ParaId Hash HeadData AccountId}
    (h₁ : Advances parachain s₁ s₂) (h₂ : Advances parachain s₂ s₃) : Advances parachain s₁ s₃ := by
  rcases h₁ with ⟨hheads₁, hinfo₁⟩ | ⟨accepted₁, hne₁, hheads₁, info₂, hinfo₂, hlt₁⟩
  · rcases h₂ with ⟨hheads₂, hinfo₂⟩ | ⟨accepted₂, hne₂, hheads₂, info₃, hinfo₃, hlt₂⟩
    · exact .inl ⟨hheads₂.trans hheads₁, hinfo₂.trans hinfo₁⟩
    · exact .inr ⟨accepted₂, hne₂, by rw [hheads₂, hheads₁], info₃, hinfo₃,
        fun info hinfo ↦ hlt₂ info (hinfo₁.trans hinfo)⟩
  · rcases h₂ with ⟨hheads₂, hinfo₃⟩ | ⟨accepted₂, -, hheads₂, info₃, hinfo₃, hlt₂⟩
    · exact .inr ⟨accepted₁, hne₁, hheads₂.trans hheads₁, info₂, hinfo₃.trans hinfo₂, hlt₁⟩
    · exact .inr ⟨accepted₁ ++ accepted₂, List.append_ne_nil_of_left_ne_nil hne₁ _,
        by rw [hheads₂, hheads₁, List.append_assoc], info₃, hinfo₃,
        fun info hinfo ↦ (hlt₁ info hinfo).trans (hlt₂ info₂ hinfo₂)⟩

/-! ## One pass, the loop, a call -/

variable [DecidableEq Hash]

/-- An accepted head of the parachain is announced by its event. -/
theorem updatedHeads_of_updateParachainHead {relayBlockNumber : ℕ} {headData : HeadData}
    {headHash : Hash} {artifacts : UpdateParachainHeadArtifacts Hash}
    (h : s.updateParachainHead T parachain (s.parasInfo parachain) relayBlockNumber headData
      headHash = (.ok artifacts, s')) :
    s'.updatedHeads parachain = s.updatedHeads parachain ++ [headHash] := by
  obtain ⟨-, -, hevents, -⟩ := State.updateParachainHead_of_ok h
  rw [State.updatedHeads, hevents, List.filterMap_append, ← State.updatedHeads]
  simp [Event.updatedHeadOf]

/-- **An accepted head of the parachain keeps the invariant**, appended to the accepted heads. -/
theorem ParaHeads.updateParachainHead (hcap : 0 < T.headsToKeep)
    (hs : ParaHeads T s parachain items) {relayBlockNumber : ℕ} {headData : HeadData}
    {headHash : Hash} {artifacts : UpdateParachainHeadArtifacts Hash}
    (h : s.updateParachainHead T parachain (s.parasInfo parachain) relayBlockNumber headData
      headHash = (.ok artifacts, s')) :
    ParaHeads T
      { s' with parasInfo := Function.update s'.parasInfo parachain (some artifacts.bestHead) }
      parachain (items ++ [(headHash, headData)]) := by
  obtain ⟨-, hbest, -, hring⟩ := State.updateParachainHead_of_ok h
  have hring' := hring parachain
  rw [if_pos rfl] at hring'
  constructor
  · rw [List.map_append, hs.hashes_eq]
    exact (updatedHeads_of_updateParachainHead h).symm
  · simp [hbest]
  · rw [hring', List.length_append, List.length_singleton, ← Nat.mod_add_mod, ← hs.position_eq]
    rfl
  · rw [hring']
    exact hs.tidy.push hcap headHash headData
  · intro hnodup
    rw [List.map_append, List.nodup_append] at hnodup
    have hfresh : headHash ∉ items.map Prod.fst := fun hmem ↦
      hnodup.2.2 headHash hmem headHash (by simp) rfl
    rw [hring']
    exact (hs.holds hnodup.1).push hcap hfresh

/-- **One pass of the loop keeps the invariant**, with the head appended when it was accepted for
the parachain. -/
theorem ParaHeads.submitParachainHead (hcap : 0 < T.headsToKeep) {relayBlockNumber : ℕ}
    {acc : State ParaId Hash HeadData AccountId × Storage} (hs : ParaHeads T acc.1 parachain items)
    (head : ParaId × Hash) :
    ∃ items', ParaHeads T (State.submitParachainHead T relayBlockNumber acc head).1 parachain
      items' := by
  rcases State.submitParachainHead_cases relayBlockNumber acc head with
    ⟨event, heq, hevent⟩ | ⟨headData, artifacts, s', hupdate, heq⟩
  · rw [heq]
    exact ⟨items, hs.depositEvent (hevent parachain)⟩
  · rw [heq]
    by_cases hpara : head.1 = parachain
    · obtain ⟨headParachain, headHash⟩ := head
      dsimp only at hpara hupdate ⊢
      subst hpara
      exact ⟨_, hs.updateParachainHead hcap hupdate⟩
    · obtain ⟨hinfo, hring, hheads⟩ := State.updateParachainHead_of_ok_of_ne (Ne.symm hpara) hupdate
      exact ⟨items, hs.of_eq hinfo hring hheads⟩

/-- **The loop of `submit_parachain_heads` keeps the invariant.** -/
theorem ParaHeads.foldl (hcap : 0 < T.headsToKeep) {relayBlockNumber : ℕ}
    (parachains : List (ParaId × Hash)) {acc : State ParaId Hash HeadData AccountId × Storage}
    (hs : ParaHeads T acc.1 parachain items) :
    ∃ items', ParaHeads T
      (parachains.foldl (State.submitParachainHead T relayBlockNumber) acc).1 parachain items' := by
  induction parachains generalizing acc items with
  | nil => exact ⟨items, hs⟩
  | cons head parachains ih =>
    obtain ⟨items', hs'⟩ := hs.submitParachainHead hcap head
    exact ih hs'

/-- **One pass of the loop**: a head it accepts for the parachain was read at a later relay block
than the best head, which `is_obsolete` checked. -/
theorem Advances.submitParachainHead (relayBlockNumber : ℕ)
    (acc : State ParaId Hash HeadData AccountId × Storage) (head : ParaId × Hash) :
    Advances parachain acc.1 (State.submitParachainHead T relayBlockNumber acc head).1 := by
  rcases State.submitParachainHead_cases relayBlockNumber acc head with
    ⟨event, heq, hevent⟩ | ⟨headData, artifacts, s', hupdate, heq⟩
  · rw [heq]
    exact .inl ⟨updatedHeads_depositEvent_of_none (hevent parachain), rfl⟩
  · rw [heq]
    by_cases hpara : head.1 = parachain
    · obtain ⟨hobsolete, hbest, -, -⟩ := State.updateParachainHead_of_ok hupdate
      subst hpara
      refine .inr ⟨[head.2], List.cons_ne_nil _ _, (updatedHeads_of_updateParachainHead hupdate :),
        artifacts.bestHead, Function.update_self _ _ _, fun info hinfo ↦ ?_⟩
      rw [hbest]
      exact (State.isObsolete_eq_false hobsolete hinfo).1
    · obtain ⟨hinfo, -, hheads⟩ := State.updateParachainHead_of_ok_of_ne (Ne.symm hpara) hupdate
      exact .inl ⟨hheads, hinfo⟩

theorem Advances.foldl (relayBlockNumber : ℕ) (parachains : List (ParaId × Hash))
    (acc : State ParaId Hash HeadData AccountId × Storage) :
    Advances parachain acc.1
      (parachains.foldl (State.submitParachainHead T relayBlockNumber) acc).1 := by
  induction parachains generalizing acc with
  | nil => exact .refl
  | cons head parachains ih => exact (Advances.submitParachainHead relayBlockNumber acc head).trans (ih _)

variable [DecidableEq AccountId]

/-- **A call keeps the invariant**, whatever its result: the storage layer discards a failed
one. -/
theorem ParaHeads.apply (hcap : 0 < T.headsToKeep) (hs : ParaHeads T s parachain items)
    (call : Call ParaId Hash StorageProof AccountId) :
    ∃ items', ParaHeads T (s.apply T call) parachain items' := by
  refine Exec.transactional_of (P := fun s ↦ ∃ items', ParaHeads T s parachain items')
    ⟨items, hs⟩ fun s' hok ↦ ?_
  cases call with
  | submitParachainHeads origin relayHeaders atRelayBlock parachains parachainHeadsProof =>
    obtain ⟨storage, storage', hfold⟩ := State.submitParachainHeads_eq_ok hok
    have hloop : ∃ items', ParaHeads T
        (parachains.foldl (State.submitParachainHead T atRelayBlock.1) (s, storage)).1 parachain
        items' := ParaHeads.foldl hcap parachains hs
    rwa [hfold] at hloop
  | setOwner origin newOwner =>
    obtain rfl := State.setOwner_eq_ok hok
    exact ⟨items, hs.of_eq rfl rfl rfl⟩
  | setOperatingMode origin operatingMode =>
    obtain rfl := State.setOperatingMode_eq_ok hok
    exact ⟨items, hs.of_eq rfl rfl rfl⟩

/-- **Along every run from the genesis storage** some list of accepted heads has the invariant. -/
theorem paraHeads_run (hcap : 0 < T.headsToKeep) (owner : Option AccountId)
    (operatingMode : BasicOperatingMode) (calls : List (Call ParaId Hash StorageProof AccountId)) :
    ∃ items, ParaHeads T (calls.foldl (State.apply T) (State.genesis owner operatingMode))
      parachain items := by
  -- the run is a fold of `apply`: induction on the calls, from any storage with the invariant
  suffices h : ∀ (s : State ParaId Hash HeadData AccountId) items, ParaHeads T s parachain items →
      ∃ items', ParaHeads T (calls.foldl (State.apply T) s) parachain items' from
    h _ [] (paraHeads_genesis hcap owner operatingMode)
  induction calls with
  | nil => exact fun s items hs ↦ ⟨items, hs⟩
  | cons call calls ih =>
    intro s items hs
    obtain ⟨items', hs'⟩ := hs.apply hcap call
    exact ih _ items' hs'

/-- **A call moves the best head of the parachain only to a later relay block**, and only when it
accepts a head of it. -/
theorem Advances.apply (s : State ParaId Hash HeadData AccountId)
    (call : Call ParaId Hash StorageProof AccountId) : Advances parachain s (s.apply T call) := by
  refine Exec.transactional_of (P := Advances parachain s) .refl fun s' hok ↦ ?_
  cases call with
  | submitParachainHeads origin relayHeaders atRelayBlock parachains parachainHeadsProof =>
    obtain ⟨storage, storage', hfold⟩ := State.submitParachainHeads_eq_ok hok
    have hloop : Advances parachain s
        (parachains.foldl (State.submitParachainHead T atRelayBlock.1) (s, storage)).1 :=
      Advances.foldl atRelayBlock.1 parachains (s, storage)
    rwa [hfold] at hloop
  | setOwner origin newOwner =>
    obtain rfl := State.setOwner_eq_ok hok
    exact .inl ⟨rfl, rfl⟩
  | setOperatingMode origin operatingMode =>
    obtain rfl := State.setOperatingMode_eq_ok hok
    exact .inl ⟨rfl, rfl⟩

/-! ## Runs -/

theorem updatedHeads_run (hcap : 0 < T.headsToKeep) (owner : Option AccountId)
    (operatingMode : BasicOperatingMode) (calls : List (Call ParaId Hash StorageProof AccountId))
    (call : Call ParaId Hash StorageProof AccountId) (parachain : ParaId) :
    let s := calls.foldl (State.apply T) (State.genesis owner operatingMode)
    let s' := s.apply T call
    let heads := s'.updatedHeads parachain
    Advances parachain s s' ∧
      (s'.parasInfo parachain).map (·.bestHeadHash.headHash) = heads.getLast? ∧
      (∀ info, s'.parasInfo parachain = some info →
        info.nextImportedHashPosition = heads.length % T.headsToKeep) ∧
      (∀ headHash, (s'.importedParaHeads parachain headHash).isSome →
        ∃ i, s'.importedParaHashes parachain i = some headHash) ∧
      (∀ i, T.headsToKeep ≤ i → s'.importedParaHashes parachain i = none) ∧
      (heads.Nodup →
        ((s'.bestParachainHead parachain).isSome ↔ heads ≠ []) ∧
        (∀ headHash, (∃ i, s'.importedParaHashes parachain i = some headHash) →
          (s'.importedParaHeads parachain headHash).isSome) ∧
        ∀ headHash, (∃ i, s'.importedParaHashes parachain i = some headHash) ↔
          headHash ∈ heads.drop (heads.length - T.headsToKeep)) := by
  intro s s' heads
  obtain ⟨items, hs⟩ : ∃ items, ParaHeads T s' parachain items := by
    rw [show s' = (calls ++ [call]).foldl (State.apply T) (State.genesis owner operatingMode) by
      rw [List.foldl_append]; rfl]
    exact paraHeads_run hcap owner operatingMode _
  have hheads : heads = items.map Prod.fst := hs.hashes_eq.symm
  refine ⟨Advances.apply s call, ?_, fun info hinfo ↦ ?_, hs.tidy.mem_slots_of_entries,
    hs.tidy.slots_eq_none, fun hnodup ↦ ?_⟩
  · rw [hs.bestHeadHash_eq, hheads, List.getLast?_map]
  · rw [hs.nextImportedHashPosition_eq hinfo, hheads, List.length_map]
  · rw [hheads] at hnodup ⊢
    have hholds := hs.holds hnodup
    refine ⟨?_, fun headHash ↦ (hholds.entries_isSome_iff headHash).mpr, fun headHash ↦ ?_⟩
    · rw [hs.bestParachainHead_eq hcap hnodup]
      simp
    · rw [List.length_map, ← List.map_drop]
      exact hholds.mem_slots_iff headHash

/-- A configuration of two slots whose heads are their own hashes and data, read from a proof that
lists them by parachain. -/
def testConfig : Config ℕ ℕ ℕ ℕ (List (ℕ × ℕ)) (List (ℕ × ℕ)) where
  headsToKeep := 2
  maxParaHeadDataSize := 0
  headHash := id
  tryBuild _ head := some head
  encodedSize _ := 0
  verify _ proof := .ok proof
  readParachainHead storage parachain := (.ok (storage.lookup parachain), storage)
  ensureNoUnusedKeys _ := .ok ()

/-- A signed call that submits the head `head` of parachain `7` at relay block `n`. -/
def testSubmit (n head : ℕ) : Call ℕ ℕ (List (ℕ × ℕ)) ℕ :=
  .submitParachainHeads (.signed 1) (fun relayBlockHash ↦ some ⟨relayBlockHash, 0⟩) (n, n)
    [(7, head)] [(7, head)]

theorem updatedHeads_run_distinct :
    ((([testSubmit 1 100, testSubmit 2 200].foldl (State.apply testConfig)
      (State.genesis none .normal)).apply testConfig (testSubmit 3 300)).bestParachainHead
        7).isSome :=
  ((updatedHeads_run (by decide) none .normal _ _ 7).2.2.2.2.2 (by decide)).1.mpr (by decide)

/-- The head `100` accepted again two heads later: pushing it prunes its own slot, so the best head
has no data, and a hash in the slots has none either. -/
theorem bestParachainHead_repeat :
    ∃ s, [testSubmit 1 100, testSubmit 2 200, testSubmit 3 100].foldl (State.apply testConfig)
        (State.genesis none .normal) = s ∧
      s.updatedHeads 7 = [100, 200, 100] ∧ s.parasInfo 7 = some ⟨⟨3, 100⟩, 1⟩ ∧
      s.bestParachainHead 7 = none ∧ s.importedParaHashes 7 0 = some 100 ∧
      s.importedParaHeads 7 100 = none :=
  ⟨_, rfl, by decide, by decide, by decide, by decide, by decide⟩

end Parachains
