import SoloParaBridge.Grandpa.Pallet

/-!
# The parachains pallet

`pallet-bridge-parachains` follows the heads of parachains of a bridged relay chain.
`submit_parachain_heads` takes a relay block that the GRANDPA pallet imported, a storage proof of
that block's state, and a list of parachain heads, each given by its parachain and hash.  It reads
each head from the proof.  A head goes on to `update_parachain_head` if the proof has it, the hash
matches, and the pallet tracks the parachain.  That function rejects an obsolete head: one read at
a relay block no later than the best head's, or with the best head's hash.  It also rejects a head
whose data is too large.  Otherwise the head becomes the parachain's best head.

Each parachain has a ring buffer of `HeadsToKeep` slots: `ImportedParaHashes[p]` holds the
hashes, `ParasInfo[p].next_imported_hash_position` the next slot, and `ImportedParaHeads[p]` the
data of each hash.  `update_parachain_head` reads the slot to prune before it writes the new hash
and data, and removes the pruned hash's data last.  That is `RingMap.push` on the view `ringOf`
(`updateParachainHead_of_ok`).

The storage proof is modelled by the reader it yields, of any type `Storage`, with the reads and
the final check of unused keys as parameters.  The relay headers come from the GRANDPA pallet's
`ImportedHeaders`, which is an argument of each call.  The pallet's events are written to the
storage like any other value, so a failed call discards them.  `events` is the log of all of them.
`frame_system` clears it at each block, and the model does not.
-/

set_option autoImplicit false

namespace Parachains

open LogicProvider (Origin)
open Messages (BasicOperatingMode)
open Grandpa (StoredHeaderData ensureOwnerOrRoot ensureSigned)

/-- `StorageProofError`. -/
inductive StorageProofError where
  | unableToGenerateTrieProof
  | invalidProof
  | unsortedEntries
  | unavailableKey
  | emptyVal
  | decodeError
  | unusedKey
  deriving DecidableEq, Repr

/-- `HeaderChainError`. -/
inductive HeaderChainError where
  | unknownHeader
  | storageProof (e : StorageProofError)
  deriving DecidableEq, Repr

/-- The pallet's `Error`, and `DispatchError::BadOrigin`; `bridgeModule` is
`BridgeModule(OwnedBridgeModuleError::Halted)`. -/
inductive Error where
  | unknownRelayChainBlock
  | invalidRelayChainBlockNumber
  | headerChainStorageProof (e : HeaderChainError)
  | bridgeModule
  | badOrigin
  deriving DecidableEq, Repr

/-- The pallet's `Event`. -/
inductive Event (ParaId Hash : Type) where
  | untrackedParachainRejected (parachain : ParaId)
  | missingParachainHead (parachain : ParaId)
  | incorrectParachainHeadHash (parachain : ParaId)
      (parachainHeadHash actualParachainHeadHash : Hash)
  | rejectedObsoleteParachainHead (parachain : ParaId) (parachainHeadHash : Hash)
  | rejectedLargeParachainHead (parachain : ParaId) (parachainHeadHash : Hash)
      (parachainHeadSize : ℕ)
  | updatedParachainHead (parachain : ParaId) (parachainHeadHash : Hash)
  deriving DecidableEq, Repr

/-- The hash of the head of `parachain` an event says was accepted. -/
def Event.updatedHeadOf {ParaId Hash : Type} [DecidableEq ParaId] (parachain : ParaId) :
    Event ParaId Hash → Option Hash
  | .updatedParachainHead parachain' parachainHeadHash =>
    if parachain' = parachain then some parachainHeadHash else none
  | _ => none

/-- `BestParaHeadHash`. -/
structure BestParaHeadHash (Hash : Type) where
  atRelayBlockNumber : ℕ
  headHash : Hash
  deriving DecidableEq, Repr

/-- `ParaInfo`. -/
structure ParaInfo (Hash : Type) where
  bestHeadHash : BestParaHeadHash Hash
  nextImportedHashPosition : ℕ
  deriving DecidableEq, Repr

/-- `SubmitParachainHeadsInfo`. -/
structure SubmitParachainHeadsInfo (ParaId Hash : Type) where
  atRelayBlockNumber : ℕ
  paraId : ParaId
  paraHeadHash : Hash

/-- `UpdateParachainHeadArtifacts`. -/
structure UpdateParachainHeadArtifacts (Hash : Type) where
  bestHead : ParaInfo Hash
  pruneHappened : Bool

/-- What the pallet takes from its runtime, and the storage proof's reader `Storage` over proofs
of type `StorageProof`. -/
structure Config (ParaId Hash ParaHead HeadData StorageProof Storage : Type) where
  /-- `HeadsToKeep`. -/
  headsToKeep : ℕ
  /-- `MaxParaHeadDataSize`. -/
  maxParaHeadDataSize : ℕ
  /-- `ParaHead::hash`. -/
  headHash : ParaHead → Hash
  /-- `ParaStoredHeaderDataBuilder::try_build`: `none` for a parachain the pallet does not
  track. -/
  tryBuild : ParaId → ParaHead → Option HeadData
  /-- The encoded size of the stored data, checked by `BoundedStorageValue::try_from_inner`. -/
  encodedSize : HeadData → ℕ
  /-- `UnverifiedStorageProof::verify` against a state root. -/
  verify : Hash → StorageProof → Except StorageProofError Storage
  /-- `read_parachain_head`, which marks the key as read. -/
  readParachainHead : Storage → ParaId → Except StorageProofError (Option ParaHead) × Storage
  /-- `ensure_no_unused_keys`. -/
  ensureNoUnusedKeys : Storage → Except StorageProofError Unit

/-- The storage of the pallet. -/
structure State (ParaId Hash HeadData AccountId : Type) where
  palletOwner : Option AccountId
  palletOperatingMode : BasicOperatingMode
  parasInfo : ParaId → Option (ParaInfo Hash)
  importedParaHeads : ParaId → Hash → Option HeadData
  importedParaHashes : ParaId → ℕ → Option Hash
  /-- The events deposited so far, oldest first. -/
  events : List (Event ParaId Hash)

variable {ParaId Hash ParaHead HeadData StorageProof Storage AccountId : Type}

/-- `HeaderChain::verify_storage_proof` of the GRANDPA pallet whose `ImportedHeaders` are
`relayHeaders`. -/
def Config.verifyStorageProof (T : Config ParaId Hash ParaHead HeadData StorageProof Storage)
    (relayHeaders : Hash → Option (StoredHeaderData Hash)) (headerHash : Hash)
    (proof : StorageProof) : Except HeaderChainError Storage :=
  match relayHeaders headerHash with
  | none => .error .unknownHeader
  | some header => (T.verify header.stateRoot proof).mapError .storageProof

namespace State

variable [DecidableEq ParaId] [DecidableEq Hash]
  {T : Config ParaId Hash ParaHead HeadData StorageProof Storage}

/-- `Self::deposit_event`. -/
def depositEvent (s : State ParaId Hash HeadData AccountId) (event : Event ParaId Hash) :
    State ParaId Hash HeadData AccountId :=
  { s with events := s.events ++ [event] }

/-- `SubmitParachainHeadsHelper::is_obsolete`. -/
def isObsolete (s : State ParaId Hash HeadData AccountId)
    (update : SubmitParachainHeadsInfo ParaId Hash) : Bool :=
  match s.parasInfo update.paraId with
  | none => false
  | some storedBestHead =>
    if update.atRelayBlockNumber ≤ storedBestHead.bestHeadHash.atRelayBlockNumber then true
    else if storedBestHead.bestHeadHash.headHash = update.paraHeadHash then true
    else false

variable (T) in
/-- `update_parachain_head`: its result, and the storage it leaves, whatever the result; the caller
writes `ParasInfo` from the artifacts. -/
def updateParachainHead (s : State ParaId Hash HeadData AccountId) (parachain : ParaId)
    (storedBestHead : Option (ParaInfo Hash)) (newAtRelayBlockNumber : ℕ)
    (newHeadData : HeadData) (newHeadHash : Hash) :
    Except Unit (UpdateParachainHeadArtifacts Hash) × State ParaId Hash HeadData AccountId :=
  if s.isObsolete ⟨newAtRelayBlockNumber, parachain, newHeadHash⟩ then
    (.error (), s.depositEvent (.rejectedObsoleteParachainHead parachain newHeadHash))
  else if T.maxParaHeadDataSize < T.encodedSize newHeadData then
    (.error (), s.depositEvent
      (.rejectedLargeParachainHead parachain newHeadHash (T.encodedSize newHeadData)))
  else
    let nextImportedHashPosition := (storedBestHead.map (·.nextImportedHashPosition)).getD 0
    let headHashToPrune := s.importedParaHashes parachain nextImportedHashPosition
    let updatedBestParaHead : ParaInfo Hash :=
      ⟨⟨newAtRelayBlockNumber, newHeadHash⟩, (nextImportedHashPosition + 1) % T.headsToKeep⟩
    let s := { s with
      importedParaHashes := Function.update s.importedParaHashes parachain
        (Function.update (s.importedParaHashes parachain) nextImportedHashPosition
          (some newHeadHash))
      importedParaHeads := Function.update s.importedParaHeads parachain
        (Function.update (s.importedParaHeads parachain) newHeadHash (some newHeadData)) }
    -- the old head is removed after the new one is written
    let s := match headHashToPrune with
      | some headHashToPrune => { s with
          importedParaHeads := Function.update s.importedParaHeads parachain
            (Function.update (s.importedParaHeads parachain) headHashToPrune none) }
      | none => s
    (.ok ⟨updatedBestParaHead, headHashToPrune.isSome⟩,
      s.depositEvent (.updatedParachainHead parachain newHeadHash))

variable (T) in
/-- One pass of the loop of `submit_parachain_heads`, over the head of `parachain` with the
announced hash `parachainHeadHash`: each branch that does not reach `update_parachain_head`
deposits its event and continues. -/
def submitParachainHead (relayBlockNumber : ℕ) :
    State ParaId Hash HeadData AccountId × Storage → ParaId × Hash →
      State ParaId Hash HeadData AccountId × Storage
  | (s, storage), (parachain, parachainHeadHash) =>
    match T.readParachainHead storage parachain with
    | (.ok (some parachainHead), storage) =>
      let actualParachainHeadHash := T.headHash parachainHead
      if parachainHeadHash ≠ actualParachainHeadHash then
        (s.depositEvent
          (.incorrectParachainHeadHash parachain parachainHeadHash actualParachainHeadHash), storage)
      else
        match T.tryBuild parachain parachainHead with
        | none => (s.depositEvent (.untrackedParachainRejected parachain), storage)
        | some parachainHeadData =>
          match s.updateParachainHead T parachain (s.parasInfo parachain) relayBlockNumber
              parachainHeadData parachainHeadHash with
          | (.ok artifacts, s) =>
            ({ s with parasInfo := Function.update s.parasInfo parachain (some artifacts.bestHead) },
              storage)
          -- `try_mutate` writes nothing back on `Err`
          | (.error (), s) => (s, storage)
    | (_, storage) => (s.depositEvent (.missingParachainHead parachain), storage)

variable [DecidableEq AccountId]

variable (T) in
/-- `submit_parachain_heads` at the relay block `atRelayBlock` (number and hash), with the relay
headers `relayHeaders` the GRANDPA pallet has imported. -/
def submitParachainHeads (s : State ParaId Hash HeadData AccountId) (origin : Origin AccountId)
    (relayHeaders : Hash → Option (StoredHeaderData Hash)) (atRelayBlock : ℕ × Hash)
    (parachains : List (ParaId × Hash)) (parachainHeadsProof : StorageProof) :
    Exec Error (State ParaId Hash HeadData AccountId) :=
  if s.palletOperatingMode = .halted then .err .bridgeModule s
  else if !ensureSigned origin then .err .badOrigin s
  else
    let (relayBlockNumber, relayBlockHash) := atRelayBlock
    match relayHeaders relayBlockHash with
    | none => .err .unknownRelayChainBlock s
    | some relayBlock =>
      if relayBlock.number ≠ relayBlockNumber then .err .invalidRelayChainBlockNumber s
      else
        match T.verifyStorageProof relayHeaders relayBlockHash parachainHeadsProof with
        | .error e => .err (.headerChainStorageProof e) s
        | .ok storage =>
          let (s, storage) := parachains.foldl (submitParachainHead T relayBlockNumber)
            (s, storage)
          -- a proof with keys nobody read is refused, after the heads were written
          match T.ensureNoUnusedKeys storage with
          | .error e => .err (.headerChainStorageProof (.storageProof e)) s
          | .ok () => .ok s

/-- `set_owner`. -/
def setOwner (s : State ParaId Hash HeadData AccountId) (origin : Origin AccountId)
    (newOwner : Option AccountId) : Exec Error (State ParaId Hash HeadData AccountId) :=
  if !ensureOwnerOrRoot s.palletOwner origin then .err .badOrigin s
  else .ok { s with palletOwner := newOwner }

/-- `set_operating_mode`. -/
def setOperatingMode (s : State ParaId Hash HeadData AccountId) (origin : Origin AccountId)
    (operatingMode : BasicOperatingMode) : Exec Error (State ParaId Hash HeadData AccountId) :=
  if !ensureOwnerOrRoot s.palletOwner origin then .err .badOrigin s
  else .ok { s with palletOperatingMode := operatingMode }

/-- `best_parachain_head`. -/
def bestParachainHead (s : State ParaId Hash HeadData AccountId) (parachain : ParaId) :
    Option HeadData :=
  (s.parasInfo parachain).bind fun info ↦ s.importedParaHeads parachain info.bestHeadHash.headHash

end State

/-- The storage `GenesisConfig` builds: an owner and an operating mode, and nothing else. -/
def State.genesis (owner : Option AccountId) (operatingMode : BasicOperatingMode) :
    State ParaId Hash HeadData AccountId :=
  ⟨owner, operatingMode, fun _ ↦ none, fun _ _ ↦ none, fun _ _ ↦ none, []⟩

/-- A call of the pallet. -/
inductive Call (ParaId Hash StorageProof AccountId : Type) where
  | submitParachainHeads (origin : Origin AccountId)
      (relayHeaders : Hash → Option (StoredHeaderData Hash)) (atRelayBlock : ℕ × Hash)
      (parachains : List (ParaId × Hash)) (parachainHeadsProof : StorageProof)
  | setOwner (origin : Origin AccountId) (newOwner : Option AccountId)
  | setOperatingMode (origin : Origin AccountId) (operatingMode : BasicOperatingMode)

namespace State

variable [DecidableEq ParaId] [DecidableEq Hash] [DecidableEq AccountId]
  (T : Config ParaId Hash ParaHead HeadData StorageProof Storage)

/-- What the body of a call leaves behind. -/
def dispatch (s : State ParaId Hash HeadData AccountId) :
    Call ParaId Hash StorageProof AccountId → Exec Error (State ParaId Hash HeadData AccountId)
  | .submitParachainHeads origin relayHeaders atRelayBlock parachains parachainHeadsProof =>
    s.submitParachainHeads T origin relayHeaders atRelayBlock parachains parachainHeadsProof
  | .setOwner origin newOwner => s.setOwner origin newOwner
  | .setOperatingMode origin operatingMode => s.setOperatingMode origin operatingMode

/-- A call under the storage layer, which discards the writes of an `Err`. -/
def apply (s : State ParaId Hash HeadData AccountId)
    (call : Call ParaId Hash StorageProof AccountId) : State ParaId Hash HeadData AccountId :=
  Exec.transactional s (s.dispatch T call)

end State

/-! ## Views of the storage -/

namespace State

variable [DecidableEq ParaId]

/-- The ring buffer of `parachain`: the slots of `ImportedParaHashes`, the position of
`ParasInfo` (`0` before the first update, as `update_parachain_head` reads it), and the data of
`ImportedParaHeads`. -/
def ringOf (s : State ParaId Hash HeadData AccountId) (parachain : ParaId) :
    RingMap Hash HeadData :=
  ⟨s.importedParaHashes parachain,
    ((s.parasInfo parachain).map (·.nextImportedHashPosition)).getD 0,
    s.importedParaHeads parachain⟩

/-- The hashes of the heads of `parachain` the pallet accepted, oldest first: those of its
`UpdatedParachainHead` events. -/
def updatedHeads (s : State ParaId Hash HeadData AccountId) (parachain : ParaId) : List Hash :=
  s.events.filterMap (Event.updatedHeadOf parachain)

end State

/-! ## What each function does -/

namespace State

variable {T : Config ParaId Hash ParaHead HeadData StorageProof Storage}
  {s s' : State ParaId Hash HeadData AccountId}

@[simp] theorem depositEvent_parasInfo (event : Event ParaId Hash) :
    (s.depositEvent event).parasInfo = s.parasInfo := rfl

@[simp] theorem depositEvent_ringOf (event : Event ParaId Hash) (parachain : ParaId) :
    (s.depositEvent event).ringOf parachain = s.ringOf parachain := rfl

variable [DecidableEq ParaId]

theorem updatedHeads_depositEvent (event : Event ParaId Hash) (parachain : ParaId) :
    (s.depositEvent event).updatedHeads parachain =
      s.updatedHeads parachain ++ (event.updatedHeadOf parachain).toList := by
  rw [updatedHeads, depositEvent, List.filterMap_append, List.filterMap_cons, List.filterMap_nil]
  cases event.updatedHeadOf parachain <;> rfl

variable [DecidableEq Hash]

omit [DecidableEq ParaId] in
/-- A head that is not obsolete is read at a later relay block than the best head, and has another
hash. -/
theorem isObsolete_eq_false {update : SubmitParachainHeadsInfo ParaId Hash}
    (h : s.isObsolete update = false) {info : ParaInfo Hash}
    (hinfo : s.parasInfo update.paraId = some info) :
    info.bestHeadHash.atRelayBlockNumber < update.atRelayBlockNumber ∧
      info.bestHeadHash.headHash ≠ update.paraHeadHash := by
  rw [isObsolete, hinfo] at h
  dsimp only at h
  split_ifs at h with hle hhash
  exact ⟨Nat.lt_of_not_le hle, hhash⟩

/-- `update_parachain_head` writes no `ParasInfo`. -/
@[simp] theorem updateParachainHead_parasInfo (parachain : ParaId)
    (storedBestHead : Option (ParaInfo Hash)) (newAtRelayBlockNumber : ℕ) (newHeadData : HeadData)
    (newHeadHash : Hash) :
    (s.updateParachainHead T parachain storedBestHead newAtRelayBlockNumber newHeadData
      newHeadHash).2.parasInfo = s.parasInfo := by
  rw [updateParachainHead]
  split_ifs
  · rfl
  · rfl
  · dsimp only
    split <;> rfl

/-- A rejected head leaves only its event, which accepts nothing. -/
theorem updateParachainHead_of_error {parachain : ParaId} {storedBestHead : Option (ParaInfo Hash)}
    {newAtRelayBlockNumber : ℕ} {newHeadData : HeadData} {newHeadHash : Hash}
    (h : s.updateParachainHead T parachain storedBestHead newAtRelayBlockNumber newHeadData
      newHeadHash = (.error (), s')) :
    ∃ event, s' = s.depositEvent event ∧ ∀ parachain', event.updatedHeadOf parachain' = none := by
  rw [updateParachainHead] at h
  split_ifs at h
  · cases h
    exact ⟨_, rfl, fun _ ↦ rfl⟩
  · cases h
    exact ⟨_, rfl, fun _ ↦ rfl⟩
  · cases h

/-- **What an accepted head does.**  It was not obsolete; it becomes the best head, at the next
position; it is pushed into the parachain's ring buffer, and no other parachain's changes; and it
is announced by `UpdatedParachainHead`. -/
theorem updateParachainHead_of_ok {parachain : ParaId} {newAtRelayBlockNumber : ℕ}
    {newHeadData : HeadData} {newHeadHash : Hash} {artifacts : UpdateParachainHeadArtifacts Hash}
    (h : s.updateParachainHead T parachain (s.parasInfo parachain) newAtRelayBlockNumber
      newHeadData newHeadHash = (.ok artifacts, s')) :
    s.isObsolete ⟨newAtRelayBlockNumber, parachain, newHeadHash⟩ = false ∧
      artifacts.bestHead = ⟨⟨newAtRelayBlockNumber, newHeadHash⟩,
        ((s.ringOf parachain).pointer + 1) % T.headsToKeep⟩ ∧
      s'.events = s.events ++ [.updatedParachainHead parachain newHeadHash] ∧
      ∀ parachain', ({ s' with
          parasInfo := Function.update s'.parasInfo parachain (some artifacts.bestHead) }).ringOf
            parachain' =
        if parachain' = parachain then
          (s.ringOf parachain).push T.headsToKeep newHeadHash newHeadData
        else s.ringOf parachain' := by
  rw [updateParachainHead] at h
  split_ifs at h with hobsolete hlarge
  · cases h
  · cases h
  obtain ⟨hartifacts, rfl⟩ := Prod.mk.inj h
  obtain rfl := Except.ok.inj hartifacts
  refine ⟨by simpa using hobsolete, rfl, ?_, fun parachain' ↦ ?_⟩
  · split <;> rfl
  by_cases hpara : parachain' = parachain
  · subst hpara
    rw [if_pos rfl]
    cases hprune : s.importedParaHashes parachain'
        (((s.parasInfo parachain').map (·.nextImportedHashPosition)).getD 0) with
    | none =>
      simp only [ringOf, RingMap.push, hprune, depositEvent, Function.update_self, Option.map_some,
        Option.getD_some]
    | some headHashToPrune =>
      simp only [ringOf, RingMap.push, hprune, depositEvent, Function.update_self, Option.map_some,
        Option.getD_some]
  · rw [if_neg hpara]
    cases s.importedParaHashes parachain
        (((s.parasInfo parachain).map (·.nextImportedHashPosition)).getD 0) <;>
      simp only [ringOf, depositEvent, Function.update_of_ne hpara]

/-- **An accepted head of one parachain leaves every other parachain alone**: its best head, its
ring buffer and its accepted heads. -/
theorem updateParachainHead_of_ok_of_ne {parachain parachain' : ParaId} {newAtRelayBlockNumber : ℕ}
    {newHeadData : HeadData} {newHeadHash : Hash} {artifacts : UpdateParachainHeadArtifacts Hash}
    (hpara : parachain' ≠ parachain)
    (h : s.updateParachainHead T parachain (s.parasInfo parachain) newAtRelayBlockNumber
      newHeadData newHeadHash = (.ok artifacts, s')) :
    Function.update s'.parasInfo parachain (some artifacts.bestHead) parachain' =
        s.parasInfo parachain' ∧
      ({ s' with
          parasInfo := Function.update s'.parasInfo parachain (some artifacts.bestHead) }).ringOf
            parachain' = s.ringOf parachain' ∧
      s'.updatedHeads parachain' = s.updatedHeads parachain' := by
  obtain ⟨-, -, hevents, hring⟩ := updateParachainHead_of_ok h
  have hinfo := congrArg (fun r ↦ r.2.parasInfo) h
  simp only [updateParachainHead_parasInfo] at hinfo
  refine ⟨by rw [Function.update_of_ne hpara, hinfo], by rw [hring parachain', if_neg hpara], ?_⟩
  rw [updatedHeads, hevents, List.filterMap_append, ← updatedHeads]
  simp [Event.updatedHeadOf, Ne.symm hpara]

/-- **What one pass of the loop does**: it deposits an event that accepts nothing, or it accepts
the head, which `update_parachain_head` pushed, and makes it the best head. -/
theorem submitParachainHead_cases (relayBlockNumber : ℕ)
    (acc : State ParaId Hash HeadData AccountId × Storage) (head : ParaId × Hash) :
    (∃ event, (submitParachainHead T relayBlockNumber acc head).1 = acc.1.depositEvent event ∧
        ∀ parachain, event.updatedHeadOf parachain = none) ∨
      ∃ headData artifacts s',
        acc.1.updateParachainHead T head.1 (acc.1.parasInfo head.1) relayBlockNumber headData
          head.2 = (.ok artifacts, s') ∧
        (submitParachainHead T relayBlockNumber acc head).1 =
          { s' with parasInfo := Function.update s'.parasInfo head.1 (some artifacts.bestHead) } := by
  obtain ⟨s, storage⟩ := acc
  obtain ⟨parachain, parachainHeadHash⟩ := head
  rw [submitParachainHead]
  split
  · dsimp only
    split_ifs
    · exact .inl ⟨_, rfl, fun _ ↦ rfl⟩
    split
    · exact .inl ⟨_, rfl, fun _ ↦ rfl⟩
    rename_i headData _
    split
    · rename_i artifacts s' hupdate
      exact .inr ⟨headData, artifacts, s', hupdate, rfl⟩
    · rename_i s' hupdate
      obtain ⟨event, rfl, hevent⟩ := updateParachainHead_of_error hupdate
      exact .inl ⟨event, rfl, hevent⟩
  · exact .inl ⟨_, rfl, fun _ ↦ rfl⟩

/-- **What a successful call does**: the loop over the heads, from the reader of a proof. -/
theorem submitParachainHeads_eq_ok {origin : Origin AccountId}
    {relayHeaders : Hash → Option (StoredHeaderData Hash)} {atRelayBlock : ℕ × Hash}
    {parachains : List (ParaId × Hash)} {parachainHeadsProof : StorageProof}
    (h : s.submitParachainHeads T origin relayHeaders atRelayBlock parachains parachainHeadsProof =
      .ok s') :
    ∃ storage storage',
      parachains.foldl (submitParachainHead T atRelayBlock.1) (s, storage) = (s', storage') := by
  obtain ⟨relayBlockNumber, relayBlockHash⟩ := atRelayBlock
  rw [submitParachainHeads] at h
  split_ifs at h
  dsimp only at h
  split at h
  · cases h
  split_ifs at h
  split at h
  · cases h
  rename_i storage _
  split at h
  · cases h
  · cases h
    exact ⟨storage, _, rfl⟩

variable [DecidableEq AccountId]

omit [DecidableEq ParaId] [DecidableEq Hash] in
theorem setOwner_eq_ok {origin : Origin AccountId} {newOwner : Option AccountId}
    (h : s.setOwner origin newOwner = .ok s') : s' = { s with palletOwner := newOwner } := by
  rw [setOwner] at h
  split at h
  · cases h
  · cases h
    rfl

omit [DecidableEq ParaId] [DecidableEq Hash] in
theorem setOperatingMode_eq_ok {origin : Origin AccountId} {operatingMode : BasicOperatingMode}
    (h : s.setOperatingMode origin operatingMode = .ok s') :
    s' = { s with palletOperatingMode := operatingMode } := by
  rw [setOperatingMode] at h
  split at h
  · cases h
  · cases h
    rfl

end State

end Parachains
