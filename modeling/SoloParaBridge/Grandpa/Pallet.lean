import SoloParaBridge.HeaderChain.Strict
import SoloParaBridge.Lib.RingBuffer
import SoloParaBridge.Lib.Unsigned
import SoloParaBridge.Messages.Pallet
import SoloParaBridge.Millau.LogicProvider

/-!
# The GRANDPA pallet

`pallet-bridge-grandpa` follows the finality of a bridged chain.  It is initialized once with a
header and the authority set that finalizes its descendants; from then on
`submit_finality_proof` imports a header that is numbered above the best finalized one, whose
justification the current authorities signed, and that carries no forced change and no delayed
change.  A header that schedules a change enacts it at once: the next authorities become the
current set and its id goes up by one.

The imported headers are kept in a ring buffer of `HeadersToKeep` slots: `ImportedHashes` holds
the hashes, `ImportedHashesPointer` the next slot, and `ImportedHeaders` the number and state root
of each hash.  `insert_header` is `RingMap.push`, the push of `Lib.RingBuffer`, on those three
storage items together.

A run is a list of `Call`s, each dispatched under the storage layer (`State.apply`), and
`State.importedHeaders` reads off the headers it imported.  This module gives what each call does
(`State.submitFinalityProof_eq_ok` and the lemmas beside it); `Grandpa.Imports` proves what the
storage holds after any run.

`verify_justification` is the strict verifier of `HeaderChain.Strict`, which may run forever on a
justification whose ancestry goes round in a circle; a call that does not return is `none` and
leaves no state behind.  The weight and `pays_fee` a call returns are not modelled.
-/

set_option autoImplicit false

namespace Grandpa

open HeaderChain
open LogicProvider (Origin)
open Messages (BasicOperatingMode)

/-- `sp_consensus_grandpa::ScheduledChange`. -/
structure ScheduledChange (AuthorityId : Type) where
  nextAuthorities : List (AuthorityId × ℕ)
  delay : ℕ
  deriving DecidableEq, Repr

/-- `StoredHeaderData`: what `ImportedHeaders` keeps of a header. -/
structure StoredHeaderData (Hash : Type) where
  number : ℕ
  stateRoot : Hash
  deriving DecidableEq, Repr

/-- The pallet's `Error`, and `DispatchError::BadOrigin`; `bridgeModule` is
`BridgeModule(OwnedBridgeModuleError::Halted)`. -/
inductive Error where
  | invalidJustification
  | invalidAuthoritySet
  | oldHeader
  | unsupportedScheduledChange
  | notInitialized
  | alreadyInitialized
  | tooManyAuthoritiesInSet
  | bridgeModule
  | badOrigin
  deriving DecidableEq, Repr

/-- What the pallet takes from its runtime, and from the bridged chain's headers and
justifications. -/
structure Config (Header Hash AuthorityId Signature : Type) where
  /-- `MaxFreeMandatoryHeadersPerBlock`. -/
  maxFreeMandatoryHeadersPerBlock : ℕ
  /-- `HeadersToKeep`. -/
  headersToKeep : ℕ
  /-- `BridgedChain::MAX_AUTHORITIES_COUNT`, the bound of `StoredAuthorityList`. -/
  maxAuthoritiesCount : ℕ
  /-- `Header::number`. -/
  number : Header → ℕ
  /-- `Header::state_root`. -/
  stateRoot : Header → Hash
  /-- `GrandpaConsensusLogReader::find_forced_change` of the header's digest. -/
  findForcedChange : Header → Option (ℕ × ScheduledChange AuthorityId)
  /-- `GrandpaConsensusLogReader::find_scheduled_change` of the header's digest. -/
  findScheduledChange : Header → Option (ScheduledChange AuthorityId)
  /-- `VoterSet::new`. -/
  voterSetNew : List (AuthorityId × ℕ) → Option (VoterSet AuthorityId)
  /-- The signature check of `verify_justification`. -/
  checkSignature : Precommit Hash → AuthorityId → Signature → ℕ → ℕ → Bool
  /-- `submit_finality_proof_info_from_args(header, justification).fits_limits()`. -/
  fitsLimits : Header → GrandpaJustification Header Hash AuthorityId Signature → Bool

/-- `StoredAuthoritySet`, of at most `n` authorities. -/
structure StoredAuthoritySet (AuthorityId : Type) (n : ℕ) where
  authorities : BoundedVec (AuthorityId × ℕ) n
  setId : ℕ

/-- `StoredAuthoritySet::try_new`. -/
def StoredAuthoritySet.tryNew {AuthorityId : Type} {n : ℕ} (authorities : List (AuthorityId × ℕ))
    (setId : ℕ) : Except Error (StoredAuthoritySet AuthorityId n) :=
  match BoundedVec.tryFrom authorities with
  | some authorities => .ok ⟨authorities, setId⟩
  | none => .error .tooManyAuthoritiesInSet

/-- `InitializationData`. -/
structure InitializationData (Header AuthorityId : Type) where
  header : Header
  authorityList : List (AuthorityId × ℕ)
  setId : ℕ
  operatingMode : BasicOperatingMode

variable {Header Hash AuthorityId Signature AccountId : Type}

/-- The storage of the pallet. -/
structure State (T : Config Header Hash AuthorityId Signature) (AccountId : Type) where
  freeMandatoryHeadersRemaining : ℕ
  /-- `InitialHash`, absent before the pallet is initialized. -/
  initialHash : Option Hash
  bestFinalized : Option (HeaderId Hash)
  /-- `ImportedHashes` (the slots), `ImportedHashesPointer` and `ImportedHeaders` (the
  entries). -/
  imported : RingMap Hash (StoredHeaderData Hash)
  currentAuthoritySet : StoredAuthoritySet AuthorityId T.maxAuthoritiesCount
  palletOwner : Option AccountId
  palletOperatingMode : BasicOperatingMode

namespace Config

variable (T : Config Header Hash AuthorityId Signature) [HeaderT Header Hash]

/-- `header.build()`. -/
def build (header : Header) : StoredHeaderData Hash := ⟨T.number header, T.stateRoot header⟩

/-- `HeaderId(*header.number(), header.hash())`. -/
def headerId (header : Header) : HeaderId Hash := ⟨HeaderT.hash header, T.number header⟩

/-- What `insert_header` pushes into the ring buffer for a header. -/
def entry (header : Header) : Hash × StoredHeaderData Hash := (HeaderT.hash header, T.build header)

/-- `verify_justification`, with the authority set of the pallet. -/
def verifyJustification [DecidableEq Hash] [DecidableEq AuthorityId]
    (justification : GrandpaJustification Header Hash AuthorityId Signature) (hash : Hash)
    (number : ℕ) (authoritySet : StoredAuthoritySet AuthorityId T.maxAuthoritiesCount) :
    Option (Except Error Unit) :=
  match T.voterSetNew authoritySet.authorities.toList with
  | none => some (.error .invalidAuthoritySet)
  | some voterSet =>
    (HeaderChain.verifyJustification T.checkSignature (hash, number) authoritySet.setId voterSet
      justification).map (Except.mapError fun _ ↦ .invalidJustification)

end Config

/-- `ensure_owner_or_root`. -/
def ensureOwnerOrRoot [DecidableEq AccountId] (owner : Option AccountId) :
    Origin AccountId → Bool
  | .root => true
  | .signed signer => owner = some signer
  | .none => false

/-- `ensure_signed`. -/
def ensureSigned : Origin AccountId → Bool
  | .signed _ => true
  | _ => false

namespace State

variable {T : Config Header Hash AuthorityId Signature} [HeaderT Header Hash] [DecidableEq Hash]
  [DecidableEq AuthorityId] [DecidableEq AccountId]

/-- `SubmitFinalityProofHelper::check_obsolete`. -/
def checkObsolete (s : State T AccountId) (finalityTarget : ℕ) : Except Error Unit :=
  match s.bestFinalized with
  | none => .error .notInitialized
  | some bestFinalized =>
    if finalityTarget ≤ bestFinalized.number then .error .oldHeader else .ok ()

/-- `try_enact_authority_change`: whether a change was enacted, and the storage after it. -/
def tryEnactAuthorityChange (s : State T AccountId) (header : Header) (currentSetId : ℕ) :
    Except Error (Bool × State T AccountId) :=
  -- forced changes need governance
  if (T.findForcedChange header).isSome then .error .unsupportedScheduledChange
  else
    match T.findScheduledChange header with
    | none => .ok (false, s)
    | some change =>
      if change.delay ≠ 0 then .error .unsupportedScheduledChange
      else
        match BoundedVec.tryFrom change.nextAuthorities with
        | none => .error .tooManyAuthoritiesInSet
        | some authorities =>
          -- `current_set_id + 1` on a `u64`, which wraps in a release build
          .ok (true, { s with
            currentAuthoritySet := ⟨authorities, Unsigned.wrappingAdd 64 currentSetId 1⟩ })

/-- `FreeMandatoryHeadersRemaining::mutate(|count| *count = count.saturating_sub(1))`. -/
def useFreeMandatoryHeader (s : State T AccountId) : State T AccountId :=
  { s with freeMandatoryHeadersRemaining := s.freeMandatoryHeadersRemaining - 1 }

/-- `insert_header`. -/
def insertHeader (s : State T AccountId) (header : Header) (hash : Hash) : State T AccountId :=
  { s with
    bestFinalized := some ⟨hash, T.number header⟩
    imported := s.imported.push T.headersToKeep hash (T.build header) }

/-- `submit_finality_proof`, or `none` when the verification of the justification does not
end. -/
def submitFinalityProof (s : State T AccountId) (origin : Origin AccountId)
    (finalityTarget : Header) (justification : GrandpaJustification Header Hash AuthorityId Signature) :
    Option (Exec Error (State T AccountId)) :=
  if s.palletOperatingMode = .halted then some (.err .bridgeModule s)
  else if !ensureSigned origin then some (.err .badOrigin s)
  else
    let hash := HeaderT.hash finalityTarget
    let number := T.number finalityTarget
    match s.checkObsolete number with
    | .error e => some (.err e s)
    | .ok () =>
      let authoritySet := s.currentAuthoritySet
      (T.verifyJustification justification hash number authoritySet).map fun
        | .error e => .err e s
        | .ok () =>
          match s.tryEnactAuthorityChange finalityTarget authoritySet.setId with
          | .error e => .err e s
          | .ok (isAuthoritiesChangeEnacted, s) =>
            let mayRefundCallFee := isAuthoritiesChangeEnacted &&
              decide (0 < s.freeMandatoryHeadersRemaining) &&
              T.fitsLimits finalityTarget justification
            let s := if mayRefundCallFee then s.useFreeMandatoryHeader else s
            .ok (s.insertHeader finalityTarget hash)

/-- `initialize_bridge`. -/
def initializeBridge (s : State T AccountId) (initParams : InitializationData Header AuthorityId) :
    Except Error (State T AccountId) :=
  match StoredAuthoritySet.tryNew initParams.authorityList initParams.setId with
  | .error e => .error e
  | .ok authoritySet =>
    let initialHash := HeaderT.hash initParams.header
    let s := { s with
      initialHash := some initialHash
      imported := { s.imported with pointer := 0 } }
    let s := s.insertHeader initParams.header initialHash
    .ok { s with
      currentAuthoritySet := authoritySet
      palletOperatingMode := initParams.operatingMode }

/-- `initialize`, the call. -/
def initializeCall (s : State T AccountId) (origin : Origin AccountId)
    (initData : InitializationData Header AuthorityId) : Exec Error (State T AccountId) :=
  if !ensureOwnerOrRoot s.palletOwner origin then .err .badOrigin s
  else if s.bestFinalized.isSome then .err .alreadyInitialized s
  else
    match s.initializeBridge initData with
    | .error e => .err e s
    | .ok s => .ok s

/-- `set_owner`. -/
def setOwner (s : State T AccountId) (origin : Origin AccountId) (newOwner : Option AccountId) :
    Exec Error (State T AccountId) :=
  if !ensureOwnerOrRoot s.palletOwner origin then .err .badOrigin s
  else .ok { s with palletOwner := newOwner }

/-- `set_operating_mode`. -/
def setOperatingMode (s : State T AccountId) (origin : Origin AccountId)
    (operatingMode : BasicOperatingMode) : Exec Error (State T AccountId) :=
  if !ensureOwnerOrRoot s.palletOwner origin then .err .badOrigin s
  else .ok { s with palletOperatingMode := operatingMode }

/-- `on_initialize`. -/
def onInitialize (s : State T AccountId) : State T AccountId :=
  { s with freeMandatoryHeadersRemaining := T.maxFreeMandatoryHeadersPerBlock }

/-- `on_finalize`: the value is killed, and reads as `0` again. -/
def onFinalize (s : State T AccountId) : State T AccountId :=
  { s with freeMandatoryHeadersRemaining := 0 }

end State

/-- A call of the pallet, or one of its hooks. -/
inductive Call (Header Hash AuthorityId Signature AccountId : Type) where
  | submitFinalityProof (origin : Origin AccountId) (finalityTarget : Header)
      (justification : GrandpaJustification Header Hash AuthorityId Signature)
  | initializeCall (origin : Origin AccountId) (initData : InitializationData Header AuthorityId)
  | setOwner (origin : Origin AccountId) (newOwner : Option AccountId)
  | setOperatingMode (origin : Origin AccountId) (operatingMode : BasicOperatingMode)
  | onInitialize
  | onFinalize

/-- The header a call asks to import. -/
def Call.finalityTarget? : Call Header Hash AuthorityId Signature AccountId → Option Header
  | .submitFinalityProof _ finalityTarget _ => some finalityTarget
  | _ => none

namespace State

variable {T : Config Header Hash AuthorityId Signature} [HeaderT Header Hash] [DecidableEq Hash]
  [DecidableEq AuthorityId] [DecidableEq AccountId]

/-- What the body of a call leaves behind, or `none` when it does not return; a hook always
returns. -/
def dispatch (s : State T AccountId) :
    Call Header Hash AuthorityId Signature AccountId → Option (Exec Error (State T AccountId))
  | .submitFinalityProof origin finalityTarget justification =>
    s.submitFinalityProof origin finalityTarget justification
  | .initializeCall origin initData => some (s.initializeCall origin initData)
  | .setOwner origin newOwner => some (s.setOwner origin newOwner)
  | .setOperatingMode origin operatingMode => some (s.setOperatingMode origin operatingMode)
  | .onInitialize => some (.ok s.onInitialize)
  | .onFinalize => some (.ok s.onFinalize)

/-- A call under the storage layer, which discards the writes of an `Err`. -/
def apply (s : State T AccountId) (call : Call Header Hash AuthorityId Signature AccountId) :
    Option (State T AccountId) :=
  (s.dispatch call).map (Exec.transactional s)

/-- The headers a run of calls imports, in order: the target of each call that returns `Ok`. -/
def importedHeaders :
    State T AccountId → List (Call Header Hash AuthorityId Signature AccountId) → List Header
  | _, [] => []
  | s, call :: calls =>
    match s.dispatch call with
    | none => []
    | some r =>
      (if r.isOk then call.finalityTarget?.toList else []) ++
        importedHeaders (Exec.transactional s r) calls

end State

/-! ## What each call does -/

section Spec

variable {T : Config Header Hash AuthorityId Signature} {s s' : State T AccountId}

theorem StoredAuthoritySet.tryNew_eq_ok {n : ℕ} {authorities : List (AuthorityId × ℕ)} {setId : ℕ}
    {authoritySet : StoredAuthoritySet AuthorityId n}
    (h : StoredAuthoritySet.tryNew authorities setId = .ok authoritySet) :
    authoritySet.authorities.toList = authorities ∧ authoritySet.setId = setId := by
  rw [StoredAuthoritySet.tryNew, BoundedVec.tryFrom] at h
  split at h
  · rename_i hfrom
    split at hfrom
    · cases hfrom
      cases h
      exact ⟨rfl, rfl⟩
    · cases hfrom
  · cases h

namespace State

theorem checkObsolete_eq_ok {number : ℕ} (h : s.checkObsolete number = .ok ()) :
    ∃ best, s.bestFinalized = some best ∧ best.number < number := by
  rw [checkObsolete] at h
  split at h
  · cases h
  · rename_i best hbest
    split at h
    · cases h
    · exact ⟨best, hbest, by omega⟩

/-- A change is enacted only from a header with no forced change and a scheduled change of no
delay, and it replaces the authority set, with the next id. -/
theorem tryEnactAuthorityChange_eq_ok {header : Header} {currentSetId : ℕ} {enacted : Bool}
    (h : s.tryEnactAuthorityChange header currentSetId = .ok (enacted, s')) :
    T.findForcedChange header = none ∧
      (T.findScheduledChange header = none ∧ enacted = false ∧ s' = s ∨
        ∃ change authorities, T.findScheduledChange header = some change ∧ change.delay = 0 ∧
          enacted = true ∧
          s' = { s with currentAuthoritySet := ⟨authorities, Unsigned.wrappingAdd 64 currentSetId 1⟩ }) := by
  rw [tryEnactAuthorityChange] at h
  split at h
  · cases h
  rename_i hforced
  refine ⟨Option.not_isSome_iff_eq_none.mp (by simpa using hforced), ?_⟩
  split at h
  · rename_i hnone
    cases h
    exact .inl ⟨hnone, rfl, rfl⟩
  · rename_i change hchange
    split at h
    · cases h
    rename_i hdelay
    split at h
    · cases h
    · rename_i authorities _
      cases h
      exact .inr ⟨change, authorities, hchange, not_not.mp hdelay, rfl, rfl⟩

@[simp] theorem useFreeMandatoryHeader_imported : s.useFreeMandatoryHeader.imported = s.imported :=
  rfl

@[simp] theorem useFreeMandatoryHeader_currentAuthoritySet :
    s.useFreeMandatoryHeader.currentAuthoritySet = s.currentAuthoritySet := rfl

section Owner

variable [DecidableEq AccountId]

theorem setOwner_eq_ok {origin : Origin AccountId} {newOwner : Option AccountId}
    (h : s.setOwner origin newOwner = .ok s') : s' = { s with palletOwner := newOwner } := by
  rw [setOwner] at h
  split at h
  · cases h
  · cases h
    rfl

theorem setOperatingMode_eq_ok {origin : Origin AccountId} {operatingMode : BasicOperatingMode}
    (h : s.setOperatingMode origin operatingMode = .ok s') :
    s' = { s with palletOperatingMode := operatingMode } := by
  rw [setOperatingMode] at h
  split at h
  · cases h
  · cases h
    rfl

end Owner

variable [DecidableEq Hash]

@[simp] theorem insertHeader_bestFinalized (header : Header) (hash : Hash) :
    (s.insertHeader header hash).bestFinalized = some ⟨hash, T.number header⟩ := rfl

@[simp] theorem insertHeader_imported (header : Header) (hash : Hash) :
    (s.insertHeader header hash).imported = s.imported.push T.headersToKeep hash (T.build header) :=
  rfl

@[simp] theorem insertHeader_currentAuthoritySet (header : Header) (hash : Hash) :
    (s.insertHeader header hash).currentAuthoritySet = s.currentAuthoritySet := rfl

variable [HeaderT Header Hash]

/-- **What an import does.**  The pallet runs, the caller signed, the header is numbered above the
best finalized one, its justification holds, its change (if any) is enacted, a free mandatory
header is used if the fee is refunded, and the header is inserted. -/
theorem submitFinalityProof_eq_ok [DecidableEq AuthorityId] {origin : Origin AccountId}
    {finalityTarget : Header} {justification : GrandpaJustification Header Hash AuthorityId Signature}
    (h : s.submitFinalityProof origin finalityTarget justification = some (.ok s')) :
    s.palletOperatingMode ≠ .halted ∧ ensureSigned origin = true ∧
      (∃ best, s.bestFinalized = some best ∧ best.number < T.number finalityTarget) ∧
      T.verifyJustification justification (HeaderT.hash finalityTarget) (T.number finalityTarget)
        s.currentAuthoritySet = some (.ok ()) ∧
      ∃ enacted s₁,
        s.tryEnactAuthorityChange finalityTarget s.currentAuthoritySet.setId = .ok (enacted, s₁) ∧
        s' = (if enacted && decide (0 < s₁.freeMandatoryHeadersRemaining) &&
            T.fitsLimits finalityTarget justification then s₁.useFreeMandatoryHeader else s₁
          ).insertHeader finalityTarget (HeaderT.hash finalityTarget) := by
  rw [submitFinalityProof] at h
  split at h
  · cases h
  rename_i hmode
  split at h
  · cases h
  rename_i hsigned
  dsimp only at h
  split at h
  · cases h
  rename_i hobsolete
  obtain ⟨result, hverify, hresult⟩ := Option.map_eq_some_iff.mp h
  cases result with
  | error e => cases hresult
  | ok u =>
    cases u
    dsimp only at hresult
    split at hresult
    · cases hresult
    rename_i enacted s₁ henact
    cases hresult
    exact ⟨hmode, by simpa using hsigned, checkObsolete_eq_ok hobsolete, hverify, enacted, s₁,
      henact, rfl⟩

/-- **What an initialization does.**  From a pallet not initialized yet, with an authority set
within the bound: the initial header is inserted into the ring buffer from its first slot, and the
authority set and operating mode are those given. -/
theorem initializeCall_eq_ok [DecidableEq AccountId] {origin : Origin AccountId}
    {initData : InitializationData Header AuthorityId}
    (h : s.initializeCall origin initData = .ok s') :
    ensureOwnerOrRoot s.palletOwner origin = true ∧ s.bestFinalized = none ∧
      ∃ authoritySet, StoredAuthoritySet.tryNew initData.authorityList initData.setId =
          .ok authoritySet ∧
        s' = { ({ s with
              initialHash := some (HeaderT.hash initData.header)
              imported := { s.imported with pointer := 0 } } : State T AccountId).insertHeader
                initData.header (HeaderT.hash initData.header) with
          currentAuthoritySet := authoritySet
          palletOperatingMode := initData.operatingMode } := by
  rw [initializeCall] at h
  split at h
  · cases h
  rename_i horigin
  split at h
  · cases h
  rename_i hbest
  split at h
  · cases h
  rename_i s₁ hbridge
  cases h
  rw [initializeBridge] at hbridge
  split at hbridge
  · cases hbridge
  rename_i authoritySet hnew
  cases hbridge
  exact ⟨by simpa using horigin, by simpa using hbest, authoritySet, hnew, rfl⟩

end State

end Spec

end Grandpa
