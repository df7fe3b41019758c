import SoloParaBridge.Grandpa.Pallet

/-!
# The BEEFY pallet

`pallet-bridge-beefy` is a light client of a bridged chain whose blocks BEEFY finalizes.  It is
initialized once with an authority set and a best block number.  From then on `submit_commitment`
imports a commitment if all of these hold:
* it is for a block above the best one;
* the validator set that signed it is the current one, by id, length and merkle root of its
  keys;
* enough of those validators signed it (`signaturesRequired`);
* the MMR leaf it comes with is in the MMR whose root the commitment carries.

It then counts the request, takes the leaf's next authority set if that set's id is higher, and
pushes the commitment into a ring buffer of `CommitmentsToKeep` slots:
`ImportedBlockNumbers` holds the block numbers, `ImportedCommitmentsInfo` the next slot, and
`ImportedCommitments` the data of each block number.  `on_initialize` takes one off
`RequestCount` at every block.

Signatures, merkle roots, MMR proofs and the decoding of the payload belong to the bridged chain,
and are parameters of `Config`.  `RequestCount` and the slot index are `u32`s whose `+ 1` is
counted with `Unsigned.wrappingAdd 32`.  A `%` by `CommitmentsToKeep = 0` panics, and a call that
panics is `none`.  The weights are not modelled.

`State.submitCommitment_eq_ok` says what an import does.  `Beefy.Commitments` proves what the
storage holds after any run.
-/

set_option autoImplicit false

namespace Beefy

open LogicProvider (Origin)
open Messages (BasicOperatingMode)
open Grandpa (ensureOwnerOrRoot ensureSigned)

/-- `sp_consensus_beefy::mmr::BeefyAuthoritySet`: what the pallet keeps of an authority set. -/
structure BeefyAuthoritySet (MmrHash : Type) where
  id : ℕ
  len : ℕ
  root : MmrHash
  deriving DecidableEq, Repr

/-- `sp_consensus_beefy::ValidatorSet`. -/
structure ValidatorSet (AuthorityId : Type) where
  validators : List AuthorityId
  id : ℕ
  deriving DecidableEq, Repr

/-- `sp_consensus_beefy::Commitment`. -/
structure Commitment (Payload : Type) where
  payload : Payload
  blockNumber : ℕ
  validatorSetId : ℕ
  deriving DecidableEq, Repr

/-- `sp_consensus_beefy::SignedCommitment`. -/
structure SignedCommitment (Payload Signature : Type) where
  commitment : Commitment Payload
  signatures : List (Option Signature)
  deriving DecidableEq, Repr

/-- `sp_consensus_beefy::mmr::MmrLeaf`. -/
structure MmrLeaf (BlockHash MmrHash LeafExtra : Type) where
  version : ℕ
  parentNumberAndHash : ℕ × BlockHash
  beefyNextAuthoritySet : BeefyAuthoritySet MmrHash
  leafExtra : LeafExtra
  deriving DecidableEq, Repr

/-- `bp_beefy::ImportedCommitment`. -/
structure ImportedCommitment (BlockHash MmrHash : Type) where
  parentNumberAndHash : ℕ × BlockHash
  mmrRoot : MmrHash
  deriving DecidableEq, Repr

/-- `ImportedCommitmentsInfoData`. -/
structure ImportedCommitmentsInfoData where
  bestBlockNumber : ℕ
  nextBlockNumberIndex : ℕ
  deriving DecidableEq, Repr

/-- `bp_beefy::InitializationData`. -/
structure InitializationData (MmrHash : Type) where
  operatingMode : BasicOperatingMode
  bestBlockNumber : ℕ
  authoritySet : BeefyAuthoritySet MmrHash
  deriving DecidableEq, Repr

/-- The pallet's `Error`, and `DispatchError::BadOrigin`; `bridgeModule` is
`BridgeModule(OwnedBridgeModuleError::Halted)`. -/
inductive Error where
  | notInitialized
  | alreadyInitialized
  | invalidInitialAuthoritySet
  | tooManyRequests
  | oldCommitment
  | invalidCommitmentValidatorSetId
  | invalidValidatorSetId
  | invalidCommitmentSignaturesLen
  | invalidValidatorSetLen
  | notEnoughCorrectSignatures
  | mmrRootMissingFromCommitment
  | mmrProofVerificationFailed
  | invalidValidatorSetRoot
  | bridgeModule
  | badOrigin
  deriving DecidableEq, Repr

/-- What the pallet takes from its runtime and from the primitives of the bridged chain. -/
structure Config (AuthorityId Signature Payload MmrHash BlockHash LeafExtra MmrProof : Type) where
  /-- `MaxRequests`. -/
  maxRequests : ℕ
  maxRequests_lt : maxRequests < 2 ^ 32
  /-- `CommitmentsToKeep`. -/
  commitmentsToKeep : ℕ
  commitmentsToKeep_lt : commitmentsToKeep < 2 ^ 32
  /-- `BeefyAuthorityId::verify` of a signature over the encoded commitment. -/
  verify : AuthorityId → Signature → Commitment Payload → Bool
  /-- `get_authorities_mmr_root`: the merkle root of the validators' leaves. -/
  authoritiesMmrRoot : List AuthorityId → MmrHash
  /-- `payload.get_decoded(&MMR_ROOT_PAYLOAD_ID)`. -/
  decodeMmrRoot : Payload → Option MmrHash
  /-- `BridgedMmrHashing::hash` of the encoded leaf. -/
  hashLeaf : MmrLeaf BlockHash MmrHash LeafExtra → MmrHash
  /-- `verify_mmr_leaves_proof`: whether the proof shows the leaves in the MMR of the root. -/
  verifyMmrLeavesProof : MmrHash → List MmrHash → MmrProof → Bool

/-- The storage of the pallet. -/
structure State (MmrHash BlockHash AccountId : Type) where
  requestCount : ℕ
  importedCommitmentsInfo : Option ImportedCommitmentsInfoData
  importedBlockNumbers : ℕ → Option ℕ
  importedCommitments : ℕ → Option (ImportedCommitment BlockHash MmrHash)
  currentAuthoritySetInfo : BeefyAuthoritySet MmrHash
  palletOwner : Option AccountId
  palletOperatingMode : BasicOperatingMode

variable {AuthorityId Signature Payload MmrHash BlockHash LeafExtra MmrProof AccountId : Type}

/-! ## Verifying a commitment -/

/-- `signatures_required`: all the validators but a third, rounded down, of those after the
first. -/
def signaturesRequired (validatorsLen : ℕ) : ℕ :=
  validatorsLen - (validatorsLen - 1) / 3

namespace Config

variable (T : Config AuthorityId Signature Payload MmrHash BlockHash LeafExtra MmrProof)

/-- The test of the loop of `verify_signatures`: `maybeSig` is a signature of `authority` over
the commitment. -/
def verifies (commitment : Commitment Payload) (authority : AuthorityId) :
    Option Signature → Bool
  | some sig => T.verify authority sig commitment
  | none => false

/-- The loop of `verify_signatures`, over the validators paired with their signatures: a correct
signature takes one off the missing ones, and the loop breaks once none is missing. -/
def verifySignaturesLoop (commitment : Commitment Payload) :
    ℕ → List (AuthorityId × Option Signature) → ℕ
  | missingSignatures, [] => missingSignatures
  | missingSignatures, (authority, maybeSig) :: rest =>
    if T.verifies commitment authority maybeSig then
      let missingSignatures := missingSignatures - 1
      if missingSignatures = 0 then 0 else verifySignaturesLoop commitment missingSignatures rest
    else verifySignaturesLoop commitment missingSignatures rest

/-- The number of validators whose signature, at the same position, is a correct one. -/
def correctSignatures (commitment : SignedCommitment Payload Signature)
    (authoritySet : ValidatorSet AuthorityId) : ℕ :=
  (authoritySet.validators.zip commitment.signatures).countP fun signed ↦
    T.verifies commitment.commitment signed.1 signed.2

/-- `verify_authority_set`. -/
def verifyAuthoritySet (authoritySetInfo : BeefyAuthoritySet MmrHash)
    (authoritySet : ValidatorSet AuthorityId) [DecidableEq MmrHash] : Except Error Unit :=
  if authoritySet.id ≠ authoritySetInfo.id then .error .invalidValidatorSetId
  else if authoritySet.validators.length ≠ authoritySetInfo.len then .error .invalidValidatorSetLen
  else if T.authoritiesMmrRoot authoritySet.validators ≠ authoritySetInfo.root then
    .error .invalidValidatorSetRoot
  else .ok ()

/-- `verify_signatures`. -/
def verifySignatures (commitment : SignedCommitment Payload Signature)
    (authoritySet : ValidatorSet AuthorityId) : Except Error Unit :=
  if commitment.signatures.length ≠ authoritySet.validators.length then
    .error .invalidCommitmentSignaturesLen
  else
    let missingSignatures := T.verifySignaturesLoop commitment.commitment
      (signaturesRequired authoritySet.validators.length)
      (authoritySet.validators.zip commitment.signatures)
    if missingSignatures = 0 then .ok () else .error .notEnoughCorrectSignatures

/-- `extract_mmr_root`. -/
def extractMmrRoot (commitment : SignedCommitment Payload Signature) : Except Error MmrHash :=
  match T.decodeMmrRoot commitment.commitment.payload with
  | some mmrRoot => .ok mmrRoot
  | none => .error .mmrRootMissingFromCommitment

/-- `verify_commitment`: the MMR root the commitment carries, once its signers are checked. -/
def verifyCommitment [DecidableEq MmrHash] (commitment : SignedCommitment Payload Signature)
    (authoritySetInfo : BeefyAuthoritySet MmrHash) (authoritySet : ValidatorSet AuthorityId) :
    Except Error MmrHash :=
  if commitment.commitment.validatorSetId ≠ authoritySetInfo.id then
    .error .invalidCommitmentValidatorSetId
  else if commitment.signatures.length ≠ authoritySetInfo.len then
    .error .invalidCommitmentSignaturesLen
  else
    match T.verifyAuthoritySet authoritySetInfo authoritySet with
    | .error e => .error e
    | .ok () =>
      match T.verifySignatures commitment authoritySet with
      | .error e => .error e
      | .ok () => T.extractMmrRoot commitment

/-- `verify_beefy_mmr_leaf`. -/
def verifyBeefyMmrLeaf (mmrLeaf : MmrLeaf BlockHash MmrHash LeafExtra) (mmrProof : MmrProof)
    (mmrRoot : MmrHash) : Except Error Unit :=
  if T.verifyMmrLeavesProof mmrRoot [T.hashLeaf mmrLeaf] mmrProof then .ok ()
  else .error .mmrProofVerificationFailed

end Config

/-! ## The calls -/

namespace State

variable [DecidableEq AccountId]

/-- `initialize`, the function the call and the genesis build share. -/
def initializePallet (s : State MmrHash BlockHash AccountId)
    (initData : InitializationData MmrHash) : Except Error (State MmrHash BlockHash AccountId) :=
  if initData.authoritySet.len = 0 then .error .invalidInitialAuthoritySet
  else .ok { s with
    currentAuthoritySetInfo := initData.authoritySet
    palletOperatingMode := initData.operatingMode
    importedCommitmentsInfo := some ⟨initData.bestBlockNumber, 0⟩ }

/-- `initialize`, the call. -/
def initializeCall (s : State MmrHash BlockHash AccountId) (origin : Origin AccountId)
    (initData : InitializationData MmrHash) : Exec Error (State MmrHash BlockHash AccountId) :=
  if !ensureOwnerOrRoot s.palletOwner origin then .err .badOrigin s
  else if s.importedCommitmentsInfo.isSome then .err .alreadyInitialized s
  else
    match s.initializePallet initData with
    | .error e => .err e s
    | .ok s => .ok s

/-- `set_owner`. -/
def setOwner (s : State MmrHash BlockHash AccountId) (origin : Origin AccountId)
    (newOwner : Option AccountId) : Exec Error (State MmrHash BlockHash AccountId) :=
  if !ensureOwnerOrRoot s.palletOwner origin then .err .badOrigin s
  else .ok { s with palletOwner := newOwner }

/-- `set_operating_mode`. -/
def setOperatingMode (s : State MmrHash BlockHash AccountId) (origin : Origin AccountId)
    (operatingMode : BasicOperatingMode) : Exec Error (State MmrHash BlockHash AccountId) :=
  if !ensureOwnerOrRoot s.palletOwner origin then .err .badOrigin s
  else .ok { s with palletOperatingMode := operatingMode }

/-- `on_initialize`. -/
def onInitialize (s : State MmrHash BlockHash AccountId) : State MmrHash BlockHash AccountId :=
  { s with requestCount := s.requestCount - 1 }

variable [DecidableEq MmrHash]
  (T : Config AuthorityId Signature Payload MmrHash BlockHash LeafExtra MmrProof)

/-- What `submit_commitment` writes once its checks passed, or `none` when it panics: it counts
the request, takes the leaf's next authority set if its id is higher, and imports the commitment
into the ring buffer. -/
def importCommitment (s : State MmrHash BlockHash AccountId)
    (commitmentsInfo : ImportedCommitmentsInfoData) (commitment : SignedCommitment Payload Signature)
    (mmrLeaf : MmrLeaf BlockHash MmrHash LeafExtra) (mmrRoot : MmrHash) :
    Option (State MmrHash BlockHash AccountId) :=
  let currentAuthoritySetInfo := s.currentAuthoritySetInfo
  let s := { s with requestCount := Unsigned.wrappingAdd 32 s.requestCount 1 }
  let s := if currentAuthoritySetInfo.id < mmrLeaf.beefyNextAuthoritySet.id then
      { s with currentAuthoritySetInfo := mmrLeaf.beefyNextAuthoritySet }
    else s
  let blockNumberIndex := commitmentsInfo.nextBlockNumberIndex
  let toPrune := s.importedBlockNumbers blockNumberIndex
  let s := { s with
    importedCommitments := Function.update s.importedCommitments
      commitment.commitment.blockNumber (some ⟨mmrLeaf.parentNumberAndHash, mmrRoot⟩)
    importedBlockNumbers := Function.update s.importedBlockNumbers blockNumberIndex
      (some commitment.commitment.blockNumber) }
  -- `(block_number_index + 1) % T::CommitmentsToKeep::get()` panics on a zero
  if T.commitmentsToKeep = 0 then none
  else
    let s := { s with importedCommitmentsInfo := some ⟨commitment.commitment.blockNumber,
      Unsigned.wrappingAdd 32 blockNumberIndex 1 % T.commitmentsToKeep⟩ }
    match toPrune with
    | some oldBlockNumber => some { s with
        importedCommitments := Function.update s.importedCommitments oldBlockNumber none }
    | none => some s

/-- `submit_commitment`, or `none` when it panics. -/
def submitCommitment (s : State MmrHash BlockHash AccountId) (origin : Origin AccountId)
    (commitment : SignedCommitment Payload Signature) (validatorSet : ValidatorSet AuthorityId)
    (mmrLeaf : MmrLeaf BlockHash MmrHash LeafExtra) (mmrProof : MmrProof) :
    Option (Exec Error (State MmrHash BlockHash AccountId)) :=
  if s.palletOperatingMode = .halted then some (.err .bridgeModule s)
  else if !ensureSigned origin then some (.err .badOrigin s)
  else if ¬s.requestCount < T.maxRequests then some (.err .tooManyRequests s)
  else
    match s.importedCommitmentsInfo with
    | none => some (.err .notInitialized s)
    | some commitmentsInfo =>
      if ¬commitmentsInfo.bestBlockNumber < commitment.commitment.blockNumber then
        some (.err .oldCommitment s)
      else
        match T.verifyCommitment commitment s.currentAuthoritySetInfo validatorSet with
        | .error e => some (.err e s)
        | .ok mmrRoot =>
          match T.verifyBeefyMmrLeaf mmrLeaf mmrProof mmrRoot with
          | .error e => some (.err e s)
          | .ok () => (s.importCommitment T commitmentsInfo commitment mmrLeaf mmrRoot).map .ok

end State

/-- The `GenesisConfig` of the pallet. -/
structure GenesisConfig (MmrHash AccountId : Type) where
  owner : Option AccountId
  initData : Option (InitializationData MmrHash)

/-- The storage `GenesisConfig` builds, or `none` when an invalid initialization panics; with no
initialization data the pallet is halted. -/
def GenesisConfig.build [Inhabited MmrHash] [DecidableEq AccountId]
    (config : GenesisConfig MmrHash AccountId) : Option (State MmrHash BlockHash AccountId) :=
  let s : State MmrHash BlockHash AccountId :=
    ⟨0, none, fun _ ↦ none, fun _ ↦ none, ⟨0, 0, default⟩, config.owner, .normal⟩
  match config.initData with
  | some initData =>
    match s.initializePallet initData with
    | .ok s => some s
    | .error _ => none
  | none => some { s with palletOperatingMode := .halted }

/-- A call of the pallet, or its hook. -/
inductive Call (AuthorityId Signature Payload MmrHash BlockHash LeafExtra MmrProof AccountId : Type)
    where
  | initializeCall (origin : Origin AccountId) (initData : InitializationData MmrHash)
  | setOwner (origin : Origin AccountId) (newOwner : Option AccountId)
  | setOperatingMode (origin : Origin AccountId) (operatingMode : BasicOperatingMode)
  | submitCommitment (origin : Origin AccountId) (commitment : SignedCommitment Payload Signature)
      (validatorSet : ValidatorSet AuthorityId) (mmrLeaf : MmrLeaf BlockHash MmrHash LeafExtra)
      (mmrProof : MmrProof)
  | onInitialize

namespace State

variable [DecidableEq MmrHash] [DecidableEq AccountId]
  (T : Config AuthorityId Signature Payload MmrHash BlockHash LeafExtra MmrProof)

/-- What the body of a call leaves behind, or `none` when it panics. -/
def dispatch (s : State MmrHash BlockHash AccountId) :
    Call AuthorityId Signature Payload MmrHash BlockHash LeafExtra MmrProof AccountId →
      Option (Exec Error (State MmrHash BlockHash AccountId))
  | .initializeCall origin initData => some (s.initializeCall origin initData)
  | .setOwner origin newOwner => some (s.setOwner origin newOwner)
  | .setOperatingMode origin operatingMode => some (s.setOperatingMode origin operatingMode)
  | .submitCommitment origin commitment validatorSet mmrLeaf mmrProof =>
    s.submitCommitment T origin commitment validatorSet mmrLeaf mmrProof
  | .onInitialize => some (.ok s.onInitialize)

/-- A call under the storage layer, which discards the writes of an `Err`. -/
def apply (s : State MmrHash BlockHash AccountId)
    (call : Call AuthorityId Signature Payload MmrHash BlockHash LeafExtra MmrProof AccountId) :
    Option (State MmrHash BlockHash AccountId) :=
  (s.dispatch T call).map (Exec.transactional s)

end State

/-! ## Views of the storage -/

/-- The block number and the data a call imports if it returns `Ok`. -/
def Call.imported? (T : Config AuthorityId Signature Payload MmrHash BlockHash LeafExtra MmrProof) :
    Call AuthorityId Signature Payload MmrHash BlockHash LeafExtra MmrProof AccountId →
      Option (ℕ × ImportedCommitment BlockHash MmrHash)
  | .submitCommitment _ commitment _ mmrLeaf _ =>
    (T.decodeMmrRoot commitment.commitment.payload).map fun mmrRoot ↦
      (commitment.commitment.blockNumber, ⟨mmrLeaf.parentNumberAndHash, mmrRoot⟩)
  | _ => none

namespace State

/-- The ring buffer of the imported commitments: the slots of `ImportedBlockNumbers`, the next
slot of `ImportedCommitmentsInfo` (`0` before the initialization), and the data of
`ImportedCommitments`. -/
def commitments (s : State MmrHash BlockHash AccountId) :
    RingMap ℕ (ImportedCommitment BlockHash MmrHash) :=
  ⟨s.importedBlockNumbers, (s.importedCommitmentsInfo.map (·.nextBlockNumberIndex)).getD 0,
    s.importedCommitments⟩

variable [DecidableEq MmrHash] [DecidableEq AccountId]
  (T : Config AuthorityId Signature Payload MmrHash BlockHash LeafExtra MmrProof)

/-- The commitments a run of calls imports, in order. -/
def importedCommitmentsOf : State MmrHash BlockHash AccountId →
    List (Call AuthorityId Signature Payload MmrHash BlockHash LeafExtra MmrProof AccountId) →
      List (ℕ × ImportedCommitment BlockHash MmrHash)
  | _, [] => []
  | s, call :: calls =>
    match s.dispatch T call with
    | none => []
    | some r =>
      (if r.isOk then (call.imported? T).toList else []) ++
        importedCommitmentsOf (Exec.transactional s r) calls

end State

/-! ## What each function does -/

/-- **Signatures of more than two thirds.**  For a set that is not empty, `signatures_required`
correct signatures are more than two thirds of the set, and fewer are not. -/
theorem signaturesRequired_le_iff {validatorsLen k : ℕ} (hlen : 0 < validatorsLen) :
    signaturesRequired validatorsLen ≤ k ↔ 2 * validatorsLen < 3 * k := by
  rw [signaturesRequired]
  omega

namespace Config

variable {T : Config AuthorityId Signature Payload MmrHash BlockHash LeafExtra MmrProof}

/-- The loop ends with the signatures it started from less the correct ones: the subtraction
saturates at zero, so breaking there changes nothing. -/
theorem verifySignaturesLoop_eq (commitment : Commitment Payload) (missingSignatures : ℕ)
    (signed : List (AuthorityId × Option Signature)) :
    T.verifySignaturesLoop commitment missingSignatures signed =
      missingSignatures - signed.countP fun signed ↦ T.verifies commitment signed.1 signed.2 := by
  induction signed generalizing missingSignatures with
  | nil => rfl
  | cons head rest ih =>
    obtain ⟨authority, maybeSig⟩ := head
    rw [verifySignaturesLoop, List.countP_cons]
    by_cases hsig : T.verifies commitment authority maybeSig
    · simp only [hsig, if_true]
      split_ifs with hzero
      · omega
      · rw [ih]
        omega
    · simp only [hsig, Bool.false_eq_true, if_false, Nat.add_zero]
      exact ih missingSignatures

theorem verifySignatures_eq_ok {commitment : SignedCommitment Payload Signature}
    {authoritySet : ValidatorSet AuthorityId} :
    T.verifySignatures commitment authoritySet = .ok () ↔
      commitment.signatures.length = authoritySet.validators.length ∧
        signaturesRequired authoritySet.validators.length ≤
          T.correctSignatures commitment authoritySet := by
  rw [verifySignatures, correctSignatures]
  dsimp only
  rw [verifySignaturesLoop_eq]
  split_ifs with hlen hmissing
  · exact iff_of_false (by simp) fun h ↦ hlen h.1
  · exact iff_of_true rfl ⟨not_not.mp hlen, by omega⟩
  · exact iff_of_false (by simp) fun h ↦ hmissing (by omega)

theorem verifyAuthoritySet_eq_ok [DecidableEq MmrHash] {authoritySetInfo : BeefyAuthoritySet MmrHash}
    {authoritySet : ValidatorSet AuthorityId} :
    T.verifyAuthoritySet authoritySetInfo authoritySet = .ok () ↔
      authoritySet.id = authoritySetInfo.id ∧
        authoritySet.validators.length = authoritySetInfo.len ∧
        T.authoritiesMmrRoot authoritySet.validators = authoritySetInfo.root := by
  rw [verifyAuthoritySet]
  split_ifs with hid hlen hroot
  · exact iff_of_false (by simp) fun h ↦ hid h.1
  · exact iff_of_false (by simp) fun h ↦ hlen h.2.1
  · exact iff_of_false (by simp) fun h ↦ hroot h.2.2
  · exact iff_of_true rfl ⟨not_not.mp hid, not_not.mp hlen, not_not.mp hroot⟩

theorem extractMmrRoot_eq_ok {commitment : SignedCommitment Payload Signature} {mmrRoot : MmrHash} :
    T.extractMmrRoot commitment = .ok mmrRoot ↔
      T.decodeMmrRoot commitment.commitment.payload = some mmrRoot := by
  rw [extractMmrRoot]
  split <;> simp_all

theorem verifyBeefyMmrLeaf_eq_ok {mmrLeaf : MmrLeaf BlockHash MmrHash LeafExtra}
    {mmrProof : MmrProof} {mmrRoot : MmrHash} :
    T.verifyBeefyMmrLeaf mmrLeaf mmrProof mmrRoot = .ok () ↔
      T.verifyMmrLeavesProof mmrRoot [T.hashLeaf mmrLeaf] mmrProof = true := by
  rw [verifyBeefyMmrLeaf]
  split <;> simp_all

/-- **What `verify_commitment` checks**, and the MMR root it returns. -/
theorem verifyCommitment_eq_ok [DecidableEq MmrHash] {commitment : SignedCommitment Payload Signature}
    {authoritySetInfo : BeefyAuthoritySet MmrHash} {authoritySet : ValidatorSet AuthorityId}
    {mmrRoot : MmrHash} (h : T.verifyCommitment commitment authoritySetInfo authoritySet = .ok mmrRoot) :
    commitment.commitment.validatorSetId = authoritySetInfo.id ∧
      commitment.signatures.length = authoritySetInfo.len ∧
      T.verifyAuthoritySet authoritySetInfo authoritySet = .ok () ∧
      T.verifySignatures commitment authoritySet = .ok () ∧
      T.decodeMmrRoot commitment.commitment.payload = some mmrRoot := by
  rw [verifyCommitment] at h
  split_ifs at h with hid hlen
  split at h
  · cases h
  rename_i hset
  split at h
  · cases h
  rename_i hsignatures
  exact ⟨not_not.mp hid, not_not.mp hlen, hset, hsignatures, extractMmrRoot_eq_ok.mp h⟩

end Config

namespace State

variable {s s' : State MmrHash BlockHash AccountId}
  {T : Config AuthorityId Signature Payload MmrHash BlockHash LeafExtra MmrProof}

/-- **What an import writes.**  It counts the request, takes the leaf's next authority set if its
id is higher, and pushes the commitment into the ring buffer; it panics on no slots. -/
theorem importCommitment_eq_some {commitmentsInfo : ImportedCommitmentsInfoData}
    {commitment : SignedCommitment Payload Signature} {mmrLeaf : MmrLeaf BlockHash MmrHash LeafExtra}
    {mmrRoot : MmrHash} (hinfo : s.importedCommitmentsInfo = some commitmentsInfo)
    (h : s.importCommitment T commitmentsInfo commitment mmrLeaf mmrRoot = some s') :
    0 < T.commitmentsToKeep ∧
      s' = { requestCount := Unsigned.wrappingAdd 32 s.requestCount 1
             importedCommitmentsInfo := some ⟨commitment.commitment.blockNumber,
               Unsigned.wrappingAdd 32 commitmentsInfo.nextBlockNumberIndex 1 %
                 T.commitmentsToKeep⟩
             importedBlockNumbers := (s.commitments.push T.commitmentsToKeep
               commitment.commitment.blockNumber ⟨mmrLeaf.parentNumberAndHash, mmrRoot⟩).slots
             importedCommitments := (s.commitments.push T.commitmentsToKeep
               commitment.commitment.blockNumber ⟨mmrLeaf.parentNumberAndHash, mmrRoot⟩).entries
             currentAuthoritySetInfo :=
               if s.currentAuthoritySetInfo.id < mmrLeaf.beefyNextAuthoritySet.id then
                 mmrLeaf.beefyNextAuthoritySet
               else s.currentAuthoritySetInfo
             palletOwner := s.palletOwner
             palletOperatingMode := s.palletOperatingMode } := by
  rw [importCommitment] at h
  have hK : 0 < T.commitmentsToKeep := by
    refine Nat.pos_of_ne_zero fun hzero ↦ ?_
    simp [hzero] at h
  refine ⟨hK, ?_⟩
  simp only [Nat.pos_iff_ne_zero.mp hK, if_false] at h
  -- the four ways through: the authority set taken or not, a slot to prune or not
  by_cases hnext : s.currentAuthoritySetInfo.id < mmrLeaf.beefyNextAuthoritySet.id <;>
    cases hprune : s.importedBlockNumbers commitmentsInfo.nextBlockNumberIndex <;>
    simp only [hnext, hprune, if_true, if_false, Option.some.injEq] at h <;>
    subst h <;>
    simp only [commitments, RingMap.push, hinfo, hprune, hnext, Option.map_some, Option.getD_some,
      if_true, if_false]

variable [DecidableEq MmrHash] in
/-- **What a successful `submit_commitment` checked**, and what it wrote. -/
theorem submitCommitment_eq_ok {origin : Origin AccountId}
    {commitment : SignedCommitment Payload Signature} {validatorSet : ValidatorSet AuthorityId}
    {mmrLeaf : MmrLeaf BlockHash MmrHash LeafExtra} {mmrProof : MmrProof}
    (h : s.submitCommitment T origin commitment validatorSet mmrLeaf mmrProof = some (.ok s')) :
    s.palletOperatingMode ≠ .halted ∧ ensureSigned origin = true ∧ s.requestCount < T.maxRequests ∧
      ∃ commitmentsInfo mmrRoot, s.importedCommitmentsInfo = some commitmentsInfo ∧
        commitmentsInfo.bestBlockNumber < commitment.commitment.blockNumber ∧
        T.verifyCommitment commitment s.currentAuthoritySetInfo validatorSet = .ok mmrRoot ∧
        T.verifyBeefyMmrLeaf mmrLeaf mmrProof mmrRoot = .ok () ∧
        s.importCommitment T commitmentsInfo commitment mmrLeaf mmrRoot = some s' := by
  rw [submitCommitment] at h
  split at h
  · cases h
  rename_i hhalted
  split at h
  · cases h
  rename_i hsigned
  split at h
  · cases h
  rename_i hrequests
  split at h
  · cases h
  rename_i commitmentsInfo hinfo
  split at h
  · cases h
  rename_i hold
  split at h
  · cases h
  rename_i mmrRoot hverify
  split at h
  · cases h
  rename_i hleaf
  obtain ⟨s'', himport, hs''⟩ := Option.map_eq_some_iff.mp h
  cases hs''
  exact ⟨hhalted, by simpa using hsigned, Nat.lt_of_not_le fun hle ↦ hrequests (by omega),
    commitmentsInfo, mmrRoot, hinfo, Nat.lt_of_not_le fun hle ↦ hold (by omega), hverify, hleaf,
    himport⟩

variable [DecidableEq AccountId]

theorem initializeCall_eq_ok {origin : Origin AccountId} {initData : InitializationData MmrHash}
    (h : s.initializeCall origin initData = .ok s') :
    s.importedCommitmentsInfo = none ∧ 0 < initData.authoritySet.len ∧
      s' = { s with
        currentAuthoritySetInfo := initData.authoritySet
        palletOperatingMode := initData.operatingMode
        importedCommitmentsInfo := some ⟨initData.bestBlockNumber, 0⟩ } := by
  rw [initializeCall] at h
  split_ifs at h with horigin hinitialized
  split at h
  · cases h
  rename_i s'' hinit
  cases h
  rw [initializePallet] at hinit
  split_ifs at hinit with hlen
  cases hinit
  exact ⟨Option.not_isSome_iff_eq_none.mp hinitialized, Nat.pos_of_ne_zero hlen, rfl⟩

theorem setOwner_eq_ok {origin : Origin AccountId} {newOwner : Option AccountId}
    (h : s.setOwner origin newOwner = .ok s') : s' = { s with palletOwner := newOwner } := by
  rw [setOwner] at h
  split at h
  · cases h
  · cases h
    rfl

theorem setOperatingMode_eq_ok {origin : Origin AccountId} {operatingMode : BasicOperatingMode}
    (h : s.setOperatingMode origin operatingMode = .ok s') :
    s' = { s with palletOperatingMode := operatingMode } := by
  rw [setOperatingMode] at h
  split at h
  · cases h
  · cases h
    rfl

end State

end Beefy
