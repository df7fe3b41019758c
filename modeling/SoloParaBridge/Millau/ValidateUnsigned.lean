import SoloParaBridge.Millau.LogicProvider
import Mathlib.Algebra.Group.Nat.Defs

/-!
# Which unsigned calls the transaction pool accepts

`ValidateUnsigned for pallet_logic_provider::Pallet`.  The two calls the off-chain plugin sends
carry a SCALE-encoded `MapToCall`, a signature and a public key, and they are unsigned: anyone may
submit one, with any bytes.  `validate_unsigned` decodes the payload with `unwrap`, then accepts
the call only for the variant that matches it, a key that names an account, and a signature of
the key over the whole payload.  The two `verify_call_public_key_*` differ only in the tag the
transaction provides, so they are one `verifyCallPublicKey` with the tag as a parameter.

A panic is `none`, as everywhere in this development.  So `validateUnsigned_spec` says both what
the pool accepts and where it panics: exactly at the payloads `MapToCall.decode` refuses, which an
unsigned extrinsic can carry (`validateUnsigned_emptyPayload`).  Signature verification is an
arbitrary function `verify`.
-/

set_option autoImplicit false

namespace LogicProvider

open Millau

/-- The pallet's calls as `validate_unsigned` sees them: with their arguments and no origin. -/
inductive UnsignedCall (Hash Public Signature : Type) where
  | commitProcessingResultHash (payload : List UInt8) (signature : Signature) (publicKey : Public)
  | revealProcessingResultHash (payload : List UInt8) (signature : Signature) (publicKey : Public)
  | issueRewards (metadataId : MetadataId)
  | setMajorityType (majorityType : Majority)
  | resolveMetadataDispute (metadataId : MetadataId) (forceHash : Hash)
  | targetChainCall (val1 val2 : UInt8)

/-- The payload a call carries: the encoded `MapToCall` of the plugin's two calls. -/
def UnsignedCall.payload {Hash Public Signature : Type} :
    UnsignedCall Hash Public Signature → Option (List UInt8)
  | .commitProcessingResultHash payload _ _ => some payload
  | .revealProcessingResultHash payload _ _ => some payload
  | _ => none

/-- The tag a valid call provides, after the prefix `with_tag_prefix` puts before it. -/
inductive ProvidedTag (Hash Public : Type) where
  /-- `("LogicProviderCommit", (public, commit_hash))`. -/
  | commit (publicKey : Public) (commitHash : Hash)
  /-- `("LogicProviderReveal", (public, random_seed, reveal_hash))`. -/
  | reveal (publicKey : Public) (randomSeed : UInt8) (revealHash : Hash)
  deriving DecidableEq

/-- `ValidTransaction`, the fields the builder sets (it requires no tag). -/
structure ValidTransaction (Hash Public : Type) where
  priority : ℕ
  provides : List (ProvidedTag Hash Public)
  longevity : ℕ
  propagate : Bool
  deriving DecidableEq

/-- `InvalidTransaction`, the two reasons `validate_unsigned` gives. -/
inductive InvalidTransaction where
  | call
  | badSigner
  deriving DecidableEq, Repr

/-- `TransactionValidity`. -/
abbrev TransactionValidity (Hash Public : Type) :=
  Except InvalidTransaction (ValidTransaction Hash Public)

/-- `TransactionPriority::MAX`, a `u64`. -/
def transactionPriorityMax : ℕ := 2 ^ 64 - 1

variable {AccountId Hash Public Signature Ledger : Type}
  (T : Config AccountId Hash Public Ledger) (verify : Public → List UInt8 → Signature → Bool)

/-- The transaction both `verify_call_public_key_*` build: the highest priority, valid for
`RevealWindowLength` blocks, propagated, and providing `tag`. -/
def ValidTransaction.ofTag (tag : ProvidedTag Hash Public) : ValidTransaction Hash Public :=
  ⟨transactionPriorityMax, [tag], T.revealWindowLength, true⟩

/-- The checks of `verify_call_public_key_commit` and `verify_call_public_key_reveal`: the key
names an account and signs the payload. -/
def verifyCallPublicKey (publicKey : Public) (tag : ProvidedTag Hash Public)
    (mappedCall : List UInt8) (signature : Signature) : TransactionValidity Hash Public :=
  match T.toAccountId publicKey with
  | some _ =>
    if verify publicKey mappedCall signature then .ok (ValidTransaction.ofTag T tag)
    else .error .badSigner
  | none => .error .badSigner

/-- `verify_call_public_key_commit`. -/
def verifyCallPublicKeyCommit (publicKey : Public) (commitHash : Hash) (mappedCall : List UInt8)
    (signature : Signature) : TransactionValidity Hash Public :=
  verifyCallPublicKey T verify publicKey (.commit publicKey commitHash) mappedCall signature

/-- `verify_call_public_key_reveal`. -/
def verifyCallPublicKeyReveal (publicKey : Public) (randomSeed : UInt8) (revealHash : Hash)
    (mappedCall : List UInt8) (signature : Signature) : TransactionValidity Hash Public :=
  verifyCallPublicKey T verify publicKey (.reveal publicKey randomSeed revealHash) mappedCall
    signature

/-- `validate_unsigned`, or `none` where it panics. -/
def validateUnsigned : UnsignedCall Hash Public Signature → Option (TransactionValidity Hash Public)
  | .commitProcessingResultHash payload signature publicKey =>
    -- `MapToCall::decode(..).unwrap()`
    match MapToCall.decode payload with
    | none => none
    | some decodedCall =>
      match decodedCall with
      | .logicProviderCall (.commitHash _ hash) =>
        some (verifyCallPublicKeyCommit T verify publicKey (T.ofH256 hash) payload signature)
      | _ => some (.error .call)
  | .revealProcessingResultHash payload signature publicKey =>
    match MapToCall.decode payload with
    | none => none
    | some decodedCall =>
      match decodedCall with
      | .logicProviderCall (.revealHash revealHash randomSeed _) =>
        some (verifyCallPublicKeyReveal T verify publicKey randomSeed (T.ofH256 revealHash) payload
          signature)
      | _ => some (.error .call)
  | _ => some (.error .call)

/-! ## What the pool accepts -/

/-- The one lemma of the `verify_call_public_key_*` family. -/
theorem verifyCallPublicKey_eq_ok_iff {publicKey : Public} {tag : ProvidedTag Hash Public}
    {mappedCall : List UInt8} {signature : Signature} {valid : ValidTransaction Hash Public} :
    verifyCallPublicKey T verify publicKey tag mappedCall signature = .ok valid ↔
      (T.toAccountId publicKey).isSome ∧ verify publicKey mappedCall signature = true ∧
        valid = ValidTransaction.ofTag T tag := by
  unfold verifyCallPublicKey
  cases T.toAccountId publicKey with
  | none => simp
  | some account =>
    cases verify publicKey mappedCall signature with
    | false => simp
    | true => simp [eq_comm]

/-- `validate_unsigned` panics exactly on a call that carries a payload that is not an encoded
`MapToCall`. -/
theorem validateUnsigned_eq_none_iff (call : UnsignedCall Hash Public Signature) :
    validateUnsigned T verify call = none ↔
      ∃ payload, call.payload = some payload ∧ MapToCall.decode payload = none := by
  cases call with
  | commitProcessingResultHash payload signature publicKey =>
    simp only [validateUnsigned, UnsignedCall.payload, Option.some.injEq, exists_eq_left']
    cases MapToCall.decode payload with
    | none => simp
    | some decodedCall =>
      obtain ⟨call⟩ := decodedCall
      cases call <;> simp
  | revealProcessingResultHash payload signature publicKey =>
    simp only [validateUnsigned, UnsignedCall.payload, Option.some.injEq, exists_eq_left']
    cases MapToCall.decode payload with
    | none => simp
    | some decodedCall =>
      obtain ⟨call⟩ := decodedCall
      cases call <;> simp
  | _ => simp [validateUnsigned, UnsignedCall.payload]

variable {payload : List UInt8} {signature : Signature} {publicKey : Public}

theorem validateUnsigned_commit_eq_ok_iff {valid : ValidTransaction Hash Public} :
    validateUnsigned T verify (.commitProcessingResultHash payload signature publicKey) =
        some (.ok valid) ↔
      ∃ metadataId hash,
        MapToCall.decode payload = some (.logicProviderCall (.commitHash metadataId hash)) ∧
        (T.toAccountId publicKey).isSome ∧ verify publicKey payload signature = true ∧
        valid = ValidTransaction.ofTag T (.commit publicKey (T.ofH256 hash)) := by
  simp only [validateUnsigned]
  cases MapToCall.decode payload with
  | none => simp
  | some decodedCall =>
    obtain ⟨call⟩ := decodedCall
    cases call with
    | commitHash metadataId hash =>
      simp only [Option.some.injEq, verifyCallPublicKeyCommit, verifyCallPublicKey_eq_ok_iff,
        MapToCall.logicProviderCall.injEq, LogicProviderCall.commitHash.injEq]
      constructor
      · rintro ⟨haccount, hverify, rfl⟩
        exact ⟨metadataId, hash, ⟨rfl, rfl⟩, haccount, hverify, rfl⟩
      · rintro ⟨_, _, ⟨rfl, rfl⟩, haccount, hverify, rfl⟩
        exact ⟨haccount, hverify, rfl⟩
    | revealHash => simp

theorem validateUnsigned_reveal_eq_ok_iff {valid : ValidTransaction Hash Public} :
    validateUnsigned T verify (.revealProcessingResultHash payload signature publicKey) =
        some (.ok valid) ↔
      ∃ revealHash randomSeed metadataId,
        MapToCall.decode payload =
          some (.logicProviderCall (.revealHash revealHash randomSeed metadataId)) ∧
        (T.toAccountId publicKey).isSome ∧ verify publicKey payload signature = true ∧
        valid = ValidTransaction.ofTag T (.reveal publicKey randomSeed (T.ofH256 revealHash)) := by
  simp only [validateUnsigned]
  cases MapToCall.decode payload with
  | none => simp
  | some decodedCall =>
    obtain ⟨call⟩ := decodedCall
    cases call with
    | commitHash => simp
    | revealHash revealHash randomSeed metadataId =>
      simp only [Option.some.injEq, verifyCallPublicKeyReveal, verifyCallPublicKey_eq_ok_iff,
        MapToCall.logicProviderCall.injEq, LogicProviderCall.revealHash.injEq]
      constructor
      · rintro ⟨haccount, hverify, rfl⟩
        exact ⟨revealHash, randomSeed, metadataId, ⟨rfl, rfl, rfl⟩, haccount, hverify, rfl⟩
      · rintro ⟨_, _, _, ⟨rfl, rfl, rfl⟩, haccount, hverify, rfl⟩
        exact ⟨haccount, hverify, rfl⟩

/-- What `validate_unsigned` does with the plugin's two calls, for every payload, signature and
key: it panics exactly on a payload that does not decode, and accepts the call exactly when the
payload is the call's own variant and the key names an account and signs the whole payload. -/
theorem validateUnsigned_spec (payload : List UInt8) (signature : Signature) (publicKey : Public) :
    (validateUnsigned T verify (.commitProcessingResultHash payload signature publicKey) = none ↔
        MapToCall.decode payload = none) ∧
      (validateUnsigned T verify (.revealProcessingResultHash payload signature publicKey) = none ↔
        MapToCall.decode payload = none) ∧
      (∀ valid, validateUnsigned T verify (.commitProcessingResultHash payload signature publicKey) =
          some (.ok valid) ↔
        ∃ metadataId hash,
          MapToCall.decode payload = some (.logicProviderCall (.commitHash metadataId hash)) ∧
          (T.toAccountId publicKey).isSome ∧ verify publicKey payload signature = true ∧
          valid = ValidTransaction.ofTag T (.commit publicKey (T.ofH256 hash))) ∧
      ∀ valid, validateUnsigned T verify (.revealProcessingResultHash payload signature publicKey) =
          some (.ok valid) ↔
        ∃ revealHash randomSeed metadataId,
          MapToCall.decode payload =
            some (.logicProviderCall (.revealHash revealHash randomSeed metadataId)) ∧
          (T.toAccountId publicKey).isSome ∧ verify publicKey payload signature = true ∧
          valid = ValidTransaction.ofTag T (.reveal publicKey randomSeed (T.ofH256 revealHash)) := by
  have hcommit := validateUnsigned_eq_none_iff T verify
    (.commitProcessingResultHash payload signature publicKey)
  have hreveal := validateUnsigned_eq_none_iff T verify
    (.revealProcessingResultHash payload signature publicKey)
  simp only [UnsignedCall.payload, Option.some.injEq, exists_eq_left'] at hcommit hreveal
  exact ⟨hcommit, hreveal, fun _ ↦ validateUnsigned_commit_eq_ok_iff T verify,
    fun _ ↦ validateUnsigned_reveal_eq_ok_iff T verify⟩

/-- The empty payload is not an encoded `MapToCall`, so `validate_unsigned` of the Millau runtime
panics on either call that carries it, even with a verifier that accepts every signature. -/
theorem validateUnsigned_emptyPayload :
    validateUnsigned millauConfig (fun _ _ _ ↦ true)
        (.commitProcessingResultHash [] 0 0 : UnsignedCall ℕ ℕ ℕ) = none ∧
      validateUnsigned millauConfig (fun _ _ _ ↦ true)
        (.revealProcessingResultHash [] 0 0 : UnsignedCall ℕ ℕ ℕ) = none :=
  ⟨rfl, rfl⟩

end LogicProvider
