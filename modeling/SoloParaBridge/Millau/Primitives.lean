import Mathlib.Data.List.Basic

/-!
# Types shared by the logic-provider runtime and its off-chain plugin

The off-chain plugin does not call `commit_processing_result_hash` and
`reveal_processing_result_hash` with typed arguments: it SCALE-encodes a `MapToCall` into a
byte payload, signs the bytes, and the pallet decodes the payload again.  So the decoder is part
of every dispatch, and it is modelled byte for byte:

* a `u8` enum tag, then the fields in declaration order;
* `MetadataId = u64`, eight bytes little-endian;
* `Hash = H256`, thirty-two raw bytes;
* `random_seed: u8`, one byte.

`MapToCall.decode` is `Decode::decode`, not `decode_all`: it reads a prefix of the payload and
ignores whatever follows, which is what `MapToCall::decode(&mut &payload[..])` does.
-/

set_option autoImplicit false

namespace Millau

/-- `MetadataId = u64`, the key of a commit-reveal round. -/
abbrev MetadataId := ℕ

/-- `sp_core::H256`: thirty-two bytes. -/
structure H256 where
  /-- The bytes, most significant first as SCALE stores them. -/
  bytes : List UInt8
  /-- There are thirty-two of them. -/
  length_eq : bytes.length = 32
  deriving DecidableEq

/-- `LogicProviderCall`, the two calls the plugin sends. -/
inductive LogicProviderCall where
  /-- Commit to a hash of the answer and a seed. -/
  | commitHash (metadataId : MetadataId) (hash : H256)
  /-- Reveal the answer and the seed. -/
  | revealHash (revealHash : H256) (randomSeed : UInt8) (metadataId : MetadataId)
  deriving DecidableEq

/-- `MapToCall`, the envelope the payload is encoded in. -/
inductive MapToCall where
  /-- The only variant. -/
  | logicProviderCall (call : LogicProviderCall)
  deriving DecidableEq

/-! ## SCALE decoding -/

/-- A decoder reads a value off the front of the input and returns the rest. -/
abbrev Decoder (α : Type) := List UInt8 → Option (α × List UInt8)

/-- One byte. -/
def decodeU8 : Decoder UInt8
  | [] => none
  | b :: rest => some (b, rest)

/-- The value of little-endian bytes. -/
def leValue : List UInt8 → ℕ
  | [] => 0
  | b :: rest => b.toNat + 256 * leValue rest

/-- A `u64`: eight bytes, little-endian. -/
def decodeU64 (input : List UInt8) : Option (ℕ × List UInt8) :=
  if 8 ≤ input.length then some (leValue (input.take 8), input.drop 8) else none

/-- An `H256`: thirty-two raw bytes. -/
def decodeH256 (input : List UInt8) : Option (H256 × List UInt8) :=
  if h : 32 ≤ input.length then
    some (⟨input.take 32, by rw [List.length_take]; omega⟩, input.drop 32)
  else none

/-- `LogicProviderCall::decode`: the tag, then the fields of the variant it names. -/
def LogicProviderCall.decode (input : List UInt8) : Option (LogicProviderCall × List UInt8) :=
  match decodeU8 input with
  | some (0, rest) =>
    match decodeU64 rest with
    | some (metadataId, rest) =>
      (decodeH256 rest).map fun p ↦ (.commitHash metadataId p.1, p.2)
    | none => none
  | some (1, rest) =>
    match decodeH256 rest with
    | some (answer, rest) =>
      match decodeU8 rest with
      | some (seed, rest) =>
        (decodeU64 rest).map fun p ↦ (.revealHash answer seed p.1, p.2)
      | none => none
    | none => none
  | _ => none

/-- `MapToCall::decode(&mut &payload[..])`: the call encoded at the front of the payload, or
`None` for a payload that is not one. -/
def MapToCall.decode (payload : List UInt8) : Option MapToCall :=
  match decodeU8 payload with
  | some (0, rest) => (LogicProviderCall.decode rest).map fun p ↦ .logicProviderCall p.1
  | _ => none

end Millau
