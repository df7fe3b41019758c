import SoloParaBridge.Parachains.Pallet
import SoloParaBridge.Lib.BinarySearch
import Mathlib.Data.List.Chain

/-!
# Storage proofs

`bp_runtime::storage_proof`.  An `UnverifiedStorageProof` is a trie proof and the key-value
entries it proves; `verify` checks the proof against a state root, which is taken here as an
arbitrary `verifyTrieProof`, and checks that the keys are strictly increasing while it copies the
entries into a `VerifiedStorageProof`, each key wrapped in a `TrackedStorageKey` that counts its
reads.  `get` finds a key by binary search and counts a read of it;
`get_and_decode_mandatory` and `get_and_decode_optional` add the decoding of the value, by an
arbitrary `decode`; `ensure_no_unused_keys` asks that every key was read.  The error type is the
one of `Parachains`, the first pallet modelled that reads such proofs.

The result is what a verifier of messages or heads relies on (`verifiedStorageProof_spec`).
After a successful `verify` the keys are strictly increasing, so the binary search is exact: at
every point of any sequence of reads, `get` finds a key exactly when it is an entry's, counts a
read of that entry only, and changes nothing otherwise.  The read counters are then the numbers
of reads of each key (`Tracks`), and `ensure_no_unused_keys` succeeds exactly when every entry's
key was read: no entry can ride along unrequested.
-/

set_option autoImplicit false

namespace Runtime

open BinarySearch
open Parachains (StorageProofError)

/-- `StateVersion`: the trie layout the proof is checked against. -/
inductive StateVersion where
  | v0
  | v1
  deriving DecidableEq, Repr

/-- `TrackedStorageKey`, with what the proof uses of it: the key, and how many times it was read.
The keys of a proof are made by `TrackedStorageKey::new`, so they are never whitelisted. -/
structure TrackedStorageKey (Key : Type) where
  key : Key
  reads : ℕ
  deriving DecidableEq, Repr

namespace TrackedStorageKey

variable {Key : Type}

/-- `TrackedStorageKey::new`. -/
def new (key : Key) : TrackedStorageKey Key :=
  ⟨key, 0⟩

/-- `add_read`. -/
def addRead (trackedKey : TrackedStorageKey Key) : TrackedStorageKey Key :=
  { trackedKey with reads := trackedKey.reads + 1 }

/-- `has_been_read`, for a key that is not whitelisted. -/
def hasBeenRead (trackedKey : TrackedStorageKey Key) : Bool :=
  decide (0 < trackedKey.reads)

end TrackedStorageKey

/-- `UnverifiedStorageProof`. -/
structure UnverifiedStorageProof (RawProof Key Value : Type) where
  proof : RawProof
  db : List (Key × Option Value)

/-- `VerifiedStorageProof`. -/
structure VerifiedStorageProof (Key Value : Type) where
  db : List (TrackedStorageKey Key × Option Value)

variable {RawProof Root Key Value : Type} [LinearOrder Key]

/-! ## The model -/

/-- The loop of `verify` that fills `trusted_db`, peeking at the next entry to check the order. -/
def fillTrustedDb : List (Key × Option Value) → List (TrackedStorageKey Key × Option Value) →
    Except StorageProofError (List (TrackedStorageKey Key × Option Value))
  | [], trustedDb => .ok trustedDb
  | (key, val) :: rest, trustedDb =>
    if rest.head?.any fun next ↦ decide (next.1 ≤ key) then .error .unsortedEntries
    else fillTrustedDb rest (trustedDb ++ [(.new key, val)])

/-- `UnverifiedStorageProof::verify`, with `verify_trie_proof` for the given state version. -/
def UnverifiedStorageProof.verify
    (verifyTrieProof : StateVersion → Root → RawProof → List (Key × Option Value) → Bool)
    (unverified : UnverifiedStorageProof RawProof Key Value) (stateVersion : StateVersion)
    (stateRoot : Root) : Except StorageProofError (VerifiedStorageProof Key Value) :=
  if verifyTrieProof stateVersion stateRoot unverified.proof unverified.db then
    (fillTrustedDb unverified.db []).map VerifiedStorageProof.mk
  else .error .invalidProof

namespace VerifiedStorageProof

/-- `get`: the value of the key, with a read of it counted. -/
def get (proof : VerifiedStorageProof Key Value) (key : Key) :
    Except StorageProofError (Option Value) × VerifiedStorageProof Key Value :=
  match binarySearchByKey (fun entry ↦ entry.1.key) proof.db key with
  | .error _ => (.error .unavailableKey, proof)
  | .ok idx =>
    match proof.db[idx]? with
    | none => (.error .unavailableKey, proof)
    | some (dbKey, dbVal) => (.ok dbVal, ⟨proof.db.set idx (dbKey.addRead, dbVal)⟩)

/-- `get_and_decode_mandatory`. -/
def getAndDecodeMandatory {D : Type} (decode : Value → Option D)
    (proof : VerifiedStorageProof Key Value) (key : Key) :
    Except StorageProofError D × VerifiedStorageProof Key Value :=
  match proof.get key with
  | (.error e, proof) => (.error e, proof)
  | (.ok none, proof) => (.error .emptyVal, proof)
  | (.ok (some val), proof) =>
    match decode val with
    | none => (.error .decodeError, proof)
    | some decoded => (.ok decoded, proof)

/-- `get_and_decode_optional`. -/
def getAndDecodeOptional {D : Type} (decode : Value → Option D)
    (proof : VerifiedStorageProof Key Value) (key : Key) :
    Except StorageProofError (Option D) × VerifiedStorageProof Key Value :=
  match proof.getAndDecodeMandatory decode key with
  | (.ok val, proof) => (.ok (some val), proof)
  | (.error .unavailableKey, proof) => (.ok none, proof)
  | (.error .emptyVal, proof) => (.ok none, proof)
  | (.error e, proof) => (.error e, proof)

/-- `ensure_no_unused_keys`. -/
def ensureNoUnusedKeys (proof : VerifiedStorageProof Key Value) : Except StorageProofError Unit :=
  if proof.db.all fun entry ↦ entry.1.hasBeenRead then .ok () else .error .unusedKey

end VerifiedStorageProof

/-- A read the verifiers make, with its decoder. -/
inductive Read (Key Value : Type) : Type 1 where
  | get (key : Key)
  | getAndDecodeMandatory (D : Type) (decode : Value → Option D) (key : Key)
  | getAndDecodeOptional (D : Type) (decode : Value → Option D) (key : Key)

/-- The key a read asks for. -/
def Read.key : Read Key Value → Key
  | .get key => key
  | .getAndDecodeMandatory _ _ key => key
  | .getAndDecodeOptional _ _ key => key

/-- The proof after a read. -/
def Read.apply (read : Read Key Value) (proof : VerifiedStorageProof Key Value) :
    VerifiedStorageProof Key Value :=
  match read with
  | .get key => (proof.get key).2
  | .getAndDecodeMandatory _ decode key => (proof.getAndDecodeMandatory decode key).2
  | .getAndDecodeOptional _ decode key => (proof.getAndDecodeOptional decode key).2

/-! ## `verify` -/

/-- The filling loop succeeds exactly on entries whose keys go up, and copies them in order. -/
theorem fillTrustedDb_eq_ok :
    ∀ (db : List (Key × Option Value)) (trustedDb out : List (TrackedStorageKey Key × Option Value)),
      fillTrustedDb db trustedDb = .ok out ↔
        db.IsChain (fun a b ↦ a.1 < b.1) ∧
          out = trustedDb ++ db.map fun entry ↦ (TrackedStorageKey.new entry.1, entry.2)
  | [], trustedDb, out => by simp [fillTrustedDb, eq_comm]
  | [(key, val)], trustedDb, out => by simp [fillTrustedDb, eq_comm]
  | (key, val) :: next :: rest, trustedDb, out => by
    by_cases horder : next.1 ≤ key
    · simp [fillTrustedDb, horder, not_lt.mpr horder]
    · have hlt : key < next.1 := lt_of_not_ge horder
      rw [fillTrustedDb, if_neg (by simpa using horder), fillTrustedDb_eq_ok (next :: rest),
        List.isChain_cons_cons]
      simp only [hlt, true_and, List.map_cons, List.append_assoc, List.singleton_append]

/-- **What `verify` accepts**: a proof the trie accepts, with strictly increasing keys, each
copied with no read counted. -/
theorem UnverifiedStorageProof.verify_eq_ok
    {verifyTrieProof : StateVersion → Root → RawProof → List (Key × Option Value) → Bool}
    {unverified : UnverifiedStorageProof RawProof Key Value} {stateVersion : StateVersion}
    {stateRoot : Root} {verified : VerifiedStorageProof Key Value} :
    unverified.verify verifyTrieProof stateVersion stateRoot = .ok verified ↔
      verifyTrieProof stateVersion stateRoot unverified.proof unverified.db = true ∧
        (unverified.db.map Prod.fst).Pairwise (· < ·) ∧
        verified.db = unverified.db.map fun entry ↦ (TrackedStorageKey.new entry.1, entry.2) := by
  have hsorted : (unverified.db.map Prod.fst).Pairwise (· < ·) ↔
      unverified.db.IsChain fun a b ↦ a.1 < b.1 := by
    rw [← List.isChain_iff_pairwise, List.isChain_map]
  rw [hsorted, verify]
  split_ifs with htrie
  · cases hfill : fillTrustedDb unverified.db [] with
    | error e =>
      have hnot := fun out ↦ (fillTrustedDb_eq_ok unverified.db [] out).not.mp (by simp [hfill])
      simp only [Except.map, reduceCtorEq, false_iff, htrie, true_and, not_and]
      exact fun hchain hdb ↦ hnot verified.db ⟨hchain, by simpa using hdb⟩
    | ok out =>
      obtain ⟨hchain, rfl⟩ := (fillTrustedDb_eq_ok unverified.db [] out).mp hfill
      simp only [Except.map, Except.ok.injEq, htrie, hchain, true_and, List.nil_append]
      exact ⟨fun h ↦ by rw [← h], fun h ↦ by rw [← h]⟩
  · simp [htrie]

/-! ## Reads -/

namespace VerifiedStorageProof

/-- The proof holds `entries`, the key of each read `count key` times. -/
def Tracks (entries : List (Key × Option Value)) (count : Key → ℕ)
    (proof : VerifiedStorageProof Key Value) : Prop :=
  proof.db = entries.map fun entry ↦ (⟨entry.1, count entry.1⟩, entry.2)

/-- The proof after reading `key`, found in it: that key's read counted, every other entry as it
was. -/
def markRead (proof : VerifiedStorageProof Key Value) (key : Key) :
    VerifiedStorageProof Key Value :=
  ⟨proof.db.map fun entry ↦ if entry.1.key = key then (entry.1.addRead, entry.2) else entry⟩

variable {entries : List (Key × Option Value)} {count : Key → ℕ}
  {proof : VerifiedStorageProof Key Value}

omit [LinearOrder Key] in
theorem Tracks.congr {count' : Key → ℕ} (htracks : Tracks entries count proof)
    (hcount : ∀ entry ∈ entries, count entry.1 = count' entry.1) : Tracks entries count' proof := by
  rw [Tracks, htracks]
  exact List.map_congr_left fun entry hentry ↦ by rw [hcount entry hentry]

theorem Tracks.pairwise (htracks : Tracks entries count proof)
    (hsorted : entries.Pairwise fun a b ↦ a.1 < b.1) :
    proof.db.Pairwise fun a b ↦ a.1.key < b.1.key := by
  rw [htracks, List.pairwise_map]
  exact hsorted

/-- Counting a read of `key` keeps the proof tracking its entries. -/
theorem Tracks.markRead (htracks : Tracks entries count proof) (key : Key) :
    Tracks entries (Function.update count key (count key + 1)) (proof.markRead key) := by
  rw [Tracks, VerifiedStorageProof.markRead, htracks, List.map_map]
  refine List.map_congr_left fun entry _ ↦ ?_
  by_cases hkey : entry.1 = key
  · subst hkey
    simp [TrackedStorageKey.addRead]
  · simp [hkey]

/-- **`get` of a key the proof does not hold** fails and changes nothing. -/
theorem Tracks.get_of_not_mem (htracks : Tracks entries count proof) {key : Key}
    (hnot : ∀ value, (key, value) ∉ entries) :
    proof.get key = (.error .unavailableKey, proof) := by
  unfold get
  split
  · rfl
  · rename_i idx hsearch
    obtain ⟨found, hfound, hkey⟩ := binarySearchByKey_eq_ok hsearch
    have hmem := List.mem_of_getElem? hfound
    rw [htracks, List.mem_map] at hmem
    obtain ⟨entry, hentry, rfl⟩ := hmem
    exact absurd (show (key, entry.2) ∈ entries from hkey ▸ hentry) (hnot entry.2)

theorem Tracks.getAndDecodeOptional_of_not_mem (htracks : Tracks entries count proof) {D : Type}
    (decode : Value → Option D) {key : Key} (hnot : ∀ value, (key, value) ∉ entries) :
    (proof.getAndDecodeOptional decode key).1 = .ok none := by
  unfold getAndDecodeOptional getAndDecodeMandatory
  rw [htracks.get_of_not_mem hnot]

section Sorted

variable (hsorted : entries.Pairwise fun a b ↦ a.1 < b.1)
include hsorted

/-- **`get` of a key of the proof** returns its value and counts a read of it alone: the search in
the sorted keys finds the one entry with that key. -/
theorem Tracks.get_of_mem (htracks : Tracks entries count proof) {key : Key} {value : Option Value}
    (hmem : (key, value) ∈ entries) : proof.get key = (.ok value, proof.markRead key) := by
  have hdb := htracks.pairwise hsorted
  have hentry : ((⟨key, count key⟩ : TrackedStorageKey Key), value) ∈ proof.db := by
    rw [htracks]
    exact List.mem_map.mpr ⟨_, hmem, rfl⟩
  obtain ⟨idx, hidx⟩ := exists_binarySearchByKey_eq_ok (hdb.imp le_of_lt) ⟨_, hentry, rfl⟩
  obtain ⟨found, hfound, hkey⟩ := binarySearchByKey_eq_ok hidx
  obtain rfl := eq_of_key_eq hdb (List.mem_of_getElem? hfound) hentry hkey
  have hset := set_eq_map_of_sorted hdb hfound fun entry ↦ (entry.1.addRead, entry.2)
  unfold get
  rw [hidx]
  dsimp only
  rw [hfound]
  exact congrArg (fun db ↦ ((.ok value : Except StorageProofError (Option Value)), mk db)) hset

/-- The step lemma of reads: after `get`, the proof tracks its entries with one more read of the
key, which counts only if the key is there. -/
theorem Tracks.get (htracks : Tracks entries count proof) (key : Key) :
    Tracks entries (Function.update count key (count key + 1)) (proof.get key).2 := by
  by_cases hpresent : ∃ value, (key, value) ∈ entries
  · obtain ⟨value, hmem⟩ := hpresent
    rw [htracks.get_of_mem hsorted hmem]
    exact htracks.markRead key
  · simp only [not_exists] at hpresent
    rw [htracks.get_of_not_mem hpresent]
    refine htracks.congr fun entry hentry ↦ ?_
    have hne : entry.1 ≠ key := fun heq ↦ hpresent entry.2 (heq ▸ hentry)
    rw [Function.update_of_ne hne]

theorem Tracks.getAndDecodeOptional_of_mem (htracks : Tracks entries count proof) {D : Type}
    (decode : Value → Option D) {key : Key} {value : Option Value} (hmem : (key, value) ∈ entries) :
    (proof.getAndDecodeOptional decode key).1 =
      value.elim (.ok none) fun val ↦
        (decode val).elim (.error .decodeError) fun decoded ↦ .ok (some decoded) := by
  unfold getAndDecodeOptional getAndDecodeMandatory
  rw [htracks.get_of_mem hsorted hmem]
  cases value with
  | none => rfl
  | some val =>
    cases hdecode : decode val with
    | none => simp only [hdecode, Option.elim]
    | some decoded => simp only [hdecode, Option.elim]

/-- A key is the key of at most one entry. -/
theorem value_eq_of_mem {key : Key} {value value' : Option Value} (hmem : (key, value) ∈ entries)
    (hmem' : (key, value') ∈ entries) : value = value' :=
  (Prod.mk.inj (eq_of_key_eq hsorted hmem hmem' rfl)).2

/-- `get` returns `Ok(value)` exactly for an entry's key and value. -/
theorem Tracks.get_fst_eq_ok_iff (htracks : Tracks entries count proof) (key : Key)
    (value : Option Value) : (proof.get key).1 = .ok value ↔ (key, value) ∈ entries := by
  by_cases hpresent : ∃ value', (key, value') ∈ entries
  · obtain ⟨value', hmem'⟩ := hpresent
    rw [htracks.get_of_mem hsorted hmem']
    exact ⟨fun h ↦ Except.ok.inj h ▸ hmem',
      fun hmem ↦ by rw [value_eq_of_mem hsorted hmem' hmem]⟩
  · simp only [not_exists] at hpresent
    rw [htracks.get_of_not_mem hpresent]
    exact iff_of_false (by simp) (hpresent value)

/-- `get_and_decode_optional` returns `Ok(None)` exactly for a key that is absent or whose value
is `None`, and `Err(DecodeError)` exactly for a value there that does not decode. -/
theorem Tracks.getAndDecodeOptional_fst (htracks : Tracks entries count proof) {D : Type}
    (decode : Value → Option D) (key : Key) :
    ((proof.getAndDecodeOptional decode key).1 = .ok none ↔
        (∀ value, (key, value) ∉ entries) ∨ (key, none) ∈ entries) ∧
      ((proof.getAndDecodeOptional decode key).1 = .error .decodeError ↔
        ∃ value, (key, some value) ∈ entries ∧ decode value = none) := by
  by_cases hpresent : ∃ value, (key, value) ∈ entries
  · obtain ⟨value, hmem⟩ := hpresent
    have habsent : ¬ ∀ value', (key, value') ∉ entries := fun hnot ↦ hnot value hmem
    rw [htracks.getAndDecodeOptional_of_mem hsorted decode hmem]
    cases value with
    | none =>
      refine ⟨iff_of_true rfl (.inr hmem), iff_of_false (by simp) ?_⟩
      rintro ⟨val, hval, -⟩
      cases value_eq_of_mem hsorted hmem hval
    | some val =>
      have hnone : (key, none) ∉ entries := fun hmem' ↦
        absurd (value_eq_of_mem hsorted hmem hmem') (by simp)
      cases hdecode : decode val with
      | none =>
        exact ⟨iff_of_false (by simp [hdecode]) (by simp [habsent, hnone]),
          iff_of_true (by simp [hdecode]) ⟨val, hmem, hdecode⟩⟩
      | some decoded =>
        refine ⟨iff_of_false (by simp [hdecode]) (by simp [habsent, hnone]),
          iff_of_false (by simp [hdecode]) ?_⟩
        rintro ⟨val', hval', hdecode'⟩
        cases value_eq_of_mem hsorted hmem hval'
        rw [hdecode] at hdecode'
        cases hdecode'
  · simp only [not_exists] at hpresent
    rw [htracks.getAndDecodeOptional_of_not_mem decode hpresent]
    refine ⟨iff_of_true rfl (.inl hpresent), iff_of_false (by simp) ?_⟩
    rintro ⟨val, hval, -⟩
    exact hpresent _ hval

end Sorted

omit [LinearOrder Key] in
/-- `ensure_no_unused_keys` succeeds exactly when every entry's key was read. -/
theorem Tracks.ensureNoUnusedKeys_eq_ok (htracks : Tracks entries count proof) :
    proof.ensureNoUnusedKeys = .ok () ↔ ∀ entry ∈ entries, 0 < count entry.1 := by
  have hall : (proof.db.all fun entry ↦ entry.1.hasBeenRead) = true ↔
      ∀ entry ∈ entries, 0 < count entry.1 := by
    rw [htracks]
    simp [TrackedStorageKey.hasBeenRead]
  rw [ensureNoUnusedKeys]
  by_cases hread : (proof.db.all fun entry ↦ entry.1.hasBeenRead) = true
  · rw [if_pos hread]
    exact iff_of_true rfl (hall.mp hread)
  · rw [if_neg hread]
    exact iff_of_false (by simp) fun hcount ↦ hread (hall.mpr hcount)

theorem getAndDecodeMandatory_snd {D : Type} (decode : Value → Option D) (key : Key) :
    (proof.getAndDecodeMandatory decode key).2 = (proof.get key).2 := by
  unfold getAndDecodeMandatory
  split
  · rename_i heq
    rw [heq]
  · rename_i heq
    rw [heq]
  · rename_i heq
    split <;> rw [heq]

theorem getAndDecodeOptional_snd {D : Type} (decode : Value → Option D) (key : Key) :
    (proof.getAndDecodeOptional decode key).2 = (proof.get key).2 := by
  rw [← getAndDecodeMandatory_snd decode key]
  unfold getAndDecodeOptional
  split <;> rename_i heq <;> rw [heq]

end VerifiedStorageProof

open VerifiedStorageProof

/-- Every read changes the proof as its `get` does. -/
theorem Read.apply_eq (read : Read Key Value) (proof : VerifiedStorageProof Key Value) :
    read.apply proof = (proof.get read.key).2 := by
  cases read with
  | get key => rfl
  | getAndDecodeMandatory D decode key => exact getAndDecodeMandatory_snd decode key
  | getAndDecodeOptional D decode key => exact getAndDecodeOptional_snd decode key

/-- **The run lemma of reads**: after a sequence of reads, each entry's key has been read once
more for every read that asked for it. -/
theorem Tracks.foldl {entries : List (Key × Option Value)}
    (hsorted : entries.Pairwise fun a b ↦ a.1 < b.1) :
    ∀ (reads : List (Read Key Value)) {count : Key → ℕ} {proof : VerifiedStorageProof Key Value},
      Tracks entries count proof →
        Tracks entries (fun key ↦ count key + (reads.map Read.key).count key)
          (reads.foldl (fun proof read ↦ read.apply proof) proof)
  | [], count, proof, htracks => htracks.congr fun _ _ ↦ by simp
  | read :: reads, count, proof, htracks => by
    have hstep := htracks.get hsorted read.key
    rw [← Read.apply_eq] at hstep
    refine (Tracks.foldl hsorted reads hstep).congr fun entry _ ↦ ?_
    by_cases hkey : entry.1 = read.key
    · rw [hkey, Function.update_self, List.map_cons, List.count_cons_self]
      omega
    · rw [Function.update_of_ne hkey, List.map_cons,
        List.count_cons_of_ne (Ne.symm hkey)]

/-- **What a verified storage proof answers** after any reads: its keys are sorted; `get` finds
exactly the proven entries, marking the key read, and fails with `UnavailableKey` for any other
key; `get_and_decode_optional` gives `None` exactly for a missing key or value, and `DecodeError`
exactly where decoding fails; and `ensure_no_unused_keys` passes exactly when every proven key
was read. -/
theorem verifiedStorageProof_spec
    (verifyTrieProof : StateVersion → Root → RawProof → List (Key × Option Value) → Bool)
    (unverified : UnverifiedStorageProof RawProof Key Value) (stateVersion : StateVersion)
    (stateRoot : Root) (verified : VerifiedStorageProof Key Value)
    (hverify : unverified.verify verifyTrieProof stateVersion stateRoot = .ok verified)
    (reads : List (Read Key Value)) :
    let proof := reads.foldl (fun proof read ↦ read.apply proof) verified
    (verified.db.map fun entry ↦ entry.1.key).Pairwise (· < ·) ∧
      (∀ key value, (proof.get key).1 = .ok value ↔ (key, value) ∈ unverified.db) ∧
      (∀ key value, (key, value) ∈ unverified.db → (proof.get key).2 = proof.markRead key) ∧
      (∀ key, (∀ value, (key, value) ∉ unverified.db) →
        proof.get key = (.error .unavailableKey, proof)) ∧
      (∀ {D : Type} (decode : Value → Option D) key,
        ((proof.getAndDecodeOptional decode key).1 = .ok none ↔
          (∀ value, (key, value) ∉ unverified.db) ∨ (key, none) ∈ unverified.db) ∧
        ((proof.getAndDecodeOptional decode key).1 = .error .decodeError ↔
          ∃ value, (key, some value) ∈ unverified.db ∧ decode value = none)) ∧
      (proof.ensureNoUnusedKeys = .ok () ↔
        ∀ entry ∈ unverified.db, ∃ read ∈ reads, read.key = entry.1) := by
  intro proof
  obtain ⟨-, hkeys, hdb⟩ := UnverifiedStorageProof.verify_eq_ok.mp hverify
  have hsorted : unverified.db.Pairwise fun a b ↦ a.1 < b.1 := List.pairwise_map.mp hkeys
  have htracks : Tracks unverified.db (fun key ↦ (reads.map Read.key).count key) proof :=
    (Tracks.foldl hsorted reads (show Tracks unverified.db (fun _ ↦ 0) verified from hdb)).congr
      fun _ _ ↦ Nat.zero_add _
  refine ⟨?_, htracks.get_fst_eq_ok_iff hsorted, fun key value hmem ↦ ?_,
    fun key hnot ↦ htracks.get_of_not_mem hnot, fun decode key ↦
      htracks.getAndDecodeOptional_fst hsorted decode key, ?_⟩
  · rw [hdb, List.map_map]
    exact hkeys
  · rw [htracks.get_of_mem hsorted hmem]
  · rw [htracks.ensureNoUnusedKeys_eq_ok]
    simp only [List.count_pos_iff, List.mem_map]

/-- A proof of the keys `1` and `2`: after a read of `1` alone, the unread `2` makes
`ensure_no_unused_keys` fail. -/
theorem verifiedStorageProof_spec_unreadKey :
    (⟨(), [(1, some 10), (2, none)]⟩ : UnverifiedStorageProof Unit ℕ ℕ).verify
        (fun _ _ _ _ ↦ true) .v1 () = .ok ⟨[(⟨1, 0⟩, some 10), (⟨2, 0⟩, none)]⟩ ∧
      ([Read.get 1].foldl (fun proof read ↦ read.apply proof)
        (⟨[(⟨1, 0⟩, some 10), (⟨2, 0⟩, none)]⟩ : VerifiedStorageProof ℕ ℕ)).ensureNoUnusedKeys ≠
        .ok () := by
  have hverify : (⟨(), [(1, some 10), (2, none)]⟩ : UnverifiedStorageProof Unit ℕ ℕ).verify
      (fun _ _ _ _ ↦ true) .v1 () = .ok ⟨[(⟨1, 0⟩, some 10), (⟨2, 0⟩, none)]⟩ := rfl
  obtain ⟨-, -, -, -, -, hunused⟩ := verifiedStorageProof_spec _ _ _ _ _ hverify [Read.get 1]
  refine ⟨hverify, fun hok ↦ ?_⟩
  obtain ⟨read, hread, hkey⟩ := hunused.mp hok (2, none) (by simp)
  rw [List.mem_singleton] at hread
  subst hread
  cases hkey

end Runtime
