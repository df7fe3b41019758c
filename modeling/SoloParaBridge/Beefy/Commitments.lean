import SoloParaBridge.Beefy.Pallet
import SoloParaBridge.Lib.Trace

/-!
# What the BEEFY pallet holds after a run

`Imports T s initData imported` says what the storage `s` holds once `initData` initialized the
pallet and the commitments `imported` (block number and data, oldest first) were imported after
it.  The block numbers go up along the list, from the initial best block.  The best block is the
last of them.  The ring buffer holds the list (`RingMap.Holds`).  And `RequestCount` is at most
`MaxRequests`.

The initialization sets the invariant up (`imports_initializeCall`), and a call keeps it, with the
commitment it imported appended (`Imports.dispatch`).  The ring buffer's step needs the new block
number to be fresh, and it is: it is above the best block, so above every block imported.  No call
lowers the authority set id (`Imports.dispatch_id_le`).

`submitCommitment_checks` says what a successful import checked.  For a set that is not empty the
signatures it requires are more than two thirds of the set (`signaturesRequired_le_iff`).  But a
leaf may carry an empty next set, which the pallet takes, and then no signature is required:
`submitCommitment_emptySet` runs this.  `initializeCall_runEvents_commitments` reads everything
back along any run of calls.
-/

set_option autoImplicit false

namespace Beefy

open LogicProvider (Origin)
open Grandpa (ensureSigned)

variable {AuthorityId Signature Payload MmrHash BlockHash LeafExtra MmrProof AccountId : Type}
  {T : Config AuthorityId Signature Payload MmrHash BlockHash LeafExtra MmrProof}

/-- **What a successful import checked**: a block above the best one, the current validator set,
enough correct signatures of it, and the leaf in the MMR of the root the commitment carries. -/
theorem submitCommitment_checks [DecidableEq MmrHash] {s s' : State MmrHash BlockHash AccountId}
    {origin : Origin AccountId} {commitment : SignedCommitment Payload Signature}
    {validatorSet : ValidatorSet AuthorityId} {mmrLeaf : MmrLeaf BlockHash MmrHash LeafExtra}
    {mmrProof : MmrProof}
    (h : s.submitCommitment T origin commitment validatorSet mmrLeaf mmrProof = some (.ok s')) :
    (∃ commitmentsInfo, s.importedCommitmentsInfo = some commitmentsInfo ∧
        commitmentsInfo.bestBlockNumber < commitment.commitment.blockNumber) ∧
      commitment.commitment.validatorSetId = s.currentAuthoritySetInfo.id ∧
      validatorSet.id = s.currentAuthoritySetInfo.id ∧
      validatorSet.validators.length = s.currentAuthoritySetInfo.len ∧
      T.authoritiesMmrRoot validatorSet.validators = s.currentAuthoritySetInfo.root ∧
      signaturesRequired s.currentAuthoritySetInfo.len ≤ T.correctSignatures commitment validatorSet ∧
      ∃ mmrRoot, T.decodeMmrRoot commitment.commitment.payload = some mmrRoot ∧
        T.verifyMmrLeavesProof mmrRoot [T.hashLeaf mmrLeaf] mmrProof = true := by
  obtain ⟨-, -, -, commitmentsInfo, mmrRoot, hinfo, hlt, hverify, hleaf, -⟩ :=
    State.submitCommitment_eq_ok h
  obtain ⟨hid, -, hset, hsignatures, hroot⟩ := Config.verifyCommitment_eq_ok hverify
  obtain ⟨hsetId, hlen, hmerkle⟩ := Config.verifyAuthoritySet_eq_ok.mp hset
  obtain ⟨-, hrequired⟩ := Config.verifySignatures_eq_ok.mp hsignatures
  rw [hlen] at hrequired
  exact ⟨⟨commitmentsInfo, hinfo, hlt⟩, hid, hsetId, hlen, hmerkle, hrequired, mmrRoot, hroot,
    Config.verifyBeefyMmrLeaf_eq_ok.mp hleaf⟩

/-! ## The invariant -/

variable (T) in
/-- What the storage holds once `initData` initialized the pallet and `imported` were imported
after it, in that order. -/
structure Imports (s : State MmrHash BlockHash AccountId) (initData : InitializationData MmrHash)
    (imported : List (ℕ × ImportedCommitment BlockHash MmrHash)) : Prop where
  /-- Each commitment is for a block above those before it, and above the initial best block. -/
  ordered : (initData.bestBlockNumber :: imported.map Prod.fst).Pairwise (· < ·)
  /-- The best block is the last one, and the next slot has gone round once per
  `CommitmentsToKeep` commitments. -/
  info_eq : s.importedCommitmentsInfo = some
    ⟨(initData.bestBlockNumber :: imported.map Prod.fst).getLast (List.cons_ne_nil _ _),
      imported.length % T.commitmentsToKeep⟩
  /-- The ring buffer holds the imported commitments. -/
  holds : RingMap.Holds T.commitmentsToKeep s.commitments imported
  requestCount_le : s.requestCount ≤ T.maxRequests

variable {initData : InitializationData MmrHash}
  {imported : List (ℕ × ImportedCommitment BlockHash MmrHash)} {s s' : State MmrHash BlockHash AccountId}

/-- The invariant reads the best block, the ring buffer and the request count only. -/
theorem Imports.of_eq (hs : Imports T s initData imported)
    (hinfo : s'.importedCommitmentsInfo = s.importedCommitmentsInfo)
    (hcommitments : s'.commitments = s.commitments) (hrequests : s'.requestCount ≤ T.maxRequests) :
    Imports T s' initData imported where
  ordered := hs.ordered
  info_eq := hinfo.trans hs.info_eq
  holds := hcommitments ▸ hs.holds
  requestCount_le := hrequests

/-- Every imported block is at most the best one. -/
theorem Imports.le_bestBlockNumber (hs : Imports T s initData imported)
    {commitmentsInfo : ImportedCommitmentsInfoData}
    (hinfo : s.importedCommitmentsInfo = some commitmentsInfo) :
    ∀ blockNumber ∈ initData.bestBlockNumber :: imported.map Prod.fst,
      blockNumber ≤ commitmentsInfo.bestBlockNumber := by
  intro blockNumber hmem
  rw [hs.info_eq, Option.some_inj] at hinfo
  rw [← hinfo]
  exact (hs.ordered.imp Nat.le_of_lt).rel_getLast_of_rel_getLast_getLast hmem (Nat.le_refl _)

/-- An initialized pallet refuses to be initialized again. -/
theorem Imports.initializeCall_ne_ok [DecidableEq AccountId] (hs : Imports T s initData imported)
    {origin : Origin AccountId} {initData' : InitializationData MmrHash} :
    s.initializeCall origin initData' ≠ .ok s' := fun h ↦ by
  obtain ⟨hnone, -, -⟩ := State.initializeCall_eq_ok h
  rw [hs.info_eq] at hnone
  cases hnone

/-- **The initialization sets the invariant up**, from the storage of a pallet that imported
nothing yet. -/
theorem imports_initializeCall [DecidableEq AccountId] {s₀ : State MmrHash BlockHash AccountId}
    (hempty : s₀.commitments = RingMap.empty) (hrequests : s₀.requestCount ≤ T.maxRequests)
    {origin : Origin AccountId} (h : s₀.initializeCall origin initData = .ok s) :
    Imports T s initData [] := by
  obtain ⟨hnone, -, rfl⟩ := State.initializeCall_eq_ok h
  have hcommitments : State.commitments { s₀ with
      currentAuthoritySetInfo := initData.authoritySet
      palletOperatingMode := initData.operatingMode
      importedCommitmentsInfo := some ⟨initData.bestBlockNumber, 0⟩ } = s₀.commitments := by
    simp [State.commitments, hnone]
  refine ⟨List.pairwise_singleton _ _, ?_, ?_, hrequests⟩
  · simp
  · rw [hcommitments, hempty]
    exact RingMap.holds_empty _

/-! ## One call -/

variable (hcap : 0 < T.commitmentsToKeep)

include hcap in
/-- **An import keeps the invariant**, with the commitment appended. -/
theorem Imports.importCommitment (hs : Imports T s initData imported)
    {commitmentsInfo : ImportedCommitmentsInfoData}
    (hinfo : s.importedCommitmentsInfo = some commitmentsInfo)
    {commitment : SignedCommitment Payload Signature} {mmrLeaf : MmrLeaf BlockHash MmrHash LeafExtra}
    {mmrRoot : MmrHash} (hlt : commitmentsInfo.bestBlockNumber < commitment.commitment.blockNumber)
    (hrequests : s.requestCount < T.maxRequests)
    (h : s.importCommitment T commitmentsInfo commitment mmrLeaf mmrRoot = some s') :
    Imports T s' initData
      (imported ++ [(commitment.commitment.blockNumber, ⟨mmrLeaf.parentNumberAndHash, mmrRoot⟩)]) := by
  obtain ⟨-, rfl⟩ := State.importCommitment_eq_some hinfo h
  have hbelow := hs.le_bestBlockNumber hinfo
  have hindex : commitmentsInfo.nextBlockNumberIndex = imported.length % T.commitmentsToKeep := by
    rw [hs.info_eq, Option.some_inj] at hinfo
    rw [← hinfo]
  -- the slot index stays below `CommitmentsToKeep < 2 ^ 32`, so its `+ 1` does not wrap
  have hwrap : Unsigned.wrappingAdd 32 commitmentsInfo.nextBlockNumberIndex 1 =
      commitmentsInfo.nextBlockNumberIndex + 1 := by
    apply Unsigned.wrappingAdd_of_lt
    have := Nat.mod_lt imported.length hcap
    have := T.commitmentsToKeep_lt
    omega
  have hpointer : s.commitments.pointer = commitmentsInfo.nextBlockNumberIndex := by
    simp [State.commitments, hinfo]
  constructor
  · rw [List.map_append, ← List.cons_append, List.pairwise_append]
    refine ⟨hs.ordered, List.pairwise_singleton _ _, fun a ha b hb ↦ ?_⟩
    rw [List.map_singleton, List.mem_singleton] at hb
    subst hb
    exact Nat.lt_of_le_of_lt (hbelow a ha) hlt
  · dsimp only
    rw [hwrap, hindex, Nat.mod_add_mod]
    simp only [List.map_append, List.map_singleton, ← List.cons_append,
      List.getLast_append_singleton, List.length_append, List.length_singleton]
  · have hfresh : commitment.commitment.blockNumber ∉ imported.map Prod.fst := fun hmem ↦ by
      have := hbelow _ (List.mem_cons_of_mem _ hmem)
      omega
    have hpush := hs.holds.push hcap hfresh (v := ⟨mmrLeaf.parentNumberAndHash, mmrRoot⟩)
    convert hpush using 1
    rw [State.commitments]
    simp only [RingMap.push, Option.map_some, Option.getD_some, hwrap, hpointer]
  · rw [Unsigned.wrappingAdd_of_lt (by have := T.maxRequests_lt; omega)]
    exact hrequests

include hcap in
/-- **One call keeps the invariant**, with the commitment it imported appended. -/
theorem Imports.dispatch [DecidableEq MmrHash] [DecidableEq AccountId]
    (hs : Imports T s initData imported)
    {call : Call AuthorityId Signature Payload MmrHash BlockHash LeafExtra MmrProof AccountId}
    {r : Exec Error (State MmrHash BlockHash AccountId)} (h : s.dispatch T call = some r) :
    Imports T (Exec.transactional s r) initData
      (imported ++ if r.isOk then (call.imported? T).toList else []) := by
  cases r with
  | err e s' =>
    simpa using hs
  | ok s' =>
    simp only [Exec.transactional_ok, Exec.isOk_ok, if_true]
    cases call with
    | submitCommitment origin commitment validatorSet mmrLeaf mmrProof =>
      obtain ⟨-, -, hrequests, commitmentsInfo, mmrRoot, hinfo, hlt, hverify, -, himport⟩ :=
        State.submitCommitment_eq_ok h
      obtain ⟨-, -, -, -, hroot⟩ := Config.verifyCommitment_eq_ok hverify
      simp only [Call.imported?, hroot, Option.map_some, Option.toList_some]
      exact hs.importCommitment hcap hinfo hlt hrequests himport
    | initializeCall origin initData' =>
      exact absurd (Option.some.inj h) hs.initializeCall_ne_ok
    | setOwner origin newOwner =>
      rw [State.setOwner_eq_ok (Option.some.inj h)]
      simp only [Call.imported?, Option.toList_none, List.append_nil]
      exact hs.of_eq rfl rfl hs.requestCount_le
    | setOperatingMode origin operatingMode =>
      rw [State.setOperatingMode_eq_ok (Option.some.inj h)]
      simp only [Call.imported?, Option.toList_none, List.append_nil]
      exact hs.of_eq rfl rfl hs.requestCount_le
    | onInitialize =>
      cases h
      simp only [Call.imported?, Option.toList_none, List.append_nil]
      exact hs.of_eq rfl rfl (Nat.le_trans (Nat.sub_le _ _) hs.requestCount_le)

/-- **No call lowers the authority set id** of an initialized pallet. -/
theorem Imports.dispatch_id_le [DecidableEq MmrHash] [DecidableEq AccountId]
    (hs : Imports T s initData imported)
    {call : Call AuthorityId Signature Payload MmrHash BlockHash LeafExtra MmrProof AccountId}
    {r : Exec Error (State MmrHash BlockHash AccountId)} (h : s.dispatch T call = some r) :
    s.currentAuthoritySetInfo.id ≤ (Exec.transactional s r).currentAuthoritySetInfo.id := by
  refine Exec.transactional_of (P := fun t : State MmrHash BlockHash AccountId ↦
    s.currentAuthoritySetInfo.id ≤ t.currentAuthoritySetInfo.id)
    (Nat.le_refl _) fun s' hok ↦ ?_
  subst hok
  cases call with
  | submitCommitment origin commitment validatorSet mmrLeaf mmrProof =>
    obtain ⟨-, -, -, commitmentsInfo, mmrRoot, hinfo, -, -, -, himport⟩ :=
      State.submitCommitment_eq_ok h
    obtain ⟨-, rfl⟩ := State.importCommitment_eq_some hinfo himport
    dsimp only
    split_ifs with hnext
    · exact Nat.le_of_lt hnext
    · exact Nat.le_refl _
  | initializeCall origin initData' =>
    exact absurd (Option.some.inj h) hs.initializeCall_ne_ok
  | setOwner origin newOwner =>
    rw [State.setOwner_eq_ok (Option.some.inj h)]
  | setOperatingMode origin operatingMode =>
    rw [State.setOperatingMode_eq_ok (Option.some.inj h)]
  | onInitialize =>
    cases h
    exact Nat.le_refl _

include hcap in
/-- **A run keeps the invariant**, with the commitments it imported appended. -/
theorem Imports.runEvents [DecidableEq MmrHash] [DecidableEq AccountId]
    (hs : Imports T s initData imported)
    {calls : List (Call AuthorityId Signature Payload MmrHash BlockHash LeafExtra MmrProof AccountId)}
    (hrun : Trace.runEvents (State.apply T) s calls = some s') :
    Imports T s' initData (imported ++ State.importedCommitmentsOf T s calls) := by
  induction calls generalizing s imported with
  | nil =>
    rw [Trace.runEvents_nil, Option.some_inj] at hrun
    subst hrun
    simpa [State.importedCommitmentsOf] using hs
  | cons call calls ih =>
    rw [Trace.runEvents_cons, Option.bind_eq_some_iff] at hrun
    obtain ⟨t, ht, hrest⟩ := hrun
    rw [State.apply, Option.map_eq_some_iff] at ht
    obtain ⟨r, hr, rfl⟩ := ht
    have hrun := ih (hs.dispatch hcap hr) hrest
    rw [State.importedCommitmentsOf, hr]
    simpa [List.append_assoc] using hrun

/-! ## Runs -/

variable [DecidableEq MmrHash] [DecidableEq AccountId]

include hcap in
/-- **Every run from `initialize`.**  Each commitment a run accepts is newer than the best one,
signed by more than two thirds of the current set, and proven in the MMR; the request count stays
within `MaxRequests`; the set id never goes back; the imported block numbers increase; and the
ring buffer holds the last `CommitmentsToKeep` of them, the best block being the last imported
one, whose commitment it still has. -/
theorem initializeCall_runEvents_commitments {s₀ s₁ : State MmrHash BlockHash AccountId}
    (hempty : s₀.commitments = RingMap.empty) (hrequests : s₀.requestCount ≤ T.maxRequests)
    {origin : Origin AccountId} (hinit : s₀.initializeCall origin initData = .ok s₁)
    {calls : List (Call AuthorityId Signature Payload MmrHash BlockHash LeafExtra MmrProof AccountId)}
    (hrun : Trace.runEvents (State.apply T) s₁ calls = some s) :
    let imported := State.importedCommitmentsOf T s₁ calls
    (∀ (t t' : State MmrHash BlockHash AccountId) (origin : Origin AccountId)
        (commitment : SignedCommitment Payload Signature) (validatorSet : ValidatorSet AuthorityId)
        (mmrLeaf : MmrLeaf BlockHash MmrHash LeafExtra) (mmrProof : MmrProof),
        t.submitCommitment T origin commitment validatorSet mmrLeaf mmrProof = some (.ok t') →
        let n := t.currentAuthoritySetInfo.len
        let k := T.correctSignatures commitment validatorSet
        (∃ commitmentsInfo, t.importedCommitmentsInfo = some commitmentsInfo ∧
            commitmentsInfo.bestBlockNumber < commitment.commitment.blockNumber) ∧
          commitment.commitment.validatorSetId = t.currentAuthoritySetInfo.id ∧
          validatorSet.id = t.currentAuthoritySetInfo.id ∧ validatorSet.validators.length = n ∧
          T.authoritiesMmrRoot validatorSet.validators = t.currentAuthoritySetInfo.root ∧
          signaturesRequired n ≤ k ∧ (0 < n → 2 * n < 3 * k) ∧
          ∃ mmrRoot, T.decodeMmrRoot commitment.commitment.payload = some mmrRoot ∧
            T.verifyMmrLeavesProof mmrRoot [T.hashLeaf mmrLeaf] mmrProof = true) ∧
      s.requestCount ≤ T.maxRequests ∧
      (∀ call s', s.apply T call = some s' →
        s.currentAuthoritySetInfo.id ≤ s'.currentAuthoritySetInfo.id) ∧
      (initData.bestBlockNumber :: imported.map Prod.fst).Pairwise (· < ·) ∧
      (∀ blockNumber, (s.importedCommitments blockNumber).isSome ↔
        ∃ i, s.importedBlockNumbers i = some blockNumber) ∧
      (∀ blockNumber, (∃ i, s.importedBlockNumbers i = some blockNumber) ↔
        blockNumber ∈ (imported.map Prod.fst).drop (imported.length - T.commitmentsToKeep)) ∧
      (∀ i, T.commitmentsToKeep ≤ i → s.importedBlockNumbers i = none) ∧
      ∀ last, imported.getLast? = some last →
        ∃ commitmentsInfo, s.importedCommitmentsInfo = some commitmentsInfo ∧
          commitmentsInfo.bestBlockNumber = last.1 ∧ s.importedCommitments last.1 = some last.2 := by
  intro imported
  have hs : Imports T s initData imported := by
    simpa using (imports_initializeCall hempty hrequests hinit).runEvents hcap hrun
  refine ⟨fun t t' origin commitment validatorSet mmrLeaf mmrProof h ↦ ?_, hs.requestCount_le,
    fun call s' h ↦ ?_, hs.ordered, hs.holds.entries_isSome_iff, fun blockNumber ↦ ?_,
    fun i hi ↦ hs.holds.slots_eq_none hcap hi, fun last hlast ↦ ?_⟩
  · obtain ⟨hbest, hid, hsetId, hlen, hroot, hrequired, hmmr⟩ := submitCommitment_checks h
    exact ⟨hbest, hid, hsetId, hlen, hroot, hrequired,
      fun hn ↦ (signaturesRequired_le_iff hn).mp hrequired, hmmr⟩
  · rw [State.apply, Option.map_eq_some_iff] at h
    obtain ⟨r, hr, rfl⟩ := h
    exact hs.dispatch_id_le hr
  · have hwindow := hs.holds.mem_slots_iff blockNumber
    rw [List.map_drop] at hwindow
    exact hwindow
  · have hbest : (initData.bestBlockNumber :: imported.map Prod.fst).getLast (List.cons_ne_nil _ _) =
        last.1 := by
      have hget := List.getLast?_eq_some_getLast
        (List.cons_ne_nil initData.bestBlockNumber (imported.map Prod.fst))
      rw [List.getLast?_cons, List.getLast?_map, hlast, Option.map_some, Option.getD_some] at hget
      exact (Option.some.inj hget).symm
    exact ⟨_, hs.info_eq, hbest, hs.holds.entries_last hcap hlast⟩

/-- A bridged chain whose validators sign with their own ids, and whose merkle root of a set is
the sum of its ids.  A payload is the MMR root it carries, and an MMR holds one leaf, hashed to the
id of the leaf's next authority set. -/
def testConfig : Config ℕ ℕ ℕ ℕ ℕ Unit Unit where
  maxRequests := 2
  maxRequests_lt := by decide
  commitmentsToKeep := 2
  commitmentsToKeep_lt := by decide
  verify authority sig _ := authority == sig
  authoritiesMmrRoot validators := validators.sum
  decodeMmrRoot payload := some payload
  hashLeaf leaf := leaf.beefyNextAuthoritySet.id
  verifyMmrLeavesProof mmrRoot leaves _ := leaves == [mmrRoot]

/-- The storage `GenesisConfig` builds with no initialization data. -/
def testGenesis : State ℕ ℕ ℕ :=
  ⟨0, none, fun _ ↦ none, fun _ ↦ none, ⟨0, 0, 0⟩, none, .halted⟩

/-- The set `1` of the validators `1` and `2`, above block `0`. -/
def testInitData : InitializationData ℕ :=
  ⟨.normal, 0, ⟨1, 2, 3⟩⟩

/-- A commitment to block `blockNumber`, signed by every one of `validators`, the set `setId`,
with a leaf that hands over to `nextSet`. -/
def testSubmit (blockNumber setId : ℕ) (validators : List ℕ) (nextSet : BeefyAuthoritySet ℕ) :
    Call ℕ ℕ ℕ ℕ ℕ Unit Unit ℕ :=
  .submitCommitment (.signed 7) ⟨⟨nextSet.id, blockNumber, setId⟩, validators.map some⟩
    ⟨validators, setId⟩ ⟨0, (blockNumber - 1, 0), nextSet, ()⟩ ()

/-- Three commitments into two slots, the first of which hands over to the set `2` of the same
validators; a new block lets a third request in. -/
def testCalls : List (Call ℕ ℕ ℕ ℕ ℕ Unit Unit ℕ) :=
  [testSubmit 1 1 [1, 2] ⟨2, 2, 3⟩, .onInitialize, testSubmit 2 2 [1, 2] ⟨2, 2, 3⟩,
    testSubmit 3 2 [1, 2] ⟨2, 2, 3⟩]

example :
    ∃ s₁ s, (⟨none, none⟩ : GenesisConfig ℕ ℕ).build = some testGenesis ∧
      testGenesis.initializeCall .root testInitData = .ok s₁ ∧
      Trace.runEvents (State.apply testConfig) s₁ testCalls = some s ∧
      s.requestCount ≤ testConfig.maxRequests ∧ (s.importedCommitments 3).isSome := by
  obtain ⟨-, hrequests, -, -, hkeys, hwindow, -, -⟩ :=
    initializeCall_runEvents_commitments (by decide)
      (rfl : testGenesis.commitments = RingMap.empty) (by decide)
      (rfl : testGenesis.initializeCall .root testInitData = _)
      (rfl : Trace.runEvents (State.apply testConfig) _ testCalls = _)
  exact ⟨_, _, rfl, rfl, rfl, hrequests, (hkeys 3).mpr ((hwindow 3).mpr (by decide))⟩

/-- A leaf that hands over to an empty set, and after it a commitment with no signature at all,
which the pallet imports. -/
theorem submitCommitment_emptySet :
    ∃ s₁ s s', testGenesis.initializeCall .root testInitData = .ok s₁ ∧
      Trace.runEvents (State.apply testConfig) s₁ [testSubmit 1 1 [1, 2] ⟨5, 0, 0⟩] = some s ∧
      s.submitCommitment testConfig (.signed 7) ⟨⟨5, 2, 5⟩, []⟩ ⟨[], 5⟩ ⟨0, (1, 0), ⟨5, 0, 0⟩, ()⟩ () =
        some (.ok s') ∧
      s.currentAuthoritySetInfo.len = 0 ∧
      ¬2 * s.currentAuthoritySetInfo.len <
        3 * testConfig.correctSignatures ⟨⟨5, 2, 5⟩, []⟩ (⟨[], 5⟩ : ValidatorSet ℕ) :=
  ⟨_, _, _, rfl, rfl, rfl, rfl, by decide⟩

end Beefy
