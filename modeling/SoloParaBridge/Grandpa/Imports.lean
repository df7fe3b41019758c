import SoloParaBridge.Grandpa.Pallet
import SoloParaBridge.Lib.Trace

/-!
# What the GRANDPA pallet holds after a run

`Imports s initData headers` says what the storage `s` holds once `initData` initialized the
pallet and `headers` were imported after it, oldest first: the numbers go up along the list, none
of `headers` carried a forced change or a delayed one, the best finalized header is the last of
the list, the ring buffer holds the list (`RingMap.Holds`), and the set id is the initial one plus
the number of `headers` that scheduled a change, modulo `2 ^ 64`.

The invariant is set up by the initialization (`imports_initializeCall`), and a call keeps it,
with its target appended when it is an import that returned `Ok` (`Imports.dispatch`).  The
ring buffer's step needs the new hash to be fresh: the header is numbered above every imported
one, and headers of different numbers have different hashes (`hinj`).  Every other call leaves the
three things the invariant reads alone, or fails and leaves the storage as it was.

`initializeCall_runEvents_imports` reads the invariant back along any run of calls, against the
headers the run actually imported (`State.importedHeaders`).
-/

set_option autoImplicit false

namespace Grandpa

open HeaderChain
open LogicProvider (Origin)

variable {Header Hash AuthorityId Signature AccountId : Type} [HeaderT Header Hash]
  {T : Config Header Hash AuthorityId Signature}

/-- What the storage holds once `initData` initialized the pallet and `headers` were imported
after it, in that order. -/
structure Imports (s : State T AccountId) (initData : InitializationData Header AuthorityId)
    (headers : List Header) : Prop where
  /-- Each imported header is numbered above those before it. -/
  ordered : (initData.header :: headers).Pairwise fun a b ↦ T.number a < T.number b
  /-- No header imported after the initial one carried a forced change. -/
  no_forced_change : ∀ header ∈ headers, T.findForcedChange header = none
  /-- Nor a scheduled change with a delay. -/
  no_delay : ∀ header ∈ headers, ∀ change, T.findScheduledChange header = some change →
    change.delay = 0
  /-- The best finalized header is the last one imported. -/
  bestFinalized_eq :
    s.bestFinalized = some (T.headerId ((initData.header :: headers).getLast (List.cons_ne_nil _ _)))
  /-- The ring buffer holds the imported headers. -/
  holds : RingMap.Holds T.headersToKeep s.imported ((initData.header :: headers).map T.entry)
  /-- The set id went up by one at each header that scheduled a change, in `u64` arithmetic. -/
  setId_eq : s.currentAuthoritySet.setId =
    (initData.setId + (headers.filter fun header ↦ (T.findScheduledChange header).isSome).length) %
      2 ^ 64

variable {initData : InitializationData Header AuthorityId} {headers : List Header}
  {s s' : State T AccountId}

/-- The invariant reads the best finalized header, the ring buffer and the set id only. -/
theorem Imports.of_eq (hs : Imports s initData headers) (hbest : s'.bestFinalized = s.bestFinalized)
    (himported : s'.imported = s.imported)
    (hsetId : s'.currentAuthoritySet.setId = s.currentAuthoritySet.setId) :
    Imports s' initData headers where
  ordered := hs.ordered
  no_forced_change := hs.no_forced_change
  no_delay := hs.no_delay
  bestFinalized_eq := hbest.trans hs.bestFinalized_eq
  holds := himported ▸ hs.holds
  setId_eq := hsetId.trans hs.setId_eq

/-- Every imported header is numbered below a number above the best finalized one. -/
theorem Imports.number_lt (hs : Imports s initData headers) {best : HeaderId Hash}
    (hbest : s.bestFinalized = some best) {number : ℕ} (hlt : best.number < number) :
    ∀ header ∈ initData.header :: headers, T.number header < number := by
  intro header hmem
  rw [hs.bestFinalized_eq, Option.some_inj] at hbest
  have hle : T.number header ≤
      T.number ((initData.header :: headers).getLast (List.cons_ne_nil _ _)) :=
    (hs.ordered.imp Nat.le_of_lt).rel_getLast_of_rel_getLast_getLast hmem (Nat.le_refl _)
  rw [← hbest] at hlt
  exact Nat.lt_of_le_of_lt hle hlt

/-- A hash names its header: a header numbered above every header of a list has a hash that none
of them has. -/
theorem hash_not_mem_of_number_lt
    (hinj : ∀ a b : Header, HeaderT.hash a = HeaderT.hash b → T.number a = T.number b)
    {imported : List Header} {header : Header}
    (hbelow : ∀ h ∈ imported, T.number h < T.number header) :
    HeaderT.hash header ∉ (imported.map T.entry).map Prod.fst := by
  intro hmem
  rw [List.map_map, List.mem_map] at hmem
  obtain ⟨h, hh, hhash⟩ := hmem
  have hnumber : T.number h = T.number header := hinj h header hhash
  have hlt := hbelow h hh
  omega

section Initialize

variable [DecidableEq Hash] [DecidableEq AccountId]

/-- **The initialization sets the invariant up**, from the storage of a pallet that imported
nothing yet. -/
theorem imports_initializeCall (hcap : 0 < T.headersToKeep) {s₀ : State T AccountId}
    (hempty : s₀.imported = RingMap.empty) (hset : initData.setId < 2 ^ 64)
    {origin : Origin AccountId} (h : s₀.initializeCall origin initData = .ok s) :
    Imports s initData [] := by
  obtain ⟨-, -, authoritySet, hnew, rfl⟩ := State.initializeCall_eq_ok h
  refine ⟨List.pairwise_singleton _ _, by simp, by simp, rfl, ?_, ?_⟩
  · show RingMap.Holds _ ({ s₀.imported with pointer := 0 }.push T.headersToKeep _ _) _
    rw [hempty]
    exact (RingMap.holds_empty _).push hcap (List.not_mem_nil)
  · rw [List.filter_nil, List.length_nil, Nat.add_zero, Nat.mod_eq_of_lt hset]
    exact (StoredAuthoritySet.tryNew_eq_ok hnew).2

end Initialize

section Steps

variable [DecidableEq Hash] [DecidableEq AuthorityId] [DecidableEq AccountId]
  (hinj : ∀ a b : Header, HeaderT.hash a = HeaderT.hash b → T.number a = T.number b)
  (hcap : 0 < T.headersToKeep)

omit [DecidableEq AccountId] in
include hinj hcap in
/-- **An import keeps the invariant**, with the imported header appended. -/
theorem Imports.submitFinalityProof (hs : Imports s initData headers) {origin : Origin AccountId}
    {finalityTarget : Header} {justification : GrandpaJustification Header Hash AuthorityId Signature}
    (h : s.submitFinalityProof origin finalityTarget justification = some (.ok s')) :
    Imports s' initData (headers ++ [finalityTarget]) := by
  obtain ⟨-, -, ⟨best, hbest, hlt⟩, -, enacted, s₁, henact, rfl⟩ := State.submitFinalityProof_eq_ok h
  obtain ⟨hforced, hchange⟩ := State.tryEnactAuthorityChange_eq_ok henact
  have hbelow := hs.number_lt hbest hlt
  have hframe : s₁.imported = s.imported := by
    rcases hchange with ⟨-, -, rfl⟩ | ⟨-, -, -, -, -, rfl⟩ <;> rfl
  constructor
  · rw [← List.cons_append, List.pairwise_append]
    refine ⟨hs.ordered, List.pairwise_singleton _ _, fun a ha b hb ↦ ?_⟩
    rw [List.mem_singleton] at hb
    subst hb
    exact hbelow a ha
  · intro header hmem
    rcases List.mem_append.mp hmem with hmem | hmem
    · exact hs.no_forced_change header hmem
    · rw [List.mem_singleton.mp hmem]
      exact hforced
  · intro header hmem change hsome
    rcases List.mem_append.mp hmem with hmem | hmem
    · exact hs.no_delay header hmem change hsome
    · rw [List.mem_singleton.mp hmem] at hsome
      rcases hchange with ⟨hnone, -, -⟩ | ⟨change', -, hchange', hdelay, -, -⟩
      · rw [hnone] at hsome
        cases hsome
      · rw [hchange', Option.some_inj] at hsome
        rw [← hsome]
        exact hdelay
  · simp [Config.headerId]
  · rw [State.insertHeader_imported, apply_ite State.imported, State.useFreeMandatoryHeader_imported,
      ite_self, hframe, ← List.cons_append, List.map_append]
    exact hs.holds.push hcap (hash_not_mem_of_number_lt hinj hbelow)
  · rw [State.insertHeader_currentAuthoritySet, apply_ite State.currentAuthoritySet,
      State.useFreeMandatoryHeader_currentAuthoritySet, ite_self, List.filter_append,
      List.length_append]
    rcases hchange with ⟨hnone, -, rfl⟩ | ⟨change, authorities, hsome, -, -, rfl⟩
    · simp [hnone, hs.setId_eq]
    · simp only [hsome, Option.isSome_some, List.filter_cons_of_pos, List.filter_nil,
        List.length_singleton]
      rw [Unsigned.wrappingAdd, hs.setId_eq, Nat.mod_add_mod, Nat.add_assoc]

include hinj hcap in
/-- **One call keeps the invariant**, with the header it imported appended. -/
theorem Imports.dispatch (hs : Imports s initData headers)
    {call : Call Header Hash AuthorityId Signature AccountId} {r : Exec Error (State T AccountId)}
    (h : s.dispatch call = some r) :
    Imports (Exec.transactional s r) initData
      (headers ++ if r.isOk then call.finalityTarget?.toList else []) := by
  cases r with
  | err e s' =>
    simpa using hs
  | ok s' =>
    simp only [Exec.transactional_ok, Exec.isOk_ok, if_true]
    cases call with
    | submitFinalityProof origin finalityTarget justification =>
      exact hs.submitFinalityProof hinj hcap h
    | initializeCall origin initData' =>
      obtain ⟨-, hnone, -⟩ := State.initializeCall_eq_ok (Option.some.inj h)
      rw [hs.bestFinalized_eq] at hnone
      cases hnone
    | setOwner origin newOwner =>
      rw [State.setOwner_eq_ok (Option.some.inj h)]
      simp only [Call.finalityTarget?, Option.toList_none, List.append_nil]
      exact hs.of_eq rfl rfl rfl
    | setOperatingMode origin operatingMode =>
      rw [State.setOperatingMode_eq_ok (Option.some.inj h)]
      simp only [Call.finalityTarget?, Option.toList_none, List.append_nil]
      exact hs.of_eq rfl rfl rfl
    | onInitialize =>
      cases h
      simp only [Call.finalityTarget?, Option.toList_none, List.append_nil]
      exact hs.of_eq rfl rfl rfl
    | onFinalize =>
      cases h
      simp only [Call.finalityTarget?, Option.toList_none, List.append_nil]
      exact hs.of_eq rfl rfl rfl

include hinj hcap in
/-- **A run keeps the invariant**, with the headers it imported appended. -/
theorem Imports.runEvents (hs : Imports s initData headers)
    {calls : List (Call Header Hash AuthorityId Signature AccountId)}
    (hrun : Trace.runEvents State.apply s calls = some s') :
    Imports s' initData (headers ++ State.importedHeaders s calls) := by
  induction calls generalizing s headers with
  | nil =>
    rw [Trace.runEvents_nil, Option.some_inj] at hrun
    subst hrun
    simpa [State.importedHeaders] using hs
  | cons call calls ih =>
    rw [Trace.runEvents_cons, Option.bind_eq_some_iff] at hrun
    obtain ⟨t, ht, hrest⟩ := hrun
    rw [State.apply, Option.map_eq_some_iff] at ht
    obtain ⟨r, hr, rfl⟩ := ht
    have hrun := ih (hs.dispatch hinj hcap hr) hrest
    rw [State.importedHeaders, hr]
    simpa [List.append_assoc] using hrun

end Steps

section Run

variable [DecidableEq Hash] [DecidableEq AuthorityId]

/-- Each import goes above the best finalized header, and becomes it. -/
theorem State.submitFinalityProof_bestFinalized {origin : Origin AccountId} {header : Header}
    {justification : GrandpaJustification Header Hash AuthorityId Signature}
    (h : s.submitFinalityProof origin header justification = some (.ok s')) :
    ∃ best, s.bestFinalized = some best ∧ best.number < T.number header ∧
      s'.bestFinalized = some (T.headerId header) := by
  obtain ⟨-, -, ⟨best, hbest, hlt⟩, -, -, -, -, rfl⟩ := State.submitFinalityProof_eq_ok h
  exact ⟨best, hbest, hlt, rfl⟩

variable [DecidableEq AccountId]

theorem initializeCall_runEvents_imports
    (hinj : ∀ a b : Header, HeaderT.hash a = HeaderT.hash b → T.number a = T.number b)
    (hcap : 0 < T.headersToKeep) {s₀ s₁ : State T AccountId} (hempty : s₀.imported = RingMap.empty)
    {origin : Origin AccountId} (hset : initData.setId < 2 ^ 64)
    (hinit : s₀.initializeCall origin initData = .ok s₁)
    {calls : List (Call Header Hash AuthorityId Signature AccountId)}
    (hrun : Trace.runEvents State.apply s₁ calls = some s) :
    let headers := State.importedHeaders s₁ calls
    let last := (initData.header :: headers).getLast (List.cons_ne_nil _ _)
    (∀ (t t' : State T AccountId) (origin : Origin AccountId) (header : Header)
        (justification : GrandpaJustification Header Hash AuthorityId Signature),
        t.submitFinalityProof origin header justification = some (.ok t') →
        ∃ best, t.bestFinalized = some best ∧ best.number < T.number header ∧
          t'.bestFinalized = some (T.headerId header)) ∧
      (initData.header :: headers).Pairwise (fun a b ↦ T.number a < T.number b) ∧
      s.bestFinalized = some (T.headerId last) ∧
      s.imported.pointer = (headers.length + 1) % T.headersToKeep ∧
      (∀ hash, (s.imported.entries hash).isSome ↔ ∃ i, s.imported.slots i = some hash) ∧
      (∀ hash, (∃ i, s.imported.slots i = some hash) ↔
        hash ∈ ((initData.header :: headers).drop (headers.length + 1 - T.headersToKeep)).map
          HeaderT.hash) ∧
      s.imported.entries (HeaderT.hash last) = some (T.build last) ∧
      (∀ header ∈ headers, T.findForcedChange header = none ∧
        ∀ change, T.findScheduledChange header = some change → change.delay = 0) ∧
      s.currentAuthoritySet.setId = (initData.setId +
        (headers.filter fun header ↦ (T.findScheduledChange header).isSome).length) % 2 ^ 64 := by
  intro headers last
  have hs : Imports s initData headers := by
    simpa using (imports_initializeCall hcap hempty hset hinit).runEvents hinj hcap hrun
  have hlen : ((initData.header :: headers).map T.entry).length = headers.length + 1 := by simp
  refine ⟨fun _ _ _ _ _ h ↦ State.submitFinalityProof_bestFinalized h, hs.ordered,
    hs.bestFinalized_eq, ?_, hs.holds.entries_isSome_iff, ?_, ?_,
    fun header hmem ↦ ⟨hs.no_forced_change header hmem, hs.no_delay header hmem⟩, hs.setId_eq⟩
  · rw [hs.holds.pointer_eq, hlen]
  · intro hash
    rw [hs.holds.mem_slots_iff, hlen, ← List.map_drop, List.map_map]
    rfl
  · apply hs.holds.entries_last hcap
    rw [List.getLast?_map, List.getLast?_eq_some_getLast (List.cons_ne_nil _ _)]
    rfl

/-- A bridged chain whose headers are numbered by their hash, finalized by the authorities `1`
and `2` with every signature valid, where header `10` schedules a change of no delay. -/
def testConfig : Config TestHeader ℕ ℕ Unit where
  maxFreeMandatoryHeadersPerBlock := 4
  headersToKeep := 2
  maxAuthoritiesCount := 4
  number := TestHeader.hash
  stateRoot := fun _ ↦ 0
  findForcedChange := fun _ ↦ none
  findScheduledChange := fun header ↦
    if header.hash = 10 then some ⟨[(1, 1), (2, 1)], 0⟩ else none
  voterSetNew := fun _ ↦ some testVoters
  checkSignature := fun _ _ _ _ _ ↦ true
  fitsLimits := fun _ _ ↦ true

/-- The storage of a pallet that imported nothing. -/
def testGenesis : State testConfig ℕ where
  freeMandatoryHeadersRemaining := 0
  initialHash := none
  bestFinalized := none
  imported := RingMap.empty
  currentAuthoritySet := ⟨BoundedVec.empty, 0⟩
  palletOwner := none
  palletOperatingMode := .normal

/-- Header `5`, with the set id `u64::MAX`. -/
def testInitData : InitializationData TestHeader ℕ :=
  ⟨⟨5, 4⟩, [(1, 1), (2, 1)], 2 ^ 64 - 1, .normal⟩

/-- Imports of header `10`, justified by `optimizedTestJustification`, and of its child `20`,
which both authorities vote for directly. -/
def testCalls : List (Call TestHeader ℕ ℕ Unit ℕ) :=
  [.submitFinalityProof (.signed 0) ⟨10, 9⟩ optimizedTestJustification,
    .submitFinalityProof (.signed 0) ⟨20, 10⟩
      ⟨0, ⟨20, 20, [⟨⟨20, 20⟩, (), 1⟩, ⟨⟨20, 20⟩, (), 2⟩]⟩, []⟩]

theorem initializeCall_runEvents_imports_testCalls :
    ∃ s₁ s, testGenesis.initializeCall .root testInitData = .ok s₁ ∧
      Trace.runEvents State.apply s₁ testCalls = some s ∧
      s.bestFinalized = some ⟨20, 20⟩ ∧ s.imported.pointer = 1 ∧ s.currentAuthoritySet.setId = 0 := by
  obtain ⟨-, -, hbest, hpointer, -, -, -, -, hsetId⟩ :=
    initializeCall_runEvents_imports (fun _ _ h ↦ h) (by decide)
      (rfl : testGenesis.imported = RingMap.empty) (by decide)
      (rfl : testGenesis.initializeCall .root testInitData = _)
      (rfl : Trace.runEvents State.apply _ testCalls = _)
  refine ⟨_, _, rfl, rfl, hbest.trans ?_, hpointer.trans ?_, hsetId.trans ?_⟩ <;> decide

/-- Counted in unbounded numbers, the set id would be `u64::MAX + 1` after the one change the run
enacted; it is `0`. -/
theorem setId_wraps_testCalls :
    ∃ s₁ s, testGenesis.initializeCall .root testInitData = .ok s₁ ∧
      Trace.runEvents State.apply s₁ testCalls = some s ∧
      (State.importedHeaders s₁ testCalls).filter
          (fun header ↦ (testConfig.findScheduledChange header).isSome) = [⟨10, 9⟩] ∧
      s.currentAuthoritySet.setId ≠ testInitData.setId + 1 :=
  ⟨_, _, rfl, rfl, by decide, by decide⟩

end Run

end Grandpa
