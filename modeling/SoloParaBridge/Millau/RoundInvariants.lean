import SoloParaBridge.Millau.Rounds

/-!
# The two invariants of a round

Both are properties of one `RoundView`, proved once for the empty round and once for each case of
`RoundStep`; `Reachable.round` then carries them to the round of every metadata id of every
state a run reaches.

* `ListsAgree`: the accounts of `CommitmentBlockNumbers[m]` are the committers of `Commits[m]`,
  in the same order, each once.  The two lists live in two pallets and are written by different
  code, but every step that writes one writes the other the same way: a commit appends the same
  account to both, a reveal rewrites a commitment without changing who made it, and a settled
  round clears both.  The penalty of a wrong reveal removes the account from each list by its own
  search — but it ends in an error, and the storage layer throws both removals away.
* `RoundInv`: a round with a state has no reveal window, a processed hash is there exactly when
  the round is `Completed`, and a `Completed` or `ManuallyResolved` round has empty lists.  The
  first conjunct is what keeps the lifecycle one-way: `issue_rewards` checks no state, so what
  stops `on_finalize` from settling a settled round again is that its window is gone and no
  commit can bring it back.

The bound `MaxParticipants` on both lists needs no invariant: it is a field of `BoundedVec`.
-/

set_option autoImplicit false

namespace LogicProvider

open Millau Commitments

variable {AccountId Hash Public Ledger : Type} {T : Config AccountId Hash Public Ledger}

/-- The round of a metadata id nobody has written to. -/
def RoundView.empty : RoundView AccountId Hash := ⟨[], [], none, none, none⟩

@[simp] theorem State.round_genesis (blockNumber : ℕ) (ledger : Ledger) (m : MetadataId) :
    (genesis T blockNumber ledger).round m = RoundView.empty := rfl

/-! ## Reachable states, one round at a time -/

section Reachable

variable [LinearOrder Hash] [DecidableEq AccountId]

theorem Reachable.step {s t : State T} (hs : Reachable T s) (h : Step T s t) : Reachable T t := by
  obtain ⟨blockNumber, ledger, hrun⟩ := hs
  exact ⟨blockNumber, ledger, hrun.tail h⟩

theorem Reachable.run {s t : State T} (hs : Reachable T s) (h : Relation.ReflTransGen (Step T) s t) :
    Reachable T t := by
  obtain ⟨blockNumber, ledger, hrun⟩ := hs
  exact ⟨blockNumber, ledger, hrun.trans h⟩

/-- **The invariant rule for one round.**  A property of a round that holds of the empty round
and that every `RoundStep` keeps holds of the round of every metadata id of every reachable
state. -/
theorem Reachable.round {P : RoundView AccountId Hash → Prop} (h₀ : P .empty)
    (hstep : ∀ v w, P v → RoundStep v w → P w) {s : State T} (hs : Reachable T s)
    (m : MetadataId) : P (s.round m) := by
  obtain ⟨blockNumber, ledger, hrun⟩ := hs
  refine invariant_of_reflTransGen (P := fun s : State T ↦ P (s.round m)) hrun ?_ ?_
  · simpa using h₀
  · intro x y hx hxy
    exact hstep _ _ hx (hxy.roundStep m)

end Reachable

/-! ## The two lists agree -/

/-- The accounts of `CommitmentBlockNumbers[m]` are the committers of `Commits[m]`, in the same
order, each once. -/
structure ListsAgree (v : RoundView AccountId Hash) : Prop where
  accounts_eq : v.accounts = v.submitters
  nodup : v.submitters.Nodup

theorem listsAgree_empty : ListsAgree (.empty : RoundView AccountId Hash) := ⟨rfl, .nil⟩

/-- Whether the lists agree depends on the committers and the block list only. -/
theorem ListsAgree.congr {v w : RoundView AccountId Hash} (h : ListsAgree v)
    (hsubmitters : w.submitters = v.submitters)
    (hblocks : w.commitmentBlockNumbers = v.commitmentBlockNumbers) : ListsAgree w := by
  have haccounts : w.accounts = v.accounts := by rw [RoundView.accounts, hblocks]; rfl
  exact ⟨by rw [haccounts, hsubmitters, h.accounts_eq], hsubmitters ▸ h.nodup⟩

theorem ListsAgree.of_nil {w : RoundView AccountId Hash} (hcommits : w.commits = [])
    (hblocks : w.commitmentBlockNumbers = []) : ListsAgree w := by
  refine ⟨?_, ?_⟩ <;> simp [RoundView.accounts, RoundView.submitters, hcommits, hblocks]

/-- Every round step keeps the two lists in step: a commit appends the same account, not yet a
committer, to both. -/
theorem ListsAgree.roundStep {v w : RoundView AccountId Hash} (h : ListsAgree v)
    (hs : RoundStep v w) : ListsAgree w := by
  cases hs with
  | refl => exact h
  | commit who block c _ _ hfresh hc hcommits hblocks _ _ _ =>
    have hsubmitters : w.submitters = v.submitters ++ [who] := by
      simp [RoundView.submitters, hcommits, hc]
    have haccounts : w.accounts = v.accounts ++ [who] := by
      simp [RoundView.accounts, hblocks]
    refine ⟨by rw [haccounts, hsubmitters, h.accounts_eq], ?_⟩
    rw [hsubmitters, List.nodup_append]
    exact ⟨h.nodup, List.nodup_singleton who, fun a ha b hb hab ↦
      hfresh (by rw [List.mem_singleton] at hb; exact hb ▸ hab ▸ ha)⟩
  | reveal hsubmitters hblocks _ _ _ => exact h.congr hsubmitters hblocks
  | resolve _ _ hcommits hblocks _ _ => exact .of_nil hcommits hblocks
  | complete _ _ _ hcommits hblocks _ => exact .of_nil hcommits hblocks
  | dispute _ _ hcommits hblocks _ _ =>
    exact h.congr (by rw [RoundView.submitters, hcommits]; rfl) hblocks

section Reachable

variable [LinearOrder Hash] [DecidableEq AccountId]

theorem Reachable.listsAgree {s : State T} (hs : Reachable T s) (m : MetadataId) :
    ListsAgree (s.round m) :=
  Reachable.round listsAgree_empty (fun _ _ h hstep ↦ h.roundStep hstep) hs m

/-- **The committers of a round, as the two pallets record them.**  In every reachable state the
accounts of `CommitmentBlockNumbers[m]` and the submitters of `Commits[m]` are the same accounts,
neither list names an account twice, and both hold at most `MaxParticipants` entries. -/
theorem commitmentBlockNumbers_accounts_eq_submitters {s : State T} (hs : Reachable T s)
    (m : MetadataId) :
    (∀ a, a ∈ (s.commitmentBlockNumbers m).toList.map Prod.fst ↔
        a ∈ (s.commits m).toList.map Commitment.submitter) ∧
      ((s.commitmentBlockNumbers m).toList.map Prod.fst).Nodup ∧
      ((s.commits m).toList.map Commitment.submitter).Nodup ∧
      (s.commitmentBlockNumbers m).toList.length ≤ T.maxParticipants ∧
      (s.commits m).toList.length ≤ T.maxParticipants := by
  have h := hs.listsAgree m
  have haccounts : (s.commitmentBlockNumbers m).toList.map Prod.fst =
      (s.commits m).toList.map Commitment.submitter := h.accounts_eq
  refine ⟨fun a ↦ by rw [haccounts], haccounts ▸ h.nodup, h.nodup, ?_, ?_⟩
  · exact (s.commitmentBlockNumbers m).length_le
  · exact (s.commits m).length_le

/-- The Millau runtime after its first transaction: account `1` commits to a hash for metadata
id `0`. -/
def committedOnce : State millauConfig :=
  (Call.commitProcessingResultHash .none ([0, 0] ++ List.replicate 39 0 ++ [7]) 1 :
    Call ℕ ℕ ℕ).apply (genesis millauConfig 0 fun _ ↦ 1000000000000)

example : (committedOnce.commitmentBlockNumbers 0).toList = [(1, 0)] ∧
    (committedOnce.commits 0).toList.map Commitment.submitter = [1] := by
  decide

theorem commitmentBlockNumbers_accounts_eq_submitters_committedOnce :
    Reachable millauConfig committedOnce ∧
      ((∀ a, a ∈ (committedOnce.commitmentBlockNumbers 0).toList.map Prod.fst ↔
          a ∈ (committedOnce.commits 0).toList.map Commitment.submitter) ∧
        ((committedOnce.commitmentBlockNumbers 0).toList.map Prod.fst).Nodup ∧
        ((committedOnce.commits 0).toList.map Commitment.submitter).Nodup ∧
        (committedOnce.commitmentBlockNumbers 0).toList.length ≤ millauConfig.maxParticipants ∧
        (committedOnce.commits 0).toList.length ≤ millauConfig.maxParticipants) :=
  have hs : Reachable millauConfig committedOnce := ⟨0, _, .single (.call _ _)⟩
  ⟨hs, commitmentBlockNumbers_accounts_eq_submitters hs 0⟩

end Reachable

/-! ## The lifecycle of a round -/

/-- How `RoundStates[m]` may change in one step: not at all, from no state to `Completed` or
`Disputed`, or from `Disputed` to `ManuallyResolved`. -/
inductive RoundState.Transition : Option RoundState → Option RoundState → Prop
  | stay (r : Option RoundState) : Transition r r
  | complete : Transition none (some .completed)
  | dispute : Transition none (some .disputed)
  | resolve : Transition (some .disputed) (some .manuallyResolved)

/-- A round that has a state keeps one. -/
theorem RoundState.Transition.isSome {r r' : Option RoundState} (h : Transition r r')
    (hr : r.isSome) : r'.isSome := by
  cases h <;> simp_all

/-- `Completed` and `ManuallyResolved` are never left. -/
theorem RoundState.Transition.eq_of_final {r : RoundState} {r' : Option RoundState}
    (h : Transition (some r) r') (hr : r = .completed ∨ r = .manuallyResolved) : r' = some r := by
  cases h with
  | stay => rfl
  | resolve => simp at hr

/-- The invariant of one round. -/
structure RoundInv (v : RoundView AccountId Hash) : Prop where
  /-- A round with a state has no window. -/
  window_none : v.roundState.isSome → v.revealWindow = none
  /-- The winning hash is recorded exactly when the round completed. -/
  processed_iff : v.processedHash.isSome ↔ v.roundState = some .completed
  /-- A round settled with payment has no committers left. -/
  lists_empty : v.roundState = some .completed ∨ v.roundState = some .manuallyResolved →
    v.commits = [] ∧ v.commitmentBlockNumbers = []

theorem roundInv_empty : RoundInv (.empty : RoundView AccountId Hash) :=
  ⟨by simp [RoundView.empty], by simp [RoundView.empty], by simp [RoundView.empty]⟩

/-- A round with a window has no state yet. -/
theorem RoundInv.roundState_eq_none {v : RoundView AccountId Hash} (h : RoundInv v)
    (hwindow : v.revealWindow.isSome) : v.roundState = none := by
  by_contra hstate
  rw [h.window_none (Option.isSome_iff_ne_none.mpr hstate)] at hwindow
  exact absurd hwindow (by simp)

/-- A round with no state has no processed hash. -/
theorem RoundInv.processedHash_eq_none {v : RoundView AccountId Hash} (h : RoundInv v)
    (hstate : v.roundState = none) : v.processedHash = none := by
  rw [← Option.not_isSome_iff_eq_none, h.processed_iff, hstate]
  simp

/-- Every round step keeps the round invariant: a reveal keeps the committers, so an empty list
stays empty, and a round that had a window had no state and no processed hash before. -/
theorem RoundInv.roundStep {v w : RoundView AccountId Hash} (h : RoundInv v)
    (hs : RoundStep v w) : RoundInv w := by
  cases hs with
  | refl => exact h
  | commit _ _ _ _ _ _ _ _ _ _ hstate' hprocessed' =>
    exact ⟨by simp [hstate'], by simp [hstate', hprocessed'], by simp [hstate']⟩
  | reveal hsubmitters hblocks hwindow hstate hprocessed =>
    refine ⟨?_, by rw [hprocessed, hstate]; exact h.processed_iff, ?_⟩
    · rw [hwindow, hstate]
      exact h.window_none
    · intro hfinal
      obtain ⟨hcommits, hblocks'⟩ := h.lists_empty (hstate ▸ hfinal)
      have hnil : w.submitters = [] := by rw [hsubmitters, RoundView.submitters, hcommits]; rfl
      exact ⟨List.map_eq_nil_iff.mp hnil, hblocks.trans hblocks'⟩
  | resolve hstate hstate' hcommits hblocks hwindow hprocessed =>
    have hnone : v.processedHash = none := by
      rw [← Option.not_isSome_iff_eq_none, h.processed_iff, hstate]
      simp
    refine ⟨fun _ ↦ ?_, by simp [hprocessed, hnone, hstate'], fun _ ↦ ⟨hcommits, hblocks⟩⟩
    rw [hwindow]
    exact h.window_none (by simp [hstate])
  | complete _ hstate' hprocessed' hcommits hblocks hwindow' =>
    exact ⟨fun _ ↦ hwindow', by simp [hstate', hprocessed'], fun _ ↦ ⟨hcommits, hblocks⟩⟩
  | dispute hwindow hstate' _ _ hprocessed hwindow' =>
    have hnone : w.processedHash = none :=
      hprocessed.trans (h.processedHash_eq_none (h.roundState_eq_none hwindow))
    exact ⟨fun _ ↦ hwindow', by simp [hstate', hnone], by simp [hstate']⟩

/-- From a round that satisfies the invariant, one step moves `RoundStates[m]` along a
`Transition`. -/
theorem RoundInv.transition {v w : RoundView AccountId Hash} (h : RoundInv v)
    (hs : RoundStep v w) : RoundState.Transition v.roundState w.roundState := by
  cases hs with
  | refl => exact .stay _
  | commit _ _ _ hstate _ _ _ _ _ _ hstate' _ => rw [hstate, hstate']; exact .stay _
  | reveal _ _ _ hstate _ => rw [hstate]; exact .stay _
  | resolve hstate hstate' _ _ _ _ => rw [hstate, hstate']; exact .resolve
  | complete hwindow hstate' _ _ _ _ => rw [h.roundState_eq_none hwindow, hstate']; exact .complete
  | dispute hwindow hstate' _ _ _ _ => rw [h.roundState_eq_none hwindow, hstate']; exact .dispute

section Reachable

variable [LinearOrder Hash] [DecidableEq AccountId]

theorem Reachable.roundInv {s : State T} (hs : Reachable T s) (m : MetadataId) :
    RoundInv (s.round m) :=
  Reachable.round roundInv_empty (fun _ _ h hstep ↦ h.roundStep hstep) hs m

omit [LinearOrder Hash] in
/-- A commit for a round that has a state never succeeds: `do_commit_processing_result_hash`
refuses it with `IllegalState`, whatever the checks before it let through. -/
theorem commitProcessingResultHash_ne_ok_of_isSome {s t : State T} {origin : Origin AccountId}
    {payload : List UInt8} {publicKey : Public} {m : MetadataId} {hash : H256}
    (hdecode : MapToCall.decode payload = some (.logicProviderCall (.commitHash m hash)))
    (hstate : (s.roundStates m).isSome) :
    commitProcessingResultHash s origin payload publicKey ≠ .ok t := by
  intro h
  obtain ⟨who, m', hash', s₁, hdecode', -, -, hdo, -⟩ := commitProcessingResultHash_ok h
  have hm : m' = m := by
    rw [hdecode] at hdecode'
    injection hdecode' with hcall
    injection hcall with hcall
    injection hcall with hm
    exact hm.symm
  subst hm
  rw [(doCommitProcessingResultHash_ok hdo).1] at hstate
  exact absurd hstate (by simp)

/-- Along a run from a reachable state, `RoundStates[m]` moves by `Transition`s only; so every
property of it that the transitions keep holds at the end of the run. -/
theorem Reachable.roundState_run {P : Option RoundState → Prop}
    (hP : ∀ r r', P r → RoundState.Transition r r' → P r') {s t : State T} (hs : Reachable T s)
    (hrun : Relation.ReflTransGen (Step T) s t) (m : MetadataId) (h₀ : P (s.roundStates m)) :
    P (t.roundStates m) := by
  refine (invariant_of_reflTransGen
    (P := fun t : State T ↦ Reachable T t ∧ P (t.roundStates m)) hrun ⟨hs, h₀⟩ ?_).2
  rintro x y ⟨hx, hPx⟩ hxy
  have htrans := (hx.roundInv m).transition (hxy.roundStep m)
  exact ⟨hx.step hxy, hP _ _ hPx htrans⟩

/-- **The lifecycle of a round.**  In every reachable state: a step moves `RoundStates[m]` only
from no state to `Completed` or `Disputed`, or from `Disputed` to `ManuallyResolved`, and a
`Completed` or `ManuallyResolved` round keeps its state for the rest of any run; once the round
has a state it keeps one, its window stays absent and no commit for it succeeds, for the rest of
any run; the processed hash is there exactly when the round is `Completed`; and a `Completed` or
`ManuallyResolved` round has no commitments and no commitment blocks. -/
theorem roundStates_lifecycle {s : State T} (hs : Reachable T s) (m : MetadataId) :
    (∀ t, Step T s t → RoundState.Transition (s.roundStates m) (t.roundStates m)) ∧
      (∀ r, r = .completed ∨ r = .manuallyResolved → s.roundStates m = some r →
        ∀ t, Relation.ReflTransGen (Step T) s t → t.roundStates m = some r) ∧
      ((s.roundStates m).isSome → ∀ t, Relation.ReflTransGen (Step T) s t →
        (t.roundStates m).isSome ∧ t.revealWindow m = none ∧
        ∀ (origin : Origin AccountId) (payload : List UInt8) (publicKey : Public) (hash : H256)
          (t' : State T),
          MapToCall.decode payload = some (.logicProviderCall (.commitHash m hash)) →
          commitProcessingResultHash t origin payload publicKey ≠ .ok t') ∧
      ((s.processedHashes m).isSome ↔ s.roundStates m = some .completed) ∧
      (s.roundStates m = some .completed ∨ s.roundStates m = some .manuallyResolved →
        (s.commits m).toList = [] ∧ (s.commitmentBlockNumbers m).toList = []) := by
  have hinv := hs.roundInv m
  refine ⟨fun t hst ↦ hinv.transition (hst.roundStep m), ?_, ?_, hinv.processed_iff,
    hinv.lists_empty⟩
  · intro r hr hstate t hrun
    refine hs.roundState_run (P := fun r' ↦ r' = some r) ?_ hrun m hstate
    rintro _ r' rfl htrans
    exact htrans.eq_of_final hr
  · intro hstate t hrun
    have hsome : (t.roundStates m).isSome :=
      hs.roundState_run (fun _ _ hr htrans ↦ htrans.isSome hr) hrun m hstate
    have hwindow : t.revealWindow m = none := ((hs.run hrun).roundInv m).window_none hsome
    exact ⟨hsome, hwindow, fun _ _ _ _ _ hdecode ↦
      commitProcessingResultHash_ne_ok_of_isSome hdecode hsome⟩

theorem roundStates_lifecycle_committedOnce :
    Reachable millauConfig committedOnce ∧
      ((∀ t, Step millauConfig committedOnce t →
          RoundState.Transition (committedOnce.roundStates 0) (t.roundStates 0)) ∧
        (∀ r, r = .completed ∨ r = .manuallyResolved → committedOnce.roundStates 0 = some r →
          ∀ t, Relation.ReflTransGen (Step millauConfig) committedOnce t →
            t.roundStates 0 = some r) ∧
        ((committedOnce.roundStates 0).isSome →
          ∀ t, Relation.ReflTransGen (Step millauConfig) committedOnce t →
            (t.roundStates 0).isSome ∧ t.revealWindow 0 = none ∧
            ∀ (origin : Origin ℕ) (payload : List UInt8) (publicKey : ℕ) (hash : H256)
              (t' : State millauConfig),
              MapToCall.decode payload = some (.logicProviderCall (.commitHash 0 hash)) →
              commitProcessingResultHash t origin payload publicKey ≠ .ok t') ∧
        ((committedOnce.processedHashes 0).isSome ↔ committedOnce.roundStates 0 = some .completed) ∧
        (committedOnce.roundStates 0 = some .completed ∨
            committedOnce.roundStates 0 = some .manuallyResolved →
          (committedOnce.commits 0).toList = [] ∧
            (committedOnce.commitmentBlockNumbers 0).toList = [])) :=
  have hs : Reachable millauConfig committedOnce := ⟨0, _, .single (.call _ _)⟩
  ⟨hs, roundStates_lifecycle hs 0⟩

end Reachable

/-! ## A wrong reveal -/

/-- A reveal by account `1`, for metadata id `0`, of the answer `0` with the seed `8`; the
commitment of `committedOnce` was made with the seed `7`. -/
def incorrectReveal : Call ℕ ℕ ℕ :=
  .revealProcessingResultHash .none ([0, 1] ++ List.replicate 32 0 ++ [8] ++ List.replicate 8 0) 1

/-- The reveal of the same answer with the right seed. -/
def correctReveal : Call ℕ ℕ ℕ :=
  .revealProcessingResultHash .none ([0, 1] ++ List.replicate 32 0 ++ [7] ++ List.replicate 8 0) 1

/-- **The penalty of a wrong reveal never takes effect.**  The body of the wrong reveal takes
account `1` out of both lists of the round, and then returns its error; the storage layer
discards the removals with the rest of the call, so the account keeps its commitment, and the
right reveal still goes through afterwards. -/
theorem incorrectReveal_penalty_discarded :
    ((incorrectReveal.body committedOnce).state.commits 0).toList = [] ∧
      ((incorrectReveal.body committedOnce).state.commitmentBlockNumbers 0).toList = [] ∧
      (incorrectReveal.body committedOnce).isOk = false ∧
      incorrectReveal.apply committedOnce = committedOnce ∧
      (committedOnce.commits 0).toList.map Commitment.submitter = [1] ∧
      (correctReveal.body committedOnce).isOk = true := by
  have hfailed : (incorrectReveal.body committedOnce).isOk = false := by decide
  refine ⟨by decide, by decide, hfailed, ?_, by decide, by decide⟩
  rw [Call.apply, Exec.transactional_eq, hfailed]
  exact if_neg Bool.false_ne_true

end LogicProvider
