import SoloParaBridge.HeaderChain.Strict

/-!
# The ancestry chain across calls

`verify_justification` calls `AncestryChain::ancestry` for each precommit it looks at, and hands
the route of each vote it counts to `mark_route_as_visited`; a later call stops early at a header
such a route went through.  This file follows the chain along any such sequence of calls
(`VisitStep`, from `AncestryChain::new`), and shows two things of every call on the way.

* **It terminates** when the parent links of `votes_ancestries` have no cycle
  (`ancestry_ne_none`).  The walk reads nothing it changes, so it could only run forever by
  coming back to a header of its own route, and a route is a path of parent links.  The fuel of
  `ancestryLoop`, one more than the unvisited headers, is never short, since every step puts one
  more unvisited header on the route.
* **Its route is sound**: the precommit's target reaches the justified header by parent links of
  `votes_ancestries`, through every header of the route.  The early return at a visited header is
  sound because of an invariant kept across calls, `VisitInv`: every visited header reaches the
  justified header, since it was on the route of an earlier call that did.

The verification loop of any `JustificationVerifier` makes such a sequence of calls
(`processPrecommits_reflTransGen`), so on a justification without cycles it terminates
(`verifyJustification_ne_none`).
-/

set_option autoImplicit false

namespace HeaderChain

namespace AncestryChain

open Relation

variable {Hash : Type} [DecidableEq Hash]

/-- A parent link of the chain. -/
def Link (chain : AncestryChain Hash) (hash parent : Hash) : Prop :=
  chain.parents hash = some parent

/-- One call whose route is marked visited: `ancestry` returns `Some(route)`, and
`mark_route_as_visited(route)` follows. -/
def VisitStep (chain chain' : AncestryChain Hash) : Prop :=
  ∃ hash number route, chain.ancestry hash number = some (some route) ∧
    chain' = chain.markRouteAsVisited route

/-! ## Termination -/

/-- **The walk never runs forever** on links without a cycle: every header on its route reaches
the current one by parent links, so coming back to one of them would close a cycle, and every
step that goes on uses one unit of fuel and one unvisited header. -/
theorem ancestryLoop_ne_none {chain : AncestryChain Hash}
    (hacyclic : ∀ hash, ¬ TransGen chain.Link hash hash) {fuel : ℕ} {currentHash : Hash}
    {route : List Hash} (hfuel : (chain.unvisited \ route.toFinset).card < fuel)
    (hroute : ∀ hash ∈ route, TransGen chain.Link hash currentHash) :
    chain.ancestryLoop fuel currentHash route ≠ none := by
  fun_induction chain.ancestryLoop fuel currentHash route with
  | case1 => exact absurd hfuel (Nat.not_lt_zero _)
  | case2 => exact Option.some_ne_none _
  | case3 => exact Option.some_ne_none _
  | case4 => exact Option.some_ne_none _
  | case5 fuel currentHash route hbase parentHash hparent hvisited hcycle =>
    exact absurd (hroute currentHash hcycle) (hacyclic currentHash)
  | case6 fuel currentHash route hbase parentHash hparent hvisited hcycle ih =>
    refine ih (Nat.lt_of_lt_of_le (card_sdiff_append_lt (not_not.mp hvisited) hcycle)
      (Nat.le_of_lt_succ hfuel)) fun hash hmem ↦ ?_
    rcases List.mem_append.mp hmem with hroute' | hcurrent
    · exact (hroute hash hroute').tail hparent
    · rw [List.mem_singleton.mp hcurrent]
      exact TransGen.single hparent

/-- `ancestry` returns on a chain whose links have no cycle. -/
theorem ancestry_ne_none {chain : AncestryChain Hash}
    (hacyclic : ∀ hash, ¬ TransGen chain.Link hash hash) (hash : Hash) (number : ℕ) :
    chain.ancestry hash number ≠ none := by
  unfold ancestry
  split_ifs
  · exact Option.some_ne_none _
  · have hfuel : (chain.unvisited \ ([] : List Hash).toFinset).card < chain.unvisited.card + 1 := by
      rw [List.toFinset_nil, Finset.sdiff_empty]
      exact Nat.lt_succ_self _
    exact ancestryLoop_ne_none hacyclic hfuel fun _ hmem ↦ absurd hmem List.not_mem_nil

/-! ## The chain across calls -/

section Visits

variable {Header AuthorityId Signature : Type} [HeaderT Header Hash]
  (justification : GrandpaJustification Header Hash AuthorityId Signature)

/-- What the calls keep of the chain `AncestryChain::new` built: its base and its links, and that
every visited header reaches the base by parent links of `votes_ancestries`. -/
structure VisitInv (chain : AncestryChain Hash) : Prop where
  base : chain.base = justification.commitTargetId
  parents : chain.parents = (new justification).parents
  visited : ∀ hash parent, chain.parents hash = some parent → hash ∉ chain.unvisited →
    ReflTransGen justification.IsParent hash justification.commit.targetHash

variable {justification}

/-- Every link of the chain is a parent link of `votes_ancestries`. -/
theorem VisitInv.isParent {chain : AncestryChain Hash} (hinv : VisitInv justification chain)
    {hash parent : Hash} (hlink : chain.Link hash parent) : justification.IsParent hash parent :=
  new_parents_eq_some (hinv.parents ▸ hlink)

/-- The invariant holds at the start, where every header with a parent is unvisited. -/
theorem visitInv_new : VisitInv justification (new justification) where
  base := rfl
  parents := rfl
  visited hash _ hparent hunvisited := by
    obtain ⟨header, hmem, hhash, -⟩ := new_parents_eq_some hparent
    exact absurd (mem_new_unvisited.mpr ⟨header, hmem, hhash⟩) hunvisited

/-- The route of a call leads from the precommit's target to the base, through every header of
the route. -/
theorem VisitInv.ancestry_reaches {chain : AncestryChain Hash} (hinv : VisitInv justification chain)
    {hash : Hash} {number : ℕ} {route : List Hash}
    (h : chain.ancestry hash number = some (some route)) :
    ReflTransGen justification.IsParent hash justification.commit.targetHash ∧
      ∀ hash' ∈ route, ReflTransGen justification.IsParent hash hash' ∧
        ReflTransGen justification.IsParent hash' justification.commit.targetHash := by
  have hbase : chain.base.hash = justification.commit.targetHash := by
    rw [hinv.base]
    rfl
  rw [← hbase]
  exact AncestryChain.ancestry_reaches (fun _ _ hlink ↦ hinv.isParent hlink)
    (fun hash parent hparent hunvisited ↦ hbase ▸ hinv.visited hash parent hparent hunvisited) h

/-- **The step lemma**: marking a returned route visited keeps the invariant, since every header
of the route reaches the base. -/
theorem VisitInv.visitStep {chain chain' : AncestryChain Hash}
    (hinv : VisitInv justification chain) (hstep : VisitStep chain chain') :
    VisitInv justification chain' := by
  obtain ⟨hash, number, route, hroute, rfl⟩ := hstep
  refine ⟨hinv.base, hinv.parents, fun hash' parent hparent hunvisited ↦ ?_⟩
  rw [markRouteAsVisited_unvisited, Finset.mem_sdiff, not_and_or, not_not] at hunvisited
  rcases hunvisited with hvisited | hmem
  · exact hinv.visited hash' parent hparent hvisited
  · exact ((hinv.ancestry_reaches hroute).2 hash' (List.mem_toFinset.mp hmem)).2

theorem VisitInv.reflTransGen {chain chain' : AncestryChain Hash}
    (hinv : VisitInv justification chain) (hrun : ReflTransGen VisitStep chain chain') :
    VisitInv justification chain' := by
  induction hrun with
  | refl => exact hinv
  | tail _ hstep ih => exact ih.visitStep hstep

/-- Acyclic parent links of `votes_ancestries` leave the chain's links acyclic. -/
theorem VisitInv.acyclic {chain : AncestryChain Hash} (hinv : VisitInv justification chain)
    (hacyclic : ∀ hash, ¬ TransGen justification.IsParent hash hash) (hash : Hash) :
    ¬ TransGen chain.Link hash hash :=
  fun hcycle ↦ hacyclic hash (TransGen.mono (fun _ _ hlink ↦ hinv.isParent hlink) hash hash hcycle)

theorem ancestry_run (hacyclic : ∀ hash, ¬ TransGen justification.IsParent hash hash)
    {chain : AncestryChain Hash} (hchain : ReflTransGen VisitStep (new justification) chain)
    (hash : Hash) (number : ℕ) :
    chain.ancestry hash number ≠ none ∧
      (number < justification.commit.targetNumber → chain.ancestry hash number = some none) ∧
      ∀ route, chain.ancestry hash number = some (some route) →
        ReflTransGen justification.IsParent hash justification.commit.targetHash ∧
          ∀ hash' ∈ route, ReflTransGen justification.IsParent hash hash' ∧
            ReflTransGen justification.IsParent hash' justification.commit.targetHash := by
  have hinv := visitInv_new.reflTransGen hchain
  refine ⟨ancestry_ne_none (hinv.acyclic hacyclic) hash number, fun hlt ↦ ?_,
    fun route hroute ↦ hinv.ancestry_reaches hroute⟩
  have hbase : chain.base.number = justification.commit.targetNumber := by
    rw [hinv.base]
    rfl
  rw [ancestry, if_pos (hbase ▸ hlt)]

end Visits

/-- In the test justification of block `10` with the header `11` above it, the walk from `11`
returns `[11]`; once that route is visited, a second walk from `11` stops at once, and its empty
route is still sound. -/
theorem ancestry_run_optimizedTestJustification :
    (∀ hash, ¬ TransGen optimizedTestJustification.IsParent hash hash) ∧
      (new optimizedTestJustification).ancestry 11 11 = some (some [11]) ∧
      ((new optimizedTestJustification).markRouteAsVisited [11]).ancestry 11 11 = some (some []) ∧
      ReflTransGen optimizedTestJustification.IsParent 11 10 := by
  have hacyclic : ∀ hash, ¬ TransGen optimizedTestJustification.IsParent hash hash := by
    intro hash hcycle
    have hdown : TransGen (· > · : ℕ → ℕ → Prop) hash hash := TransGen.mono (fun a b hlink ↦ by
      simp only [GrandpaJustification.IsParent, optimizedTestJustification, List.mem_singleton,
        exists_eq_left] at hlink
      obtain ⟨rfl, rfl⟩ := hlink
      decide) hash hash hcycle
    rw [transGen_eq_self] at hdown
    exact Nat.lt_irrefl hash hdown
  have hroute : (new optimizedTestJustification).ancestry 11 11 = some (some [11]) := by decide
  have hvisited :
      ((new optimizedTestJustification).markRouteAsVisited [11]).ancestry 11 11 = some (some []) := by
    decide
  obtain ⟨-, -, hreaches⟩ := ancestry_run hacyclic
    (ReflTransGen.single ⟨11, 11, [11], hroute, rfl⟩) 11 11
  exact ⟨hacyclic, hroute, hvisited, (hreaches [] hvisited).1⟩

end AncestryChain

/-! ## The verification loop makes such calls -/

namespace JustificationVerifier

open Relation AncestryChain

variable {σ Hash AuthorityId Signature : Type} [DecidableEq Hash]
  (V : JustificationVerifier σ Hash AuthorityId Signature)
  (checkSignature : Precommit Hash → AuthorityId → Signature → ℕ → ℕ → Bool)
  {round authoritiesSetId : ℕ} {authoritiesSet : VoterSet AuthorityId}

/-- **What one precommit does to the chain**: the iteration runs forever only where `ancestry`
does, and an iteration that goes on keeps the chain, or marks visited the route `ancestry`
returned for the precommit's target. -/
theorem processPrecommit_chain (st : LoopState σ Hash) (precommitIdx : ℕ)
    (signed : SignedPrecommit Hash AuthorityId Signature) :
    (V.processPrecommit checkSignature round authoritiesSetId authoritiesSet st precommitIdx
        signed = none ∧
      st.chain.ancestry signed.precommit.targetHash signed.precommit.targetNumber = none) ∨
    (∃ e, V.processPrecommit checkSignature round authoritiesSetId authoritiesSet st precommitIdx
        signed = some (.error e)) ∨
    ∃ st', V.processPrecommit checkSignature round authoritiesSetId authoritiesSet st precommitIdx
        signed = some (.ok st') ∧
      (st'.chain = st.chain ∨ ∃ route,
        st.chain.ancestry signed.precommit.targetHash signed.precommit.targetNumber =
          some (some route) ∧ st'.chain = st.chain.markRouteAsVisited route) := by
  unfold processPrecommit
  -- one goal per branch of the iteration; only the counting branch touches the chain
  repeat' split
  all_goals first
    | exact .inr (.inl ⟨_, rfl⟩)
    | exact .inr (.inr ⟨_, rfl, .inl rfl⟩)
    | exact .inr (.inr ⟨_, rfl, .inr ⟨_, by assumption, rfl⟩⟩)
    | exact .inl ⟨rfl, by assumption⟩

/-- The loop's chain moves by calls whose routes are marked visited. -/
theorem processPrecommits_reflTransGen :
    ∀ {st st' : LoopState σ Hash} {precommitIdx : ℕ}
      {precommits : List (SignedPrecommit Hash AuthorityId Signature)},
      V.processPrecommits checkSignature round authoritiesSetId authoritiesSet st precommitIdx
          precommits = some (.ok st') →
        ReflTransGen VisitStep st.chain st'.chain
  | _, _, _, [], h => by
    cases h
    exact ReflTransGen.refl
  | st, _, precommitIdx, signed :: _, h => by
    obtain ⟨st₁, hfirst, hrest⟩ := V.processPrecommits_cons_eq_ok checkSignature h
    refine ReflTransGen.trans ?_ (processPrecommits_reflTransGen hrest)
    rcases V.processPrecommit_chain checkSignature st precommitIdx signed with
      ⟨hnone, -⟩ | ⟨e, herror⟩ | ⟨st₂, hok, hchain⟩
    · rw [hfirst] at hnone
      cases hnone
    · rw [hfirst] at herror
      cases herror
    · rw [hfirst] at hok
      cases hok
      rcases hchain with hsame | ⟨route, hroute, hmarked⟩
      · rw [hsame]
      · exact ReflTransGen.single ⟨_, _, route, hroute, hmarked⟩

/-- On a chain reached by such calls from the justification's own, and links without a cycle,
the loop never runs forever. -/
theorem processPrecommits_ne_none {Header : Type} [HeaderT Header Hash]
    {justification : GrandpaJustification Header Hash AuthorityId Signature}
    (hacyclic : ∀ hash, ¬ TransGen justification.IsParent hash hash) :
    ∀ {st : LoopState σ Hash} {precommitIdx : ℕ}
      {precommits : List (SignedPrecommit Hash AuthorityId Signature)},
      ReflTransGen VisitStep (new justification) st.chain →
        V.processPrecommits checkSignature round authoritiesSetId authoritiesSet st precommitIdx
          precommits ≠ none
  | _, _, [], _ => Option.some_ne_none _
  | st, precommitIdx, signed :: precommits, hchain => by
    have hinv := visitInv_new.reflTransGen hchain
    rw [processPrecommits_cons]
    rcases V.processPrecommit_chain checkSignature st precommitIdx signed with
      ⟨-, hnone⟩ | ⟨e, herror⟩ | ⟨st₁, hok, hchain₁⟩
    · exact absurd hnone (ancestry_ne_none (hinv.acyclic hacyclic) _ _)
    · rw [herror]
      exact Option.some_ne_none _
    · rw [hok]
      refine processPrecommits_ne_none hacyclic (hchain.trans ?_)
      rcases hchain₁ with hsame | ⟨route, hroute, hmarked⟩
      · rw [hsame]
      · exact ReflTransGen.single ⟨_, _, route, hroute, hmarked⟩

/-- **`verify_justification` terminates** on a justification whose `votes_ancestries` links have
no cycle, whatever the callbacks. -/
theorem verifyJustification_ne_none {Header : Type} [HeaderT Header Hash]
    {justification : GrandpaJustification Header Hash AuthorityId Signature}
    (hacyclic : ∀ hash, ¬ TransGen justification.IsParent hash hash) (finalizedTarget : Hash × ℕ)
    (verifier : σ) :
    V.verifyJustification checkSignature finalizedTarget authoritiesSetId authoritiesSet
      justification verifier ≠ none := by
  unfold verifyJustification
  split_ifs
  · exact Option.some_ne_none _
  · have hloop : V.processPrecommits checkSignature justification.round authoritiesSetId
        authoritiesSet ⟨verifier, new justification, 0⟩ 0 justification.commit.precommits ≠ none :=
      V.processPrecommits_ne_none checkSignature hacyclic ReflTransGen.refl
    split
    · contradiction
    · exact Option.some_ne_none _
    · split_ifs <;> exact Option.some_ne_none _

/-- The only link of the test justification goes from `11` down to `10`. -/
theorem optimizedTestJustification_acyclic :
    ∀ hash, ¬ TransGen optimizedTestJustification.IsParent hash hash := by
  intro hash hcycle
  have hdown : TransGen (· > · : ℕ → ℕ → Prop) hash hash := TransGen.mono (fun a b hlink ↦ by
    simp only [GrandpaJustification.IsParent, optimizedTestJustification, List.mem_singleton,
      exists_eq_left] at hlink
    obtain ⟨rfl, rfl⟩ := hlink
    decide) hash hash hcycle
  rw [transGen_eq_self] at hdown
  exact Nat.lt_irrefl hash hdown

/-- The strict verifier terminates on the test justification. -/
theorem verifyJustification_ne_none_optimizedTestJustification :
    (strictVerifier : JustificationVerifier (Finset ℕ) ℕ ℕ Unit).verifyJustification
      (fun _ _ _ _ _ ↦ true) (10, 10) 0 testVoters optimizedTestJustification ∅ ≠ none :=
  strictVerifier.verifyJustification_ne_none (fun _ _ _ _ _ ↦ true) optimizedTestJustification_acyclic
    (10, 10) ∅

end JustificationVerifier

end HeaderChain
