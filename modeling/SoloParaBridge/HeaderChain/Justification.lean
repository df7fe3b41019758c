import SoloParaBridge.Lib.Unsigned
import Mathlib.Data.Finset.Card
import Mathlib.Data.Finset.Insert

/-!
# GRANDPA justifications and the loop that verifies them

`bp_header_chain::justification::verification`.  A justification of a header holds the precommits
of one round, and `votes_ancestries`, the headers that link each precommit's target back to the
justified header.  `JustificationVerifier::verify_justification` walks the precommits once and
hands every vote it does not count to a callback of the implementer: the strict verifier rejects
the justification there, the optimizer notes the vote to remove it later.  The loop is modelled
once, for any `JustificationVerifier`, over the callbacks' own state `σ`.

`AncestryChain::ancestry` follows the parents of a precommit's target until the justified header,
and stops early at a header an earlier counted vote already walked through.  Its loop reads
nothing that it changes, so it runs forever exactly when it comes back to a header of its own
route; `ancestryLoop` returns `none` there, and so does the verification.  Signatures are checked
by an arbitrary `checkSignature`, and `VoterSet` is the part of `finality_grandpa::VoterSet` the
loop reads: each voter's weight, and the threshold.

The main facts here are those every implementer shares: the counting branch of one precommit
(`processPrecommit_valid`), and `ancestryLoop_dropHashes` — a walk that did not touch a set `X` of
unvisited headers finds the same route once the headers of `X` are taken out of the
justification, which is what the optimizer does to the headers no vote needed.
-/

set_option autoImplicit false

namespace HeaderChain

/-- The two methods of `sp_runtime::traits::Header` that the verification reads. -/
class HeaderT (Header : Type) (Hash : outParam Type) where
  hash : Header → Hash
  parentHash : Header → Hash

/-- `HeaderId`: a header's hash and number. -/
structure HeaderId (Hash : Type) where
  hash : Hash
  number : ℕ
  deriving DecidableEq, Repr

/-- `finality_grandpa::Precommit`: a vote for a block. -/
structure Precommit (Hash : Type) where
  targetHash : Hash
  targetNumber : ℕ
  deriving DecidableEq, Repr

/-- `finality_grandpa::SignedPrecommit`. -/
structure SignedPrecommit (Hash AuthorityId Signature : Type) where
  precommit : Precommit Hash
  signature : Signature
  id : AuthorityId
  deriving DecidableEq, Repr

/-- `finality_grandpa::Commit`. -/
structure Commit (Hash AuthorityId Signature : Type) where
  targetHash : Hash
  targetNumber : ℕ
  precommits : List (SignedPrecommit Hash AuthorityId Signature)
  deriving DecidableEq, Repr

/-- `GrandpaJustification`. -/
structure GrandpaJustification (Header Hash AuthorityId Signature : Type) where
  round : ℕ
  commit : Commit Hash AuthorityId Signature
  votesAncestries : List Header
  deriving DecidableEq, Repr

/-- `commit_target_id`. -/
def GrandpaJustification.commitTargetId {Header Hash AuthorityId Signature : Type}
    (justification : GrandpaJustification Header Hash AuthorityId Signature) : HeaderId Hash :=
  ⟨justification.commit.targetHash, justification.commit.targetNumber⟩

/-- `parent` is the parent hash of a header of `votes_ancestries` whose hash is `hash`: the links
along which a precommit's target descends from the commit target. -/
def GrandpaJustification.IsParent {Header Hash AuthorityId Signature : Type} [HeaderT Header Hash]
    (justification : GrandpaJustification Header Hash AuthorityId Signature) (hash parent : Hash) :
    Prop :=
  ∃ header ∈ justification.votesAncestries,
    HeaderT.hash header = hash ∧ HeaderT.parentHash header = parent

/-- What the verification reads of `finality_grandpa::VoterSet`: the weight of each voter, if it
is one, and `threshold()`. -/
structure VoterSet (AuthorityId : Type) where
  get : AuthorityId → Option ℕ
  threshold : ℕ

/-- `PrecommitError`. -/
inductive PrecommitError where
  | redundantAuthorityVote
  | unknownAuthorityVote
  | duplicateAuthorityVote
  | invalidAuthoritySignature
  | unrelatedAncestryVote
  deriving DecidableEq, Repr

/-- `Error`. -/
inductive Error where
  | invalidJustificationTarget
  | precommit (e : PrecommitError)
  | tooLowCumulativeWeight
  | redundantVotesAncestries
  deriving DecidableEq, Repr

/-- `IterationFlow`. -/
inductive IterationFlow where
  | run
  | skip
  deriving DecidableEq, Repr

/-! ## The ancestry of a precommit -/

/-- `AncestryChain`. -/
structure AncestryChain (Hash : Type) where
  base : HeaderId Hash
  parents : Hash → Option Hash
  unvisited : Finset Hash

namespace AncestryChain

variable {Hash : Type} [DecidableEq Hash]

/-- `AncestryChain::new`: every header of `votes_ancestries` is mapped to its parent (a later
header with the same hash replacing an earlier one) and is unvisited. -/
def new {Header AuthorityId Signature : Type} [HeaderT Header Hash]
    (justification : GrandpaJustification Header Hash AuthorityId Signature) : AncestryChain Hash :=
  ⟨justification.commitTargetId,
    justification.votesAncestries.foldl
      (fun parents ancestor ↦
        Function.update parents (HeaderT.hash ancestor) (some (HeaderT.parentHash ancestor)))
      fun _ ↦ none,
    justification.votesAncestries.foldl (fun unvisited ancestor ↦ insert (HeaderT.hash ancestor) unvisited)
      ∅⟩

/-- The loop of `ancestry` at `currentHash`, with the route so far and at most `fuel` more
iterations: `some (some route)` when it returns `Some(route)`, `some none` when it returns `None`,
and `none` when it is back at a hash of its route — it would run forever there, since nothing it
reads changes.  `ancestry` gives it one iteration more than there are unvisited headers, and it
never needs more (`ancestryLoop_add_fuel`). -/
def ancestryLoop (chain : AncestryChain Hash) : ℕ → Hash → List Hash → Option (Option (List Hash))
  | 0, _, _ => none
  | fuel + 1, currentHash, route =>
    if currentHash = chain.base.hash then some (some route)
    else
      match chain.parents currentHash with
      | none => some none
      | some parentHash =>
        -- a header visited by an earlier counted vote descends from the base
        if currentHash ∉ chain.unvisited then some (some route)
        else if currentHash ∈ route then none
        else chain.ancestryLoop fuel parentHash (route ++ [currentHash])

/-- `ancestry`: the route from a precommit's target down to the base, without the base and
without what earlier walks visited. -/
def ancestry (chain : AncestryChain Hash) (precommitTargetHash : Hash)
    (precommitTargetNumber : ℕ) : Option (Option (List Hash)) :=
  if precommitTargetNumber < chain.base.number then some none
  else chain.ancestryLoop (chain.unvisited.card + 1) precommitTargetHash []

/-- `mark_route_as_visited`. -/
def markRouteAsVisited (chain : AncestryChain Hash) (route : List Hash) : AncestryChain Hash :=
  { chain with unvisited := route.foldl (fun unvisited hash ↦ unvisited.erase hash) chain.unvisited }

/-- `is_fully_visited`. -/
def isFullyVisited (chain : AncestryChain Hash) : Bool :=
  decide (chain.unvisited = ∅)

/-- The chain without the headers of `X`: what `AncestryChain::new` builds once they are taken
out of `votes_ancestries`. -/
def dropHashes (X : Finset Hash) (chain : AncestryChain Hash) : AncestryChain Hash :=
  { chain with
    parents := fun hash ↦ if hash ∈ X then none else chain.parents hash
    unvisited := chain.unvisited \ X }

@[simp] theorem dropHashes_base (X : Finset Hash) (chain : AncestryChain Hash) :
    (chain.dropHashes X).base = chain.base :=
  rfl

theorem dropHashes_parents_of_not_mem {X : Finset Hash} {hash : Hash} (h : hash ∉ X)
    (chain : AncestryChain Hash) : (chain.dropHashes X).parents hash = chain.parents hash :=
  if_neg h

@[simp] theorem dropHashes_empty (chain : AncestryChain Hash) : chain.dropHashes ∅ = chain := by
  simp only [dropHashes, Finset.notMem_empty, if_false, Finset.sdiff_empty]

@[simp] theorem markRouteAsVisited_base (chain : AncestryChain Hash) (route : List Hash) :
    (chain.markRouteAsVisited route).base = chain.base :=
  rfl

@[simp] theorem markRouteAsVisited_parents (chain : AncestryChain Hash) (route : List Hash) :
    (chain.markRouteAsVisited route).parents = chain.parents :=
  rfl

theorem markRouteAsVisited_unvisited (chain : AncestryChain Hash) (route : List Hash) :
    (chain.markRouteAsVisited route).unvisited = chain.unvisited \ route.toFinset := by
  induction route generalizing chain with
  | nil => simp [markRouteAsVisited]
  | cons hash route ih =>
    have h := ih { chain with unvisited := chain.unvisited.erase hash }
    simp only [markRouteAsVisited, List.foldl_cons] at h ⊢
    rw [h, List.toFinset_cons, Finset.sdiff_insert, Finset.erase_sdiff_comm]

theorem markRouteAsVisited_dropHashes (X : Finset Hash) (chain : AncestryChain Hash)
    (route : List Hash) :
    (chain.dropHashes X).markRouteAsVisited route = (chain.markRouteAsVisited route).dropHashes X := by
  have hunvisited : ((chain.dropHashes X).markRouteAsVisited route).unvisited =
      ((chain.markRouteAsVisited route).dropHashes X).unvisited := by
    rw [markRouteAsVisited_unvisited, dropHashes, dropHashes, markRouteAsVisited_unvisited]
    exact sdiff_sdiff_comm
  cases chain
  exact congrArg (AncestryChain.mk _ _) hunvisited

/-- Each iteration that goes on puts one more unvisited header on the route. -/
theorem card_sdiff_append_lt {unvisited : Finset Hash} {route : List Hash} {hash : Hash}
    (hunvisited : hash ∈ unvisited) (hroute : hash ∉ route) :
    (unvisited \ (route ++ [hash]).toFinset).card < (unvisited \ route.toFinset).card := by
  rw [List.toFinset_append, List.toFinset_cons, List.toFinset_nil, insert_empty_eq,
    Finset.union_singleton, Finset.sdiff_insert]
  exact Finset.card_erase_lt_of_mem
    (Finset.mem_sdiff.mpr ⟨hunvisited, by simpa using hroute⟩)

/-- **The loop never runs out of fuel** once it has more than the unvisited headers off its
route: more fuel changes nothing. -/
theorem ancestryLoop_add_fuel (chain : AncestryChain Hash) (k : ℕ) {fuel : ℕ} {currentHash : Hash}
    {route : List Hash} (hfuel : (chain.unvisited \ route.toFinset).card < fuel) :
    chain.ancestryLoop (fuel + k) currentHash route = chain.ancestryLoop fuel currentHash route := by
  fun_induction chain.ancestryLoop fuel currentHash route with
  | case1 => exact absurd hfuel (Nat.not_lt_zero _)
  | case2 fuel route => rw [Nat.succ_add, ancestryLoop, if_pos rfl]
  | case3 fuel currentHash route hbase hparent =>
    rw [Nat.succ_add, ancestryLoop, if_neg hbase, hparent]
  | case4 fuel currentHash route hbase parentHash hparent hvisited =>
    rw [Nat.succ_add, ancestryLoop, if_neg hbase, hparent]
    dsimp only
    rw [if_pos hvisited]
  | case5 fuel currentHash route hbase parentHash hparent hvisited hcycle =>
    rw [Nat.succ_add, ancestryLoop, if_neg hbase, hparent]
    dsimp only
    rw [if_neg hvisited, if_pos hcycle]
  | case6 fuel currentHash route hbase parentHash hparent hvisited hcycle ih =>
    rw [Nat.succ_add, ancestryLoop, if_neg hbase, hparent]
    dsimp only
    rw [if_neg hvisited, if_neg hcycle]
    exact ih (Nat.lt_of_lt_of_le (card_sdiff_append_lt (not_not.mp hvisited) hcycle)
      (Nat.le_of_lt_succ hfuel))

/-- The route a walk returns extends the route it started with. -/
theorem ancestryLoop_extends {chain : AncestryChain Hash} {fuel : ℕ} {currentHash : Hash}
    {route result : List Hash}
    (h : chain.ancestryLoop fuel currentHash route = some (some result)) : route <+: result := by
  fun_induction chain.ancestryLoop fuel currentHash route with
  | case1 => cases h
  | case2 => cases h; exact List.prefix_refl _
  | case3 => cases h
  | case4 => cases h; exact List.prefix_refl _
  | case5 => cases h
  | case6 fuel currentHash route _ _ _ _ _ ih =>
    exact (List.prefix_append route [currentHash]).trans (ih h)

/-- **A walk that did not touch `X` finds the same route without it.**  Every header the walk
passes through is unvisited and is on its route, so it is not in `X`; the header it stops at is
visited, hence not in `X` either, which lies among the unvisited ones. -/
theorem ancestryLoop_dropHashes {chain : AncestryChain Hash} {X : Finset Hash}
    (hX : X ⊆ chain.unvisited) {fuel : ℕ} {currentHash : Hash} {route result : List Hash}
    (h : chain.ancestryLoop fuel currentHash route = some (some result))
    (hresult : ∀ hash ∈ result, hash ∉ X) :
    (chain.dropHashes X).ancestryLoop fuel currentHash route = some (some result) := by
  fun_induction chain.ancestryLoop fuel currentHash route with
  | case1 => cases h
  | case2 =>
    rw [ancestryLoop, dropHashes_base, if_pos rfl]
    exact h
  | case3 => cases h
  | case4 fuel currentHash route hbase parentHash hparent hvisited =>
    have hX' : currentHash ∉ X := fun hmem ↦ hvisited (hX hmem)
    have hvisited' : currentHash ∉ (chain.dropHashes X).unvisited := fun hmem ↦
      hvisited (Finset.mem_sdiff.mp hmem).1
    rw [ancestryLoop, dropHashes_base, if_neg hbase, dropHashes_parents_of_not_mem hX', hparent]
    dsimp only
    rw [if_pos hvisited']
    exact h
  | case5 => cases h
  | case6 fuel currentHash route hbase parentHash hparent hvisited hcycle ih =>
    have hX' : currentHash ∉ X := hresult currentHash
      ((ancestryLoop_extends h).subset (List.mem_append_right route List.mem_cons_self))
    have hunvisited : currentHash ∈ (chain.dropHashes X).unvisited :=
      Finset.mem_sdiff.mpr ⟨not_not.mp hvisited, hX'⟩
    rw [ancestryLoop, dropHashes_base, if_neg hbase, dropHashes_parents_of_not_mem hX', hparent]
    dsimp only
    rw [if_neg (not_not.mpr hunvisited), if_neg hcycle]
    exact ih h

/-- `ancestry` without the headers of `X` finds the route it found with them, if the route
avoids `X`.  The dropped chain gives its loop less fuel, which is still enough. -/
theorem ancestry_dropHashes {chain : AncestryChain Hash} {X : Finset Hash}
    (hX : X ⊆ chain.unvisited) {hash : Hash} {number : ℕ} {route : List Hash}
    (h : chain.ancestry hash number = some (some route)) (hroute : ∀ hash ∈ route, hash ∉ X) :
    (chain.dropHashes X).ancestry hash number = some (some route) := by
  unfold ancestry at h ⊢
  split_ifs at h with hnumber
  · cases h
  · have hcard : (chain.dropHashes X).unvisited.card ≤ chain.unvisited.card :=
      Finset.card_le_card Finset.sdiff_subset
    have hfuel : ((chain.dropHashes X).unvisited \ ([] : List Hash).toFinset).card <
        (chain.dropHashes X).unvisited.card + 1 := by
      rw [List.toFinset_nil, Finset.sdiff_empty]
      exact Nat.lt_succ_self _
    rw [dropHashes_base, if_neg hnumber,
      ← ancestryLoop_add_fuel _ (chain.unvisited.card - (chain.dropHashes X).unvisited.card) hfuel,
      show (chain.dropHashes X).unvisited.card + 1 +
          (chain.unvisited.card - (chain.dropHashes X).unvisited.card) =
        chain.unvisited.card + 1 by omega]
    exact ancestryLoop_dropHashes hX h hroute

section Reaches

open Relation

variable {r : Hash → Hash → Prop}

/-- **A route leads to the base.**  If `r` holds along every parent link of the chain and every
visited header reaches the base by `r`, a walk that returns a route reaches the base, and so does
every header it put on the route, which the walk's start reaches in turn. -/
theorem ancestryLoop_reaches {chain : AncestryChain Hash}
    (hlinks : ∀ hash parent, chain.parents hash = some parent → r hash parent)
    (hvisited : ∀ hash parent, chain.parents hash = some parent → hash ∉ chain.unvisited →
      ReflTransGen r hash chain.base.hash)
    {fuel : ℕ} {currentHash : Hash} {route result : List Hash}
    (h : chain.ancestryLoop fuel currentHash route = some (some result)) :
    ReflTransGen r currentHash chain.base.hash ∧
      ∀ hash ∈ result, hash ∉ route →
        ReflTransGen r currentHash hash ∧ ReflTransGen r hash chain.base.hash := by
  fun_induction chain.ancestryLoop fuel currentHash route with
  | case1 => cases h
  | case2 fuel route =>
    cases h
    exact ⟨ReflTransGen.refl, fun hash hmem hnot ↦ absurd hmem hnot⟩
  | case3 => cases h
  | case4 fuel currentHash route hbase parentHash hparent hunvisited =>
    cases h
    exact ⟨hvisited currentHash parentHash hparent hunvisited,
      fun hash hmem hnot ↦ absurd hmem hnot⟩
  | case5 => cases h
  | case6 fuel currentHash route hbase parentHash hparent hunvisited hcycle ih =>
    obtain ⟨hreaches, hroute⟩ := ih h
    have hlink : r currentHash parentHash := hlinks currentHash parentHash hparent
    refine ⟨ReflTransGen.head hlink hreaches, fun hash hmem hnot ↦ ?_⟩
    by_cases hcurrent : hash = currentHash
    · subst hcurrent
      exact ⟨ReflTransGen.refl, ReflTransGen.head hlink hreaches⟩
    · obtain ⟨hfrom, hto⟩ := hroute hash hmem (by simp [hnot, hcurrent])
      exact ⟨ReflTransGen.head hlink hfrom, hto⟩

/-- `ancestry`'s route leads from the precommit's target to the base. -/
theorem ancestry_reaches {chain : AncestryChain Hash}
    (hlinks : ∀ hash parent, chain.parents hash = some parent → r hash parent)
    (hvisited : ∀ hash parent, chain.parents hash = some parent → hash ∉ chain.unvisited →
      ReflTransGen r hash chain.base.hash)
    {hash : Hash} {number : ℕ} {route : List Hash}
    (h : chain.ancestry hash number = some (some route)) :
    ReflTransGen r hash chain.base.hash ∧
      ∀ hash' ∈ route, ReflTransGen r hash hash' ∧ ReflTransGen r hash' chain.base.hash := by
  rw [ancestry] at h
  split_ifs at h
  · cases h
  · obtain ⟨hreaches, hroute⟩ := ancestryLoop_reaches hlinks hvisited h
    exact ⟨hreaches, fun hash' hmem ↦ hroute hash' hmem List.not_mem_nil⟩

end Reaches

section Filter

variable {Header AuthorityId Signature : Type} [HeaderT Header Hash]

/-- Building the parent map from the headers outside `X` and hiding `X` is building it from all
the headers and hiding `X`: the entry of a dropped header is hidden anyway. -/
theorem foldl_parents_filter (X : Finset Hash) :
    ∀ (headers : List Header) (parents : Hash → Option Hash),
      (headers.filter fun header ↦ HeaderT.hash header ∉ X).foldl
          (fun parents ancestor ↦
            Function.update parents (HeaderT.hash ancestor) (some (HeaderT.parentHash ancestor)))
          (fun hash ↦ if hash ∈ X then none else parents hash) =
        fun hash ↦ if hash ∈ X then none else
          headers.foldl (fun parents ancestor ↦
            Function.update parents (HeaderT.hash ancestor) (some (HeaderT.parentHash ancestor)))
            parents hash
  | [], _ => rfl
  | header :: headers, parents => by
    by_cases hX : HeaderT.hash header ∈ X
    · rw [List.filter_cons_of_neg (by simpa using hX), List.foldl_cons,
        ← foldl_parents_filter X headers]
      congr 1
      funext hash
      by_cases hhash : hash ∈ X
      · rw [if_pos hhash, if_pos hhash]
      · have hne : hash ≠ HeaderT.hash header := fun h ↦ hhash (h ▸ hX)
        rw [if_neg hhash, if_neg hhash, Function.update_of_ne hne]
    · rw [List.filter_cons_of_pos (by simpa using hX), List.foldl_cons, List.foldl_cons,
        ← foldl_parents_filter X headers]
      congr 1
      funext hash
      by_cases hhash : hash = HeaderT.hash header
      · subst hhash
        rw [Function.update_self, if_neg hX, Function.update_self]
      · rw [Function.update_of_ne hhash, Function.update_of_ne hhash]

theorem foldl_unvisited_filter (X : Finset Hash) :
    ∀ (headers : List Header) (unvisited : Finset Hash),
      (headers.filter fun header ↦ HeaderT.hash header ∉ X).foldl
          (fun unvisited ancestor ↦ insert (HeaderT.hash ancestor) unvisited) (unvisited \ X) =
        headers.foldl (fun unvisited ancestor ↦ insert (HeaderT.hash ancestor) unvisited)
          unvisited \ X
  | [], _ => rfl
  | header :: headers, unvisited => by
    by_cases hX : HeaderT.hash header ∈ X
    · rw [List.filter_cons_of_neg (by simpa using hX), List.foldl_cons,
        ← foldl_unvisited_filter X headers, Finset.insert_sdiff_of_mem _ hX]
    · rw [List.filter_cons_of_pos (by simpa using hX), List.foldl_cons, List.foldl_cons,
        ← foldl_unvisited_filter X headers, Finset.insert_sdiff_of_notMem _ hX]

/-- Taking the headers of `X` out of `votes_ancestries` takes them out of the chain. -/
theorem new_filter (X : Finset Hash)
    (justification : GrandpaJustification Header Hash AuthorityId Signature) :
    new { justification with
        votesAncestries := justification.votesAncestries.filter fun header ↦ HeaderT.hash header ∉ X } =
      (new justification).dropHashes X := by
  have hparents := foldl_parents_filter X justification.votesAncestries fun _ ↦ none
  have hunvisited := foldl_unvisited_filter X justification.votesAncestries ∅
  simp only [ite_self, Finset.empty_sdiff] at hparents hunvisited
  rw [new, new, dropHashes, hparents, hunvisited]
  rfl

end Filter

section Headers

variable {Header AuthorityId Signature : Type} [HeaderT Header Hash]

theorem foldl_parents_eq_some :
    ∀ (headers : List Header) (parents : Hash → Option Hash) {hash parent : Hash},
      headers.foldl
          (fun parents ancestor ↦
            Function.update parents (HeaderT.hash ancestor) (some (HeaderT.parentHash ancestor)))
          parents hash = some parent →
        parents hash = some parent ∨
          ∃ header ∈ headers, HeaderT.hash header = hash ∧ HeaderT.parentHash header = parent
  | [], _, _, _, h => .inl h
  | header :: headers, parents, hash, parent, h => by
    rw [List.foldl_cons] at h
    rcases foldl_parents_eq_some headers _ h with h | ⟨header', hmem, hheader⟩
    · by_cases hhash : hash = HeaderT.hash header
      · subst hhash
        rw [Function.update_self, Option.some.injEq] at h
        exact .inr ⟨header, List.mem_cons_self, rfl, h⟩
      · rw [Function.update_of_ne hhash] at h
        exact .inl h
    · exact .inr ⟨header', List.mem_cons_of_mem header hmem, hheader⟩

/-- Every parent link of the chain is one of a header of `votes_ancestries`. -/
theorem new_parents_eq_some {justification : GrandpaJustification Header Hash AuthorityId Signature}
    {hash parent : Hash} (h : (new justification).parents hash = some parent) :
    justification.IsParent hash parent :=
  (foldl_parents_eq_some justification.votesAncestries _ h).resolve_left nofun

theorem mem_foldl_unvisited :
    ∀ (headers : List Header) (unvisited : Finset Hash) (hash : Hash),
      hash ∈ headers.foldl (fun unvisited ancestor ↦ insert (HeaderT.hash ancestor) unvisited)
          unvisited ↔
        hash ∈ unvisited ∨ ∃ header ∈ headers, HeaderT.hash header = hash
  | [], _, _ => by simp
  | header :: headers, unvisited, hash => by
    rw [List.foldl_cons, mem_foldl_unvisited headers, Finset.mem_insert]
    simp only [List.mem_cons, exists_eq_or_imp]
    tauto

/-- The chain starts with every header of `votes_ancestries` unvisited, and nothing else. -/
theorem mem_new_unvisited {justification : GrandpaJustification Header Hash AuthorityId Signature}
    {hash : Hash} :
    hash ∈ (new justification).unvisited ↔
      ∃ header ∈ justification.votesAncestries, HeaderT.hash header = hash := by
  rw [new, mem_foldl_unvisited]
  simp only [Finset.notMem_empty, false_or]

end Headers

end AncestryChain

/-! ## The verification loop -/

/-- The callbacks of `JustificationVerifier`, over their state `σ`. -/
structure JustificationVerifier (σ Hash AuthorityId Signature : Type) where
  processRedundantVote : σ → ℕ → Except PrecommitError (IterationFlow × σ)
  processKnownAuthorityVote :
    σ → ℕ → SignedPrecommit Hash AuthorityId Signature → Except PrecommitError (IterationFlow × σ)
  processUnknownAuthorityVote : σ → ℕ → Except PrecommitError σ
  processUnrelatedAncestryVote : σ → ℕ → Except PrecommitError (IterationFlow × σ)
  processInvalidSignatureVote : σ → ℕ → Except PrecommitError σ
  processValidVote : σ → SignedPrecommit Hash AuthorityId Signature → σ
  processRedundantVotesAncestries : σ → Finset Hash → Except Error σ

/-- The loop's variables: the callbacks' state, the chain, and the weight counted. -/
structure LoopState (σ Hash : Type) where
  verifier : σ
  chain : AncestryChain Hash
  cumulativeWeight : ℕ

namespace JustificationVerifier

variable {σ Hash AuthorityId Signature : Type} [DecidableEq Hash]
variable (V : JustificationVerifier σ Hash AuthorityId Signature)
  (checkSignature : Precommit Hash → AuthorityId → Signature → ℕ → ℕ → Bool)

/-- One iteration of the loop of `verify_justification`, on the precommit numbered
`precommitIdx`: the next state, an error, or `none` when `ancestry` runs forever.  `continue`
keeps the chain and the weight and takes the callbacks' new state. -/
def processPrecommit (round authoritiesSetId : ℕ) (authoritiesSet : VoterSet AuthorityId)
    (st : LoopState σ Hash) (precommitIdx : ℕ) (signed : SignedPrecommit Hash AuthorityId Signature) :
    Option (Except Error (LoopState σ Hash)) :=
  match (if authoritiesSet.threshold ≤ st.cumulativeWeight then
      V.processRedundantVote st.verifier precommitIdx else .ok (.run, st.verifier)) with
  | .error e => some (.error (.precommit e))
  | .ok (.skip, verifier) => some (.ok { st with verifier })
  | .ok (.run, verifier) =>
    match authoritiesSet.get signed.id with
    | none =>
      match V.processUnknownAuthorityVote verifier precommitIdx with
      | .error e => some (.error (.precommit e))
      | .ok verifier => some (.ok { st with verifier })
    | some weight =>
      match V.processKnownAuthorityVote verifier precommitIdx signed with
      | .error e => some (.error (.precommit e))
      | .ok (.skip, verifier) => some (.ok { st with verifier })
      | .ok (.run, verifier) =>
        match st.chain.ancestry signed.precommit.targetHash signed.precommit.targetNumber with
        | none => none
        | some maybeRoute =>
          match (if maybeRoute.isNone then V.processUnrelatedAncestryVote verifier precommitIdx
              else .ok (.run, verifier)) with
          | .error e => some (.error (.precommit e))
          | .ok (.skip, verifier) => some (.ok { st with verifier })
          | .ok (.run, verifier) =>
            if !checkSignature signed.precommit signed.id signed.signature round
                authoritiesSetId then
              match V.processInvalidSignatureVote verifier precommitIdx with
              | .error e => some (.error (.precommit e))
              | .ok verifier => some (.ok { st with verifier })
            else
              let verifier := V.processValidVote verifier signed
              match maybeRoute with
              | some route =>
                some (.ok ⟨verifier, st.chain.markRouteAsVisited route,
                  Unsigned.saturatingAdd 64 st.cumulativeWeight weight⟩)
              | none => some (.ok { st with verifier })

/-- The loop over the precommits numbered from `precommitIdx`. -/
def processPrecommits (round authoritiesSetId : ℕ) (authoritiesSet : VoterSet AuthorityId) :
    LoopState σ Hash → ℕ → List (SignedPrecommit Hash AuthorityId Signature) →
      Option (Except Error (LoopState σ Hash))
  | st, _, [] => some (.ok st)
  | st, precommitIdx, signed :: precommits =>
    match V.processPrecommit checkSignature round authoritiesSetId authoritiesSet st precommitIdx
        signed with
    | some (.ok st) =>
      processPrecommits round authoritiesSetId authoritiesSet st (precommitIdx + 1) precommits
    | result => result

/-- `verify_justification`, from the callbacks' state `verifier`: their state at the end, an
error, or `none` when the loop runs forever. -/
def verifyJustification {Header : Type} [HeaderT Header Hash] (finalizedTarget : Hash × ℕ)
    (authoritiesSetId : ℕ) (authoritiesSet : VoterSet AuthorityId)
    (justification : GrandpaJustification Header Hash AuthorityId Signature) (verifier : σ) :
    Option (Except Error σ) :=
  if (justification.commit.targetHash, justification.commit.targetNumber) ≠ finalizedTarget then
    some (.error .invalidJustificationTarget)
  else
    match V.processPrecommits checkSignature justification.round authoritiesSetId authoritiesSet
        ⟨verifier, AncestryChain.new justification, 0⟩ 0 justification.commit.precommits with
    | none => none
    | some (.error e) => some (.error e)
    | some (.ok st) =>
      if st.cumulativeWeight < authoritiesSet.threshold then some (.error .tooLowCumulativeWeight)
      else if !st.chain.isFullyVisited then
        some (V.processRedundantVotesAncestries st.verifier st.chain.unvisited)
      else some (.ok st.verifier)

variable {round authoritiesSetId : ℕ} {authoritiesSet : VoterSet AuthorityId}

/-- **The counting branch.**  Below the threshold, a vote of a known voter that the callbacks let
through, whose target descends from the base and whose signature holds, is counted: the callbacks
see it, its route is visited, and its weight is added. -/
theorem processPrecommit_valid {verifier : σ} {chain : AncestryChain Hash}
    {cumulativeWeight weight precommitIdx : ℕ} {signed : SignedPrecommit Hash AuthorityId Signature}
    {route : List Hash} (hlt : cumulativeWeight < authoritiesSet.threshold)
    (hweight : authoritiesSet.get signed.id = some weight)
    (hknown : V.processKnownAuthorityVote verifier precommitIdx signed = .ok (.run, verifier))
    (hroute : chain.ancestry signed.precommit.targetHash signed.precommit.targetNumber =
      some (some route))
    (hsignature : checkSignature signed.precommit signed.id signed.signature round
      authoritiesSetId = true) :
    V.processPrecommit checkSignature round authoritiesSetId authoritiesSet
        ⟨verifier, chain, cumulativeWeight⟩ precommitIdx signed =
      some (.ok ⟨V.processValidVote verifier signed, chain.markRouteAsVisited route,
        Unsigned.saturatingAdd 64 cumulativeWeight weight⟩) := by
  simp only [processPrecommit, if_neg (Nat.not_le.mpr hlt), hweight, hknown, hroute,
    Option.isNone_some, Bool.false_eq_true, if_false, hsignature, Bool.not_true]

theorem processPrecommits_cons (st : LoopState σ Hash) (precommitIdx : ℕ)
    (signed : SignedPrecommit Hash AuthorityId Signature)
    (precommits : List (SignedPrecommit Hash AuthorityId Signature)) :
    V.processPrecommits checkSignature round authoritiesSetId authoritiesSet st precommitIdx
        (signed :: precommits) =
      match V.processPrecommit checkSignature round authoritiesSetId authoritiesSet st precommitIdx
          signed with
      | some (.ok st) =>
        V.processPrecommits checkSignature round authoritiesSetId authoritiesSet st
          (precommitIdx + 1) precommits
      | result => result :=
  rfl

/-- A loop that ends well went well at its first precommit. -/
theorem processPrecommits_cons_eq_ok {st st' : LoopState σ Hash} {precommitIdx : ℕ}
    {signed : SignedPrecommit Hash AuthorityId Signature}
    {precommits : List (SignedPrecommit Hash AuthorityId Signature)}
    (h : V.processPrecommits checkSignature round authoritiesSetId authoritiesSet st precommitIdx
      (signed :: precommits) = some (.ok st')) :
    ∃ st₁, V.processPrecommit checkSignature round authoritiesSetId authoritiesSet st precommitIdx
        signed = some (.ok st₁) ∧
      V.processPrecommits checkSignature round authoritiesSetId authoritiesSet st₁
        (precommitIdx + 1) precommits = some (.ok st') := by
  rw [processPrecommits_cons] at h
  split at h
  · exact ⟨_, by assumption, h⟩
  · rename_i hnot
    exact (hnot st' h).elim

/-- **What an accepted justification went through**: it targets the expected header, its loop
ended well with enough weight, and either every header was visited or the callbacks accepted
the unvisited ones. -/
theorem verifyJustification_eq_ok {Header : Type} [HeaderT Header Hash] {finalizedTarget : Hash × ℕ}
    {justification : GrandpaJustification Header Hash AuthorityId Signature} {verifier verifier' : σ}
    (h : V.verifyJustification checkSignature finalizedTarget authoritiesSetId authoritiesSet
      justification verifier = some (.ok verifier')) :
    (justification.commit.targetHash, justification.commit.targetNumber) = finalizedTarget ∧
      ∃ st, V.processPrecommits checkSignature justification.round authoritiesSetId authoritiesSet
          ⟨verifier, AncestryChain.new justification, 0⟩ 0 justification.commit.precommits =
            some (.ok st) ∧
        authoritiesSet.threshold ≤ st.cumulativeWeight ∧
        ((st.chain.unvisited = ∅ ∧ verifier' = st.verifier) ∨
          (st.chain.unvisited ≠ ∅ ∧
            V.processRedundantVotesAncestries st.verifier st.chain.unvisited = .ok verifier')) := by
  unfold verifyJustification at h
  split_ifs at h with htarget
  · cases h
  refine ⟨not_not.mp htarget, ?_⟩
  split at h
  · cases h
  · cases h
  · rename_i st hloop
    refine ⟨st, hloop, ?_⟩
    split_ifs at h with hweight hvisited
    · cases h
    · refine ⟨Nat.le_of_not_lt hweight, .inr ⟨?_, Option.some.inj h⟩⟩
      simpa [AncestryChain.isFullyVisited] using hvisited
    · refine ⟨Nat.le_of_not_lt hweight, .inl ⟨?_, (Except.ok.inj (Option.some.inj h)).symm⟩⟩
      simpa [AncestryChain.isFullyVisited] using hvisited

/-- A justification for the expected header whose loop ends with enough weight and every header
visited is accepted. -/
theorem verifyJustification_of_processPrecommits {Header : Type} [HeaderT Header Hash]
    {finalizedTarget : Hash × ℕ}
    {justification : GrandpaJustification Header Hash AuthorityId Signature} {verifier : σ}
    {st : LoopState σ Hash}
    (htarget : (justification.commit.targetHash, justification.commit.targetNumber) =
      finalizedTarget)
    (hloop : V.processPrecommits checkSignature justification.round authoritiesSetId authoritiesSet
      ⟨verifier, AncestryChain.new justification, 0⟩ 0 justification.commit.precommits =
        some (.ok st))
    (hweight : authoritiesSet.threshold ≤ st.cumulativeWeight) (hvisited : st.chain.unvisited = ∅) :
    V.verifyJustification checkSignature finalizedTarget authoritiesSetId authoritiesSet
      justification verifier = some (.ok st.verifier) := by
  have hfull : st.chain.isFullyVisited = true := decide_eq_true hvisited
  rw [verifyJustification, if_neg (not_not.mpr htarget), hloop]
  simp only [if_neg (Nat.not_lt.mpr hweight), hfull, Bool.not_true, Bool.false_eq_true, if_false]

end JustificationVerifier

end HeaderChain
