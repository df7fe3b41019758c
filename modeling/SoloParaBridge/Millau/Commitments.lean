import SoloParaBridge.Lib.Storage
import SoloParaBridge.Millau.Primitives

/-!
# The commit-reveal pallet

`pallet_commitments` keeps, for every commit key, the list of commitments made towards it — a
hash of an answer and a seed — and the first block of the window in which they may be revealed.
It has no dispatchables of its own: the logic-provider pallet calls `commit` and `reveal` and
decides what the window is.

Both functions are `try_mutate`s of one entry of `Commits`, so on an error nothing is written;
here that is the `Except` they return, and the caller writes the new map only on `ok`.  `reveal`
is a loop over the commitments that stops at the *first* one by the revealer, whatever that one
says — a second commitment by the same account is never looked at.

The hash a reveal is checked against, `blake2_256(encode(answer) ++ [seed])` converted into the
pallet's hash type, is a parameter of the configuration: what the pallet relies on is only that it
is a function of the answer and the seed.
-/

set_option autoImplicit false

namespace Commitments

open Millau

/-- The configuration of the pallet: `T: pallet_commitments::Config`. -/
structure Config (Hash : Type) where
  /-- `RevealWindowLength: Get<u8>`: the window is this many blocks after its first one. -/
  revealWindowLength : ℕ
  /-- `MaxParticipants: Get<u32>`, the bound of every `Commits` vector. -/
  maxParticipants : ℕ
  /-- `recreate_commit_hash(answer, seed).into()`. -/
  recreateCommitHash : Hash → UInt8 → Hash

/-- `Commitment`: a commit, the answer that fulfils it once revealed, who made it, and whether the
reveal came inside the reveal window. -/
structure Commitment (Hash AccountId : Type) where
  /-- The commitment hash. -/
  commit : Hash
  /-- The revealed answer. -/
  fulfillment : Option Hash
  /-- The account that committed. -/
  submitter : AccountId
  /-- Whether the answer was revealed inside the reveal window. -/
  inRevealPeriod : Bool
  deriving DecidableEq

/-- `Commitment::new`: a commitment with only its hash. -/
def Commitment.new {Hash AccountId : Type} (commit : Hash) (submitter : AccountId) :
    Commitment Hash AccountId :=
  { commit, fulfillment := none, submitter, inRevealPeriod := false }

/-- `CommitmentError`. -/
inductive CommitmentError where
  | incorrectRevealedHash
  | noCommitmentFound
  | alreadyRevealed
  deriving DecidableEq, Repr

variable {Hash AccountId : Type} (T : Config Hash)

/-- The `Commits` storage map. -/
abbrev Commits (Hash AccountId : Type) (T : Config Hash) :=
  MetadataId → BoundedVec (Commitment Hash AccountId) T.maxParticipants

/-! ## The reveal window -/

/-- `is_in_reveal_window`: the current block lies in `[start, start + RevealWindowLength]`, both
ends included, for a window that has been scheduled. -/
def isInRevealWindow (revealWindow : MetadataId → Option ℕ) (currentBlock : ℕ)
    (commitKey : MetadataId) : Bool :=
  match revealWindow commitKey with
  | some windowStart =>
    decide (windowStart ≤ currentBlock ∧ currentBlock ≤ windowStart + T.revealWindowLength)
  | none => false

/-- `get_reveal_window`: the first and last block of the window. -/
def getRevealWindow (revealWindow : MetadataId → Option ℕ) (commitKey : MetadataId) :
    Option (ℕ × ℕ) :=
  (revealWindow commitKey).map fun start ↦ (start, start + T.revealWindowLength)

theorem isInRevealWindow_none {revealWindow : MetadataId → Option ℕ} {currentBlock : ℕ}
    {commitKey : MetadataId} (h : revealWindow commitKey = none) :
    isInRevealWindow T revealWindow currentBlock commitKey = false := by
  rw [isInRevealWindow, h]

/-! ## Commit -/

/-- `Commit::commit`: append a fresh commitment, or fail when the vector is full.  The error a
full vector gives is `NoCommitmentFound`, as in the source. -/
def commit (commits : Commits Hash AccountId T) (who : AccountId) (commitHash : Hash)
    (commitKey : MetadataId) : Except CommitmentError (Commits Hash AccountId T) :=
  match (commits commitKey).tryPush (Commitment.new commitHash who) with
  | some v => .ok (Function.update commits commitKey v)
  | none => .error .noCommitmentFound

theorem commit_eq_ok {commits commits' : Commits Hash AccountId T} {who : AccountId}
    {commitHash : Hash} {commitKey : MetadataId}
    (h : commit T commits who commitHash commitKey = .ok commits') :
    (commits commitKey).toList.length < T.maxParticipants ∧
      ∃ v : BoundedVec (Commitment Hash AccountId) T.maxParticipants,
        v.toList = (commits commitKey).toList ++ [Commitment.new commitHash who] ∧
        commits' = Function.update commits commitKey v := by
  rw [commit] at h
  split at h
  · rename_i v hv
    obtain ⟨hlt, hv⟩ := BoundedVec.tryPush_eq_some hv
    exact ⟨hlt, v, hv, by injection h with h; exact h.symm⟩
  · exact absurd h (by simp)

/-! ## Reveal -/

variable [DecidableEq Hash] [DecidableEq AccountId]

/-- The loop of `Reveal::reveal` over one vector: the first commitment by `who` is checked and, if
it passes, fulfilled; `inWindow` is the value of `is_in_reveal_window` at the time of the call. -/
def revealLoop (who : AccountId) (revealHash : Hash) (randomSeed : UInt8) (inWindow : Bool) :
    List (Commitment Hash AccountId) → Except CommitmentError (List (Commitment Hash AccountId))
  | [] => .error .noCommitmentFound
  | c :: rest =>
    if c.submitter = who then
      if c.fulfillment.isSome then .error .alreadyRevealed
      else if c.commit ≠ T.recreateCommitHash revealHash randomSeed then
        .error .incorrectRevealedHash
      else
        .ok ({ c with fulfillment := some revealHash,
                      inRevealPeriod := inWindow || c.inRevealPeriod } :: rest)
    else (revealLoop who revealHash randomSeed inWindow rest).map (c :: ·)

/-- A successful reveal changes one commitment in place, and never who made it. -/
theorem revealLoop_submitters {who : AccountId} {revealHash : Hash} {randomSeed : UInt8}
    {inWindow : Bool} {l l' : List (Commitment Hash AccountId)}
    (h : revealLoop T who revealHash randomSeed inWindow l = .ok l') :
    l'.map Commitment.submitter = l.map Commitment.submitter := by
  induction l generalizing l' with
  | nil => exact absurd h (by simp [revealLoop])
  | cons c rest ih =>
    rw [revealLoop] at h
    split at h
    · split at h
      · exact absurd h (by simp)
      · split at h
        · exact absurd h (by simp)
        · injection h with h
          subst h
          rfl
    · cases hr : revealLoop T who revealHash randomSeed inWindow rest with
      | error e => rw [hr] at h; exact absurd h (by simp [Except.map])
      | ok r =>
        rw [hr] at h
        injection h with h
        subst h
        simp [ih hr]

theorem revealLoop_length {who : AccountId} {revealHash : Hash} {randomSeed : UInt8}
    {inWindow : Bool} {l l' : List (Commitment Hash AccountId)}
    (h : revealLoop T who revealHash randomSeed inWindow l = .ok l') : l'.length = l.length := by
  simpa using congrArg List.length (revealLoop_submitters T h)

/-- The commitments before the first one by `who` are passed over. -/
theorem revealLoop_append {who : AccountId} {revealHash : Hash} {randomSeed : UInt8}
    {inWindow : Bool} {pre : List (Commitment Hash AccountId)} (hpre : ∀ x ∈ pre, x.submitter ≠ who)
    (l : List (Commitment Hash AccountId)) :
    revealLoop T who revealHash randomSeed inWindow (pre ++ l) =
      (revealLoop T who revealHash randomSeed inWindow l).map (pre ++ ·) := by
  induction pre with
  | nil =>
    rw [List.nil_append]
    cases revealLoop T who revealHash randomSeed inWindow l <;> rfl
  | cons x pre ih =>
    rw [List.cons_append, revealLoop, if_neg (hpre x List.mem_cons_self),
      ih fun y hy ↦ hpre y (List.mem_cons_of_mem x hy)]
    cases revealLoop T who revealHash randomSeed inWindow l <;> rfl

/-- A successful loop stopped at the first commitment by `who`, which was unrevealed and made
from the answer and the seed, and fulfilled it. -/
theorem revealLoop_eq_ok {who : AccountId} {revealHash : Hash} {randomSeed : UInt8}
    {inWindow : Bool} :
    ∀ {l l' : List (Commitment Hash AccountId)},
      revealLoop T who revealHash randomSeed inWindow l = .ok l' →
        ∃ pre c post, l = pre ++ c :: post ∧ (∀ x ∈ pre, x.submitter ≠ who) ∧
          c.submitter = who ∧ c.fulfillment = none ∧
          c.commit = T.recreateCommitHash revealHash randomSeed ∧
          l' = pre ++ { c with
            fulfillment := some revealHash, inRevealPeriod := inWindow || c.inRevealPeriod } :: post
  | [], _, h => by
    rw [revealLoop] at h
    cases h
  | c :: rest, l', h => by
    rw [revealLoop] at h
    by_cases hwho : c.submitter = who
    · rw [if_pos hwho] at h
      by_cases hfulfilled : c.fulfillment.isSome
      · rw [if_pos hfulfilled] at h
        cases h
      rw [if_neg hfulfilled] at h
      by_cases hcommit : c.commit = T.recreateCommitHash revealHash randomSeed
      · rw [if_neg (not_not.mpr hcommit)] at h
        cases h
        exact ⟨[], c, rest, rfl, nofun, hwho, Option.not_isSome_iff_eq_none.mp hfulfilled,
          hcommit, rfl⟩
      · rw [if_pos hcommit] at h
        cases h
    · rw [if_neg hwho] at h
      cases hrest : revealLoop T who revealHash randomSeed inWindow rest with
      | error e =>
        rw [hrest] at h
        cases h
      | ok r =>
        rw [hrest] at h
        cases h
        obtain ⟨pre, c', post, rfl, hpre, hrest'⟩ := revealLoop_eq_ok hrest
        refine ⟨c :: pre, c', post, rfl, fun x hx ↦ ?_, hrest'.1, hrest'.2.1, hrest'.2.2.1, ?_⟩
        · rcases List.mem_cons.mp hx with rfl | hx
          · exact hwho
          · exact hpre x hx
        · rw [hrest'.2.2.2]
          rfl

/-- `Reveal::reveal`: run the loop on `Commits[commit_key]` and write the result back on `Ok`. -/
def reveal (commits : Commits Hash AccountId T) (revealWindow : MetadataId → Option ℕ)
    (currentBlock : ℕ) (who : AccountId) (revealHash : Hash) (commitKey : MetadataId)
    (randomSeed : UInt8) : Except CommitmentError (Commits Hash AccountId T) :=
  match h : revealLoop T who revealHash randomSeed
      (isInRevealWindow T revealWindow currentBlock commitKey) (commits commitKey).toList with
  | .ok l =>
    .ok (Function.update commits commitKey
      ⟨l, by rw [revealLoop_length T h]; exact (commits commitKey).length_le⟩)
  | .error e => .error e

/-- What a successful reveal does to `Commits`: it rewrites the vector of the revealed key, with
the same submitters in the same order, and no other. -/
theorem reveal_eq_ok {commits commits' : Commits Hash AccountId T}
    {revealWindow : MetadataId → Option ℕ} {currentBlock : ℕ} {who : AccountId}
    {revealHash : Hash} {commitKey : MetadataId} {randomSeed : UInt8}
    (h : reveal T commits revealWindow currentBlock who revealHash commitKey randomSeed =
      .ok commits') :
    (commits' commitKey).toList.map Commitment.submitter =
        (commits commitKey).toList.map Commitment.submitter ∧
      ∀ m, m ≠ commitKey → commits' m = commits m := by
  rw [reveal] at h
  split at h
  · rename_i l hl
    injection h with h
    subst h
    refine ⟨?_, fun m hm ↦ Function.update_of_ne hm _ _⟩
    simpa using revealLoop_submitters T hl
  · exact absurd h (by simp)

/-- **What `reveal` does.**  It succeeds exactly when the first commitment by `who` in
`Commits[commit_key]` is unrevealed and was made from the answer and the seed; it then fulfils
that commitment, sets its flag when the call comes inside the reveal window, and writes no other
commitment and no other key.  An error writes nothing, as the `try_mutate` it runs in. -/
theorem reveal_eq_ok_iff {commits commits' : Commits Hash AccountId T}
    {revealWindow : MetadataId → Option ℕ} {currentBlock : ℕ} {who : AccountId}
    {revealHash : Hash} {commitKey : MetadataId} {randomSeed : UInt8} :
    reveal T commits revealWindow currentBlock who revealHash commitKey randomSeed = .ok commits' ↔
      ∃ pre c post, (commits commitKey).toList = pre ++ c :: post ∧
        (∀ x ∈ pre, x.submitter ≠ who) ∧ c.submitter = who ∧ c.fulfillment = none ∧
        c.commit = T.recreateCommitHash revealHash randomSeed ∧
        (commits' commitKey).toList = pre ++ { c with
          fulfillment := some revealHash
          inRevealPeriod := isInRevealWindow T revealWindow currentBlock commitKey ||
            c.inRevealPeriod } :: post ∧
        ∀ m, m ≠ commitKey → commits' m = commits m := by
  constructor
  · intro h
    rw [reveal] at h
    split at h
    · rename_i l hl
      injection h with h
      subst h
      obtain ⟨pre, c, post, hlist, hpre, hwho, hnone, hcommit, rfl⟩ := revealLoop_eq_ok T hl
      refine ⟨pre, c, post, hlist, hpre, hwho, hnone, hcommit, ?_, fun m hm ↦ ?_⟩
      · rw [Function.update_self]
      · exact Function.update_of_ne hm _ _
    · cases h
  · rintro ⟨pre, c, post, hlist, hpre, hwho, hnone, hcommit, hkey, hframe⟩
    have hloop : revealLoop T who revealHash randomSeed
        (isInRevealWindow T revealWindow currentBlock commitKey) (commits commitKey).toList =
          .ok (commits' commitKey).toList := by
      rw [hlist, revealLoop_append T hpre, revealLoop, if_pos hwho, hnone, hkey]
      simp only [Option.isSome_none, Bool.false_eq_true, if_false, hcommit, ne_eq,
        not_true_eq_false]
      rfl
    rw [reveal]
    split
    · rename_i l hl
      rw [hloop] at hl
      injection hl with hl
      subst hl
      congr 1
      funext m
      by_cases hm : m = commitKey
      · subst hm
        rw [Function.update_self]
      · rw [Function.update_of_ne hm, hframe m hm]
    · rename_i e hl
      rw [hloop] at hl
      cases hl

/-- The commitment configuration of the Millau runtime: a window of five blocks, one participant,
and the commit hash of an answer and a seed. -/
def testConfig : Config ℕ := ⟨5, 1, fun answer seed ↦ 256 * answer + seed.toNat⟩

/-- An unrevealed commitment of account `1`, to the answer `0` with the seed `7`, whose flag is
set. -/
def flaggedCommits : Commits ℕ ℕ testConfig := fun _ ↦ ⟨[⟨7, none, 1, true⟩], by decide⟩

/-- A reveal outside any window keeps a set flag: the flag is not `is_in_reveal_window`. -/
theorem reveal_keeps_set_flag :
    (reveal testConfig flaggedCommits (fun _ ↦ none) 0 1 0 0 7).map (fun commits ↦ (commits 0).toList) =
        .ok [⟨7, some 0, 1, true⟩] ∧
      isInRevealWindow testConfig (fun _ ↦ none) 0 0 = false := by
  decide

end Commitments
