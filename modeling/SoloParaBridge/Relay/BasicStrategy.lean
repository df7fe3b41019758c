import SoloParaBridge.HeaderChain.Justification
import SoloParaBridge.Lib.Unsigned
import Mathlib.Data.List.TakeWhile

/-!
# The basic strategy of a relay race

A *race* of the messages relay moves nonces from a source chain to a target chain: the delivery
race moves messages, the receiving race moves delivery confirmations back.  Both keep a
`BasicStrategy`: a queue of the nonce ranges the source has reported, each with the source header
it was read at, and the best nonce the target has.  Four updates reshape it:

* `source_nonces_updated` queues the part of a newly reported range above everything queued (or,
  with an empty queue, above the best target nonce);
* `best_target_nonces_updated` records the target's best nonce, which a reorganisation of the
  target may move back, and drops a selection or a submission the target already has part of;
* `finalized_target_nonces_updated` removes the nonces the target has finalized from the queue's
  front, cutting the first range that reaches past them;
* `reset_best_target_nonces` forgets the best target nonce.

`available_source_queue_indices` picks the queue entries a delivery may take: from the first that
reaches past the best target nonce, those queued at source headers the target has finalized.
`select_nonces_to_deliver` delivers all of their nonces above the best target nonce.

The range type of the queue is a parameter: the `NoncesRange` trait, a class here, with
`RangeInclusive` for the receiving race.  A `RangeInclusive` of nonces is a pair `(begin, end)`.
Nonces are `u64`: the `nonce + 1` of `greater_than` wraps to `0` at `u64::MAX`, as a release build
computes it.  Source header numbers are `ℕ`.
-/

set_option autoImplicit false

namespace Relay

open HeaderChain

/-- `NoncesRange`: a range of nonces the source reported. -/
class NoncesRange (R : Type) where
  /-- `begin`, the first nonce. -/
  begin : R → ℕ
  /-- `end`, the last nonce. -/
  endNonce : R → ℕ
  /-- `greater_than`: the nonces of the range above the given one, if there are any. -/
  greaterThan : R → ℕ → Option R

open NoncesRange

/-- `NoncesRange for RangeInclusive<MessageNonce>`. -/
instance : NoncesRange (ℕ × ℕ) where
  begin range := range.1
  endNonce range := range.2
  greaterThan range nonce :=
    let nextNonce := Unsigned.wrappingAdd 64 nonce 1
    if range.2 < nextNonce then none else some (max range.1 nextNonce, range.2)

/-- `SourceClientNonces`: the new nonces the source reports, and its latest confirmed nonce. -/
structure SourceClientNonces (R : Type) where
  newNonces : R
  confirmedNonce : Option ℕ

/-- `TargetClientNonces`: the latest nonce the target has, and what else the race reads there. -/
structure TargetClientNonces (TargetNoncesData : Type) where
  latestNonce : ℕ
  noncesData : TargetNoncesData

/-- The parts of the race state (`RaceState`) that the strategies read and reset. -/
structure RaceState (SourceHash : Type) where
  bestFinalizedSourceHeaderIdAtBestTarget : Option (HeaderId SourceHash)
  noncesToSubmit : Option (ℕ × ℕ)
  noncesSubmitted : Option (ℕ × ℕ)

/-- `BasicStrategy`: the queue of source nonces, each range with the source header it was read
at, and the best nonce of the target. -/
structure BasicStrategy (SourceHash R : Type) where
  sourceQueue : List (HeaderId SourceHash × R)
  bestTargetNonce : Option ℕ

namespace BasicStrategy

variable {SourceHash R : Type} [NoncesRange R]

/-- `BasicStrategy::new`. -/
def new : BasicStrategy SourceHash R := ⟨[], none⟩

/-- `remove_le_nonces_from_source_queue`: drop the ranges at the front up to `nonce`, and cut the
first one that reaches past it. -/
def removeLeNoncesFromSourceQueue (nonce : ℕ) :
    List (HeaderId SourceHash × R) → List (HeaderId SourceHash × R)
  | [] => []
  | (queuedAt, queuedRange) :: sourceQueue =>
    match greaterThan queuedRange nonce with
    | some rangeToRequeue => (queuedAt, rangeToRequeue) :: sourceQueue
    | none => removeLeNoncesFromSourceQueue nonce sourceQueue

variable (strategy : BasicStrategy SourceHash R)

/-- `source_nonces_updated`: queue, at `atBlock`, the new nonces above the best one known. -/
def sourceNoncesUpdated (atBlock : HeaderId SourceHash) (nonces : SourceClientNonces R) :
    BasicStrategy SourceHash R :=
  let bestInQueue :=
    ((strategy.sourceQueue.getLast?.map fun entry ↦ endNonce entry.2).or
      strategy.bestTargetNonce).getD 0
  { strategy with
    sourceQueue := strategy.sourceQueue ++
      ((greaterThan nonces.newNonces bestInQueue).map fun range ↦ (atBlock, range)).toList }

/-- `reset_best_target_nonces`. -/
def resetBestTargetNonces : BasicStrategy SourceHash R := { strategy with bestTargetNonce := none }

/-- `best_target_nonces_updated`: the target's best nonce, and the race state without the
selection or submission the target already has nonces of. -/
def bestTargetNoncesUpdated (nonces : TargetClientNonces Unit) (raceState : RaceState SourceHash) :
    BasicStrategy SourceHash R × RaceState SourceHash :=
  let nonce := nonces.latestNonce
  let needToSelectNewNonces := (raceState.noncesToSubmit.map fun range ↦ decide (range.1 ≤ nonce)).getD false
  let raceState := if needToSelectNewNonces then { raceState with noncesToSubmit := none }
    else raceState
  let needNewNoncesToSubmit := (raceState.noncesSubmitted.map fun range ↦ decide (range.1 ≤ nonce)).getD false
  let raceState := if needNewNoncesToSubmit then { raceState with noncesSubmitted := none }
    else raceState
  ({ strategy with bestTargetNonce := some nonce }, raceState)

/-- `finalized_target_nonces_updated`: the finalized nonces leave the queue, and the best target
nonce is at least the finalized one. -/
def finalizedTargetNoncesUpdated (nonces : TargetClientNonces Unit) : BasicStrategy SourceHash R :=
  { sourceQueue := removeLeNoncesFromSourceQueue nonces.latestNonce strategy.sourceQueue
    bestTargetNonce := some (max (strategy.bestTargetNonce.getD nonces.latestNonce) nonces.latestNonce) }

/-- The index `i + count` is within `l` when `count + 1` entries from `i` on satisfy `p`. -/
theorem lt_length_of_length_takeWhile_drop {α : Type} {l : List α} {p : α → Bool} {i count : ℕ}
    (h : ((l.drop i).takeWhile p).length = count + 1) : i + count < l.length := by
  have hle := (List.takeWhile_sublist p (l := l.drop i)).length_le
  rw [h, List.length_drop] at hle
  omega

/-- `available_source_queue_indices`: from the first entry with a nonce the best target block does
not have, the entries queued at source headers the target has finalized.  Both ends of the range
are indices of the queue. -/
def availableSourceQueueIndices (raceState : RaceState SourceHash) :
    Option (Fin strategy.sourceQueue.length × Fin strategy.sourceQueue.length) := do
  let bestTargetNonce ← strategy.bestTargetNonce
  if raceState.noncesToSubmit.isSome then none
  else if raceState.noncesSubmitted.isSome then none
  else
    let beginIndex ← strategy.sourceQueue.findFinIdx? fun entry ↦
      decide (bestTargetNonce < endNonce entry.2)
    let bestHeaderAtTarget ← raceState.bestFinalizedSourceHeaderIdAtBestTarget
    match hcount : ((strategy.sourceQueue.drop beginIndex).takeWhile fun entry ↦
        decide (entry.1.number ≤ bestHeaderAtTarget.number)).length with
    | 0 => none
    | count + 1 =>
      some (beginIndex, ⟨beginIndex + count, lt_length_of_length_takeWhile_drop hcount⟩)

/-- `select_nonces_to_deliver` of the basic strategy: every nonce of the available entries above
the best target nonce. -/
def selectNoncesToDeliver (raceState : RaceState SourceHash) : Option (ℕ × ℕ) := do
  let availableIndices ← strategy.availableSourceQueueIndices raceState
  let bestTargetNonce ← strategy.bestTargetNonce
  let rangeBegin := max (bestTargetNonce + 1) (begin strategy.sourceQueue[availableIndices.1].2)
  let rangeEnd := endNonce strategy.sourceQueue[availableIndices.2].2
  some (rangeBegin, rangeEnd)

/-- `best_at_source`: the last nonce queued, or the best target nonce when it is later. -/
def bestAtSource : Option ℕ :=
  match strategy.sourceQueue.getLast?.map (fun entry ↦ endNonce entry.2), strategy.bestTargetNonce with
  | some bestInQueue, some bestTargetNonce =>
    if bestInQueue > bestTargetNonce then some bestInQueue else some bestTargetNonce
  | _, some bestTargetNonce => some bestTargetNonce
  | _, none => none

/-- `required_source_header_at_target`: the source header of the last nonces queued, when the
best target block does not know it yet. -/
def requiredSourceHeaderAtTarget (raceState : RaceState SourceHash) : Option (HeaderId SourceHash) := do
  let currentBest ← raceState.bestFinalizedSourceHeaderIdAtBestTarget
  strategy.sourceQueue.getLast?.bind fun (queuedAt, _) ↦
    if queuedAt.number > currentBest.number then some queuedAt else none

/-- The entries `i + k` of `l` that `takeWhile p` keeps of `l.drop i` satisfy `p`. -/
theorem takeWhile_drop_getElem {α : Type} {l : List α} {p : α → Bool} {i k : ℕ}
    (hk : k < ((l.drop i).takeWhile p).length) (h : i + k < l.length) : p l[i + k] = true := by
  have hmem := List.mem_takeWhile_imp (List.getElem_mem hk)
  rwa [(List.takeWhile_prefix p).getElem hk, List.getElem_drop] at hmem

/-- What `available_source_queue_indices` returns: the range starts at the first entry reaching
past the best target nonce, and every entry up to its end was queued at a source header the
target has finalized. -/
theorem availableSourceQueueIndices_spec {strategy : BasicStrategy SourceHash R}
    {raceState : RaceState SourceHash} {beginIndex endIndex : Fin strategy.sourceQueue.length}
    (h : strategy.availableSourceQueueIndices raceState = some (beginIndex, endIndex)) :
    ∃ bestTargetNonce bestHeaderAtTarget, strategy.bestTargetNonce = some bestTargetNonce ∧
      raceState.bestFinalizedSourceHeaderIdAtBestTarget = some bestHeaderAtTarget ∧
      bestTargetNonce < endNonce strategy.sourceQueue[beginIndex].2 ∧
      (∀ j : Fin strategy.sourceQueue.length, j < beginIndex →
        endNonce strategy.sourceQueue[j].2 ≤ bestTargetNonce) ∧
      beginIndex ≤ endIndex ∧
      ∀ j : Fin strategy.sourceQueue.length, beginIndex ≤ j → j ≤ endIndex →
        strategy.sourceQueue[j].1.number ≤ bestHeaderAtTarget.number := by
  unfold availableSourceQueueIndices at h
  cases hbest : strategy.bestTargetNonce with
  | none => simp [hbest] at h
  | some bestTargetNonce =>
    simp only [hbest, Option.bind_eq_bind, Option.bind_some] at h
    split_ifs at h
    cases hfirst : strategy.sourceQueue.findFinIdx? fun entry ↦
        decide (bestTargetNonce < endNonce entry.2) with
    | none => simp [hfirst] at h
    | some first =>
      simp only [hfirst, Option.bind_some] at h
      cases hbestHeader : raceState.bestFinalizedSourceHeaderIdAtBestTarget with
      | none => simp [hbestHeader] at h
      | some bestHeaderAtTarget =>
        simp only [hbestHeader, Option.bind_some] at h
        split at h
        · cases h
        · rename_i count hcount
          obtain ⟨rfl, rfl⟩ := Prod.mk.inj (Option.some.inj h)
          obtain ⟨hlt, hbefore⟩ := List.findFinIdx?_eq_some_iff.mp hfirst
          refine ⟨bestTargetNonce, bestHeaderAtTarget, rfl, rfl, by simpa using hlt,
            fun j hj ↦ by simpa using hbefore j hj, Fin.mk_le_mk.mpr (Nat.le_add_right _ _), ?_⟩
          intro j hbeginj hjend
          obtain ⟨d, hd⟩ := Nat.exists_eq_add_of_le (Fin.le_def.mp hbeginj)
          have hkept := takeWhile_drop_getElem (k := d) (by rw [hcount]; simp [Fin.le_def] at hjend; omega)
            (hd ▸ j.isLt)
          simp only [← hd, decide_eq_true_eq] at hkept
          exact hkept

/-- Nothing is available while a selection waits to be submitted, or a submission to be seen at
the target. -/
theorem availableSourceQueueIndices_eq_some_idle {strategy : BasicStrategy SourceHash R}
    {raceState : RaceState SourceHash}
    {indices : Fin strategy.sourceQueue.length × Fin strategy.sourceQueue.length}
    (h : strategy.availableSourceQueueIndices raceState = some indices) :
    raceState.noncesToSubmit = none ∧ raceState.noncesSubmitted = none := by
  unfold availableSourceQueueIndices at h
  cases hbest : strategy.bestTargetNonce with
  | none => simp [hbest] at h
  | some bestTargetNonce =>
    simp only [hbest, Option.bind_eq_bind, Option.bind_some] at h
    split_ifs at h with hwaiting hsubmitted
    exact ⟨Option.not_isSome_iff_eq_none.mp hwaiting, Option.not_isSome_iff_eq_none.mp hsubmitted⟩

/-- The available range starts at the first entry reaching past the best target nonce. -/
theorem availableSourceQueueIndices_eq_some {strategy : BasicStrategy SourceHash R}
    {raceState : RaceState SourceHash} {beginIndex endIndex : Fin strategy.sourceQueue.length}
    (h : strategy.availableSourceQueueIndices raceState = some (beginIndex, endIndex)) :
    ∃ bestTargetNonce, strategy.bestTargetNonce = some bestTargetNonce ∧
      bestTargetNonce < endNonce strategy.sourceQueue[beginIndex].2 ∧
      ∀ j : Fin strategy.sourceQueue.length, j < beginIndex →
        endNonce strategy.sourceQueue[j].2 ≤ bestTargetNonce := by
  obtain ⟨bestTargetNonce, -, hbest, -, hlt, hbefore, -⟩ := availableSourceQueueIndices_spec h
  exact ⟨bestTargetNonce, hbest, hlt, hbefore⟩

/-- What `select_nonces_to_deliver` returns: from the first available entry, above the best
target nonce, to the end of the last available entry. -/
theorem selectNoncesToDeliver_eq_some {strategy : BasicStrategy SourceHash R}
    {raceState : RaceState SourceHash} {range : ℕ × ℕ}
    (h : strategy.selectNoncesToDeliver raceState = some range) :
    ∃ beginIndex endIndex bestTargetNonce,
      strategy.availableSourceQueueIndices raceState = some (beginIndex, endIndex) ∧
      strategy.bestTargetNonce = some bestTargetNonce ∧
      range = (max (bestTargetNonce + 1) (begin strategy.sourceQueue[beginIndex].2),
        endNonce strategy.sourceQueue[endIndex].2) := by
  unfold selectNoncesToDeliver at h
  cases havailable : strategy.availableSourceQueueIndices raceState with
  | none => simp [havailable] at h
  | some indices =>
    cases hbest : strategy.bestTargetNonce with
    | none => simp [havailable, hbest] at h
    | some bestTargetNonce =>
      simp only [havailable, hbest, Option.bind_eq_bind, Option.bind_some, Option.some_inj] at h
      exact ⟨indices.1, indices.2, bestTargetNonce, rfl, rfl, h.symm⟩

/-- The basic strategy selects nothing while a selection waits to be submitted, or a submission
to be seen at the target. -/
theorem selectNoncesToDeliver_eq_some_idle {strategy : BasicStrategy SourceHash R}
    {raceState : RaceState SourceHash} {range : ℕ × ℕ}
    (h : strategy.selectNoncesToDeliver raceState = some range) :
    raceState.noncesToSubmit = none ∧ raceState.noncesSubmitted = none := by
  obtain ⟨_, _, _, havailable, -⟩ := selectNoncesToDeliver_eq_some h
  exact availableSourceQueueIndices_eq_some_idle havailable

end BasicStrategy

end Relay
