import SoloParaBridge.Relay.BasicStrategy

/-!
# The source queue over a run of the receiving race

The receiving race keeps a `BasicStrategy` over `RangeInclusive` nonces.  This file follows it
through any run of its four updates and says what holds of every state reached from
`BasicStrategy::new`.

## What is here

* `removeLeNoncesFromSourceQueue_cases` — the shape of the queue after a finalized target nonce:
  a suffix of the old queue whose first range is cut.  Every order of the queue whose left side
  reads only the header, or only the end of the range, survives it (`pairwise_removeLe`).
* `belowMax_run` — while every reported nonce is below `u64::MAX`, no `nonce + 1` of the strategy
  wraps.
* `rangesAscending_run` — each queued range begins, and ends, after every range before it ends.
* `headersAscending_run` — if the reports come at source headers of non-decreasing numbers, the
  queued header numbers do not decrease either.
* `rangesNonEmpty_run` — if every reported range is non-empty, so is every queued range.
* `aboveFinalized_run` — every queued nonce is above the last finalized target nonce, as long as
  after it the best target nonce is neither reset nor reported below it.
* `selectNoncesToDeliver_spec` and `selectNoncesToDeliver_nonEmpty` — what a selection from
  such a queue is.

None of the conditions can be dropped: `reset_best_target_nonces` (called when the target client
restarts) lets the next report requeue finalized nonces, an empty reported range is queued as it
is, two reports with a gap between them leave nonces that no report had inside the range a
selection returns, and a nonce of `u64::MAX` makes `greater_than` return its whole range.
-/

set_option autoImplicit false

namespace Relay

open HeaderChain NoncesRange

namespace BasicStrategy

variable {SourceHash : Type}

/-! ## `greater_than` of a `RangeInclusive` -/

theorem greaterThan_rangeInclusive (range : ℕ × ℕ) (nonce : ℕ) :
    greaterThan range nonce =
      if range.2 < Unsigned.wrappingAdd 64 nonce 1 then none
      else some (max range.1 (Unsigned.wrappingAdd 64 nonce 1), range.2) :=
  rfl

/-- Whatever `nonce + 1` wraps to, `greater_than` keeps the range's end, after a begin that is at
most it. -/
theorem greaterThan_eq_some {range rangeToRequeue : ℕ × ℕ} {nonce : ℕ}
    (h : greaterThan range nonce = some rangeToRequeue) :
    Unsigned.wrappingAdd 64 nonce 1 ≤ range.2 ∧
      rangeToRequeue = (max range.1 (Unsigned.wrappingAdd 64 nonce 1), range.2) := by
  rw [greaterThan_rangeInclusive] at h
  split_ifs at h with hlt
  exact ⟨Nat.le_of_not_lt hlt, (Option.some.inj h).symm⟩

/-- Below `u64::MAX`, `greater_than` cuts the range just after `nonce`. -/
theorem greaterThan_eq_some_iff {range rangeToRequeue : ℕ × ℕ} {nonce : ℕ}
    (hnonce : nonce < 2 ^ 64 - 1) :
    greaterThan range nonce = some rangeToRequeue ↔
      nonce < range.2 ∧ rangeToRequeue = (max range.1 (nonce + 1), range.2) := by
  rw [greaterThan_rangeInclusive, Unsigned.wrappingAdd_of_lt (by omega)]
  split_ifs with h
  · simp only [false_iff, not_and]
    omega
  · have hlt : nonce < range.2 := by omega
    simp [hlt, eq_comm]

@[simp] theorem begin_rangeInclusive (range : ℕ × ℕ) : begin range = range.1 := rfl

@[simp] theorem endNonce_rangeInclusive (range : ℕ × ℕ) : endNonce range = range.2 := rfl

/-! ## `remove_le_nonces_from_source_queue` -/

section RemoveLe

variable {R : Type} [NoncesRange R]

/-- After `remove_le_nonces_from_source_queue` the queue is empty, or it is a suffix of the old
queue whose first range is replaced by its nonces above `nonce`. -/
theorem removeLeNoncesFromSourceQueue_cases (nonce : ℕ) (queue : List (HeaderId SourceHash × R)) :
    removeLeNoncesFromSourceQueue nonce queue = [] ∨
      ∃ pre queuedAt queuedRange rangeToRequeue rest,
        queue = pre ++ (queuedAt, queuedRange) :: rest ∧
        greaterThan queuedRange nonce = some rangeToRequeue ∧
        removeLeNoncesFromSourceQueue nonce queue = (queuedAt, rangeToRequeue) :: rest := by
  induction queue with
  | nil => exact .inl rfl
  | cons entry queue ih =>
    obtain ⟨queuedAt, queuedRange⟩ := entry
    cases hrange : greaterThan queuedRange nonce with
    | some rangeToRequeue =>
      refine .inr ⟨[], queuedAt, queuedRange, rangeToRequeue, queue, rfl, hrange, ?_⟩
      simp [removeLeNoncesFromSourceQueue, hrange]
    | none =>
      have hstep : removeLeNoncesFromSourceQueue nonce ((queuedAt, queuedRange) :: queue) =
          removeLeNoncesFromSourceQueue nonce queue := by
        simp [removeLeNoncesFromSourceQueue, hrange]
      rw [hstep]
      rcases ih with hnil | ⟨pre, at', range, rangeToRequeue, rest, rfl, hrequeue, heq⟩
      · exact .inl hnil
      · exact .inr ⟨(queuedAt, queuedRange) :: pre, at', range, rangeToRequeue, rest, rfl,
          hrequeue, heq⟩

/-- An entry after `remove_le_nonces_from_source_queue` was queued as it is, or is the cut of a
queued range, at the same header. -/
theorem mem_removeLeNoncesFromSourceQueue {nonce : ℕ} {queue : List (HeaderId SourceHash × R)}
    {entry : HeaderId SourceHash × R} (h : entry ∈ removeLeNoncesFromSourceQueue nonce queue) :
    entry ∈ queue ∨ ∃ queuedRange, (entry.1, queuedRange) ∈ queue ∧
      greaterThan queuedRange nonce = some entry.2 := by
  rcases removeLeNoncesFromSourceQueue_cases nonce queue with
    hnil | ⟨pre, queuedAt, queuedRange, rangeToRequeue, rest, rfl, hrequeue, heq⟩
  · simp [hnil] at h
  · rw [heq, List.mem_cons] at h
    rcases h with rfl | hrest
    · exact .inr ⟨queuedRange, by simp, hrequeue⟩
    · exact .inl (by simp [hrest])

/-- An order of the queue survives `remove_le_nonces_from_source_queue` when an entry's cut is
related to what the entry was related to. -/
theorem pairwise_removeLe {nonce : ℕ} {queue : List (HeaderId SourceHash × R)}
    {rel : HeaderId SourceHash × R → HeaderId SourceHash × R → Prop}
    (hcut : ∀ queuedAt queuedRange rangeToRequeue entry,
      greaterThan queuedRange nonce = some rangeToRequeue →
        rel (queuedAt, queuedRange) entry → rel (queuedAt, rangeToRequeue) entry)
    (h : queue.Pairwise rel) : (removeLeNoncesFromSourceQueue nonce queue).Pairwise rel := by
  rcases removeLeNoncesFromSourceQueue_cases nonce queue with
    hnil | ⟨pre, queuedAt, queuedRange, rangeToRequeue, rest, rfl, hrequeue, heq⟩
  · rw [hnil]
    exact List.Pairwise.nil
  · have hsuffix := List.pairwise_cons.mp (h.sublist (List.sublist_append_right pre _))
    rw [heq, List.pairwise_cons]
    exact ⟨fun entry hentry ↦ hcut _ _ _ _ hrequeue (hsuffix.1 entry hentry), hsuffix.2⟩

end RemoveLe

/-! ## The invariants -/

/-- Each queued range begins, and ends, after every range before it ends. -/
def RangesAscending (queue : List (HeaderId SourceHash × (ℕ × ℕ))) : Prop :=
  queue.Pairwise fun a b ↦ a.2.2 < b.2.1 ∧ a.2.2 < b.2.2

/-- The queued header numbers do not decrease. -/
def HeadersAscending (queue : List (HeaderId SourceHash × (ℕ × ℕ))) : Prop :=
  queue.Pairwise fun a b ↦ a.1.number ≤ b.1.number

/-- Every queued range has a nonce. -/
def RangesNonEmpty (queue : List (HeaderId SourceHash × (ℕ × ℕ))) : Prop :=
  ∀ entry ∈ queue, entry.2.1 ≤ entry.2.2

/-- Every queued range ends below `u64::MAX`, and so does the best target nonce: no `nonce + 1` the
strategy computes wraps. -/
def BelowMax (strategy : BasicStrategy SourceHash (ℕ × ℕ)) : Prop :=
  (∀ entry ∈ strategy.sourceQueue, entry.2.2 < 2 ^ 64 - 1) ∧
    ∀ best ∈ strategy.bestTargetNonce, best < 2 ^ 64 - 1

/-- After the finalized target nonce `finalized`: the best target nonce is at least it, and every
queued range begins and ends above it. -/
def AboveFinalized (finalized : Option ℕ) (strategy : BasicStrategy SourceHash (ℕ × ℕ)) : Prop :=
  ∀ f ∈ finalized, (∃ best ∈ strategy.bestTargetNonce, f ≤ best) ∧
    ∀ entry ∈ strategy.sourceQueue, f < entry.2.1 ∧ f < entry.2.2

/-- The last range of a queue ends at or after every queued range. -/
theorem end_le_getLast {queue : List (HeaderId SourceHash × (ℕ × ℕ))}
    (h : RangesAscending queue) {last entry : HeaderId SourceHash × (ℕ × ℕ)}
    (hlast : queue.getLast? = some last) (hentry : entry ∈ queue) : entry.2.2 ≤ last.2.2 := by
  obtain ⟨init, rfl⟩ := List.getLast?_eq_some_iff.mp hlast
  rcases List.mem_append.mp hentry with hinit | hlast'
  · exact Nat.le_of_lt ((List.pairwise_append.mp h).2.2 entry hinit last (by simp)).2
  · rw [List.mem_singleton.mp hlast']

/-! ## One update -/

variable (strategy : BasicStrategy SourceHash (ℕ × ℕ))

/-- The nonce `source_nonces_updated` queues above: the end of the last queued range, or else the
best target nonce, or else `0`. -/
def bestInQueue : ℕ :=
  ((strategy.sourceQueue.getLast?.map fun entry ↦ entry.2.2).or strategy.bestTargetNonce).getD 0

@[simp] theorem sourceNoncesUpdated_sourceQueue (atBlock : HeaderId SourceHash)
    (nonces : SourceClientNonces (ℕ × ℕ)) :
    (strategy.sourceNoncesUpdated atBlock nonces).sourceQueue = strategy.sourceQueue ++
      ((greaterThan nonces.newNonces strategy.bestInQueue).map fun range ↦
        (atBlock, range)).toList :=
  rfl

@[simp] theorem sourceNoncesUpdated_bestTargetNonce (atBlock : HeaderId SourceHash)
    (nonces : SourceClientNonces (ℕ × ℕ)) :
    (strategy.sourceNoncesUpdated atBlock nonces).bestTargetNonce = strategy.bestTargetNonce :=
  rfl

@[simp] theorem bestTargetNoncesUpdated_fst (nonces : TargetClientNonces Unit)
    (raceState : RaceState SourceHash) :
    (strategy.bestTargetNoncesUpdated nonces raceState).1 =
      { strategy with bestTargetNonce := some nonces.latestNonce } :=
  rfl

/-- The queue is not empty: the best nonce known is the end of its last range. -/
theorem bestInQueue_of_getLast {last : HeaderId SourceHash × (ℕ × ℕ)}
    (h : strategy.sourceQueue.getLast? = some last) : strategy.bestInQueue = last.2.2 := by
  simp [bestInQueue, h]

/-- The queue is empty: the best nonce known is the best target nonce. -/
theorem bestInQueue_of_nil (h : strategy.sourceQueue = []) :
    strategy.bestInQueue = strategy.bestTargetNonce.getD 0 := by
  simp [bestInQueue, h]

theorem bestInQueue_lt (h : BelowMax strategy) : strategy.bestInQueue < 2 ^ 64 - 1 := by
  cases hlast : strategy.sourceQueue.getLast? with
  | some last =>
    rw [strategy.bestInQueue_of_getLast hlast]
    exact h.1 last (List.mem_of_getLast? hlast)
  | none =>
    rw [strategy.bestInQueue_of_nil (List.getLast?_eq_none_iff.mp hlast)]
    cases hbest : strategy.bestTargetNonce with
    | none => decide
    | some best => exact h.2 best hbest

/-- The entries after `source_nonces_updated`: those queued before, and the reported range above the
best nonce known, if there is one. -/
theorem mem_sourceNoncesUpdated {atBlock : HeaderId SourceHash}
    {nonces : SourceClientNonces (ℕ × ℕ)} {entry : HeaderId SourceHash × (ℕ × ℕ)} :
    entry ∈ (strategy.sourceNoncesUpdated atBlock nonces).sourceQueue ↔
      entry ∈ strategy.sourceQueue ∨
        ∃ range, greaterThan nonces.newNonces strategy.bestInQueue = some range ∧
          entry = (atBlock, range) := by
  rw [sourceNoncesUpdated_sourceQueue, List.mem_append]
  cases greaterThan nonces.newNonces strategy.bestInQueue <;> simp

/-- A range `source_nonces_updated` queues begins and ends after the best nonce known. -/
theorem lt_of_sourceNoncesUpdated (hbelow : BelowMax strategy)
    {nonces : SourceClientNonces (ℕ × ℕ)} {range : ℕ × ℕ}
    (h : greaterThan nonces.newNonces strategy.bestInQueue = some range) :
    strategy.bestInQueue < range.1 ∧ strategy.bestInQueue < range.2 ∧
      range.2 = nonces.newNonces.2 ∧ nonces.newNonces.1 ≤ range.1 := by
  obtain ⟨hlt, rfl⟩ := (greaterThan_eq_some_iff (strategy.bestInQueue_lt hbelow)).mp h
  exact ⟨by simp, hlt, rfl, by simp⟩

theorem belowMax_sourceNoncesUpdated (h : BelowMax strategy) (atBlock : HeaderId SourceHash)
    {nonces : SourceClientNonces (ℕ × ℕ)} (hreport : nonces.newNonces.2 < 2 ^ 64 - 1) :
    BelowMax (strategy.sourceNoncesUpdated atBlock nonces) := by
  refine ⟨fun entry hentry ↦ ?_, h.2⟩
  rcases strategy.mem_sourceNoncesUpdated.mp hentry with hqueued | ⟨range, hrange, rfl⟩
  · exact h.1 entry hqueued
  · rw [(greaterThan_eq_some hrange).2]
    exact hreport

/-- A report of new nonces keeps the ranges ascending: with the queue not empty, the best nonce
known is the end of its last range, and the report is cut above it. -/
theorem rangesAscending_sourceNoncesUpdated (hbelow : BelowMax strategy)
    (h : RangesAscending strategy.sourceQueue)
    (atBlock : HeaderId SourceHash) (nonces : SourceClientNonces (ℕ × ℕ)) :
    RangesAscending (strategy.sourceNoncesUpdated atBlock nonces).sourceQueue := by
  rw [sourceNoncesUpdated_sourceQueue]
  cases hnew : greaterThan nonces.newNonces strategy.bestInQueue with
  | none => simpa using h
  | some range =>
    obtain ⟨hbegin, hend, -⟩ := strategy.lt_of_sourceNoncesUpdated hbelow hnew
    refine List.pairwise_append.mpr ⟨h, List.pairwise_singleton _ _, ?_⟩
    intro entry hentry new hnew'
    rw [Option.map_some, Option.toList_some, List.mem_singleton] at hnew'
    subst hnew'
    obtain ⟨last, hlast⟩ := Option.ne_none_iff_exists'.mp
      (mt List.getLast?_eq_none_iff.mp (List.ne_nil_of_mem hentry))
    have hle := end_le_getLast h hlast hentry
    rw [strategy.bestInQueue_of_getLast hlast] at hbegin hend
    show entry.2.2 < range.1 ∧ entry.2.2 < range.2
    exact ⟨by omega, by omega⟩

theorem rangesAscending_removeLe {queue : List (HeaderId SourceHash × (ℕ × ℕ))} (nonce : ℕ)
    (h : RangesAscending queue) : RangesAscending (removeLeNoncesFromSourceQueue nonce queue) :=
  pairwise_removeLe (fun _ _ _ _ hrequeue hrel ↦ by
    rwa [(greaterThan_eq_some hrequeue).2]) h

theorem headersAscending_removeLe {queue : List (HeaderId SourceHash × (ℕ × ℕ))} (nonce : ℕ)
    (h : HeadersAscending queue) : HeadersAscending (removeLeNoncesFromSourceQueue nonce queue) :=
  pairwise_removeLe (fun _ _ _ _ _ hrel ↦ hrel) h

theorem rangesNonEmpty_removeLe {queue : List (HeaderId SourceHash × (ℕ × ℕ))} (nonce : ℕ)
    (h : RangesNonEmpty queue) : RangesNonEmpty (removeLeNoncesFromSourceQueue nonce queue) := by
  intro entry hentry
  rcases mem_removeLeNoncesFromSourceQueue hentry with hqueued | ⟨queuedRange, hqueued, hrequeue⟩
  · exact h entry hqueued
  · obtain ⟨hle, hcut⟩ := greaterThan_eq_some hrequeue
    have hrange := h _ hqueued
    rw [hcut]
    exact max_le hrange hle

/-- A cut keeps the end of its range, so every range still ends below `u64::MAX`. -/
theorem endBelowMax_removeLe {queue : List (HeaderId SourceHash × (ℕ × ℕ))} (nonce : ℕ)
    (h : ∀ entry ∈ queue, entry.2.2 < 2 ^ 64 - 1) :
    ∀ entry ∈ removeLeNoncesFromSourceQueue nonce queue, entry.2.2 < 2 ^ 64 - 1 := by
  intro entry hentry
  rcases mem_removeLeNoncesFromSourceQueue hentry with hqueued | ⟨queuedRange, hqueued, hrequeue⟩
  · exact h entry hqueued
  · rw [(greaterThan_eq_some hrequeue).2]
    exact h _ hqueued

/-- After the finalized target nonce `nonce`, the queue holds no nonce up to it. -/
theorem gt_of_mem_removeLe {queue : List (HeaderId SourceHash × (ℕ × ℕ))} {nonce : ℕ}
    (hnonce : nonce < 2 ^ 64 - 1) (h : RangesAscending queue)
    {entry : HeaderId SourceHash × (ℕ × ℕ)}
    (hentry : entry ∈ removeLeNoncesFromSourceQueue nonce queue) :
    nonce < entry.2.1 ∧ nonce < entry.2.2 := by
  rcases removeLeNoncesFromSourceQueue_cases nonce queue with
    hnil | ⟨pre, queuedAt, queuedRange, rangeToRequeue, rest, rfl, hrequeue, heq⟩
  · simp [hnil] at hentry
  · obtain ⟨hlt, rfl⟩ := (greaterThan_eq_some_iff hnonce).mp hrequeue
    rw [heq, List.mem_cons] at hentry
    rcases hentry with rfl | hrest
    · exact ⟨by simp, hlt⟩
    · have hsuffix := List.pairwise_cons.mp (h.sublist (List.sublist_append_right pre _))
      obtain ⟨hbegin, hend⟩ := hsuffix.1 entry hrest
      exact ⟨by simp at hbegin; omega, by simp at hend; omega⟩

theorem headersAscending_sourceNoncesUpdated (h : HeadersAscending strategy.sourceQueue)
    {atBlock : HeaderId SourceHash}
    (hbefore : ∀ entry ∈ strategy.sourceQueue, entry.1.number ≤ atBlock.number)
    (nonces : SourceClientNonces (ℕ × ℕ)) :
    HeadersAscending (strategy.sourceNoncesUpdated atBlock nonces).sourceQueue := by
  rw [sourceNoncesUpdated_sourceQueue]
  refine List.pairwise_append.mpr ⟨h, ?_, ?_⟩
  · cases greaterThan nonces.newNonces strategy.bestInQueue <;> simp
  · intro entry hentry new hnew
    cases hrange : greaterThan nonces.newNonces strategy.bestInQueue with
    | none => simp [hrange] at hnew
    | some range =>
      rw [hrange, Option.map_some, Option.toList_some, List.mem_singleton] at hnew
      subst hnew
      exact hbefore entry hentry

theorem rangesNonEmpty_sourceNoncesUpdated (h : RangesNonEmpty strategy.sourceQueue)
    (atBlock : HeaderId SourceHash) {nonces : SourceClientNonces (ℕ × ℕ)}
    (hreport : nonces.newNonces.1 ≤ nonces.newNonces.2) :
    RangesNonEmpty (strategy.sourceNoncesUpdated atBlock nonces).sourceQueue := by
  intro entry hentry
  rcases strategy.mem_sourceNoncesUpdated.mp hentry with hqueued | ⟨range, hrange, rfl⟩
  · exact h entry hqueued
  · obtain ⟨hle, rfl⟩ := greaterThan_eq_some hrange
    exact max_le hreport hle

/-- A finalized target nonce is at most the best nonce `source_nonces_updated` knows. -/
theorem le_bestInQueue {f : ℕ} (h : AboveFinalized (some f) strategy) :
    f ≤ strategy.bestInQueue := by
  cases hlast : strategy.sourceQueue.getLast? with
  | some last =>
    rw [strategy.bestInQueue_of_getLast hlast]
    exact ((h f rfl).2 last (List.mem_of_getLast? hlast)).2.le
  | none =>
    rw [strategy.bestInQueue_of_nil (List.getLast?_eq_none_iff.mp hlast)]
    obtain ⟨best, hbest, hle⟩ := (h f rfl).1
    rw [Option.mem_def] at hbest
    simpa [hbest] using hle

theorem aboveFinalized_sourceNoncesUpdated {finalized : Option ℕ} (hbelow : BelowMax strategy)
    (h : AboveFinalized finalized strategy) (atBlock : HeaderId SourceHash)
    (nonces : SourceClientNonces (ℕ × ℕ)) :
    AboveFinalized finalized (strategy.sourceNoncesUpdated atBlock nonces) := by
  intro f hf
  obtain ⟨hbest, hqueue⟩ := h f hf
  refine ⟨by simpa using hbest, fun entry hentry ↦ ?_⟩
  rcases strategy.mem_sourceNoncesUpdated.mp hentry with hqueued | ⟨range, hrange, rfl⟩
  · exact hqueue entry hqueued
  · obtain ⟨hbegin, hend, -⟩ := strategy.lt_of_sourceNoncesUpdated hbelow hrange
    have hle := strategy.le_bestInQueue (Option.mem_def.mp hf ▸ h)
    exact ⟨by simp only; omega, by simp only; omega⟩

/-! ## Runs -/

/-- An update the race loop makes to the strategy of the receiving race. -/
inductive Update (SourceHash : Type) where
  | sourceNoncesUpdated (atBlock : HeaderId SourceHash) (nonces : SourceClientNonces (ℕ × ℕ))
  | bestTargetNoncesUpdated (nonces : TargetClientNonces Unit) (raceState : RaceState SourceHash)
  | finalizedTargetNoncesUpdated (nonces : TargetClientNonces Unit)
  | resetBestTargetNonces

namespace Update

/-- The strategy after the update. -/
def apply : Update SourceHash → BasicStrategy SourceHash (ℕ × ℕ) → BasicStrategy SourceHash (ℕ × ℕ)
  | .sourceNoncesUpdated atBlock nonces, strategy => strategy.sourceNoncesUpdated atBlock nonces
  | .bestTargetNoncesUpdated nonces raceState, strategy =>
    (strategy.bestTargetNoncesUpdated nonces raceState).1
  | .finalizedTargetNoncesUpdated nonces, strategy => strategy.finalizedTargetNoncesUpdated nonces
  | .resetBestTargetNonces, strategy => strategy.resetBestTargetNonces

/-- The number of the source header a report was read at. -/
def sourceHeaderNumber : Update SourceHash → Option ℕ
  | .sourceNoncesUpdated atBlock _ => some atBlock.number
  | _ => none

/-- The nonces the update reports are below `u64::MAX`. -/
def NoncesBelowMax : Update SourceHash → Prop
  | .sourceNoncesUpdated _ nonces => nonces.newNonces.2 < 2 ^ 64 - 1
  | .bestTargetNoncesUpdated nonces _ => nonces.latestNonce < 2 ^ 64 - 1
  | .finalizedTargetNoncesUpdated nonces => nonces.latestNonce < 2 ^ 64 - 1
  | .resetBestTargetNonces => True

instance (update : Update SourceHash) : Decidable update.NoncesBelowMax := by
  cases update <;> unfold NoncesBelowMax <;> infer_instance

/-- A report of the source has a nonce. -/
def ReportsNonEmpty : Update SourceHash → Prop
  | .sourceNoncesUpdated _ nonces => nonces.newNonces.1 ≤ nonces.newNonces.2
  | _ => True

/-- The last finalized target nonce after the update, `finalized` before it. -/
def finalizedAfter : Update SourceHash → Option ℕ → Option ℕ
  | .finalizedTargetNoncesUpdated nonces, _ => some nonces.latestNonce
  | _, finalized => finalized

/-- The update leaves the best target nonce at or above the finalized one. -/
def KeepsFinalized : Update SourceHash → Option ℕ → Prop
  | .bestTargetNoncesUpdated nonces _, finalized => ∀ f ∈ finalized, f ≤ nonces.latestNonce
  | .resetBestTargetNonces, finalized => finalized = none
  | _, _ => True

end Update

/-- The strategy after the updates, in order. -/
def run : BasicStrategy SourceHash (ℕ × ℕ) → List (Update SourceHash) →
    BasicStrategy SourceHash (ℕ × ℕ)
  | strategy, [] => strategy
  | strategy, update :: updates => run (update.apply strategy) updates

/-- The last finalized target nonce after the updates, `finalized` before them. -/
def lastFinalized : Option ℕ → List (Update SourceHash) → Option ℕ
  | finalized, [] => finalized
  | finalized, update :: updates => lastFinalized (update.finalizedAfter finalized) updates

/-- After each finalized target nonce, the best target nonce is neither reset nor reported below
it. -/
def KeepsFinalized : Option ℕ → List (Update SourceHash) → Prop
  | _, [] => True
  | finalized, update :: updates =>
    update.KeepsFinalized finalized ∧ KeepsFinalized (update.finalizedAfter finalized) updates

theorem filterMap_sourceHeaderNumber_cons (update : Update SourceHash)
    (updates : List (Update SourceHash)) :
    (update :: updates).filterMap Update.sourceHeaderNumber =
      update.sourceHeaderNumber.toList ++ updates.filterMap Update.sourceHeaderNumber := by
  cases update <;> rfl

/-- Each entry after an update was queued before it at the same header, or is the update's own
report. -/
theorem header_mem_apply (update : Update SourceHash) {entry : HeaderId SourceHash × (ℕ × ℕ)}
    (h : entry ∈ (update.apply strategy).sourceQueue) :
    (∃ range, (entry.1, range) ∈ strategy.sourceQueue) ∨
      entry.1.number ∈ update.sourceHeaderNumber := by
  cases update with
  | sourceNoncesUpdated atBlock nonces =>
    rcases strategy.mem_sourceNoncesUpdated.mp h with hqueued | ⟨range, -, rfl⟩
    · exact .inl ⟨entry.2, hqueued⟩
    · exact .inr rfl
  | finalizedTargetNoncesUpdated nonces =>
    rcases mem_removeLeNoncesFromSourceQueue h with hqueued | ⟨range, hqueued, -⟩
    · exact .inl ⟨entry.2, hqueued⟩
    · exact .inl ⟨range, hqueued⟩
  | bestTargetNoncesUpdated | resetBestTargetNonces => exact .inl ⟨entry.2, h⟩

/-- Every update with nonces below `u64::MAX` keeps the strategy below it: the new best target
nonce is the old one or the finalized one. -/
theorem belowMax_apply {update : Update SourceHash} (h : BelowMax strategy)
    (hupdate : update.NoncesBelowMax) : BelowMax (update.apply strategy) := by
  cases update with
  | sourceNoncesUpdated atBlock nonces => exact strategy.belowMax_sourceNoncesUpdated h atBlock hupdate
  | bestTargetNoncesUpdated nonces raceState =>
    refine ⟨h.1, fun best hbest ↦ ?_⟩
    obtain rfl : nonces.latestNonce = best := Option.some_inj.mp hbest
    exact hupdate
  | finalizedTargetNoncesUpdated nonces =>
    have hlt : nonces.latestNonce < 2 ^ 64 - 1 := hupdate
    refine ⟨endBelowMax_removeLe _ h.1, fun best hbest ↦ ?_⟩
    obtain rfl := Option.some_inj.mp hbest
    cases hold : strategy.bestTargetNonce with
    | none => simpa using hlt
    | some old => simpa using ⟨h.2 old hold, hlt⟩
  | resetBestTargetNonces => exact ⟨h.1, fun _ hbest ↦ by cases hbest⟩

theorem rangesAscending_apply (update : Update SourceHash) (hbelow : BelowMax strategy)
    (h : RangesAscending strategy.sourceQueue) :
    RangesAscending (update.apply strategy).sourceQueue := by
  cases update with
  | sourceNoncesUpdated atBlock nonces =>
    exact strategy.rangesAscending_sourceNoncesUpdated hbelow h _ _
  | finalizedTargetNoncesUpdated nonces => exact rangesAscending_removeLe _ h
  | bestTargetNoncesUpdated | resetBestTargetNonces => exact h

theorem headersAscending_apply (update : Update SourceHash)
    (h : HeadersAscending strategy.sourceQueue)
    (hbefore : ∀ entry ∈ strategy.sourceQueue, ∀ n ∈ update.sourceHeaderNumber,
      entry.1.number ≤ n) :
    HeadersAscending (update.apply strategy).sourceQueue := by
  cases update with
  | sourceNoncesUpdated atBlock nonces =>
    exact strategy.headersAscending_sourceNoncesUpdated h
      (fun entry hentry ↦ hbefore entry hentry _ rfl) _
  | finalizedTargetNoncesUpdated nonces => exact headersAscending_removeLe _ h
  | bestTargetNoncesUpdated | resetBestTargetNonces => exact h

theorem rangesNonEmpty_apply {update : Update SourceHash}
    (h : RangesNonEmpty strategy.sourceQueue) (hreport : update.ReportsNonEmpty) :
    RangesNonEmpty (update.apply strategy).sourceQueue := by
  cases update with
  | sourceNoncesUpdated atBlock nonces =>
    exact strategy.rangesNonEmpty_sourceNoncesUpdated h atBlock hreport
  | finalizedTargetNoncesUpdated nonces => exact rangesNonEmpty_removeLe _ h
  | bestTargetNoncesUpdated | resetBestTargetNonces => exact h

/-- Every update that keeps the finalized nonce keeps the queue above it: a finalized update cuts
the queue at its own nonce, and a reset comes only before any. -/
theorem aboveFinalized_apply {update : Update SourceHash} {finalized : Option ℕ}
    (hbelow : BelowMax strategy) (hupdate : update.NoncesBelowMax)
    (hascending : RangesAscending strategy.sourceQueue) (h : AboveFinalized finalized strategy)
    (hkeeps : update.KeepsFinalized finalized) :
    AboveFinalized (update.finalizedAfter finalized) (update.apply strategy) := by
  cases update with
  | sourceNoncesUpdated atBlock nonces =>
    exact strategy.aboveFinalized_sourceNoncesUpdated hbelow h _ _
  | bestTargetNoncesUpdated nonces raceState =>
    intro f hf
    exact ⟨⟨nonces.latestNonce, rfl, hkeeps f hf⟩, (h f hf).2⟩
  | finalizedTargetNoncesUpdated nonces =>
    rintro f ⟨⟩
    exact ⟨⟨_, rfl, le_max_right _ _⟩, fun entry hentry ↦ gt_of_mem_removeLe hupdate hascending hentry⟩
  | resetBestTargetNonces =>
    intro f hf
    have hnone : finalized = none := hkeeps
    change f ∈ finalized at hf
    rw [hnone] at hf
    cases hf

/-- **No nonce wraps along a run whose reports are below `u64::MAX`.** -/
theorem belowMax_run (updates : List (Update SourceHash)) (h : BelowMax strategy)
    (hupdates : ∀ update ∈ updates, update.NoncesBelowMax) : BelowMax (strategy.run updates) := by
  induction updates generalizing strategy with
  | nil => exact h
  | cons update updates ih =>
    exact ih _ (strategy.belowMax_apply h (hupdates update (List.mem_cons_self ..)))
      fun update hupdate ↦ hupdates update (List.mem_cons_of_mem _ hupdate)

/-- **The ranges ascend along every run whose reports are below `u64::MAX`.** -/
theorem rangesAscending_run (updates : List (Update SourceHash)) (hbelow : BelowMax strategy)
    (hupdates : ∀ update ∈ updates, update.NoncesBelowMax)
    (h : RangesAscending strategy.sourceQueue) :
    RangesAscending (strategy.run updates).sourceQueue := by
  induction updates generalizing strategy with
  | nil => exact h
  | cons update updates ih =>
    have hupdate := hupdates update (List.mem_cons_self ..)
    exact ih _ (strategy.belowMax_apply hbelow hupdate)
      (fun update hupdate ↦ hupdates update (List.mem_cons_of_mem _ hupdate))
      (strategy.rangesAscending_apply update hbelow h)

/-- **The header numbers ascend along a run whose reports come at ascending headers.**  The
header of each queued entry is at most that of every report still to come. -/
theorem headersAscending_run (updates : List (Update SourceHash))
    (h : HeadersAscending strategy.sourceQueue)
    (hbefore : ∀ entry ∈ strategy.sourceQueue,
      ∀ n ∈ updates.filterMap Update.sourceHeaderNumber, entry.1.number ≤ n)
    (hsorted : (updates.filterMap Update.sourceHeaderNumber).Pairwise (· ≤ ·)) :
    HeadersAscending (strategy.run updates).sourceQueue := by
  induction updates generalizing strategy with
  | nil => exact h
  | cons update updates ih =>
    rw [filterMap_sourceHeaderNumber_cons] at hbefore hsorted
    obtain ⟨-, hrest, hreport⟩ := List.pairwise_append.mp hsorted
    refine ih _ (strategy.headersAscending_apply update h
      fun entry hentry n hn ↦ hbefore entry hentry n (by simp [Option.mem_def.mp hn])) ?_ hrest
    intro entry hentry n hn
    rcases strategy.header_mem_apply update hentry with ⟨range, hqueued⟩ | hnew
    · exact hbefore _ hqueued n (List.mem_append_right _ hn)
    · exact hreport _ (by simp [Option.mem_def.mp hnew]) n hn

/-- **The ranges stay non-empty along a run whose reports are non-empty.** -/
theorem rangesNonEmpty_run (updates : List (Update SourceHash))
    (h : RangesNonEmpty strategy.sourceQueue)
    (hreports : ∀ update ∈ updates, update.ReportsNonEmpty) :
    RangesNonEmpty (strategy.run updates).sourceQueue := by
  induction updates generalizing strategy with
  | nil => exact h
  | cons update updates ih =>
    exact ih _ (strategy.rangesNonEmpty_apply h (hreports update (List.mem_cons_self ..)))
      fun update hupdate ↦ hreports update (List.mem_cons_of_mem _ hupdate)

/-- **The queue stays above the last finalized target nonce** along a run that keeps the best
target nonce at or above it. -/
theorem aboveFinalized_run (updates : List (Update SourceHash)) {finalized : Option ℕ}
    (hbelow : BelowMax strategy) (hupdates : ∀ update ∈ updates, update.NoncesBelowMax)
    (hascending : RangesAscending strategy.sourceQueue) (h : AboveFinalized finalized strategy)
    (hkeeps : KeepsFinalized finalized updates) :
    AboveFinalized (lastFinalized finalized updates) (strategy.run updates) := by
  induction updates generalizing strategy finalized with
  | nil => exact h
  | cons update updates ih =>
    obtain ⟨hkeep, hkeeps⟩ := hkeeps
    have hupdate := hupdates update (List.mem_cons_self ..)
    exact ih _ (strategy.belowMax_apply hbelow hupdate)
      (fun update hupdate ↦ hupdates update (List.mem_cons_of_mem _ hupdate))
      (strategy.rangesAscending_apply update hbelow hascending)
      (strategy.aboveFinalized_apply hbelow hupdate hascending h hkeep) hkeeps

/-! ## Selection -/

/-- **What a selection from an ascending queue is**: a range from above the best target nonce,
in which every queued nonce was read at a source header the best target block has finalized. -/
theorem selectNoncesToDeliver_spec {strategy : BasicStrategy SourceHash (ℕ × ℕ)}
    {raceState : RaceState SourceHash} {range : ℕ × ℕ}
    (hascending : RangesAscending strategy.sourceQueue)
    (h : strategy.selectNoncesToDeliver raceState = some range) :
    ∃ bestTargetNonce bestHeaderAtTarget, strategy.bestTargetNonce = some bestTargetNonce ∧
      raceState.bestFinalizedSourceHeaderIdAtBestTarget = some bestHeaderAtTarget ∧
      bestTargetNonce < range.1 ∧
      ∀ entry ∈ strategy.sourceQueue, ∀ nonce, entry.2.1 ≤ nonce → nonce ≤ entry.2.2 →
        range.1 ≤ nonce → nonce ≤ range.2 → entry.1.number ≤ bestHeaderAtTarget.number := by
  obtain ⟨beginIndex, endIndex, bestTargetNonce, havailable, hbest, rfl⟩ :=
    selectNoncesToDeliver_eq_some h
  obtain ⟨bestTargetNonce', bestHeaderAtTarget, hbest', hheader, -, hbefore, -, hfinalized⟩ :=
    availableSourceQueueIndices_spec havailable
  obtain rfl : bestTargetNonce = bestTargetNonce' := Option.some_inj.mp (hbest.symm.trans hbest')
  refine ⟨bestTargetNonce, bestHeaderAtTarget, hbest, hheader, by simp, ?_⟩
  intro entry hentry nonce hbegin hend hfrom hto
  obtain ⟨k, hk, rfl⟩ := List.mem_iff_getElem.mp hentry
  simp only [begin_rangeInclusive, endNonce_rangeInclusive, Fin.getElem_fin] at hfrom hto
  have hafterBegin : beginIndex ≤ ⟨k, hk⟩ := by
    by_contra hlt
    have hle := hbefore ⟨k, hk⟩ (Fin.not_le.mp hlt)
    simp only [endNonce_rangeInclusive, Fin.getElem_fin] at hle
    omega
  have hbeforeEnd : ⟨k, hk⟩ ≤ endIndex := by
    by_contra hlt
    have hlt' := (List.pairwise_iff_getElem.mp hascending endIndex k endIndex.isLt hk
      (Fin.not_le.mp hlt)).1
    omega
  simpa using hfinalized ⟨k, hk⟩ hafterBegin hbeforeEnd

/-- **A selection from an ascending queue of non-empty ranges is non-empty**, and begins and ends
at queued nonces. -/
theorem selectNoncesToDeliver_nonEmpty {strategy : BasicStrategy SourceHash (ℕ × ℕ)}
    {raceState : RaceState SourceHash} {range : ℕ × ℕ}
    (hascending : RangesAscending strategy.sourceQueue)
    (hnonEmpty : RangesNonEmpty strategy.sourceQueue)
    (h : strategy.selectNoncesToDeliver raceState = some range) :
    range.1 ≤ range.2 ∧
      (∃ entry ∈ strategy.sourceQueue, entry.2.1 ≤ range.1 ∧ range.1 ≤ entry.2.2) ∧
      ∃ entry ∈ strategy.sourceQueue, entry.2.1 ≤ range.2 ∧ range.2 = entry.2.2 := by
  obtain ⟨beginIndex, endIndex, bestTargetNonce, havailable, hbest, rfl⟩ :=
    selectNoncesToDeliver_eq_some h
  obtain ⟨bestTargetNonce', -, hbest', -, hlt, -, hle, -⟩ :=
    availableSourceQueueIndices_spec havailable
  obtain rfl : bestTargetNonce = bestTargetNonce' := Option.some_inj.mp (hbest.symm.trans hbest')
  have hfirst := hnonEmpty _ (List.getElem_mem beginIndex.isLt)
  have hlast := hnonEmpty _ (List.getElem_mem endIndex.isLt)
  have hends : strategy.sourceQueue[beginIndex].2.2 ≤ strategy.sourceQueue[endIndex].2.2 := by
    rcases Fin.eq_or_lt_of_le hle with heq | hlt'
    · rw [heq]
    · exact Nat.le_of_lt (List.pairwise_iff_getElem.mp hascending beginIndex endIndex
        beginIndex.isLt endIndex.isLt hlt').2
  simp only [begin_rangeInclusive, endNonce_rangeInclusive, Fin.getElem_fin] at hlt hfirst hlast hends ⊢
  exact ⟨by omega, ⟨_, List.getElem_mem beginIndex.isLt, by omega, by omega⟩,
    ⟨_, List.getElem_mem endIndex.isLt, hlast, rfl⟩⟩

/-! ## Every run from `BasicStrategy::new` -/

/-- **The source queue along every run from `BasicStrategy::new`** whose reports come at source
headers of non-decreasing numbers: the ranges ascend and so do their header numbers; with
non-empty reports the ranges are non-empty; every queued nonce is above the last finalized target
nonce while the best target nonce is kept at or above it; and a selection begins above the best
target nonce, holds queued nonces read only at source headers the best target block has
finalized, and with non-empty reports is non-empty and begins and ends at queued nonces. -/
theorem run_sourceQueue (updates : List (Update SourceHash))
    (hsorted : (updates.filterMap Update.sourceHeaderNumber).Pairwise (· ≤ ·))
    (hbelow : ∀ update ∈ updates, update.NoncesBelowMax) :
    let strategy := run new updates
    RangesAscending strategy.sourceQueue ∧ HeadersAscending strategy.sourceQueue ∧
      ((∀ update ∈ updates, update.ReportsNonEmpty) → RangesNonEmpty strategy.sourceQueue) ∧
      (KeepsFinalized none updates → ∀ f ∈ lastFinalized none updates,
        ∀ entry ∈ strategy.sourceQueue, ∀ nonce, entry.2.1 ≤ nonce → nonce ≤ entry.2.2 →
          f < nonce) ∧
      ∀ raceState range, strategy.selectNoncesToDeliver raceState = some range →
        ∃ bestTargetNonce bestHeaderAtTarget, strategy.bestTargetNonce = some bestTargetNonce ∧
          raceState.bestFinalizedSourceHeaderIdAtBestTarget = some bestHeaderAtTarget ∧
          bestTargetNonce < range.1 ∧
          (∀ entry ∈ strategy.sourceQueue, ∀ nonce, entry.2.1 ≤ nonce → nonce ≤ entry.2.2 →
            range.1 ≤ nonce → nonce ≤ range.2 → entry.1.number ≤ bestHeaderAtTarget.number) ∧
          ((∀ update ∈ updates, update.ReportsNonEmpty) → range.1 ≤ range.2 ∧
            (∃ entry ∈ strategy.sourceQueue, entry.2.1 ≤ range.1 ∧ range.1 ≤ entry.2.2) ∧
            ∃ entry ∈ strategy.sourceQueue, entry.2.1 ≤ range.2 ∧ range.2 = entry.2.2) := by
  intro strategy
  have hnew : BelowMax (new : BasicStrategy SourceHash (ℕ × ℕ)) := by
    unfold BelowMax
    exact ⟨fun _ hentry ↦ (by cases hentry), fun _ hbest ↦ (by cases hbest)⟩
  have hascending : RangesAscending strategy.sourceQueue :=
    new.rangesAscending_run updates hnew hbelow List.Pairwise.nil
  have hnonEmpty (hreports : ∀ update ∈ updates, update.ReportsNonEmpty) :
      RangesNonEmpty strategy.sourceQueue :=
    new.rangesNonEmpty_run updates (fun _ hentry ↦ by cases hentry) hreports
  refine ⟨hascending, new.headersAscending_run updates List.Pairwise.nil
    (fun _ hentry ↦ by cases hentry) hsorted, hnonEmpty, ?_, ?_⟩
  · intro hkeeps f hf entry hentry nonce hbegin _
    have habove := new.aboveFinalized_run updates hnew hbelow List.Pairwise.nil
      (fun _ hf ↦ by cases hf) hkeeps
    exact lt_of_lt_of_le ((habove f hf).2 entry hentry).1 hbegin
  · intro raceState range hrange
    obtain ⟨bestTargetNonce, bestHeaderAtTarget, hbest, hheader, hlt, hfinalized⟩ :=
      selectNoncesToDeliver_spec hascending hrange
    exact ⟨bestTargetNonce, bestHeaderAtTarget, hbest, hheader, hlt, hfinalized,
      fun hreports ↦ selectNoncesToDeliver_nonEmpty hascending (hnonEmpty hreports) hrange⟩

/-- The source headers `1` and `2` are finalized at the best target block, and nothing is in
flight. -/
def headerTwoRaceState : RaceState ℕ := ⟨some ⟨2, 2⟩, none, none⟩

/-- The run of the source's test of a reorganisation at the target: the best target nonce is `0`,
nonce `1` is read at source header `1` and nonce `2` at source header `2`; the best target block
gets nonce `1` and is retracted, and a fork with no nonce is finalized. -/
def reorgUpdates : List (Update ℕ) :=
  [.bestTargetNoncesUpdated ⟨0, ()⟩ headerTwoRaceState,
    .sourceNoncesUpdated ⟨1, 1⟩ ⟨(1, 1), none⟩,
    .sourceNoncesUpdated ⟨2, 2⟩ ⟨(2, 2), none⟩,
    .bestTargetNoncesUpdated ⟨1, ()⟩ headerTwoRaceState,
    .bestTargetNoncesUpdated ⟨0, ()⟩ headerTwoRaceState,
    .finalizedTargetNoncesUpdated ⟨0, ()⟩]

/-- After the reorganisation nonces `1..=2` are selected again, each read at a source header the
best target block has finalized. -/
theorem run_sourceQueue_reorg :
    (run new reorgUpdates).selectNoncesToDeliver headerTwoRaceState = some (1, 2) ∧
      ∀ entry ∈ (run new reorgUpdates).sourceQueue, ∀ nonce, entry.2.1 ≤ nonce →
        nonce ≤ entry.2.2 → 1 ≤ nonce → nonce ≤ 2 → entry.1.number ≤ 2 := by
  have hselect : (run new reorgUpdates).selectNoncesToDeliver headerTwoRaceState = some (1, 2) := by
    decide
  obtain ⟨-, -, -, -, hselection⟩ := run_sourceQueue reorgUpdates (by decide) (by decide)
  obtain ⟨-, bestHeaderAtTarget, -, hheader, -, hfinalized, -⟩ := hselection _ _ hselect
  obtain rfl : bestHeaderAtTarget = ⟨2, 2⟩ := (Option.some_inj.mp hheader).symm
  exact ⟨hselect, hfinalized⟩

/-- The source header `1` is finalized at the best target block, and nothing is in flight. -/
def headerOneRaceState : RaceState ℕ := ⟨some ⟨1, 1⟩, none, none⟩

/-- Target nonce `5` is finalized, the best target nonce is reset, and the source reports
`1..=10`. -/
def resetUpdates : List (Update ℕ) :=
  [.finalizedTargetNoncesUpdated ⟨5, ()⟩, .resetBestTargetNonces,
    .sourceNoncesUpdated ⟨1, 1⟩ ⟨(1, 10), none⟩]

/-- The source reports the empty range `5..=3`, and the best target nonce is `0`. -/
def emptyReportUpdates : List (Update ℕ) :=
  [.sourceNoncesUpdated ⟨1, 1⟩ ⟨(5, 3), none⟩, .bestTargetNoncesUpdated ⟨0, ()⟩ headerOneRaceState]

/-- The source reports `1..=2` and then `5..=6`, and the best target nonce is `0`. -/
def gapUpdates : List (Update ℕ) :=
  [.sourceNoncesUpdated ⟨1, 1⟩ ⟨(1, 2), none⟩, .sourceNoncesUpdated ⟨1, 1⟩ ⟨(5, 6), none⟩,
    .bestTargetNoncesUpdated ⟨0, ()⟩ headerOneRaceState]

/-- The source reports `1..=u64::MAX` and then `1..=5`, and target nonce `u64::MAX` is finalized. -/
def wrapUpdates : List (Update ℕ) :=
  [.sourceNoncesUpdated ⟨1, 1⟩ ⟨(1, 2 ^ 64 - 1), none⟩, .sourceNoncesUpdated ⟨2, 2⟩ ⟨(1, 5), none⟩,
    .finalizedTargetNoncesUpdated ⟨2 ^ 64 - 1, ()⟩]

/-- Without the conditions: after a reset the finalized nonces `1..=5` are queued again; an empty
report is selected as the empty range `5..=3`; a selection across a gap holds nonce `3`, which no
report had; and at `u64::MAX`, where `nonce + 1` wraps to `0`, `1..=5` is queued again after a range
that ends at `u64::MAX`, and the finalization of `u64::MAX` removes nothing. -/
theorem run_sourceQueue_unconditional :
    (lastFinalized none resetUpdates = some 5 ∧
      (run new resetUpdates).sourceQueue = [(⟨1, 1⟩, (1, 10))]) ∧
    (run new emptyReportUpdates).selectNoncesToDeliver headerOneRaceState = some (5, 3) ∧
    ((run new gapUpdates).selectNoncesToDeliver headerOneRaceState = some (1, 6) ∧
      ∀ entry ∈ (run new gapUpdates).sourceQueue, ¬ (entry.2.1 ≤ 3 ∧ 3 ≤ entry.2.2)) ∧
    lastFinalized none wrapUpdates = some (2 ^ 64 - 1) ∧
      (run new wrapUpdates).sourceQueue = [(⟨1, 1⟩, (1, 2 ^ 64 - 1)), (⟨2, 2⟩, (1, 5))] := by
  decide

end BasicStrategy

end Relay
