import SoloParaBridge.Messages.Pallet
import SoloParaBridge.Relay.BasicStrategy

/-!
# The relay's choice of messages to deliver

The delivery race of the messages relay submits to the target chain proofs of the messages its
inbound lane has not received yet.  `MessageDeliveryStrategy::select_race_action` picks what the
next proof holds:

* nothing while an earlier choice is still being proved or submitted;
* whether the proof carries the source's outbound lane state, which confirms messages to the
  target: whenever the source has confirmed more than the target knows;
* nothing if the target's queue of unrewarded relayers is full (or too many messages are
  unconfirmed) and the confirmations the proof carries do not free the oldest entry;
* otherwise the nonces of `MessageRaceLimits::decide`: from the basic strategy's available queue
  entries, the ready nonces above the best target nonce, as many as the target's unconfirmed
  limit, the batch limit, the weight limit and the size limit allow — the first one taken even
  if it is alone above a limit;
* failing that, the empty range `1..=0` when it alone may unblock the lane.

The `BTreeMap` of message details is its list of entries in increasing nonce order.  The relay's
clients, metrics and logs are left out; so are the rewards of `MessageDetails`, which nothing here
reads.  Nonces are `ℕ` on the relay side: the relay's `u64` additions are exact below `u64::MAX`.
-/

set_option autoImplicit false

namespace Messages.Weight

/-- `Weight::zero()`. -/
def zero : Weight := ⟨0, 0⟩

/-- `Weight::MAX`: `u64::MAX` in both dimensions. -/
def MAX : Weight := ⟨2 ^ 64 - 1, 2 ^ 64 - 1⟩

/-- `checked_add`, in both dimensions as `u64`. -/
def checkedAdd (a b : Weight) : Option Weight := do
  let refTime ← Unsigned.checkedAdd 64 a.refTime b.refTime
  let proofSize ← Unsigned.checkedAdd 64 a.proofSize b.proofSize
  some ⟨refTime, proofSize⟩

/-- `saturating_add`, in both dimensions as `u64`. -/
def saturatingAdd (a b : Weight) : Weight :=
  ⟨Unsigned.saturatingAdd 64 a.refTime b.refTime, Unsigned.saturatingAdd 64 a.proofSize b.proofSize⟩

/-- `all_lte`: `a` is within `b` in both dimensions. -/
def allLte (a b : Weight) : Bool := decide (a.refTime ≤ b.refTime ∧ a.proofSize ≤ b.proofSize)

end Messages.Weight

namespace Relay

open Messages HeaderChain NoncesRange

/-! ## The relay's view of the lane -/

/-- `MessageDetails`, with what the delivery race reads of it. -/
structure MessageDetails where
  dispatchWeight : Weight
  /-- The size of the encoded payload, a `u32`. -/
  size : ℕ
  deriving DecidableEq, Repr

/-- `MessageDetailsMap`: a `BTreeMap` from nonces, as its entries in increasing nonce order. -/
structure MessageDetailsMap where
  entries : List (ℕ × MessageDetails)
  sorted : (entries.map Prod.fst).Pairwise (· < ·)

/-- `NoncesRange for MessageDetailsMap`: the first and the last key (`0` for an empty map), and
`split_off(&(nonce + 1))`, unless it is empty. -/
instance : NoncesRange MessageDetailsMap where
  begin m := (m.entries.head?.map Prod.fst).getD 0
  endNonce m := (m.entries.getLast?.map Prod.fst).getD 0
  greaterThan m nonce :=
    let gte := m.entries.filter fun entry ↦ decide (Unsigned.wrappingAdd 64 nonce 1 ≤ entry.1)
    if gte.isEmpty then none
    else some ⟨gte, m.sorted.sublist (List.filter_sublist.map Prod.fst)⟩

/-- `DeliveryRaceTargetNoncesData`. -/
structure DeliveryRaceTargetNoncesData where
  confirmedNonce : ℕ
  unrewardedRelayers : UnrewardedRelayersState

/-- `MessageProofParameters`. -/
structure MessageProofParameters where
  outboundStateProofRequired : Bool
  dispatchWeight : Weight
  deriving DecidableEq, Repr

/-- `MessageDeliveryStrategy`, past its clients and metrics. -/
structure MessageDeliveryStrategy (SourceHash : Type) where
  maxUnrewardedRelayerEntriesAtTarget : ℕ
  maxUnconfirmedNoncesAtTarget : ℕ
  maxMessagesInSingleBatch : ℕ
  maxMessagesWeightInSingleBatch : Weight
  /-- A `u32`. -/
  maxMessagesSizeInSingleBatch : ℕ
  /-- The source's confirmed nonces, each with the source header where it was first seen. -/
  latestConfirmedNoncesAtSource : List (HeaderId SourceHash × ℕ)
  targetNonces : Option (TargetClientNonces DeliveryRaceTargetNoncesData)
  strategy : BasicStrategy SourceHash MessageDetailsMap

variable {SourceHash : Type}

/-! ## `MessageRaceLimits::decide` -/

/-- `RelayMessagesBatchReference`, with what `decide` reads.  The ends of the queue range are
indices of the queue: `decide` reads the entries between them. -/
structure RelayMessagesBatchReference (SourceHash : Type) where
  maxMessagesInThisBatch : ℕ
  maxMessagesWeightInSingleBatch : Weight
  maxMessagesSizeInSingleBatch : ℕ
  bestTargetNonce : ℕ
  noncesQueue : List (HeaderId SourceHash × MessageDetailsMap)
  noncesQueueRange : Fin noncesQueue.length × Fin noncesQueue.length

/-- One limit of the loop of `decide`, on a running total: the checked new total while it is
within the limit, and otherwise `none`, which breaks the loop — but the first message is taken
anyway, with its total, or with `saturated` if the total overflows. -/
def limitNext {β : Type} (newSelected : Option β) (withinLimit : β → Bool) (saturated : β)
    (selectedCount : ℕ) : Option β :=
  match newSelected with
  | some new => if withinLimit new then some new else if selectedCount = 0 then some new else none
  | none => if selectedCount = 0 then some saturated else none

/-- The loop of `decide` over the ready nonces, from the one at `index` on, with the weight, size
and count selected so far: the number of nonces selected when it ends. -/
def decideLoop (maxMessagesInThisBatch : ℕ) (maxMessagesWeightInSingleBatch : Weight)
    (maxMessagesSizeInSingleBatch : ℕ) :
    List (ℕ × MessageDetails) → ℕ → Weight → ℕ → ℕ → ℕ → ℕ
  | [], _, _, _, _, hardSelectedCount => hardSelectedCount
  | (_, details) :: readyNonces, index, selectedWeight, selectedSize, selectedCount,
      hardSelectedCount =>
    match limitNext (selectedWeight.checkedAdd details.dispatchWeight)
        (·.allLte maxMessagesWeightInSingleBatch) Weight.MAX selectedCount,
      limitNext (Unsigned.checkedAdd 32 selectedSize details.size)
        (fun size ↦ decide (size ≤ maxMessagesSizeInSingleBatch)) (2 ^ 32 - 1) selectedCount with
    | some newSelectedWeight, some newSelectedSize =>
      let newSelectedCount := selectedCount + 1
      if maxMessagesInThisBatch < newSelectedCount then hardSelectedCount
      else
        decideLoop maxMessagesInThisBatch maxMessagesWeightInSingleBatch
          maxMessagesSizeInSingleBatch readyNonces (index + 1) newSelectedWeight newSelectedSize
          newSelectedCount (index + 1)
    | _, _ => hardSelectedCount

namespace RelayMessagesBatchReference

variable (reference : RelayMessagesBatchReference SourceHash)

/-- `hard_selected_begin_nonce`: the first nonce the target may take, after its best nonce and
not before the first available entry. -/
def hardSelectedBeginNonce : ℕ :=
  max (reference.bestTargetNonce + 1) (begin reference.noncesQueue[reference.noncesQueueRange.1].2)

/-- `all_ready_nonces`: the messages of the available entries, in order, from the hard begin
nonce on. -/
def allReadyNonces : List (ℕ × MessageDetails) :=
  (((reference.noncesQueue.drop reference.noncesQueueRange.1).take
      (reference.noncesQueueRange.2 + 1 - reference.noncesQueueRange.1)).flatMap
    fun entry ↦ entry.2.entries).filter fun entry ↦
      Decidable.decide (reference.hardSelectedBeginNonce ≤ entry.1)

end RelayMessagesBatchReference

/-- `MessageRaceLimits::decide`: the nonces from the first one the target may take, as many as
the loop selects, or `None` when it selects none. -/
def MessageRaceLimits.decide (reference : RelayMessagesBatchReference SourceHash) :
    Option (ℕ × ℕ) :=
  let hardSelectedBeginNonce := reference.hardSelectedBeginNonce
  let hardSelectedCount := decideLoop reference.maxMessagesInThisBatch
    reference.maxMessagesWeightInSingleBatch reference.maxMessagesSizeInSingleBatch
    reference.allReadyNonces 0 Weight.zero 0 0 0
  if hardSelectedCount ≠ 0 then
    some (hardSelectedBeginNonce, hardSelectedBeginNonce + hardSelectedCount - 1)
  else none

/-- The loop never selects more than the batch allows: the enumerate index, the count and the
hard count move together, and the count is checked against the limit before it grows. -/
theorem decideLoop_le {maxCount sizeLimit : ℕ} {weightLimit : Weight}
    (readyNonces : List (ℕ × MessageDetails)) :
    ∀ (selected : ℕ) (selectedWeight : Weight) (selectedSize : ℕ), selected ≤ maxCount →
      decideLoop maxCount weightLimit sizeLimit readyNonces selected selectedWeight selectedSize
        selected selected ≤ maxCount := by
  induction readyNonces with
  | nil => exact fun _ _ _ h ↦ h
  | cons entry readyNonces ih =>
    intro selected selectedWeight selectedSize h
    rw [decideLoop]
    split
    · dsimp only
      split
      · exact h
      · exact ih _ _ _ (by omega)
    · exact h

/-- `decide` selects a non-empty range from the first nonce the target may take, no longer than
the batch allows. -/
theorem MessageRaceLimits.decide_eq_some {reference : RelayMessagesBatchReference SourceHash}
    {b e : ℕ} (h : MessageRaceLimits.decide reference = some (b, e)) :
    b = max (reference.bestTargetNonce + 1)
        (begin reference.noncesQueue[reference.noncesQueueRange.1].2) ∧
      b ≤ e ∧ e + 1 - b ≤ reference.maxMessagesInThisBatch := by
  rw [MessageRaceLimits.decide] at h
  split_ifs at h with hcount
  obtain ⟨rfl, rfl⟩ := Prod.mk.inj (Option.some.inj h)
  generalize hloop : decideLoop _ _ _ _ 0 Weight.zero 0 0 0 = count at hcount ⊢
  have hle : count ≤ reference.maxMessagesInThisBatch :=
    hloop ▸ decideLoop_le _ 0 Weight.zero 0 (Nat.zero_le _)
  exact ⟨rfl, by omega, by omega⟩

/-! ## What `decide` selects

`decide` is greedy: it takes ready messages while their running totals stay within the limits,
and stops at the first that does not fit.  Since the totals only grow, that is the longest prefix
of the ready messages that fits, cut at the batch limit — unless the very first message does not
fit alone, which is taken anyway. -/

/-- The total dispatch weight of some messages, in each dimension. -/
def weightTotal (messages : List (ℕ × MessageDetails)) : Weight :=
  ⟨(messages.map fun message ↦ message.2.dispatchWeight.refTime).sum,
    (messages.map fun message ↦ message.2.dispatchWeight.proofSize).sum⟩

/-- The total size of some messages. -/
def sizeTotal (messages : List (ℕ × MessageDetails)) : ℕ :=
  (messages.map fun message ↦ message.2.size).sum

@[simp] theorem weightTotal_refTime_append (l₁ l₂ : List (ℕ × MessageDetails)) :
    (weightTotal (l₁ ++ l₂)).refTime = (weightTotal l₁).refTime + (weightTotal l₂).refTime := by
  simp [weightTotal]

@[simp] theorem weightTotal_proofSize_append (l₁ l₂ : List (ℕ × MessageDetails)) :
    (weightTotal (l₁ ++ l₂)).proofSize =
      (weightTotal l₁).proofSize + (weightTotal l₂).proofSize := by
  simp [weightTotal]

@[simp] theorem sizeTotal_append (l₁ l₂ : List (ℕ × MessageDetails)) :
    sizeTotal (l₁ ++ l₂) = sizeTotal l₁ + sizeTotal l₂ := by
  simp [sizeTotal]

@[simp] theorem weightTotal_singleton (message : ℕ × MessageDetails) :
    weightTotal [message] = message.2.dispatchWeight := by
  simp [weightTotal]

@[simp] theorem sizeTotal_singleton (message : ℕ × MessageDetails) :
    sizeTotal [message] = message.2.size := by
  simp [sizeTotal]

/-- The first `k` messages fit in one batch: their total weight is within `maxWeight` in both
dimensions, and their total size within `maxSize`. -/
def FitsLimits (maxWeight : Weight) (maxSize : ℕ) (messages : List (ℕ × MessageDetails))
    (k : ℕ) : Prop :=
  (weightTotal (messages.take k)).allLte maxWeight = true ∧ sizeTotal (messages.take k) ≤ maxSize

instance (maxWeight : Weight) (maxSize : ℕ) (messages : List (ℕ × MessageDetails)) (k : ℕ) :
    Decidable (FitsLimits maxWeight maxSize messages k) :=
  inferInstanceAs (Decidable (_ ∧ _))

/-- A message of the relay's types: a `u64` weight in each dimension and a `u32` size. -/
def MessageDetails.Bounded (details : MessageDetails) : Prop :=
  details.dispatchWeight.refTime < 2 ^ 64 ∧ details.dispatchWeight.proofSize < 2 ^ 64 ∧
    details.size < 2 ^ 32

instance (details : MessageDetails) : Decidable details.Bounded :=
  inferInstanceAs (Decidable (_ ∧ _ ∧ _))

theorem allLte_iff {a b : Weight} :
    a.allLte b = true ↔ a.refTime ≤ b.refTime ∧ a.proofSize ≤ b.proofSize := by
  simp [Weight.allLte]

/-- Fewer messages fit whenever more do. -/
theorem FitsLimits.of_le {maxWeight : Weight} {maxSize : ℕ} {messages : List (ℕ × MessageDetails)}
    {j k : ℕ} (h : FitsLimits maxWeight maxSize messages k) (hjk : j ≤ k) :
    FitsLimits maxWeight maxSize messages j := by
  have hsplit : messages.take k = messages.take j ++ (messages.take k).drop j := by
    conv_lhs => rw [← List.take_append_drop j (messages.take k)]
    rw [List.take_take, min_eq_left hjk]
  obtain ⟨hweight, hsize⟩ := h
  rw [hsplit, allLte_iff] at hweight
  rw [hsplit] at hsize
  simp only [weightTotal_refTime_append, weightTotal_proofSize_append] at hweight
  simp only [sizeTotal_append] at hsize
  exact ⟨allLte_iff.mpr ⟨by omega, by omega⟩, by omega⟩

/-- `k` is the longest prefix of `messages` that fits in one batch of at most `maxCount`. -/
structure LongestFit (maxCount : ℕ) (maxWeight : Weight) (maxSize : ℕ)
    (messages : List (ℕ × MessageDetails)) (k : ℕ) : Prop where
  le_maxCount : k ≤ maxCount
  le_length : k ≤ messages.length
  fits : FitsLimits maxWeight maxSize messages k
  maximal : ∀ j, k < j → j ≤ maxCount → j ≤ messages.length →
    ¬ FitsLimits maxWeight maxSize messages j

/-- The weight limit of one step of the loop, past the first message: the exact new total if it
is within the limit, which rules out an overflow. -/
theorem limitNext_weight {maxWeight selectedWeight weight : Weight} {selectedCount : ℕ}
    (hmax : maxWeight.refTime < 2 ^ 64 ∧ maxWeight.proofSize < 2 ^ 64) (hcount : selectedCount ≠ 0) :
    limitNext (selectedWeight.checkedAdd weight) (·.allLte maxWeight) Weight.MAX selectedCount =
      if selectedWeight.refTime + weight.refTime ≤ maxWeight.refTime ∧
          selectedWeight.proofSize + weight.proofSize ≤ maxWeight.proofSize then
        some ⟨selectedWeight.refTime + weight.refTime, selectedWeight.proofSize + weight.proofSize⟩
      else none := by
  unfold limitNext Weight.checkedAdd Unsigned.checkedAdd
  split_ifs <;> simp_all [Weight.allLte] <;> omega

/-- The size limit of one step of the loop, past the first message. -/
theorem limitNext_size {maxSize selectedSize size selectedCount : ℕ} (hmax : maxSize < 2 ^ 32)
    (hcount : selectedCount ≠ 0) :
    limitNext (Unsigned.checkedAdd 32 selectedSize size) (fun size ↦ decide (size ≤ maxSize))
        (2 ^ 32 - 1) selectedCount =
      if selectedSize + size ≤ maxSize then some (selectedSize + size) else none := by
  unfold limitNext Unsigned.checkedAdd
  split_ifs <;> simp_all
  omega

/-- The prefix after `consumed` is `consumed` and the next message. -/
theorem take_succ_of_eq_append {messages consumed rest : List (ℕ × MessageDetails)}
    {message : ℕ × MessageDetails} (hmessages : messages = consumed ++ message :: rest) :
    messages.take (consumed.length + 1) = consumed ++ [message] := by
  rw [hmessages, List.take_append, List.take_of_length_le (by omega)]
  simp

/-- The prefix one message longer fits exactly when the message's weight and size, added to the
totals so far, stay within the limits. -/
theorem fitsLimits_succ_iff {maxWeight : Weight} {maxSize : ℕ}
    {messages consumed rest : List (ℕ × MessageDetails)} {message : ℕ × MessageDetails}
    (hmessages : messages = consumed ++ message :: rest) :
    FitsLimits maxWeight maxSize messages (consumed.length + 1) ↔
      ((weightTotal consumed).refTime + message.2.dispatchWeight.refTime ≤ maxWeight.refTime ∧
        (weightTotal consumed).proofSize + message.2.dispatchWeight.proofSize ≤
          maxWeight.proofSize) ∧
      sizeTotal consumed + message.2.size ≤ maxSize := by
  rw [FitsLimits, take_succ_of_eq_append hmessages, allLte_iff]
  simp only [weightTotal_refTime_append, weightTotal_proofSize_append, weightTotal_singleton,
    sizeTotal_append, sizeTotal_singleton]

/-- **The loop from a prefix that fits** ends with the longest prefix that fits. -/
theorem decideLoop_of_fits {maxCount maxSize : ℕ} {maxWeight : Weight}
    (hmaxWeight : maxWeight.refTime < 2 ^ 64 ∧ maxWeight.proofSize < 2 ^ 64)
    (hmaxSize : maxSize < 2 ^ 32) {messages : List (ℕ × MessageDetails)} :
    ∀ (rest consumed : List (ℕ × MessageDetails)) (k : ℕ), messages = consumed ++ rest →
      consumed ≠ [] → FitsLimits maxWeight maxSize messages consumed.length →
      consumed.length ≤ maxCount →
      decideLoop maxCount maxWeight maxSize rest consumed.length (weightTotal consumed)
          (sizeTotal consumed) consumed.length consumed.length = k →
      consumed.length ≤ k ∧ LongestFit maxCount maxWeight maxSize messages k := by
  intro rest
  induction rest with
  | nil =>
    intro consumed k hmessages _ hfit hle hk
    rw [decideLoop] at hk
    subst hmessages hk
    exact ⟨le_rfl, hle, by simp, hfit, fun j hj _ hlen ↦ by simp at hlen; omega⟩
  | cons message rest ih =>
    intro consumed k hmessages hne hfit hle hk
    have hcount : consumed.length ≠ 0 := by simpa using hne
    rw [decideLoop, limitNext_weight hmaxWeight hcount, limitNext_size hmaxSize hcount] at hk
    by_cases hnext : FitsLimits maxWeight maxSize messages (consumed.length + 1)
    · obtain ⟨hweight, hsize⟩ := (fitsLimits_succ_iff hmessages).mp hnext
      rw [if_pos hweight, if_pos hsize] at hk
      dsimp only at hk
      split_ifs at hk with hfull
      · subst hk
        exact ⟨le_rfl, hle, by rw [hmessages]; simp, hfit, fun j hj hjmax _ ↦ by omega⟩
      · have hih := ih (consumed ++ [message]) k (by simp [hmessages]) (by simp)
          (by simpa using hnext) (by simp; omega)
        have hsame : decideLoop maxCount maxWeight maxSize rest (consumed ++ [message]).length
            (weightTotal (consumed ++ [message])) (sizeTotal (consumed ++ [message]))
            (consumed ++ [message]).length (consumed ++ [message]).length =
          decideLoop maxCount maxWeight maxSize rest (consumed.length + 1)
            ⟨(weightTotal consumed).refTime + message.2.dispatchWeight.refTime,
              (weightTotal consumed).proofSize + message.2.dispatchWeight.proofSize⟩
            (sizeTotal consumed + message.2.size) (consumed.length + 1) (consumed.length + 1) := by
          simp [weightTotal, sizeTotal]
        obtain ⟨hlen, hlongest⟩ := hih (hsame.trans hk)
        exact ⟨by simp at hlen; omega, hlongest⟩
    · rcases not_and_or.mp (mt (fitsLimits_succ_iff hmessages).mpr hnext) with hweight | hsize
      · rw [if_neg hweight] at hk
        subst hk
        exact ⟨le_rfl, hle, by rw [hmessages]; simp, hfit,
          fun j hj _ _ hj' ↦ hnext (hj'.of_le hj)⟩
      · rw [if_neg hsize] at hk
        have hk' : consumed.length = k := by
          split_ifs at hk <;> exact hk
        subst hk'
        exact ⟨le_rfl, hle, by rw [hmessages]; simp, hfit,
          fun j hj _ _ hj' ↦ hnext (hj'.of_le hj)⟩

/-- The first step of the loop takes its message whatever its weight and size. -/
theorem limitNext_zero {β : Type} (newSelected : Option β) (withinLimit : β → Bool)
    (saturated : β) : limitNext newSelected withinLimit saturated 0 = some (newSelected.getD saturated) := by
  unfold limitNext
  cases newSelected <;> simp

/-- **The loop from the start**: it selects nothing exactly when there is no message or the batch
limit is `0`, and otherwise the longest prefix that fits, or the first message alone when that
does not fit. -/
theorem decideLoop_start {maxCount maxSize : ℕ} {maxWeight : Weight}
    (hmaxWeight : maxWeight.refTime < 2 ^ 64 ∧ maxWeight.proofSize < 2 ^ 64)
    (hmaxSize : maxSize < 2 ^ 32) {messages : List (ℕ × MessageDetails)}
    (hbounded : ∀ message ∈ messages, message.2.Bounded) {k : ℕ}
    (hk : decideLoop maxCount maxWeight maxSize messages 0 Weight.zero 0 0 0 = k) :
    (k = 0 ↔ messages = [] ∨ maxCount = 0) ∧
      (0 < k → k ≤ maxCount ∧ k ≤ messages.length ∧
        (FitsLimits maxWeight maxSize messages 1 → LongestFit maxCount maxWeight maxSize messages k) ∧
        (¬ FitsLimits maxWeight maxSize messages 1 → k = 1)) := by
  cases messages with
  | nil =>
    rw [decideLoop] at hk
    subst hk
    simp
  | cons message rest =>
    obtain ⟨hrefTime, hproofSize, hsize⟩ := hbounded message (List.mem_cons_self ..)
    have hweight : Weight.zero.checkedAdd message.2.dispatchWeight =
        some message.2.dispatchWeight := by
      simp only [Weight.checkedAdd, Weight.zero]
      rw [Unsigned.checkedAdd_of_lt (by omega : 0 + message.2.dispatchWeight.refTime < 2 ^ 64),
        Unsigned.checkedAdd_of_lt (by omega : 0 + message.2.dispatchWeight.proofSize < 2 ^ 64)]
      simp
    have hsize' : Unsigned.checkedAdd 32 0 message.2.size = some message.2.size := by
      rw [Unsigned.checkedAdd_of_lt (by omega : 0 + message.2.size < 2 ^ 32), Nat.zero_add]
    rw [decideLoop, limitNext_zero, limitNext_zero, hweight, hsize'] at hk
    simp only [Option.getD_some, Nat.zero_add] at hk
    split_ifs at hk with hfull
    · subst hk
      refine ⟨by simp; omega, fun h ↦ absurd h (Nat.lt_irrefl 0)⟩
    · have hfirst : weightTotal [message] = message.2.dispatchWeight ∧
          sizeTotal [message] = message.2.size := ⟨weightTotal_singleton _, sizeTotal_singleton _⟩
      by_cases hfits : FitsLimits maxWeight maxSize (message :: rest) 1
      · obtain ⟨hle, hlongest⟩ := decideLoop_of_fits hmaxWeight hmaxSize rest [message] k rfl
          (by simp) hfits (show [message].length ≤ maxCount by simp; omega)
          (by rw [List.length_singleton, hfirst.1, hfirst.2]; exact hk)
        simp only [List.length_singleton] at hle
        exact ⟨by simp; omega, fun _ ↦ ⟨hlongest.le_maxCount, hlongest.le_length,
          fun _ ↦ hlongest, fun h ↦ absurd hfits h⟩⟩
      · have hstop : ¬ (message.2.dispatchWeight.refTime ≤ maxWeight.refTime ∧
            message.2.dispatchWeight.proofSize ≤ maxWeight.proofSize) ∨
              ¬ message.2.size ≤ maxSize := by
          have hnot := not_and_or.mp
            (mt (fitsLimits_succ_iff (List.nil_append (message :: rest)).symm).mpr hfits)
          simpa [weightTotal, sizeTotal] using hnot
        have hone : k = 1 := by
          cases rest with
          | nil => rw [decideLoop] at hk; exact hk.symm
          | cons next rest =>
            rw [decideLoop, limitNext_weight hmaxWeight one_ne_zero,
              limitNext_size hmaxSize one_ne_zero] at hk
            rcases hstop with hstop | hstop
            · rw [if_neg (by omega)] at hk
              exact hk.symm
            · split_ifs at hk with hweight hsize
              · omega
              all_goals exact hk.symm
        subst hone
        exact ⟨by simp; omega, fun _ ↦ ⟨by omega, by simp, fun h ↦ absurd h hfits, fun _ ↦ rfl⟩⟩

/-- **What `decide` selects.**  With limits and messages of the relay's types, and ready nonces
that follow each other from the hard begin nonce `b` on: nothing exactly when there is no ready
message or the batch limit is `0`; and otherwise `b..=b+k-1`, the first `k` ready nonces, where
`k` is the longest prefix of them that fits the batch, weight and size limits — or `1` when the
first message alone does not fit — and their totals are below `u64::MAX` and `u32::MAX`. -/
theorem MessageRaceLimits.decide_selects_longestFit
    {reference : RelayMessagesBatchReference SourceHash}
    (hmaxWeight : reference.maxMessagesWeightInSingleBatch.refTime < 2 ^ 64 ∧
      reference.maxMessagesWeightInSingleBatch.proofSize < 2 ^ 64)
    (hmaxSize : reference.maxMessagesSizeInSingleBatch < 2 ^ 32)
    (hbounded : ∀ message ∈ reference.allReadyNonces, message.2.Bounded)
    (hcontiguous : reference.allReadyNonces.map Prod.fst =
      List.range' reference.hardSelectedBeginNonce reference.allReadyNonces.length) :
    let b := reference.hardSelectedBeginNonce
    let ready := reference.allReadyNonces
    let maxWeight := reference.maxMessagesWeightInSingleBatch
    let maxSize := reference.maxMessagesSizeInSingleBatch
    (MessageRaceLimits.decide reference = none ↔
        ready = [] ∨ reference.maxMessagesInThisBatch = 0) ∧
      ∀ range, MessageRaceLimits.decide reference = some range →
        ∃ k, range = (b, b + k - 1) ∧ 0 < k ∧ k ≤ reference.maxMessagesInThisBatch ∧
          (ready.take k).map Prod.fst = List.range' b k ∧
          (FitsLimits maxWeight maxSize ready 1 →
            LongestFit reference.maxMessagesInThisBatch maxWeight maxSize ready k) ∧
          (¬ FitsLimits maxWeight maxSize ready 1 → k = 1) ∧
          (weightTotal (ready.take k)).refTime < 2 ^ 64 ∧
          (weightTotal (ready.take k)).proofSize < 2 ^ 64 ∧ sizeTotal (ready.take k) < 2 ^ 32 := by
  dsimp only
  obtain ⟨hzero, hpos⟩ := decideLoop_start hmaxWeight hmaxSize hbounded rfl
  rw [MessageRaceLimits.decide]
  generalize decideLoop _ _ _ _ 0 Weight.zero 0 0 0 = k at hzero hpos ⊢
  refine ⟨?_, fun range hrange ↦ ?_⟩
  · split_ifs with hk
    · simpa [hk] using hzero.not.mp hk
    · simpa using hzero.mp (not_not.mp hk)
  · split_ifs at hrange with hk
    obtain ⟨hle, hlength, hlongest, hone⟩ := hpos (Nat.pos_of_ne_zero hk)
    have htotals : (weightTotal (reference.allReadyNonces.take k)).refTime < 2 ^ 64 ∧
        (weightTotal (reference.allReadyNonces.take k)).proofSize < 2 ^ 64 ∧ sizeTotal (reference.allReadyNonces.take k) < 2 ^ 32 := by
      by_cases hfits : FitsLimits reference.maxMessagesWeightInSingleBatch
          reference.maxMessagesSizeInSingleBatch reference.allReadyNonces 1
      · obtain ⟨hweight, hsize⟩ := (hlongest hfits).fits
        rw [allLte_iff] at hweight
        exact ⟨by omega, by omega, by omega⟩
      · rw [hone hfits]
        obtain ⟨message, rest, hready⟩ := List.exists_cons_of_length_pos (by omega : 0 < reference.allReadyNonces.length)
        obtain ⟨hrefTime, hproofSize, hsize⟩ := hbounded message (by rw [hready]; simp)
        rw [hready]
        simpa using ⟨hrefTime, hproofSize, hsize⟩
    refine ⟨k, (Option.some.inj hrange).symm, Nat.pos_of_ne_zero hk, hle, ?_, hlongest, hone,
      htotals⟩
    rw [List.map_take, hcontiguous, List.take_range'_of_length_ge hlength]

/-- Three ready messages `1..=3` of weight `40` each, under a weight limit of `100`. -/
def threeMessagesReference : RelayMessagesBatchReference ℕ where
  maxMessagesInThisBatch := 8
  maxMessagesWeightInSingleBatch := ⟨100, 100⟩
  maxMessagesSizeInSingleBatch := 100
  bestTargetNonce := 0
  noncesQueue :=
    [(⟨0, 1⟩, ⟨[(1, ⟨⟨40, 1⟩, 1⟩), (2, ⟨⟨40, 1⟩, 1⟩), (3, ⟨⟨40, 1⟩, 1⟩)], by decide⟩)]
  noncesQueueRange := (⟨0, by decide⟩, ⟨0, by decide⟩)

/-- Of the three messages two fit, and `decide` selects `1..=2`. -/
theorem decide_selects_longestFit_twoOfThree :
    MessageRaceLimits.decide threeMessagesReference = some (1, 2) ∧
      LongestFit 8 ⟨100, 100⟩ 100 threeMessagesReference.allReadyNonces 2 := by
  have hdecide : MessageRaceLimits.decide threeMessagesReference = some (1, 2) := by decide
  obtain ⟨k, hk, -, -, -, hlongest, -⟩ := (MessageRaceLimits.decide_selects_longestFit
    (show threeMessagesReference.maxMessagesWeightInSingleBatch.refTime < 2 ^ 64 ∧
      threeMessagesReference.maxMessagesWeightInSingleBatch.proofSize < 2 ^ 64 by decide)
    (by decide) (by decide) (by decide)).2 _ hdecide
  have hb : threeMessagesReference.hardSelectedBeginNonce = 1 := by decide
  rw [hb, Prod.mk.injEq] at hk
  obtain rfl : k = 2 := by omega
  exact ⟨hdecide, hlongest (by decide)⟩

/-! ## `select_race_action` -/

namespace MessageDeliveryStrategy

variable (s : MessageDeliveryStrategy SourceHash)

/-- `latest_confirmed_nonce_at_source`: the last confirmed nonce seen at a source header not
above `at`. -/
def latestConfirmedNonceAtSource (at' : HeaderId SourceHash) : Option ℕ :=
  ((s.latestConfirmedNoncesAtSource.takeWhile fun entry ↦
    decide (entry.1.number ≤ at'.number)).getLast?).map Prod.snd

/-- `dispatch_weight_for_range`: the dispatch weight of the queued messages in `range`,
saturating. -/
def dispatchWeightForRange (range : ℕ × ℕ) : Weight :=
  ((s.strategy.sourceQueue.flatMap fun entry ↦
      entry.2.entries.filter fun message ↦ decide (range.1 ≤ message.1 ∧ message.1 ≤ range.2)).map
    fun message ↦ message.2.dispatchWeight).foldl Weight.saturatingAdd Weight.zero

/-- `select_race_action`: the nonces of the next delivery and whether its proof carries the
outbound lane state. -/
def selectRaceAction (raceState : RaceState SourceHash) :
    Option ((ℕ × ℕ) × MessageProofParameters) :=
  if raceState.noncesToSubmit.isSome then none
  else if raceState.noncesSubmitted.isSome then none
  else do
    let bestTargetNonce ← s.strategy.bestTargetNonce
    let bestFinalizedSourceHeaderIdAtBestTarget ←
      raceState.bestFinalizedSourceHeaderIdAtBestTarget
    let targetNonces ← s.targetNonces
    let latestConfirmedNonceAtSource :=
      (s.latestConfirmedNonceAtSource bestFinalizedSourceHeaderIdAtBestTarget).getD
        targetNonces.noncesData.confirmedNonce
    let latestReceivedNonceAtTarget := targetNonces.latestNonce
    let latestConfirmedNonceAtTarget := targetNonces.noncesData.confirmedNonce
    let outboundStateProofRequired :=
      decide (latestConfirmedNonceAtTarget < latestConfirmedNonceAtSource)
    let unrewardedRelayers := targetNonces.noncesData.unrewardedRelayers
    let unrewardedLimitReached :=
      decide (s.maxUnrewardedRelayerEntriesAtTarget ≤ unrewardedRelayers.unrewardedRelayerEntries ∨
        s.maxUnconfirmedNoncesAtTarget ≤ unrewardedRelayers.totalMessages)
    -- the target's queue is full: wait, unless the proof confirms the oldest entry's messages
    let numberOfRewardsBeingProved := latestConfirmedNonceAtSource - latestConfirmedNonceAtTarget
    let enoughRewardsBeingProved :=
      decide (unrewardedRelayers.messagesInOldestEntry ≤ numberOfRewardsBeingProved)
    if unrewardedLimitReached && !enoughRewardsBeingProved then none
    else
      let futureConfirmedNonceAtTarget :=
        if outboundStateProofRequired then latestConfirmedNonceAtSource
        else latestConfirmedNonceAtTarget
      let maxNonces := ((Unsigned.checkedSub latestReceivedNonceAtTarget
          futureConfirmedNonceAtTarget).bind fun diff ↦
        Unsigned.checkedSub s.maxUnconfirmedNoncesAtTarget diff).getD 0
      let maxNonces := min maxNonces s.maxMessagesInSingleBatch
      let selectedNonces := match s.strategy.availableSourceQueueIndices raceState with
        | some availableSourceQueueIndices =>
          MessageRaceLimits.decide
            { maxMessagesInThisBatch := maxNonces
              maxMessagesWeightInSingleBatch := s.maxMessagesWeightInSingleBatch
              maxMessagesSizeInSingleBatch := s.maxMessagesSizeInSingleBatch
              bestTargetNonce := bestTargetNonce
              noncesQueue := s.strategy.sourceQueue
              noncesQueueRange := availableSourceQueueIndices }
        | none => none
      -- no nonces: an empty delivery still unblocks a lane if it proves rewards
      let selectedNonces ← match selectedNonces with
        | some selectedNonces => some selectedNonces
        | none => if unrewardedLimitReached && outboundStateProofRequired then some (1, 0) else none
      some (selectedNonces,
        { outboundStateProofRequired, dispatchWeight := s.dispatchWeightForRange selectedNonces })

/-- A positive `max_nonces`: the future confirmed nonce is not above the latest received one, and
the count fits in what the unconfirmed limit leaves. -/
theorem le_maxNonces {latest future limit count : ℕ}
    (h : count ≤ ((Unsigned.checkedSub latest future).bind fun diff ↦
      Unsigned.checkedSub limit diff).getD 0) (hcount : 0 < count) :
    future ≤ latest ∧ count ≤ limit - (latest - future) := by
  by_cases hfuture : future ≤ latest
  · rw [Unsigned.checkedSub_of_le hfuture, Option.bind_some] at h
    by_cases hdiff : latest - future ≤ limit
    · rw [Unsigned.checkedSub_of_le hdiff, Option.getD_some] at h
      exact ⟨hfuture, h⟩
    · rw [Unsigned.checkedSub_of_lt (by omega), Option.getD_none] at h
      omega
  · rw [Unsigned.checkedSub_of_lt (by omega), Option.bind_none, Option.getD_none] at h
    omega

variable {s}

/-- **What `select_race_action` selects**, when it selects nonces: the available entries of the
queue, from the best target nonce on, no more than the target's unconfirmed limit leaves once
the proof's confirmations are in; the proof carries the outbound lane state exactly when the
source has confirmed more than the target knows, and a full queue at the target is answered only
by a proof that confirms its oldest entry. -/
theorem selectRaceAction_eq_some {raceState : RaceState SourceHash} {b e : ℕ}
    {params : MessageProofParameters} (h : s.selectRaceAction raceState = some ((b, e), params))
    (hbe : b ≤ e) :
    ∃ bestTargetNonce header targetNonces indices confirmedAtSource,
      s.strategy.bestTargetNonce = some bestTargetNonce ∧
      raceState.bestFinalizedSourceHeaderIdAtBestTarget = some header ∧
      s.targetNonces = some targetNonces ∧
      s.strategy.availableSourceQueueIndices raceState = some indices ∧
      confirmedAtSource =
        (s.latestConfirmedNonceAtSource header).getD targetNonces.noncesData.confirmedNonce ∧
      params.outboundStateProofRequired =
        decide (targetNonces.noncesData.confirmedNonce < confirmedAtSource) ∧
      (s.maxUnrewardedRelayerEntriesAtTarget ≤
            targetNonces.noncesData.unrewardedRelayers.unrewardedRelayerEntries ∨
          s.maxUnconfirmedNoncesAtTarget ≤ targetNonces.noncesData.unrewardedRelayers.totalMessages →
        targetNonces.noncesData.unrewardedRelayers.messagesInOldestEntry ≤
          confirmedAtSource - targetNonces.noncesData.confirmedNonce) ∧
      (if params.outboundStateProofRequired then confirmedAtSource
        else targetNonces.noncesData.confirmedNonce) ≤ targetNonces.latestNonce ∧
      e + 1 - b ≤ s.maxUnconfirmedNoncesAtTarget - (targetNonces.latestNonce -
        if params.outboundStateProofRequired then confirmedAtSource
        else targetNonces.noncesData.confirmedNonce) ∧
      e + 1 - b ≤ s.maxMessagesInSingleBatch ∧
      b = max (bestTargetNonce + 1) (begin s.strategy.sourceQueue[indices.1].2) := by
  unfold selectRaceAction at h
  split_ifs at h
  cases hbest : s.strategy.bestTargetNonce with
  | none => simp [hbest] at h
  | some bestTargetNonce =>
  cases hheader : raceState.bestFinalizedSourceHeaderIdAtBestTarget with
  | none => simp [hheader] at h
  | some header =>
  cases htarget : s.targetNonces with
  | none => simp [htarget] at h
  | some targetNonces =>
  simp only [hbest, hheader, htarget, Option.bind_eq_bind, Option.bind_some] at h
  by_cases hlimit : (decide (s.maxUnrewardedRelayerEntriesAtTarget ≤
        targetNonces.noncesData.unrewardedRelayers.unrewardedRelayerEntries ∨
      s.maxUnconfirmedNoncesAtTarget ≤ targetNonces.noncesData.unrewardedRelayers.totalMessages) &&
    !decide (targetNonces.noncesData.unrewardedRelayers.messagesInOldestEntry ≤
      (s.latestConfirmedNonceAtSource header).getD targetNonces.noncesData.confirmedNonce -
        targetNonces.noncesData.confirmedNonce)) = true
  · rw [if_pos hlimit] at h
    cases h
  rw [if_neg hlimit] at h
  split at h
  · rename_i selected hselected
    simp only [Option.some.injEq, Prod.mk.injEq] at h
    obtain ⟨rfl, rfl⟩ := h
    split at hselected
    · rename_i indices hindices
      obtain ⟨hb, -, hcount⟩ := MessageRaceLimits.decide_eq_some hselected
      obtain ⟨hfuture, hunconfirmed⟩ := le_maxNonces (le_min_iff.mp hcount).1 (by omega)
      refine ⟨bestTargetNonce, header, targetNonces, indices, _, rfl, rfl, rfl, hindices, rfl, rfl,
        fun hfull ↦ ?_, hfuture, hunconfirmed, (le_min_iff.mp hcount).2, hb⟩
      simp only [Bool.and_eq_true, Bool.not_eq_true', decide_eq_true_eq, decide_eq_false_iff_not,
        not_and, not_not] at hlimit
      exact hlimit hfull
    · cases hselected
  · split_ifs at h
    · simp only [Option.some.injEq, Prod.mk.injEq] at h
      omega
    · simp at h

end MessageDeliveryStrategy

end Relay
