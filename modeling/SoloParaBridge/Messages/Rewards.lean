import SoloParaBridge.Messages.Primitives
import SoloParaBridge.Lib.EntryMap

/-!
# The rewards of a delivery confirmation

`calc_relayers_rewards` turns the unrewarded relayer entries a delivery proof carries and the
range of nonces the confirmation covers into a `BTreeMap` from relayer to the number of messages
it is paid for.  `Primitives` reads the loop as a function, with `0` for a relayer the map lacks
and counts that never overflow.  Here the map is kept as the loop fills it, a list of entries
updated by `EntryMap.modify`, and `+=` is the `u64` addition it is; the payments read this map
(`Messages.payRelayersRewards`), and where no count overflows it holds the counts of the function
(`calcRelayersRewardsMap_getD`).

The loop is followed by an invariant, `Represents`: the map holds a count function (an entry for
each relayer with a non-zero count, none for the others, each relayer once) and its values add
up to a running total.  One turn keeps it as long as the count it adds to stays below `2 ^ 64`
(`Represents.rewardEntry`), so the whole loop builds the map of `calcRelayersRewards`
(`represents_calcRelayersRewardsMap`).

When no two entries' runs share a nonce, a relayer's count is the number of nonces of the range
in its runs, and the total the number of nonces of the range in any run
(`calcRelayersRewards_eq_card`, `sum_clippedLength_eq_card`): no count then exceeds the length of
the range, and the counts fit in a `u64` unless the range is the whole of `0..=u64::MAX`.
-/

set_option autoImplicit false

namespace Messages

variable {RelayerId : Type}

/-! ## The part of a run in the range -/

/-- The number of nonces of an entry's run in the received range. -/
def clippedLength (receivedRange : DeliveredMessages) (entry : UnrewardedRelayer RelayerId) : ℕ :=
  min (entry.messages.endNonce + 1) (receivedRange.endNonce + 1) -
    max entry.messages.begin receivedRange.begin

/-- The nonces of the received range in an entry's run, counted. -/
theorem clippedLength_eq_card (receivedRange : DeliveredMessages)
    (entry : UnrewardedRelayer RelayerId) :
    clippedLength receivedRange entry =
      ((Finset.Icc receivedRange.begin receivedRange.endNonce).filter fun nonce ↦
        entry.messages.begin ≤ nonce ∧ nonce ≤ entry.messages.endNonce).card := by
  rw [Intervals.card_filter_Icc_run, clippedLength]

/-- **The total count**, when no two runs share a nonce: the nonces of the received range in
any run. -/
theorem sum_clippedLength_eq_card {messagesRelayers : List (UnrewardedRelayer RelayerId)}
    (hdisjoint : messagesRelayers.Pairwise fun a b ↦
      Disjoint (Finset.Icc a.messages.begin a.messages.endNonce)
        (Finset.Icc b.messages.begin b.messages.endNonce))
    (receivedRange : DeliveredMessages) :
    (messagesRelayers.map (clippedLength receivedRange)).sum =
      ((Finset.Icc receivedRange.begin receivedRange.endNonce).filter fun nonce ↦
        ∃ entry ∈ messagesRelayers, entry.messages.containsMessage nonce).card := by
  have hcount := Intervals.sum_card_filter_of_pairwise_disjoint
    (Finset.Icc receivedRange.begin receivedRange.endNonce) hdisjoint
  simp only [DeliveredMessages.containsMessage, decide_eq_true_eq, ← hcount]
  congr 2 with entry
  exact clippedLength_eq_card receivedRange entry

variable [DecidableEq RelayerId]

/-! ## The loop -/

/-- One turn of the loop of `calc_relayers_rewards`: the entry's run, clipped to the received
range, is added to the count of its relayer, if anything is left of it. -/
def rewardEntry (receivedRange : DeliveredMessages) (relayersRewards : List (RelayerId × ℕ))
    (entry : UnrewardedRelayer RelayerId) : List (RelayerId × ℕ) :=
  let nonceBegin := max entry.messages.begin receivedRange.begin
  let nonceEnd := min entry.messages.endNonce receivedRange.endNonce
  if nonceEnd ≥ nonceBegin then
    EntryMap.modify entry.relayer 0
      (fun reward ↦
        Unsigned.wrappingAdd 64 reward (Unsigned.wrappingAdd 64 (nonceEnd - nonceBegin) 1))
      relayersRewards
  else relayersRewards

/-- `calc_relayers_rewards`, with the `RelayersRewards` map it fills as its list of entries. -/
def calcRelayersRewardsMap (messagesRelayers : List (UnrewardedRelayer RelayerId))
    (receivedRange : DeliveredMessages) : List (RelayerId × ℕ) :=
  messagesRelayers.foldl (rewardEntry receivedRange) []

/-- The map holds `rewards`: one entry for each relayer with a non-zero count, holding it, and
none for the others; its values add up to `total`. -/
structure Represents (relayersRewards : List (RelayerId × ℕ)) (rewards : RelayerId → ℕ)
    (total : ℕ) : Prop where
  lookup_eq : ∀ relayer, relayersRewards.lookup relayer =
    if rewards relayer = 0 then none else some (rewards relayer)
  nodup : (relayersRewards.map Prod.fst).Nodup
  sum_eq : (relayersRewards.map Prod.snd).sum = total

theorem represents_nil : Represents ([] : List (RelayerId × ℕ)) (fun _ ↦ 0) 0 :=
  ⟨fun _ ↦ rfl, List.nodup_nil, rfl⟩

/-- What a map that holds `rewards` holds for a relayer, `0` for none. -/
theorem Represents.lookup_getD {relayersRewards : List (RelayerId × ℕ)} {rewards : RelayerId → ℕ}
    {total : ℕ} (h : Represents relayersRewards rewards total) (relayer : RelayerId) :
    (relayersRewards.lookup relayer).getD 0 = rewards relayer := by
  rw [h.lookup_eq]
  split_ifs with hzero <;> simp [hzero]

section Step

variable (receivedRange : DeliveredMessages) {relayersRewards : List (RelayerId × ℕ)}
  {rewards : RelayerId → ℕ} {total : ℕ}

/-- **One turn.**  The entry's relayer gains the length of the entry's run in the range, and the
total with it, when the count stays below `2 ^ 64`. -/
theorem Represents.rewardEntry (h : Represents relayersRewards rewards total)
    (entry : UnrewardedRelayer RelayerId)
    (hfits : rewards entry.relayer + clippedLength receivedRange entry < 2 ^ 64) :
    Represents (rewardEntry receivedRange relayersRewards entry)
      (Function.update rewards entry.relayer
        (rewards entry.relayer + clippedLength receivedRange entry))
      (total + clippedLength receivedRange entry) := by
  rw [Messages.rewardEntry]
  split_ifs with hrange
  · have hlength : clippedLength receivedRange entry =
        min entry.messages.endNonce receivedRange.endNonce -
          max entry.messages.begin receivedRange.begin + 1 := by
      rw [clippedLength]
      omega
    have hlength' : Unsigned.wrappingAdd 64 (min entry.messages.endNonce receivedRange.endNonce -
        max entry.messages.begin receivedRange.begin) 1 = clippedLength receivedRange entry := by
      rw [Unsigned.wrappingAdd_of_lt (by omega), hlength]
    rw [hlength']
    refine ⟨fun relayer ↦ ?_, EntryMap.nodup_keys_modify h.nodup, ?_⟩
    · by_cases hrelayer : relayer = entry.relayer
      · subst hrelayer
        rw [EntryMap.lookup_modify_self, h.lookup_getD, Unsigned.wrappingAdd_of_lt hfits,
          Function.update_self, if_neg (by omega)]
      · rw [EntryMap.lookup_modify_ne hrelayer, Function.update_of_ne hrelayer, h.lookup_eq]
    · have hsum := EntryMap.sum_modify entry.relayer
        (fun reward ↦ Unsigned.wrappingAdd 64 reward (clippedLength receivedRange entry))
        relayersRewards
      rw [h.lookup_getD, Unsigned.wrappingAdd_of_lt hfits, h.sum_eq] at hsum
      omega
  · have hlength : clippedLength receivedRange entry = 0 := by
      rw [clippedLength]
      omega
    rw [hlength, Nat.add_zero, Nat.add_zero, Function.update_eq_self]
    exact h

/-- **The loop.**  From a map that holds `rewards`, the entries add their clipped runs to their
relayers' counts, when no count reaches `2 ^ 64`. -/
theorem Represents.foldl_rewardEntry (messagesRelayers : List (UnrewardedRelayer RelayerId))
    (h : Represents relayersRewards rewards total)
    (hfits : ∀ relayer, rewards relayer + (messagesRelayers.map fun entry ↦
      (if entry.relayer = relayer then 1 else 0) * clippedLength receivedRange entry).sum <
        2 ^ 64) :
    Represents (messagesRelayers.foldl (Messages.rewardEntry receivedRange) relayersRewards)
      (fun relayer ↦ rewards relayer + (messagesRelayers.map fun entry ↦
        (if entry.relayer = relayer then 1 else 0) * clippedLength receivedRange entry).sum)
      (total + (messagesRelayers.map (clippedLength receivedRange)).sum) := by
  induction messagesRelayers generalizing relayersRewards rewards total with
  | nil => simpa using h
  | cons entry rest ih =>
    simp only [List.map_cons, List.sum_cons] at hfits
    have hstep := h.rewardEntry receivedRange entry (by
      have := hfits entry.relayer
      rw [if_pos rfl, Nat.one_mul] at this
      omega)
    have hrest := ih hstep fun relayer ↦ by
      have := hfits relayer
      by_cases hrelayer : relayer = entry.relayer
      · subst hrelayer
        rw [Function.update_self]
        rw [if_pos rfl, Nat.one_mul] at this
        omega
      · rw [Function.update_of_ne hrelayer]
        rw [if_neg (Ne.symm hrelayer)] at this
        omega
    rw [List.foldl_cons, List.map_cons, List.sum_cons, ← Nat.add_assoc]
    convert hrest using 1
    funext relayer
    simp only [List.map_cons, List.sum_cons]
    by_cases hrelayer : relayer = entry.relayer
    · subst hrelayer
      simp only [Function.update_self, if_true, Nat.one_mul]
      omega
    · rw [Function.update_of_ne hrelayer, if_neg (Ne.symm hrelayer)]
      omega

end Step

/-- **The map `calc_relayers_rewards` returns** holds the counts of `calcRelayersRewards` and
adds up to the clipped lengths of all entries, when no relayer's count reaches `2 ^ 64`. -/
theorem represents_calcRelayersRewardsMap (messagesRelayers : List (UnrewardedRelayer RelayerId))
    (receivedRange : DeliveredMessages)
    (hfits : ∀ relayer, calcRelayersRewards messagesRelayers receivedRange relayer < 2 ^ 64) :
    Represents (calcRelayersRewardsMap messagesRelayers receivedRange)
      (calcRelayersRewards messagesRelayers receivedRange)
      (messagesRelayers.map (clippedLength receivedRange)).sum := by
  have hloop := represents_nil.foldl_rewardEntry receivedRange messagesRelayers fun relayer ↦ by
      simpa [calcRelayersRewards_apply, clippedLength] using hfits relayer
  rw [Nat.zero_add] at hloop
  rw [calcRelayersRewardsMap]
  convert hloop using 1
  funext relayer
  rw [calcRelayersRewards_apply, Nat.zero_add]
  rfl

/-- Where no relayer's count reaches `u64::MAX + 1`, what the map holds for a relayer, `0` for
none, is its count. -/
theorem calcRelayersRewardsMap_getD (messagesRelayers : List (UnrewardedRelayer RelayerId))
    (receivedRange : DeliveredMessages)
    (hfits : ∀ relayer, calcRelayersRewards messagesRelayers receivedRange relayer < 2 ^ 64)
    (relayer : RelayerId) :
    ((calcRelayersRewardsMap messagesRelayers receivedRange).lookup relayer).getD 0 =
      calcRelayersRewards messagesRelayers receivedRange relayer :=
  (represents_calcRelayersRewardsMap messagesRelayers receivedRange hfits).lookup_getD relayer

/-! ## Counting the nonces -/

/-- A sum over the entries of a relayer, read as a sum over the list of its entries. -/
theorem sum_map_ite_mul_eq_sum_filter (messagesRelayers : List (UnrewardedRelayer RelayerId))
    (relayer : RelayerId) (f : UnrewardedRelayer RelayerId → ℕ) :
    (messagesRelayers.map fun entry ↦ (if entry.relayer = relayer then 1 else 0) * f entry).sum =
      ((messagesRelayers.filter fun entry ↦ entry.relayer = relayer).map f).sum := by
  induction messagesRelayers with
  | nil => rfl
  | cons entry rest ih =>
    rw [List.map_cons, List.sum_cons, ih, List.filter_cons]
    by_cases hrelayer : entry.relayer = relayer
    · simp only [hrelayer, if_true, decide_true, Nat.one_mul, List.map_cons, List.sum_cons]
    · simp only [hrelayer, decide_false, Bool.false_eq_true, ↓reduceIte, Nat.zero_mul,
        Nat.zero_add]

section Disjoint

variable {messagesRelayers : List (UnrewardedRelayer RelayerId)}
  (hdisjoint : messagesRelayers.Pairwise fun a b ↦
    Disjoint (Finset.Icc a.messages.begin a.messages.endNonce)
      (Finset.Icc b.messages.begin b.messages.endNonce))
  (receivedRange : DeliveredMessages)
include hdisjoint

/-- **A relayer's count**, when no two runs share a nonce: the nonces of the received range in
its runs. -/
theorem calcRelayersRewards_eq_card (relayer : RelayerId) :
    calcRelayersRewards messagesRelayers receivedRange relayer =
      ((Finset.Icc receivedRange.begin receivedRange.endNonce).filter fun nonce ↦
        ∃ entry ∈ messagesRelayers,
          entry.relayer = relayer ∧ entry.messages.containsMessage nonce).card := by
  have hcount := Intervals.sum_card_filter_of_pairwise_disjoint
    (Finset.Icc receivedRange.begin receivedRange.endNonce)
    (hdisjoint.filter fun entry ↦ entry.relayer = relayer)
  rw [calcRelayersRewards_apply]
  simp only [← clippedLength.eq_1, sum_map_ite_mul_eq_sum_filter, clippedLength_eq_card, hcount]
  congr 1
  ext nonce
  simp [DeliveredMessages.containsMessage, and_assoc]

/-- No relayer is counted more nonces than the received range has. -/
theorem calcRelayersRewards_le (relayer : RelayerId) :
    calcRelayersRewards messagesRelayers receivedRange relayer ≤
      receivedRange.endNonce + 1 - receivedRange.begin := by
  rw [calcRelayersRewards_eq_card hdisjoint, ← Nat.card_Icc]
  exact Finset.card_filter_le _ _

end Disjoint

/-- **`calc_relayers_rewards`**, over entries whose runs share no nonce and a received range of
fewer than `2 ^ 64` nonces: the map holds each relayer once, counts for a relayer the nonces of
the range in its runs and holds none for a relayer with none, and its values add up to the
nonces of the range in any run, which is the whole range when the runs follow each other and
cover it. -/
theorem calcRelayersRewardsMap_spec (messagesRelayers : List (UnrewardedRelayer RelayerId))
    (receivedRange : DeliveredMessages)
    (hdisjoint : messagesRelayers.Pairwise fun a b ↦
      Disjoint (Finset.Icc a.messages.begin a.messages.endNonce)
        (Finset.Icc b.messages.begin b.messages.endNonce))
    (hrange : receivedRange.endNonce + 1 - receivedRange.begin < 2 ^ 64) :
    let relayersRewards := calcRelayersRewardsMap messagesRelayers receivedRange
    let received := Finset.Icc receivedRange.begin receivedRange.endNonce
    (relayersRewards.map Prod.fst).Nodup ∧
      (∀ relayer, let count := (received.filter fun nonce ↦ ∃ entry ∈ messagesRelayers,
          entry.relayer = relayer ∧ entry.messages.containsMessage nonce).card
        relayersRewards.lookup relayer = if count = 0 then none else some count) ∧
      (relayersRewards.map Prod.snd).sum = (received.filter fun nonce ↦
        ∃ entry ∈ messagesRelayers, entry.messages.containsMessage nonce).card ∧
      ∀ n, Intervals.Consecutive UnrewardedRelayer.begin UnrewardedRelayer.endNonce n
          messagesRelayers →
        n ≤ receivedRange.begin →
        receivedRange.endNonce + 1 ≤
          Intervals.nextAfter UnrewardedRelayer.endNonce n messagesRelayers →
        (relayersRewards.map Prod.snd).sum = receivedRange.endNonce + 1 - receivedRange.begin := by
  intro relayersRewards received
  have hrep := represents_calcRelayersRewardsMap messagesRelayers receivedRange fun relayer ↦
    lt_of_le_of_lt (calcRelayersRewards_le hdisjoint receivedRange relayer) hrange
  have hsum : (relayersRewards.map Prod.snd).sum = (received.filter fun nonce ↦
      ∃ entry ∈ messagesRelayers, entry.messages.containsMessage nonce).card := by
    rw [hrep.sum_eq, sum_clippedLength_eq_card hdisjoint]
  refine ⟨hrep.nodup, fun relayer ↦ ?_, hsum, ?_⟩
  · rw [hrep.lookup_eq, calcRelayersRewards_eq_card hdisjoint]
  · intro n hconsecutive hbegin hend
    have hcovered : (received.filter fun nonce ↦
        ∃ entry ∈ messagesRelayers, entry.messages.containsMessage nonce) = received := by
      refine Finset.filter_true_of_mem fun nonce hnonce ↦ ?_
      rw [Finset.mem_Icc] at hnonce
      have hcover := (Intervals.mem_cover_iff hconsecutive nonce).mpr ⟨by omega, by omega⟩
      simpa [DeliveredMessages.containsMessage] using hcover
    rw [hsum, hcovered, Nat.card_Icc]

/-- Three entries of two relayers, the range cutting into the first and the last. -/
def interleavedRelayers : List (UnrewardedRelayer ℕ) :=
  [⟨1, ⟨1, 2⟩⟩, ⟨2, ⟨3, 4⟩⟩, ⟨1, ⟨5, 6⟩⟩]

theorem calcRelayersRewardsMap_spec_interleaved :
    calcRelayersRewardsMap interleavedRelayers ⟨2, 5⟩ = [(1, 2), (2, 2)] ∧
      ((calcRelayersRewardsMap interleavedRelayers ⟨2, 5⟩).map Prod.snd).sum =
        ((Finset.Icc 2 5).filter fun nonce ↦
          ∃ entry ∈ interleavedRelayers, entry.messages.containsMessage nonce).card :=
  ⟨by decide,
    (calcRelayersRewardsMap_spec interleavedRelayers ⟨2, 5⟩ (by decide) (by decide)).2.2.1⟩

/-- The whole of `0..=u64::MAX`, delivered by one relayer: it is counted `2 ^ 64` nonces, and the
map holds `0` for it. -/
theorem calcRelayersRewardsMap_wholeRange :
    let messagesRelayers : List (UnrewardedRelayer ℕ) := [⟨0, ⟨0, 2 ^ 64 - 1⟩⟩]
    let receivedRange : DeliveredMessages := ⟨0, 2 ^ 64 - 1⟩
    (calcRelayersRewardsMap messagesRelayers receivedRange).lookup 0 = some 0 ∧
      ((Finset.Icc receivedRange.begin receivedRange.endNonce).filter fun nonce ↦
        ∃ entry ∈ messagesRelayers,
          entry.relayer = 0 ∧ entry.messages.containsMessage nonce).card = 2 ^ 64 := by
  intro messagesRelayers receivedRange
  refine ⟨by decide, ?_⟩
  have hall : ∀ nonce ∈ Finset.Icc receivedRange.begin receivedRange.endNonce,
      ∃ entry ∈ messagesRelayers, entry.relayer = 0 ∧ entry.messages.containsMessage nonce := by
    intro nonce hnonce
    rw [Finset.mem_Icc] at hnonce
    refine ⟨_, List.mem_singleton_self _, rfl, ?_⟩
    rw [DeliveredMessages.containsMessage, decide_eq_true_eq]
    exact hnonce
  rw [Finset.filter_true_of_mem hall, Nat.card_Icc]
  show 2 ^ 64 - 1 + 1 - 0 = 2 ^ 64
  decide

end Messages
