import SoloParaBridge.Messages.Pallet

/-!
# The weights of a messages proof

`receive_messages_proof` is charged up front with the weight of the call as the relayer declares
it, the dispatch weight of the messages included.  Its loop over the messages keeps two weights:
the dispatch weight left of the declared one, from which each message takes what it used, and the
actual weight of the call, from which each message's unspent weight is refunded.  A message whose
dispatch weight exceeds what is left, in either dimension, stops the call with
`InsufficientDispatchWeight`.

`Pallet.receiveMessages` keeps the lane and not the weights.  Here the loop is
`receiveMessagesWeighed`, with both weights; it does to the lane what `receiveMessages` does
(`receiveMessagesWeighed_state`).  What the dispatcher answers is read off the lane as the loop
runs, in `unspentWeights`: for each message, its dispatch weight and the unspent weight the loop
takes for it.  Over any such answers the loop never takes more from the dispatch weight than is
left (`sum_consumed_le`), so that none of its subtractions underflows; it stops exactly when some
message asks for more than is left; and otherwise it refunds the clamped unspent weights, all of
them (`receiveMessagesWeighed_spec`).
-/

set_option autoImplicit false

namespace Messages

namespace Weight

/-- `saturating_sub`, in each dimension. -/
def saturatingSub (a b : Weight) : Weight := ⟨a.refTime - b.refTime, a.proofSize - b.proofSize⟩

/-- `set_proof_size`. -/
def setProofSize (w : Weight) (proofSize : ℕ) : Weight := ⟨w.refTime, proofSize⟩

/-- Weights add up in each dimension. -/
instance : Add Weight := ⟨fun a b ↦ ⟨a.refTime + b.refTime, a.proofSize + b.proofSize⟩⟩

instance : Zero Weight := ⟨⟨0, 0⟩⟩

/-- A weight within another in both dimensions. -/
instance : LE Weight := ⟨fun a b ↦ a.refTime ≤ b.refTime ∧ a.proofSize ≤ b.proofSize⟩

@[simp] theorem add_refTime (a b : Weight) : (a + b).refTime = a.refTime + b.refTime := rfl
@[simp] theorem add_proofSize (a b : Weight) : (a + b).proofSize = a.proofSize + b.proofSize := rfl
@[simp] theorem zero_refTime : (0 : Weight).refTime = 0 := rfl
@[simp] theorem zero_proofSize : (0 : Weight).proofSize = 0 := rfl
@[simp] theorem sub_refTime (a b : Weight) : (a.sub b).refTime = a.refTime - b.refTime := rfl
@[simp] theorem sub_proofSize (a b : Weight) : (a.sub b).proofSize = a.proofSize - b.proofSize :=
  rfl
@[simp] theorem min_refTime (a b : Weight) : (a.min b).refTime = Nat.min a.refTime b.refTime := rfl
@[simp] theorem min_proofSize (a b : Weight) :
    (a.min b).proofSize = Nat.min a.proofSize b.proofSize := rfl

theorem le_def {a b : Weight} : a ≤ b ↔ a.refTime ≤ b.refTime ∧ a.proofSize ≤ b.proofSize :=
  Iff.rfl

theorem ext_iff' {a b : Weight} : a = b ↔ a.refTime = b.refTime ∧ a.proofSize = b.proofSize := by
  cases a
  cases b
  simp

theorem anyGt_eq_false_iff {a b : Weight} : a.anyGt b = false ↔ a ≤ b := by
  simp only [anyGt, decide_eq_false_iff_not, le_def]
  omega

/-- Taking `b` and then `c` from `a` takes `b + c`. -/
theorem sub_sub (a b c : Weight) : (a.sub b).sub c = a.sub (b + c) := by
  rw [ext_iff']
  simp only [sub_refTime, sub_proofSize, add_refTime, add_proofSize]
  omega

@[simp] theorem saturatingSub_zero (a : Weight) : a.saturatingSub 0 = a := rfl

theorem saturatingSub_saturatingSub (a b c : Weight) :
    (a.saturatingSub b).saturatingSub c = a.saturatingSub (b + c) :=
  sub_sub a b c

end Weight

namespace Pallet

variable {LaneId AccountId Payments : Type} [DecidableEq AccountId]
  (T : Config LaneId AccountId Payments)

/-! ## The loop with its weights -/

/-- The unspent weight the loop takes for a message: what the dispatcher left of a dispatched
message, the whole dispatch weight of a rejected one. -/
def unspentWeight (messageDispatchWeight : Weight) : ReceivalResult Weight → Weight
  | .dispatched unspentWeight => unspentWeight
  | .invalidNonce | .tooManyUnrewardedRelayers | .tooManyUnconfirmedMessages =>
    messageDispatchWeight

/-- The loop of `receive_messages_proof` over the messages of the proof, with the two weights it
keeps: the dispatch weight left of the declared one, and the actual weight of the call. -/
def receiveMessagesWeighed (laneId : LaneId) (relayer : AccountId) :
    Weight → Weight → InboundLaneData AccountId → List Message →
      Exec Error (Weight × InboundLaneData AccountId)
  | _, actualWeight, data, [] => .ok (actualWeight, data)
  | dispatchWeightLeft, actualWeight, data, message :: messages =>
    let messageDispatchWeight := T.dispatchWeight laneId message
    if messageDispatchWeight.anyGt dispatchWeightLeft then
      .err .insufficientDispatchWeight (actualWeight, data)
    else
      match InboundLane.receiveMessage T.inboundLaneLimits data relayer message.nonce
          fun _ ↦ T.dispatch laneId message with
      | (receivalResult, data) =>
        let unspentWeight := (unspentWeight messageDispatchWeight receivalResult).min
          messageDispatchWeight
        receiveMessagesWeighed laneId relayer
          (dispatchWeightLeft.sub (messageDispatchWeight.sub unspentWeight))
          (actualWeight.saturatingSub unspentWeight) data messages

/-- `receive_messages_proof` from its declared weight on: the actual weight starts as the declared
weight with the lane's `extra_proof_size_bytes` taken from its proof size, and the loop runs over
the verified messages from the lane the proof's state update left. -/
def dispatchMessages (declaredWeight : Weight) (laneExtraProofSizeBytes : ℕ) (laneId : LaneId)
    (relayer : AccountId) (dispatchWeight : Weight) (data : InboundLaneData AccountId)
    (messages : List Message) : Exec Error (Weight × InboundLaneData AccountId) :=
  let actualWeight :=
    declaredWeight.setProofSize (declaredWeight.proofSize - laneExtraProofSizeBytes)
  receiveMessagesWeighed T laneId relayer dispatchWeight actualWeight data messages

/-- The loop with its weights does to the lane what the loop without them does, and fails when
it does. -/
theorem receiveMessagesWeighed_state (laneId : LaneId) (relayer : AccountId) :
    ∀ (messages : List Message) (dispatchWeightLeft actualWeight : Weight)
      (data : InboundLaneData AccountId),
      (receiveMessagesWeighed T laneId relayer dispatchWeightLeft actualWeight data
          messages).state.2 =
        (receiveMessages T laneId relayer dispatchWeightLeft data messages).state ∧
      (receiveMessagesWeighed T laneId relayer dispatchWeightLeft actualWeight data
          messages).isOk =
        (receiveMessages T laneId relayer dispatchWeightLeft data messages).isOk
  | [], _, _, _ => ⟨rfl, rfl⟩
  | message :: messages, dispatchWeightLeft, actualWeight, data => by
    rw [receiveMessagesWeighed, receiveMessages]
    dsimp only
    split_ifs with hweight
    · exact ⟨rfl, rfl⟩
    · rcases InboundLane.receiveMessage T.inboundLaneLimits data relayer message.nonce
        (fun _ ↦ T.dispatch laneId message) with ⟨receivalResult, data'⟩
      cases receivalResult <;>
        exact receiveMessagesWeighed_state laneId relayer messages _ _ data'

/-! ## The dispatcher's answers -/

/-- What the dispatcher answers for each message, the lane receiving the messages one after the
other as the loop does: the message's dispatch weight, and the unspent weight the loop takes for
it. -/
def unspentWeights (laneId : LaneId) (relayer : AccountId) :
    InboundLaneData AccountId → List Message → List (Weight × Weight)
  | _, [] => []
  | data, message :: messages =>
    let receival := InboundLane.receiveMessage T.inboundLaneLimits data relayer message.nonce
      fun _ ↦ T.dispatch laneId message
    (T.dispatchWeight laneId message, unspentWeight (T.dispatchWeight laneId message) receival.1) ::
      unspentWeights laneId relayer receival.2 messages

/-- The weight a message gives back: its unspent weight, clamped to its dispatch weight. -/
def refunded (answer : Weight × Weight) : Weight := answer.2.min answer.1

/-- The weight a message takes from the dispatch weight left: its dispatch weight less what it
gives back. -/
def consumed (answer : Weight × Weight) : Weight := answer.1.sub (refunded answer)

/-- The dispatch weight left before the `i`-th message, of the `dispatchWeight` declared. -/
def weightLeft (dispatchWeight : Weight) (answers : List (Weight × Weight)) (i : ℕ) : Weight :=
  dispatchWeight.sub ((answers.take i).map consumed).sum

theorem refunded_le (answer : Weight × Weight) : refunded answer ≤ answer.1 :=
  ⟨Nat.min_le_right _ _, Nat.min_le_right _ _⟩

theorem consumed_le (answer : Weight × Weight) : consumed answer ≤ answer.1 :=
  ⟨Nat.sub_le _ _, Nat.sub_le _ _⟩

theorem weightLeft_zero (dispatchWeight : Weight) (answers : List (Weight × Weight)) :
    weightLeft dispatchWeight answers 0 = dispatchWeight := by
  rw [weightLeft, Weight.ext_iff']
  simp

theorem weightLeft_cons_succ (dispatchWeight : Weight) (answer : Weight × Weight)
    (answers : List (Weight × Weight)) (i : ℕ) :
    weightLeft dispatchWeight (answer :: answers) (i + 1) =
      weightLeft (dispatchWeight.sub (consumed answer)) answers i := by
  rw [weightLeft, weightLeft, List.take_succ_cons, List.map_cons, List.sum_cons, Weight.sub_sub]

/-- **No underflow.**  Up to any message the loop gets past, the messages have taken no more than
the dispatch weight declared: each subtraction from the weight left is exact. -/
theorem sum_consumed_le :
    ∀ (answers : List (Weight × Weight)) (dispatchWeight : Weight) (i : ℕ), i ≤ answers.length →
      (∀ j (hj : j < answers.length), j < i →
        answers[j].1.anyGt (weightLeft dispatchWeight answers j) = false) →
      ((answers.take i).map consumed).sum ≤ dispatchWeight
  | _, dispatchWeight, 0, _, _ => by
    rw [List.take_zero, List.map_nil, List.sum_nil, Weight.le_def]
    simp
  | [], _, _ + 1, hi, _ => absurd hi (by simp)
  | answer :: answers, dispatchWeight, i + 1, hi, hpassed => by
    have hfirst : answer.1 ≤ dispatchWeight := by
      have := hpassed 0 (by simp) (Nat.succ_pos i)
      rwa [weightLeft_zero, Weight.anyGt_eq_false_iff] at this
    have hrest := sum_consumed_le answers (dispatchWeight.sub (consumed answer)) i
      (by simpa using hi) fun j hj hji ↦ by
        have := hpassed (j + 1) (by simpa using hj) (by omega)
        rwa [List.getElem_cons_succ, weightLeft_cons_succ] at this
    have hconsumed := consumed_le answer
    rw [List.take_succ_cons, List.map_cons, List.sum_cons]
    rw [Weight.le_def] at hfirst hrest hconsumed ⊢
    simp only [Weight.add_refTime, Weight.add_proofSize, Weight.sub_refTime,
      Weight.sub_proofSize] at hrest ⊢
    omega

/-! ## What the loop returns -/

/-- **The loop over the dispatcher's answers.**  It fails with `InsufficientDispatchWeight` when
some message asks for more than is left, and otherwise returns the actual weight it started from
less every refund. -/
theorem receiveMessagesWeighed_spec (laneId : LaneId) (relayer : AccountId) :
    ∀ (messages : List Message) (dispatchWeightLeft actualWeight : Weight)
      (data : InboundLaneData AccountId),
      let answers := unspentWeights T laneId relayer data messages
      ((∃ (i : ℕ) (hi : i < answers.length),
          answers[i].1.anyGt (weightLeft dispatchWeightLeft answers i) = true) →
        ∃ s, receiveMessagesWeighed T laneId relayer dispatchWeightLeft actualWeight data
          messages = .err .insufficientDispatchWeight s) ∧
      ((∀ i (hi : i < answers.length),
          answers[i].1.anyGt (weightLeft dispatchWeightLeft answers i) = false) →
        ∃ data', receiveMessagesWeighed T laneId relayer dispatchWeightLeft actualWeight data
          messages = .ok (actualWeight.saturatingSub (answers.map refunded).sum, data'))
  | [], _, actualWeight, data => by
    refine ⟨fun ⟨i, hi, _⟩ ↦ absurd hi (by simp [unspentWeights]), fun _ ↦ ⟨data, ?_⟩⟩
    rw [receiveMessagesWeighed, unspentWeights, List.map_nil, List.sum_nil,
      Weight.saturatingSub_zero]
  | message :: messages, dispatchWeightLeft, actualWeight, data => by
    intro answers
    rcases hreceive : InboundLane.receiveMessage T.inboundLaneLimits data relayer message.nonce
      (fun _ ↦ T.dispatch laneId message) with ⟨receivalResult, data'⟩
    have hanswers : answers = (T.dispatchWeight laneId message,
        unspentWeight (T.dispatchWeight laneId message) receivalResult) ::
          unspentWeights T laneId relayer data' messages := by
      simp only [answers, unspentWeights, hreceive]
    rw [hanswers]
    rw [receiveMessagesWeighed]
    dsimp only
    by_cases hweight : (T.dispatchWeight laneId message).anyGt dispatchWeightLeft = true
    · rw [if_pos hweight]
      refine ⟨fun _ ↦ ⟨_, rfl⟩, fun hall ↦ ?_⟩
      have := hall 0 (by simp)
      rw [List.getElem_cons_zero, weightLeft_zero, hweight] at this
      exact absurd this (by simp)
    · rw [if_neg hweight, hreceive]
      dsimp only
      obtain ⟨hfail, hok⟩ := receiveMessagesWeighed_spec laneId relayer messages
        (dispatchWeightLeft.sub (consumed (T.dispatchWeight laneId message,
          unspentWeight (T.dispatchWeight laneId message) receivalResult)))
        (actualWeight.saturatingSub (refunded (T.dispatchWeight laneId message,
          unspentWeight (T.dispatchWeight laneId message) receivalResult))) data'
      refine ⟨fun ⟨i, hi, hgt⟩ ↦ ?_, fun hall ↦ ?_⟩
      · rcases i with _ | i
        · rw [List.getElem_cons_zero, weightLeft_zero] at hgt
          exact absurd hgt hweight
        · rw [List.getElem_cons_succ, weightLeft_cons_succ] at hgt
          exact hfail ⟨i, by simpa using hi, hgt⟩
      · obtain ⟨data'', hdata''⟩ := hok fun i hi ↦ by
          have := hall (i + 1) (by simpa using hi)
          rwa [List.getElem_cons_succ, weightLeft_cons_succ] at this
        refine ⟨data'', ?_⟩
        rw [List.map_cons, List.sum_cons, ← Weight.saturatingSub_saturatingSub]
        exact hdata''

/-- **The weights of `receive_messages_proof`.**  Over any answers of the dispatcher: no message
gives back more than its dispatch weight; up to any message the loop gets past, the messages have
taken no more than the declared dispatch weight, so that no subtraction underflows; the call fails
with `InsufficientDispatchWeight`, and only with it, exactly when some message's dispatch weight
exceeds what the earlier messages left; and otherwise its actual weight is the declared one, with
the lane's extra proof size bytes taken from its proof size, less the sum of the refunds, which is
at most the declared weight. -/
theorem dispatchMessages_weights (declaredWeight : Weight) (laneExtraProofSizeBytes : ℕ)
    (laneId : LaneId) (relayer : AccountId) (dispatchWeight : Weight)
    (data : InboundLaneData AccountId) (messages : List Message) :
    let answers := unspentWeights T laneId relayer data messages
    let result := dispatchMessages T declaredWeight laneExtraProofSizeBytes laneId relayer
      dispatchWeight data messages
    let actualWeight := (declaredWeight.setProofSize
      (declaredWeight.proofSize - laneExtraProofSizeBytes)).saturatingSub
        (answers.map refunded).sum
    (∀ answer ∈ answers, refunded answer ≤ answer.1) ∧
      (∀ i ≤ answers.length, (∀ j (hj : j < answers.length), j < i →
          answers[j].1.anyGt (weightLeft dispatchWeight answers j) = false) →
        ((answers.take i).map consumed).sum ≤ dispatchWeight) ∧
      ((∃ s, result = .err .insufficientDispatchWeight s) ↔
        ∃ (i : ℕ) (hi : i < answers.length),
          answers[i].1.anyGt (weightLeft dispatchWeight answers i) = true) ∧
      (∀ e s, result = .err e s → e = .insufficientDispatchWeight) ∧
      ((∀ i (hi : i < answers.length),
          answers[i].1.anyGt (weightLeft dispatchWeight answers i) = false) →
        (∃ data', result = .ok (actualWeight, data')) ∧ actualWeight ≤ declaredWeight) := by
  intro answers result actualWeight
  obtain ⟨hfail, hok⟩ := receiveMessagesWeighed_spec T laneId relayer messages dispatchWeight
    (declaredWeight.setProofSize (declaredWeight.proofSize - laneExtraProofSizeBytes)) data
  have hcases : (∃ (i : ℕ) (hi : i < answers.length),
        answers[i].1.anyGt (weightLeft dispatchWeight answers i) = true) ∨
      ∀ i (hi : i < answers.length),
        answers[i].1.anyGt (weightLeft dispatchWeight answers i) = false := by
    by_cases hsome : ∃ (i : ℕ) (hi : i < answers.length),
        answers[i].1.anyGt (weightLeft dispatchWeight answers i) = true
    · exact .inl hsome
    · exact .inr fun i hi ↦ Bool.eq_false_iff.mpr fun h ↦ hsome ⟨i, hi, h⟩
  refine ⟨fun answer _ ↦ refunded_le answer, sum_consumed_le answers dispatchWeight,
    ⟨fun ⟨s, hs⟩ ↦ ?_, hfail⟩, fun e s hs ↦ ?_, fun hall ↦ ⟨hok hall, ?_⟩⟩
  · rcases hcases with hsome | hall
    · exact hsome
    · obtain ⟨data', hdata'⟩ := hok hall
      exact absurd (hs.symm.trans hdata') (by simp)
  · rcases hcases with hsome | hall
    · obtain ⟨s', hs'⟩ := hfail hsome
      have := hs.symm.trans hs'
      simp only [Exec.err.injEq] at this
      exact this.1
    · obtain ⟨data', hdata'⟩ := hok hall
      exact absurd (hs.symm.trans hdata') (by simp)
  · rw [Weight.le_def]
    simp only [actualWeight, Weight.saturatingSub, Weight.setProofSize]
    omega

end Pallet

end Messages
