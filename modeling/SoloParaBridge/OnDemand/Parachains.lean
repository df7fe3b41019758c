import SoloParaBridge.HeaderChain.Justification
import SoloParaBridge.Lib.Trace

/-!
# The on-demand parachains relay

`lib_substrate_relay::on_demand::parachains`.  A client of the relay asks for parachain header
`required_para_header` at the target chain.  Each round the background task reads the two chains
(`read_relay_data`) and moves its `RelayState` by `select_headers_to_relay`: to ask the relay
chain headers relay for a relay header (`RelayingRelayHeader`), to have the parachains relay
submit a parachain head proven at a relay header the target knows (`RelayingParaHeader`), or to
rest (`Idle`).  The three branches fall through one into the next: a served
`RelayingRelayHeader` with no head to relay continues into the regular selection, as does a
served `RelayingParaHeader`.

The source relay chain is its best finalized block, read each round, and its parachain head at
each block (`on_chain_para_head_id`), which finality fixes once and for all (`paraHeadId`).  The
target is the numbers of the best heads its two bridge pallets know.  Block numbers are `ℕ`;
errors of the clients, after which the round is skipped, are not modelled.

Along every run from `Idle` (`relayStates`), with the target's relay header never going back:

* **safety** (`provable_relayStates`): a `RelayingParaHeader(h)` names the head of the parachain at
  a relay block no higher than the relay header the target knows, so the target can check its
  proof;
* **liveness** (`Settles.eventually_idle`): once the source stays put with its head at or above
  the required one, and the relay's requests are served, the relay ends `Idle` for good with the
  requirement met.  The argument follows the requests one by one; the only loop to rule out is a
  relay header request after a parachain head request, which needs the target's relay header below
  the source's, and that never comes back once served.

`selectHeadersToRelay_run` puts the two together for the run from `Idle`.
-/

set_option autoImplicit false

namespace OnDemand

open HeaderChain (HeaderId)
open Trace

/-- `RelayState`. -/
inductive RelayState (ParaHash : Type) where
  | idle
  | relayingRelayHeader (relayNumber : ℕ)
  | relayingParaHeader (paraHeaderId : HeaderId ParaHash)
  deriving DecidableEq, Repr

/-- `RelayData`. -/
structure RelayData (ParaHash : Type) where
  requiredParaHeader : ℕ
  paraHeaderAtTarget : Option ℕ
  paraHeaderAtSource : Option (HeaderId ParaHash)
  paraHeaderAtRelayHeaderAtTarget : Option (HeaderId ParaHash)
  relayHeaderAtSource : ℕ
  relayHeaderAtTarget : Option ℕ
  deriving DecidableEq, Repr

/-- What a round reads of the source relay chain: its best finalized block, and the head of the
parachain at each of its blocks. -/
structure SourceRelayChain (ParaHash : Type) where
  bestFinalizedHeader : ℕ
  paraHeadId : ℕ → Option (HeaderId ParaHash)

/-- What a round reads of the target chain: the numbers of the best parachain and relay chain
headers its bridge pallets know. -/
structure TargetChain where
  paraHeaderAtTarget : Option ℕ
  relayHeaderAtTarget : Option ℕ
  deriving DecidableEq, Repr

variable {ParaHash : Type}

/-! ## The model -/

/-- `ANCIENT_BLOCK_THRESHOLD`. -/
def ancientBlockThreshold : ℕ := 128

/-- `is_ancient_block`: the state of a block this far below the best one may be pruned. -/
def isAncientBlock (block best : ℕ) : Bool :=
  decide (ancientBlockThreshold ≤ best - block)

/-- `read_relay_data`, with both clients answering. -/
def readRelayData (source : SourceRelayChain ParaHash) (target : TargetChain)
    (requiredHeaderNumber : ℕ) : RelayData ParaHash :=
  let availableRelayHeaderAtTarget := target.relayHeaderAtTarget.filter fun relayHeaderAtTarget ↦
    !isAncientBlock relayHeaderAtTarget source.bestFinalizedHeader
  { requiredParaHeader := requiredHeaderNumber
    paraHeaderAtTarget := target.paraHeaderAtTarget
    paraHeaderAtSource := source.paraHeadId source.bestFinalizedHeader
    paraHeaderAtRelayHeaderAtTarget :=
      match availableRelayHeaderAtTarget with
      | some availableRelayHeaderAtTarget => source.paraHeadId availableRelayHeaderAtTarget
      | none => none
    relayHeaderAtSource := source.bestFinalizedHeader
    relayHeaderAtTarget := target.relayHeaderAtTarget }

/-- The regular selection at the end of `select_headers_to_relay`, where the handling of the
state falls through to. -/
def selectRegular (data : RelayData ParaHash) (relayHeaderAtTarget : ℕ) : RelayState ParaHash :=
  match data.paraHeaderAtSource with
  | none => .idle
  | some paraHeaderAtSource =>
    -- with no head at the target, the source's head is required
    let (requiredParaHeader, paraHeaderAtTarget) :=
      match data.paraHeaderAtTarget with
      | some paraHeaderAtTarget => (data.requiredParaHeader, paraHeaderAtTarget)
      | none => (paraHeaderAtSource.number, 0)
    if requiredParaHeader ≤ paraHeaderAtTarget then .idle
    else if paraHeaderAtSource.number < requiredParaHeader then .idle
    else if relayHeaderAtTarget < data.relayHeaderAtSource then
      .relayingRelayHeader data.relayHeaderAtSource
    else .relayingParaHeader paraHeaderAtSource

/-- `select_headers_to_relay`. -/
def selectHeadersToRelay (data : RelayData ParaHash) (state : RelayState ParaHash) :
    RelayState ParaHash :=
  match data.relayHeaderAtTarget with
  | none => .idle
  | some relayHeaderAtTarget =>
    match state with
    | .relayingRelayHeader relayHeaderNumber =>
      if relayHeaderAtTarget < relayHeaderNumber then state
      else
        match data.paraHeaderAtRelayHeaderAtTarget with
        | some paraHeaderAtRelayHeaderAtTarget => .relayingParaHeader paraHeaderAtRelayHeaderAtTarget
        | none => selectRegular data relayHeaderAtTarget
    | .relayingParaHeader paraHeaderId =>
      if data.paraHeaderAtTarget.getD 0 < paraHeaderId.number then state
      else selectRegular data relayHeaderAtTarget
    | .idle => selectRegular data relayHeaderAtTarget

/-- The data of round `i`: the source's best finalized block that round, its fixed parachain
heads, and the target that round. -/
def roundData (paraHeadId : ℕ → Option (HeaderId ParaHash)) (bestFinalizedHeader : ℕ → ℕ)
    (targets : ℕ → TargetChain) (requiredHeaderNumber : ℕ) (i : ℕ) : RelayData ParaHash :=
  readRelayData ⟨bestFinalizedHeader i, paraHeadId⟩ (targets i) requiredHeaderNumber

/-- The relay's states along a run, from `Idle`. -/
def relayStates (paraHeadId : ℕ → Option (HeaderId ParaHash)) (bestFinalizedHeader : ℕ → ℕ)
    (targets : ℕ → TargetChain) (requiredHeaderNumber : ℕ) : ℕ → RelayState ParaHash :=
  runInputs selectHeadersToRelay .idle
    (roundData paraHeadId bestFinalizedHeader targets requiredHeaderNumber)

section Run

variable (paraHeadId : ℕ → Option (HeaderId ParaHash)) (bestFinalizedHeader : ℕ → ℕ)
  (targets : ℕ → TargetChain) (requiredHeaderNumber : ℕ)

@[simp] theorem relayStates_zero :
    relayStates paraHeadId bestFinalizedHeader targets requiredHeaderNumber 0 = .idle := rfl

@[simp] theorem relayStates_succ (i : ℕ) :
    relayStates paraHeadId bestFinalizedHeader targets requiredHeaderNumber (i + 1) =
      selectHeadersToRelay (readRelayData ⟨bestFinalizedHeader i, paraHeadId⟩ (targets i)
        requiredHeaderNumber) (relayStates paraHeadId bestFinalizedHeader targets requiredHeaderNumber i) :=
  rfl

end Run

/-! ## One round -/

section Round

variable {data : RelayData ParaHash} {relayHeaderAtTarget : ℕ}

theorem selectHeadersToRelay_idle (h : data.relayHeaderAtTarget = some relayHeaderAtTarget) :
    selectHeadersToRelay data .idle = selectRegular data relayHeaderAtTarget := by
  rw [selectHeadersToRelay, h]

theorem selectHeadersToRelay_relayingRelayHeader
    (h : data.relayHeaderAtTarget = some relayHeaderAtTarget) (relayHeaderNumber : ℕ) :
    selectHeadersToRelay data (.relayingRelayHeader relayHeaderNumber) =
      if relayHeaderAtTarget < relayHeaderNumber then .relayingRelayHeader relayHeaderNumber
      else
        match data.paraHeaderAtRelayHeaderAtTarget with
        | some paraHeaderAtRelayHeaderAtTarget => .relayingParaHeader paraHeaderAtRelayHeaderAtTarget
        | none => selectRegular data relayHeaderAtTarget := by
  rw [selectHeadersToRelay, h]

theorem selectHeadersToRelay_relayingParaHeader
    (h : data.relayHeaderAtTarget = some relayHeaderAtTarget) (paraHeaderId : HeaderId ParaHash) :
    selectHeadersToRelay data (.relayingParaHeader paraHeaderId) =
      if data.paraHeaderAtTarget.getD 0 < paraHeaderId.number then .relayingParaHeader paraHeaderId
      else selectRegular data relayHeaderAtTarget := by
  rw [selectHeadersToRelay, h]

/-- A served relay header request moves to the head at the target's relay header, or else falls
through to the regular selection. -/
theorem selectHeadersToRelay_relayingRelayHeader_of_le
    (h : data.relayHeaderAtTarget = some relayHeaderAtTarget) {relayHeaderNumber : ℕ}
    (hserved : relayHeaderNumber ≤ relayHeaderAtTarget) :
    (∃ paraHeaderId, data.paraHeaderAtRelayHeaderAtTarget = some paraHeaderId ∧
        selectHeadersToRelay data (.relayingRelayHeader relayHeaderNumber) =
          .relayingParaHeader paraHeaderId) ∨
      selectHeadersToRelay data (.relayingRelayHeader relayHeaderNumber) =
        selectRegular data relayHeaderAtTarget := by
  rw [selectHeadersToRelay_relayingRelayHeader h, if_neg (Nat.not_lt.mpr hserved)]
  cases data.paraHeaderAtRelayHeaderAtTarget with
  | some paraHeaderId => exact Or.inl ⟨paraHeaderId, rfl, rfl⟩
  | none => exact Or.inr rfl

/-- A served parachain head request falls through to the regular selection. -/
theorem selectHeadersToRelay_relayingParaHeader_of_le
    (h : data.relayHeaderAtTarget = some relayHeaderAtTarget) {paraHeaderId : HeaderId ParaHash}
    (hserved : paraHeaderId.number ≤ data.paraHeaderAtTarget.getD 0) :
    selectHeadersToRelay data (.relayingParaHeader paraHeaderId) =
      selectRegular data relayHeaderAtTarget := by
  rw [selectHeadersToRelay_relayingParaHeader h, if_neg (Nat.not_lt.mpr hserved)]

/-- The client's requirement is met at the target, as the regular selection checks it: the
target's head is at least the required one, or, with no head there, the source's head is the
first one. -/
def RequirementMet (requiredParaHeader : ℕ) (paraHeaderAtTarget : Option ℕ)
    (paraHeaderAtSource : HeaderId ParaHash) : Prop :=
  match paraHeaderAtTarget with
  | some paraHeaderAtTarget => requiredParaHeader ≤ paraHeaderAtTarget
  | none => paraHeaderAtSource.number ≤ 0

/-- **The regular selection** with a source head at or above the required one: nothing when the
requirement is met, else the source's relay header if the target is behind it, else the source's
parachain head. -/
theorem selectRegular_cases {paraHeaderAtSource : HeaderId ParaHash}
    (hsource : data.paraHeaderAtSource = some paraHeaderAtSource)
    (hrequired : data.requiredParaHeader ≤ paraHeaderAtSource.number) :
    (RequirementMet data.requiredParaHeader data.paraHeaderAtTarget paraHeaderAtSource ∧
        selectRegular data relayHeaderAtTarget = .idle) ∨
      (¬ RequirementMet data.requiredParaHeader data.paraHeaderAtTarget paraHeaderAtSource ∧
        relayHeaderAtTarget < data.relayHeaderAtSource ∧
        selectRegular data relayHeaderAtTarget = .relayingRelayHeader data.relayHeaderAtSource) ∨
      (¬ RequirementMet data.requiredParaHeader data.paraHeaderAtTarget paraHeaderAtSource ∧
        data.relayHeaderAtSource ≤ relayHeaderAtTarget ∧
        selectRegular data relayHeaderAtTarget = .relayingParaHeader paraHeaderAtSource) := by
  rw [selectRegular, hsource]
  cases data.paraHeaderAtTarget with
  | none =>
    dsimp only [RequirementMet]
    split_ifs with hmet hwait hbehind
    · exact Or.inl ⟨hmet, rfl⟩
    · exact absurd hwait (Nat.lt_irrefl _)
    · exact Or.inr (Or.inl ⟨hmet, hbehind, rfl⟩)
    · exact Or.inr (Or.inr ⟨hmet, Nat.not_lt.mp hbehind, rfl⟩)
  | some paraHeaderAtTarget =>
    dsimp only [RequirementMet]
    split_ifs with hmet hwait hbehind
    · exact Or.inl ⟨hmet, rfl⟩
    · exact absurd hrequired (Nat.not_le.mpr hwait)
    · exact Or.inr (Or.inl ⟨hmet, hbehind, rfl⟩)
    · exact Or.inr (Or.inr ⟨hmet, Nat.not_lt.mp hbehind, rfl⟩)

/-- The regular selection asks for a parachain head only for the source's, and only once the
target has the source's relay header. -/
theorem selectRegular_eq_relayingParaHeader {paraHeaderId : HeaderId ParaHash}
    (h : selectRegular data relayHeaderAtTarget = .relayingParaHeader paraHeaderId) :
    data.paraHeaderAtSource = some paraHeaderId ∧ data.relayHeaderAtSource ≤ relayHeaderAtTarget := by
  unfold selectRegular at h
  split at h
  · cases h
  · rename_i paraHeaderAtSource hsource
    dsimp only at h
    split_ifs at h with hmet hbehind hlt
    cases h
    exact ⟨hsource, Nat.not_lt.mp hlt⟩

end Round

/-- The head `read_relay_data` reads at the target's relay header is the parachain's head there. -/
theorem readRelayData_paraHeaderAtRelayHeaderAtTarget {source : SourceRelayChain ParaHash}
    {target : TargetChain} {requiredHeaderNumber : ℕ} {paraHeaderId : HeaderId ParaHash}
    (h : (readRelayData source target requiredHeaderNumber).paraHeaderAtRelayHeaderAtTarget =
      some paraHeaderId) :
    ∃ relayHeaderAtTarget, target.relayHeaderAtTarget = some relayHeaderAtTarget ∧
      source.paraHeadId relayHeaderAtTarget = some paraHeaderId := by
  unfold readRelayData at h
  dsimp only at h
  split at h
  · rename_i relayHeaderAtTarget havailable
    exact ⟨relayHeaderAtTarget, Option.eq_some_of_filter_eq_some havailable, h⟩
  · cases h

/-! ## Safety -/

/-- A `RelayingParaHeader` state names the parachain's head at a relay block no higher than the
relay header the target knows. -/
def Provable (paraHeadId : ℕ → Option (HeaderId ParaHash)) (relayHeaderAtTarget : Option ℕ)
    (state : RelayState ParaHash) : Prop :=
  ∀ paraHeaderId, state = .relayingParaHeader paraHeaderId →
    ∃ relayBlock knownRelayHeader, paraHeadId relayBlock = some paraHeaderId ∧
      relayHeaderAtTarget = some knownRelayHeader ∧ relayBlock ≤ knownRelayHeader

/-- A later relay header at the target proves what an earlier one did. -/
theorem Provable.mono {paraHeadId : ℕ → Option (HeaderId ParaHash)}
    {relayHeaderAtTarget relayHeaderAtTarget' : Option ℕ} {state : RelayState ParaHash}
    (h : Provable paraHeadId relayHeaderAtTarget state)
    (hle : ∀ known, relayHeaderAtTarget = some known →
      ∃ known', relayHeaderAtTarget' = some known' ∧ known ≤ known') :
    Provable paraHeadId relayHeaderAtTarget' state := by
  intro paraHeaderId hstate
  obtain ⟨relayBlock, known, hhead, hknown, hblock⟩ := h paraHeaderId hstate
  obtain ⟨known', hknown', hle'⟩ := hle known hknown
  exact ⟨relayBlock, known', hhead, hknown', hblock.trans hle'⟩

/-- **The safety step**: a round keeps the state provable with the round's own relay header at the
target.  A served relay header request takes the head at that very header; the regular selection
takes the source's head only when the target has the source's relay header. -/
theorem Provable.selectHeadersToRelay {paraHeadId : ℕ → Option (HeaderId ParaHash)}
    {bestFinalizedHeader : ℕ} {target : TargetChain} {requiredHeaderNumber : ℕ}
    {state : RelayState ParaHash} (h : Provable paraHeadId target.relayHeaderAtTarget state) :
    Provable paraHeadId target.relayHeaderAtTarget
      (selectHeadersToRelay
        (readRelayData ⟨bestFinalizedHeader, paraHeadId⟩ target requiredHeaderNumber) state) := by
  intro paraHeaderId hselect
  cases hknown : target.relayHeaderAtTarget with
  | none =>
    rw [OnDemand.selectHeadersToRelay] at hselect
    simp only [readRelayData, hknown] at hselect
    cases hselect
  | some known =>
    have hdata : (readRelayData ⟨bestFinalizedHeader, paraHeadId⟩ target
        requiredHeaderNumber).relayHeaderAtTarget = some known := hknown
    have hregular : selectRegular (readRelayData ⟨bestFinalizedHeader, paraHeadId⟩ target
        requiredHeaderNumber) known = .relayingParaHeader paraHeaderId →
          ∃ relayBlock knownRelayHeader, paraHeadId relayBlock = some paraHeaderId ∧
            some known = some knownRelayHeader ∧ relayBlock ≤ knownRelayHeader := fun hsel ↦
      let ⟨hsource, hle⟩ := selectRegular_eq_relayingParaHeader hsel
      ⟨bestFinalizedHeader, known, hsource, rfl, hle⟩
    cases state with
    | idle =>
      rw [selectHeadersToRelay_idle hdata] at hselect
      exact hregular hselect
    | relayingRelayHeader relayHeaderNumber =>
      rw [selectHeadersToRelay_relayingRelayHeader hdata] at hselect
      split_ifs at hselect
      split at hselect
      · rename_i paraHeaderAtRelayHeaderAtTarget hat
        cases hselect
        obtain ⟨relayHeaderAtTarget, hrelay, hhead⟩ :=
          readRelayData_paraHeaderAtRelayHeaderAtTarget hat
        rw [hknown, Option.some.injEq] at hrelay
        subst hrelay
        exact ⟨known, known, hhead, rfl, le_rfl⟩
      · exact hregular hselect
    | relayingParaHeader paraHeaderId' =>
      rw [selectHeadersToRelay_relayingParaHeader hdata] at hselect
      split_ifs at hselect
      · rw [← hknown]
        exact h paraHeaderId hselect
      · exact hregular hselect

section SafetyRun

variable (paraHeadId : ℕ → Option (HeaderId ParaHash)) (bestFinalizedHeader : ℕ → ℕ)
  (targets : ℕ → TargetChain) (requiredHeaderNumber : ℕ)

/-- **The safety run**: with the target's relay header never going back, every state of the run
after round `i` is provable with the relay header the target knew at round `i`. -/
theorem provable_relayStates
    (hrelay : NeverDecreases fun i ↦ (targets i).relayHeaderAtTarget) :
    ∀ i, Provable paraHeadId (targets i).relayHeaderAtTarget
      (relayStates paraHeadId bestFinalizedHeader targets requiredHeaderNumber (i + 1))
  | 0 => by
    rw [relayStates_succ, relayStates_zero]
    exact Provable.selectHeadersToRelay nofun
  | i + 1 => by
    rw [relayStates_succ]
    exact Provable.selectHeadersToRelay ((provable_relayStates hrelay i).mono (hrelay i))

end SafetyRun

/-! ## Liveness -/

/-- From round `settledAt` on the source stays at relay block `relayHeader`, whose parachain head
`paraHeader` is at or above the required one, and the target knows some relay header. -/
structure Settles (paraHeadId : ℕ → Option (HeaderId ParaHash)) (bestFinalizedHeader : ℕ → ℕ)
    (targets : ℕ → TargetChain) (requiredHeaderNumber settledAt relayHeader : ℕ)
    (paraHeader : HeaderId ParaHash) : Prop where
  source : ∀ i, settledAt ≤ i → bestFinalizedHeader i = relayHeader
  paraHead : paraHeadId relayHeader = some paraHeader
  required : requiredHeaderNumber ≤ paraHeader.number
  relayHeaderAtTarget : (targets settledAt).relayHeaderAtTarget ≠ none

/-- Every request along the run is served: a relay header request by the target's relay header
reaching it, a parachain head request by the target's parachain head reaching it. -/
structure Served (states : ℕ → RelayState ParaHash) (targets : ℕ → TargetChain) : Prop where
  relayHeader : ∀ i relayHeaderNumber, states i = .relayingRelayHeader relayHeaderNumber →
    ∃ j, i ≤ j ∧ ∃ known, (targets j).relayHeaderAtTarget = some known ∧ relayHeaderNumber ≤ known
  paraHeader : ∀ i (paraHeaderId : HeaderId ParaHash),
    states i = .relayingParaHeader paraHeaderId →
      ∃ j, i ≤ j ∧ ∃ known, (targets j).paraHeaderAtTarget = some known ∧
        paraHeaderId.number ≤ known

/-- The relay rests at round `k` with the requirement met at the target. -/
def Satisfied (states : ℕ → RelayState ParaHash) (targets : ℕ → TargetChain)
    (requiredHeaderNumber : ℕ) (paraHeader : HeaderId ParaHash) (k : ℕ) : Prop :=
  states k = .idle ∧ RequirementMet requiredHeaderNumber (targets k).paraHeaderAtTarget paraHeader

section Requirement

variable {requiredParaHeader : ℕ} {paraHeaderAtTarget : Option ℕ}
  {paraHeaderAtSource : HeaderId ParaHash}

/-- A met requirement stays met as the target's parachain head goes up. -/
theorem RequirementMet.mono {paraHeaderAtTarget' : Option ℕ}
    (hrequired : requiredParaHeader ≤ paraHeaderAtSource.number)
    (h : RequirementMet requiredParaHeader paraHeaderAtTarget paraHeaderAtSource)
    (hle : ∀ known, paraHeaderAtTarget = some known →
      ∃ known', paraHeaderAtTarget' = some known' ∧ known ≤ known') :
    RequirementMet requiredParaHeader paraHeaderAtTarget' paraHeaderAtSource := by
  cases paraHeaderAtTarget with
  | none =>
    cases paraHeaderAtTarget' with
    | none => exact h
    | some known' => exact Nat.le_trans hrequired (Nat.le_trans h (Nat.zero_le known'))
  | some known =>
    obtain ⟨known', rfl, hknown⟩ := hle known rfl
    exact Nat.le_trans h hknown

/-- A target at or above the source's head meets a requirement at or below it. -/
theorem requirementMet_of_le (hrequired : requiredParaHeader ≤ paraHeaderAtSource.number)
    (h : paraHeaderAtSource.number ≤ paraHeaderAtTarget.getD 0) :
    RequirementMet requiredParaHeader paraHeaderAtTarget paraHeaderAtSource := by
  cases paraHeaderAtTarget with
  | none => exact h
  | some known => exact Nat.le_trans hrequired h

/-- A met requirement, read as the code's client reads it: the head at the target, or `0`. -/
theorem RequirementMet.le_getD (hrequired : requiredParaHeader ≤ paraHeaderAtSource.number)
    (h : RequirementMet requiredParaHeader paraHeaderAtTarget paraHeaderAtSource) :
    requiredParaHeader ≤ paraHeaderAtTarget.getD 0 := by
  cases paraHeaderAtTarget with
  | none => exact Nat.le_trans hrequired h
  | some known => exact h

end Requirement

section Liveness

variable {paraHeadId : ℕ → Option (HeaderId ParaHash)} {bestFinalizedHeader : ℕ → ℕ}
  {targets : ℕ → TargetChain} {requiredHeaderNumber settledAt relayHeader : ℕ}
  {paraHeader : HeaderId ParaHash} {states : ℕ → RelayState ParaHash}
  (hrun : ∀ i, states (i + 1) = selectHeadersToRelay
    (readRelayData ⟨bestFinalizedHeader i, paraHeadId⟩ (targets i) requiredHeaderNumber) (states i))
  (hrelay : NeverDecreases fun i ↦ (targets i).relayHeaderAtTarget)
  (hpara : NeverDecreases fun i ↦ (targets i).paraHeaderAtTarget)
  (hsettles : Settles paraHeadId bestFinalizedHeader targets requiredHeaderNumber settledAt
    relayHeader paraHeader)
  (hserved : Served states targets)

include hrun hsettles in
theorem Settles.step {k : ℕ} (hk : settledAt ≤ k) :
    states (k + 1) = selectHeadersToRelay
      (readRelayData ⟨relayHeader, paraHeadId⟩ (targets k) requiredHeaderNumber) (states k) := by
  rw [hrun, hsettles.source k hk]

include hrelay hsettles in
theorem Settles.exists_relayHeaderAtTarget {k : ℕ} (hk : settledAt ≤ k)
    (source : SourceRelayChain ParaHash) :
    ∃ known, (readRelayData source (targets k) requiredHeaderNumber).relayHeaderAtTarget =
      some known := by
  obtain ⟨known, hknown⟩ := Option.ne_none_iff_exists'.mp hsettles.relayHeaderAtTarget
  obtain ⟨known', hknown', -⟩ := hrelay.le hk hknown
  exact ⟨known', hknown'⟩

include hsettles in
/-- The regular selection once the source has settled. -/
theorem Settles.selectRegular_cases (target : TargetChain) (known : ℕ) :
    (RequirementMet requiredHeaderNumber target.paraHeaderAtTarget paraHeader ∧
        selectRegular (readRelayData ⟨relayHeader, paraHeadId⟩ target requiredHeaderNumber) known =
          .idle) ∨
      (¬ RequirementMet requiredHeaderNumber target.paraHeaderAtTarget paraHeader ∧
        known < relayHeader ∧
        selectRegular (readRelayData ⟨relayHeader, paraHeadId⟩ target requiredHeaderNumber) known =
          .relayingRelayHeader relayHeader) ∨
      (¬ RequirementMet requiredHeaderNumber target.paraHeaderAtTarget paraHeader ∧
        relayHeader ≤ known ∧
        selectRegular (readRelayData ⟨relayHeader, paraHeadId⟩ target requiredHeaderNumber) known =
          .relayingParaHeader paraHeader) := by
  have hsource : (readRelayData ⟨relayHeader, paraHeadId⟩ target
      requiredHeaderNumber).paraHeaderAtSource = some paraHeader := hsettles.paraHead
  exact OnDemand.selectRegular_cases hsource hsettles.required

include hsettles in
theorem Settles.selectRegular_of_requirementMet {target : TargetChain} {known : ℕ}
    (hmet : RequirementMet requiredHeaderNumber target.paraHeaderAtTarget paraHeader) :
    selectRegular (readRelayData ⟨relayHeader, paraHeadId⟩ target requiredHeaderNumber) known =
      .idle := by
  rcases hsettles.selectRegular_cases target known with ⟨-, hidle⟩ | ⟨hnot, -⟩ | ⟨hnot, -⟩
  · exact hidle
  · exact absurd hmet hnot
  · exact absurd hmet hnot

include hrun hrelay hsettles hserved in
/-- A relay header request leads, once served, to the head at the target's relay header or to the
regular selection. -/
theorem Settles.relayingRelayHeader_leadsTo {k relayHeaderNumber : ℕ} (hk : settledAt ≤ k)
    (hstate : states k = .relayingRelayHeader relayHeaderNumber) :
    ∃ k', k ≤ k' ∧ ∃ known, (targets k').relayHeaderAtTarget = some known ∧
      relayHeaderNumber ≤ known ∧
      ((∃ paraHeaderId, states (k' + 1) = .relayingParaHeader paraHeaderId) ∨
        states (k' + 1) = selectRegular
          (readRelayData ⟨relayHeader, paraHeadId⟩ (targets k') requiredHeaderNumber) known) := by
  have hwaits : ∀ k', k ≤ k' → states k' = .relayingRelayHeader relayHeaderNumber →
      ¬ (∃ known, (targets k').relayHeaderAtTarget = some known ∧ relayHeaderNumber ≤ known) →
        states (k' + 1) = .relayingRelayHeader relayHeaderNumber := by
    intro k' hkk' hheld hwait
    obtain ⟨known, hknown⟩ :=
      hsettles.exists_relayHeaderAtTarget hrelay (Nat.le_trans hk hkk') ⟨relayHeader, paraHeadId⟩
    rw [hsettles.step hrun (Nat.le_trans hk hkk'), hheld,
      selectHeadersToRelay_relayingRelayHeader hknown,
      if_pos (Nat.lt_of_not_le fun hle ↦ hwait ⟨known, hknown, hle⟩)]
  obtain ⟨j, hkj, hj⟩ := hserved.relayHeader k relayHeaderNumber hstate
  obtain ⟨distance, rfl⟩ := Nat.exists_eq_add_of_le hkj
  obtain ⟨k', hkk', -, hheld, known, hknown, hdone⟩ :=
    exists_held_of_waits distance rfl hwaits hstate hj
  have hdata : (readRelayData ⟨relayHeader, paraHeadId⟩ (targets k')
      requiredHeaderNumber).relayHeaderAtTarget = some known := hknown
  refine ⟨k', hkk', known, hknown, hdone, ?_⟩
  rw [hsettles.step hrun (Nat.le_trans hk hkk'), hheld]
  exact (selectHeadersToRelay_relayingRelayHeader_of_le hdata hdone).imp
    (fun ⟨paraHeaderId, _, hhead⟩ ↦ ⟨paraHeaderId, hhead⟩) id

include hrun hrelay hsettles hserved in
/-- A parachain head request leads, once served, to the regular selection. -/
theorem Settles.relayingParaHeader_leadsTo {k : ℕ} {paraHeaderId : HeaderId ParaHash}
    (hk : settledAt ≤ k) (hstate : states k = .relayingParaHeader paraHeaderId) :
    ∃ k', k ≤ k' ∧ paraHeaderId.number ≤ (targets k').paraHeaderAtTarget.getD 0 ∧
      ∃ known, (targets k').relayHeaderAtTarget = some known ∧
        states (k' + 1) = selectRegular
          (readRelayData ⟨relayHeader, paraHeadId⟩ (targets k') requiredHeaderNumber) known := by
  have hwaits : ∀ k', k ≤ k' → states k' = .relayingParaHeader paraHeaderId →
      ¬ paraHeaderId.number ≤ (targets k').paraHeaderAtTarget.getD 0 →
        states (k' + 1) = .relayingParaHeader paraHeaderId := by
    intro k' hkk' hheld hwait
    obtain ⟨known, hknown⟩ :=
      hsettles.exists_relayHeaderAtTarget hrelay (Nat.le_trans hk hkk') ⟨relayHeader, paraHeadId⟩
    rw [hsettles.step hrun (Nat.le_trans hk hkk'), hheld,
      selectHeadersToRelay_relayingParaHeader hknown]
    exact if_pos (Nat.lt_of_not_le hwait)
  obtain ⟨j, hkj, known, hknown, hle⟩ := hserved.paraHeader k paraHeaderId hstate
  obtain ⟨distance, rfl⟩ := Nat.exists_eq_add_of_le hkj
  have hj : paraHeaderId.number ≤ (targets (k + distance)).paraHeaderAtTarget.getD 0 := by
    rw [hknown]
    exact hle
  obtain ⟨k', hkk', -, hheld, hdone⟩ := exists_held_of_waits distance rfl hwaits hstate hj
  obtain ⟨known, hknown⟩ :=
    hsettles.exists_relayHeaderAtTarget hrelay (Nat.le_trans hk hkk') ⟨relayHeader, paraHeadId⟩
  refine ⟨k', hkk', hdone, known, hknown, ?_⟩
  rw [hsettles.step hrun (Nat.le_trans hk hkk'), hheld]
  exact selectHeadersToRelay_relayingParaHeader_of_le hknown hdone

/-! Each situation of the run, from the settled round on, ends with the relay resting and the
requirement met.  The lemmas go from the situation closest to the end back to the start; a relay
header request with the target above the source's relay header cannot come back, which is what
keeps the chain from looping. -/

include hrun hrelay hpara hsettles hserved in
/-- A request for the source's head: once served, the requirement is met and the relay rests. -/
theorem Settles.satisfied_of_relayingParaHeader_source {k : ℕ} (hk : settledAt ≤ k)
    (hstate : states k = .relayingParaHeader paraHeader) :
    ∃ N, k ≤ N ∧ Satisfied states targets requiredHeaderNumber paraHeader N := by
  obtain ⟨k', hkk', hdone, known, -, hnext⟩ :=
    hsettles.relayingParaHeader_leadsTo hrun hrelay hserved hk hstate
  have hmet : RequirementMet requiredHeaderNumber (targets k').paraHeaderAtTarget paraHeader :=
    requirementMet_of_le hsettles.required hdone
  have hidle : states (k' + 1) = .idle :=
    hnext.trans (hsettles.selectRegular_of_requirementMet hmet)
  exact ⟨k' + 1, by omega, hidle, hmet.mono hsettles.required (hpara k')⟩

include hrun hrelay hpara hsettles hserved in
/-- The regular selection with the target at or above the source's relay header. -/
theorem Settles.satisfied_of_selectRegular_above {k known : ℕ} (hk : settledAt ≤ k)
    (habove : relayHeader ≤ known)
    (hnext : states (k + 1) = selectRegular
      (readRelayData ⟨relayHeader, paraHeadId⟩ (targets k) requiredHeaderNumber) known) :
    ∃ N, k ≤ N ∧ Satisfied states targets requiredHeaderNumber paraHeader N := by
  rcases hsettles.selectRegular_cases (targets k) known with
    ⟨hmet, hidle⟩ | ⟨-, hbehind, -⟩ | ⟨-, -, hhead⟩
  · exact ⟨k + 1, Nat.le_succ k, hnext.trans hidle, hmet.mono hsettles.required (hpara k)⟩
  · exact absurd habove (Nat.not_le.mpr hbehind)
  · obtain ⟨N, hN, hsatisfied⟩ := hsettles.satisfied_of_relayingParaHeader_source hrun hrelay hpara
      hserved (Nat.le_succ_of_le hk) (hnext.trans hhead)
    exact ⟨N, by omega, hsatisfied⟩

include hrun hrelay hpara hsettles hserved in
/-- A parachain head request with the target at or above the source's relay header. -/
theorem Settles.satisfied_of_relayingParaHeader_above {k : ℕ} {paraHeaderId : HeaderId ParaHash}
    (hk : settledAt ≤ k)
    (habove : ∃ known, (targets k).relayHeaderAtTarget = some known ∧ relayHeader ≤ known)
    (hstate : states k = .relayingParaHeader paraHeaderId) :
    ∃ N, k ≤ N ∧ Satisfied states targets requiredHeaderNumber paraHeader N := by
  obtain ⟨k', hkk', -, known, hknown, hnext⟩ :=
    hsettles.relayingParaHeader_leadsTo hrun hrelay hserved hk hstate
  obtain ⟨known', hknown', habove'⟩ := hrelay.ge hkk' habove
  obtain rfl : known' = known := Option.some.inj (hknown'.symm.trans hknown)
  obtain ⟨N, hN, hsatisfied⟩ := hsettles.satisfied_of_selectRegular_above hrun hrelay hpara hserved
    (Nat.le_trans hk hkk') habove' hnext
  exact ⟨N, by omega, hsatisfied⟩

include hrun hrelay hpara hsettles hserved in
/-- The regular selection.  A relay header request it makes is for the source's relay header,
so that, once served, the target is above it for good. -/
theorem Settles.satisfied_of_selectRegular {k known : ℕ} (hk : settledAt ≤ k)
    (hnext : states (k + 1) = selectRegular
      (readRelayData ⟨relayHeader, paraHeadId⟩ (targets k) requiredHeaderNumber) known) :
    ∃ N, k ≤ N ∧ Satisfied states targets requiredHeaderNumber paraHeader N := by
  rcases hsettles.selectRegular_cases (targets k) known with
    ⟨hmet, hidle⟩ | ⟨-, -, hrequest⟩ | ⟨-, -, hhead⟩
  · exact ⟨k + 1, Nat.le_succ k, hnext.trans hidle, hmet.mono hsettles.required (hpara k)⟩
  · obtain ⟨k', hkk', known', hknown', habove, hhead | hregular⟩ :=
      hsettles.relayingRelayHeader_leadsTo hrun hrelay hserved (Nat.le_succ_of_le hk)
        (hnext.trans hrequest)
    · obtain ⟨paraHeaderId, hhead⟩ := hhead
      obtain ⟨N, hN, hsatisfied⟩ := hsettles.satisfied_of_relayingParaHeader_above hrun hrelay
        hpara hserved (by omega) (hrelay.ge (Nat.le_succ k') ⟨known', hknown', habove⟩) hhead
      exact ⟨N, by omega, hsatisfied⟩
    · obtain ⟨N, hN, hsatisfied⟩ := hsettles.satisfied_of_selectRegular_above hrun hrelay hpara
        hserved (by omega) habove hregular
      exact ⟨N, by omega, hsatisfied⟩
  · obtain ⟨N, hN, hsatisfied⟩ := hsettles.satisfied_of_relayingParaHeader_source hrun hrelay hpara
      hserved (Nat.le_succ_of_le hk) (hnext.trans hhead)
    exact ⟨N, by omega, hsatisfied⟩

include hrun hrelay hpara hsettles hserved in
theorem Settles.satisfied_of_relayingParaHeader {k : ℕ} {paraHeaderId : HeaderId ParaHash}
    (hk : settledAt ≤ k) (hstate : states k = .relayingParaHeader paraHeaderId) :
    ∃ N, k ≤ N ∧ Satisfied states targets requiredHeaderNumber paraHeader N := by
  obtain ⟨k', hkk', -, known, -, hnext⟩ :=
    hsettles.relayingParaHeader_leadsTo hrun hrelay hserved hk hstate
  obtain ⟨N, hN, hsatisfied⟩ := hsettles.satisfied_of_selectRegular hrun hrelay hpara hserved
    (Nat.le_trans hk hkk') hnext
  exact ⟨N, by omega, hsatisfied⟩

include hrun hrelay hpara hsettles hserved in
theorem Settles.satisfied_of_relayingRelayHeader {k relayHeaderNumber : ℕ} (hk : settledAt ≤ k)
    (hstate : states k = .relayingRelayHeader relayHeaderNumber) :
    ∃ N, k ≤ N ∧ Satisfied states targets requiredHeaderNumber paraHeader N := by
  obtain ⟨k', hkk', known, -, -, hhead | hregular⟩ :=
    hsettles.relayingRelayHeader_leadsTo hrun hrelay hserved hk hstate
  · obtain ⟨paraHeaderId, hhead⟩ := hhead
    obtain ⟨N, hN, hsatisfied⟩ := hsettles.satisfied_of_relayingParaHeader hrun hrelay hpara hserved
      (by omega) hhead
    exact ⟨N, by omega, hsatisfied⟩
  · obtain ⟨N, hN, hsatisfied⟩ := hsettles.satisfied_of_selectRegular hrun hrelay hpara hserved
      (Nat.le_trans hk hkk') hregular
    exact ⟨N, by omega, hsatisfied⟩

include hrun hrelay hpara hsettles hserved in
/-- Whatever the state at the settled round, the relay comes to rest with the requirement met. -/
theorem Settles.exists_satisfied :
    ∃ N, settledAt ≤ N ∧ Satisfied states targets requiredHeaderNumber paraHeader N := by
  cases hstate : states settledAt with
  | idle =>
    obtain ⟨known, hknown⟩ :=
      hsettles.exists_relayHeaderAtTarget hrelay (Nat.le_refl _) ⟨relayHeader, paraHeadId⟩
    have hnext : states (settledAt + 1) = selectRegular
        (readRelayData ⟨relayHeader, paraHeadId⟩ (targets settledAt) requiredHeaderNumber) known := by
      rw [hsettles.step hrun (Nat.le_refl _), hstate, selectHeadersToRelay_idle hknown]
    exact hsettles.satisfied_of_selectRegular hrun hrelay hpara hserved (Nat.le_refl _) hnext
  | relayingRelayHeader relayHeaderNumber =>
    exact hsettles.satisfied_of_relayingRelayHeader hrun hrelay hpara hserved (Nat.le_refl _) hstate
  | relayingParaHeader paraHeaderId =>
    exact hsettles.satisfied_of_relayingParaHeader hrun hrelay hpara hserved (Nat.le_refl _) hstate

include hrun hrelay hpara hsettles in
/-- The step of resting: a relay at rest with the requirement met stays so. -/
theorem Settles.satisfied_succ {k : ℕ} (hk : settledAt ≤ k)
    (h : Satisfied states targets requiredHeaderNumber paraHeader k) :
    Satisfied states targets requiredHeaderNumber paraHeader (k + 1) := by
  obtain ⟨hidle, hmet⟩ := h
  obtain ⟨known, hknown⟩ := hsettles.exists_relayHeaderAtTarget hrelay hk ⟨relayHeader, paraHeadId⟩
  refine ⟨?_, hmet.mono hsettles.required (hpara k)⟩
  rw [hsettles.step hrun hk, hidle, selectHeadersToRelay_idle hknown]
  exact hsettles.selectRegular_of_requirementMet hmet

include hrun hrelay hpara hsettles hserved in
/-- **Liveness** of any run, from any state: once the source has settled and the requests are
served, the relay rests for good with the client's head at the target. -/
theorem Settles.eventually_idle :
    ∃ N, ∀ i, N ≤ i → states i = .idle ∧
      requiredHeaderNumber ≤ (targets i).paraHeaderAtTarget.getD 0 := by
  obtain ⟨N, hN, hsatisfied⟩ := hsettles.exists_satisfied hrun hrelay hpara hserved
  refine ⟨N, fun i hi ↦ ?_⟩
  have hrest : Satisfied states targets requiredHeaderNumber paraHeader i := by
    induction i, hi using Nat.le_induction with
    | base => exact hsatisfied
    | succ i hNi ih => exact hsettles.satisfied_succ hrun hrelay hpara (Nat.le_trans hN hNi) ih
  exact ⟨hrest.1, hrest.2.le_getD hsettles.required⟩

end Liveness

/-- **The on-demand parachains relay along a run** from `Idle`, with the target's heads never
going back.  Safety: every parachain head it asks for is the parachain's head at a relay block no
higher than the relay header the target knows at that round.  Liveness: once the source has
settled at or above the client's requirement and every request is served, the relay rests for
good with the requirement met (no head at the target counting as `0`, as the code reads it). -/
theorem selectHeadersToRelay_run (paraHeadId : ℕ → Option (HeaderId ParaHash))
    (bestFinalizedHeader : ℕ → ℕ) (targets : ℕ → TargetChain) (requiredHeaderNumber : ℕ)
    (hrelay : NeverDecreases fun i ↦ (targets i).relayHeaderAtTarget)
    (hpara : NeverDecreases fun i ↦ (targets i).paraHeaderAtTarget) :
    (∀ i paraHeaderId,
      relayStates paraHeadId bestFinalizedHeader targets requiredHeaderNumber (i + 1) =
          .relayingParaHeader paraHeaderId →
        ∃ relayBlock knownRelayHeader, paraHeadId relayBlock = some paraHeaderId ∧
          (targets i).relayHeaderAtTarget = some knownRelayHeader ∧
          relayBlock ≤ knownRelayHeader) ∧
      ∀ settledAt relayHeader paraHeader,
        Settles paraHeadId bestFinalizedHeader targets requiredHeaderNumber settledAt relayHeader
            paraHeader →
          Served (relayStates paraHeadId bestFinalizedHeader targets requiredHeaderNumber)
              targets →
            ∃ N, ∀ i, N ≤ i →
              relayStates paraHeadId bestFinalizedHeader targets requiredHeaderNumber i = .idle ∧
                requiredHeaderNumber ≤ (targets i).paraHeaderAtTarget.getD 0 :=
  ⟨fun i ↦ provable_relayStates paraHeadId bestFinalizedHeader targets requiredHeaderNumber hrelay i,
    fun _ _ _ hsettles hserved ↦ hsettles.eventually_idle
      (relayStates_succ paraHeadId bestFinalizedHeader targets requiredHeaderNumber) hrelay hpara
      hserved⟩

example : selectHeadersToRelay
    (⟨90, some 50, some ⟨110, 110⟩, some ⟨100, 100⟩, 800, some 780⟩ : RelayData ℕ)
    (.relayingRelayHeader 750) = .relayingParaHeader ⟨100, 100⟩ := by
  decide

example : selectHeadersToRelay (⟨0, none, some ⟨125, 125⟩, some ⟨125, 125⟩, 800, some 700⟩ : RelayData ℕ)
    .idle = .relayingRelayHeader 800 := by
  decide

/-- A target that learns relay header 800 in round 1 and the parachain's head 125 in round 2. -/
def catchingUpTargets : ℕ → TargetChain
  | 0 => ⟨some 50, some 700⟩
  | 1 => ⟨some 50, some 800⟩
  | _ + 2 => ⟨some 125, some 800⟩

/-- The parachain's head is 125 from relay block 800 on, and 100 before. -/
def headsFrom800 (relayBlock : ℕ) : Option (HeaderId ℕ) :=
  if 800 ≤ relayBlock then some ⟨125, 125⟩ else some ⟨100, 100⟩

theorem catchingUpTargets_relayHeaderAtTarget :
    NeverDecreases fun i ↦ (catchingUpTargets i).relayHeaderAtTarget := by
  intro i known hknown
  match i, hknown with
  | 0, hknown => exact ⟨800, rfl, by rw [← Option.some.inj hknown]; decide⟩
  | 1, hknown => exact ⟨800, rfl, Nat.le_of_eq (Option.some.inj hknown).symm⟩
  | _ + 2, hknown => exact ⟨800, rfl, Nat.le_of_eq (Option.some.inj hknown).symm⟩

theorem catchingUpTargets_paraHeaderAtTarget :
    NeverDecreases fun i ↦ (catchingUpTargets i).paraHeaderAtTarget := by
  intro i known hknown
  match i, hknown with
  | 0, hknown => exact ⟨50, rfl, Nat.le_of_eq (Option.some.inj hknown).symm⟩
  | 1, hknown => exact ⟨125, rfl, by rw [← Option.some.inj hknown]; decide⟩
  | _ + 2, hknown => exact ⟨125, rfl, Nat.le_of_eq (Option.some.inj hknown).symm⟩

/-- The relay asks for relay header 800, then for head 125, then rests. -/
theorem relayStates_catchingUp (i : ℕ) :
    relayStates headsFrom800 (fun _ ↦ 800) catchingUpTargets 120 (i + 3) = .idle := by
  induction i with
  | zero => decide
  | succ i ih =>
    rw [relayStates_succ, ih]
    rfl

theorem catchingUp_served :
    Served (relayStates headsFrom800 (fun _ ↦ 800) catchingUpTargets 120) catchingUpTargets where
  relayHeader i relayHeaderNumber hstate := by
    match i, hstate with
    | 0, hstate => cases hstate
    | 1, hstate =>
      obtain rfl : 800 = relayHeaderNumber := RelayState.relayingRelayHeader.inj hstate
      exact ⟨1, Nat.le_refl 1, 800, rfl, Nat.le_refl 800⟩
    | 2, hstate => cases hstate
    | i + 3, hstate =>
      rw [relayStates_catchingUp] at hstate
      cases hstate
  paraHeader i paraHeaderId hstate := by
    match i, hstate with
    | 0, hstate => cases hstate
    | 1, hstate => cases hstate
    | 2, hstate =>
      obtain rfl : ⟨125, 125⟩ = paraHeaderId := RelayState.relayingParaHeader.inj hstate
      exact ⟨2, Nat.le_refl 2, 125, rfl, Nat.le_refl 125⟩
    | i + 3, hstate =>
      rw [relayStates_catchingUp] at hstate
      cases hstate

theorem selectHeadersToRelay_run_catchingUp :
    relayStates headsFrom800 (fun _ ↦ 800) catchingUpTargets 120 1 = .relayingRelayHeader 800 ∧
      relayStates headsFrom800 (fun _ ↦ 800) catchingUpTargets 120 2 =
        .relayingParaHeader ⟨125, 125⟩ ∧
      Settles headsFrom800 (fun _ ↦ 800) catchingUpTargets 120 0 800 ⟨125, 125⟩ ∧
      ∃ N, ∀ i, N ≤ i → relayStates headsFrom800 (fun _ ↦ 800) catchingUpTargets 120 i = .idle ∧
        120 ≤ (catchingUpTargets i).paraHeaderAtTarget.getD 0 := by
  have hsettles : Settles headsFrom800 (fun _ ↦ 800) catchingUpTargets 120 0 800 ⟨125, 125⟩ :=
    ⟨fun _ _ ↦ rfl, rfl, by decide, by decide⟩
  exact ⟨by decide, by decide, hsettles,
    (selectHeadersToRelay_run headsFrom800 (fun _ ↦ 800) catchingUpTargets 120
      catchingUpTargets_relayHeaderAtTarget catchingUpTargets_paraHeaderAtTarget).2 0 800
      ⟨125, 125⟩ hsettles catchingUp_served⟩

end OnDemand
