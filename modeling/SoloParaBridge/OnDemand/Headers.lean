import SoloParaBridge.Finality.Loop
import SoloParaBridge.Lib.Trace

/-!
# The on-demand headers relay

`lib_substrate_relay::on_demand::headers`.  An on-demand headers relay runs a finality relay whose
source never reports a best finalized header above `required_header_number`
(`SubstrateFinalitySource::best_finalized_block_number` with a `maximal_header_number`), so that
it relays headers only as far as someone asks.  Other relays raise the number with
`require_more_headers`; the relay's own `background_task` raises it, each round, to the first
mandatory header the target misses, so that changes of the authority set are relayed even when no
one asks for them (`mandatory_headers_scan_range`, `relay_mandatory_header_from_range`).  To avoid
scanning the same headers over and over, a scan that asks for nothing remembers its end in
`latest_non_mandatory_at_source`, and later scans start there.

The clients answer every read that the task does not retry: a read that fails with an error that
is not a connection error is `none`, as `.ok()` makes it; a connection error skips the round, as
a round with nothing new does.  The finality relay task it starts is `Finality.LoopState`.
Header numbers have `numberBits` bits: `best_finalized_source_header_at_target + 1` wraps at
`Number::MAX`, and so does the scan's `current += 1`, so that the scan of a range that ends at
`Number::MAX` goes on from `0`, and never returns when no header is mandatory
(`HeadersRelayState.scanHangs`).

Safety along every run (`requiredHeaderNumber_run`): the required number never goes down, and is
always `0`, a number some relay asked for, or a mandatory header.  While the best numbers are
below `Number::MAX`, the finality relay of an on-demand relay never submits a header above it
(`iterate_le_requiredHeaderNumber`).

The scan's memory has a cost (`requiredHeaderNumber_forgets`): when the first mandatory header of
a scan is already required, the scan still remembers its whole range as free of mandatory
headers.  A later mandatory header of that range, above the required number, is then never asked
for: the requirement stays where it is for as long as no one asks for more and no later header
changes the authority set, and the target never gets that header.
-/

set_option autoImplicit false

namespace OnDemand

open Trace Checkpoints

/-- `mandatory_headers_scan_range`: the inclusive range to scan for a mandatory header, or `none`
when the relay is already asked to sync as far as the source has headers.  The range starts at
`best_finalized_source_header_at_target + 1`, which wraps at `Number::MAX`. -/
def mandatoryHeadersScanRange (numberBits : ℕ) (bestFinalizedSourceHeaderAtSource
    bestFinalizedSourceHeaderAtTarget : Option ℕ) (requiredHeaderNumber : ℕ) : Option (ℕ × ℕ) :=
  -- a failed read at the target counts as the required number, one at the source as the target's
  let bestFinalizedSourceHeaderAtTarget := bestFinalizedSourceHeaderAtTarget.getD requiredHeaderNumber
  let bestFinalizedSourceHeaderAtSource :=
    bestFinalizedSourceHeaderAtSource.getD bestFinalizedSourceHeaderAtTarget
  if requiredHeaderNumber ≥ bestFinalizedSourceHeaderAtSource then none
  else some (Unsigned.wrappingAdd numberBits bestFinalizedSourceHeaderAtTarget 1,
    bestFinalizedSourceHeaderAtSource)

/-- `find_mandatory_header_in_range`: the first header of the inclusive range that schedules a
change of the authority set, if any.  `current += 1` wraps at `Number::MAX`, so a range that ends
there is scanned on from `0`, round and round until a mandatory header turns up; the outer
`none` is a scan that never returns. -/
def findMandatoryHeaderInRange (numberBits : ℕ) (isMandatory : ℕ → Bool) (range : ℕ × ℕ) :
    Option (Option ℕ) :=
  if range.2 < 2 ^ numberBits - 1 then
    some ((List.range' range.1 (range.2 + 1 - range.1)).find? isMandatory)
  else
    match (List.range' range.1 (2 ^ numberBits - range.1)).find? isMandatory with
    | some mandatorySourceHeaderNumber => some (some mandatorySourceHeaderNumber)
    | none => ((List.range' 0 (2 ^ numberBits)).find? isMandatory).map some

/-- `relay_mandatory_header_from_range`: whether a mandatory header was asked for, and the
required number after it; `none` where the scan never returns. -/
def relayMandatoryHeaderFromRange (numberBits : ℕ) (isMandatory : ℕ → Bool)
    (requiredHeaderNumber : ℕ) (range : ℕ × ℕ) : Option (Bool × ℕ) :=
  match findMandatoryHeaderInRange numberBits isMandatory range with
  | none => none
  | some none => some (false, requiredHeaderNumber)
  | some (some mandatorySourceHeaderNumber) =>
    if requiredHeaderNumber ≥ mandatorySourceHeaderNumber then some (false, requiredHeaderNumber)
    else some (true, mandatorySourceHeaderNumber)

/-- What the on-demand headers relay keeps between the rounds of `background_task`: the shared
`required_header_number`, `latest_non_mandatory_at_source`, and whether the task hangs in a
scan that never returns. -/
structure HeadersRelayState where
  requiredHeaderNumber : ℕ
  latestNonMandatoryAtSource : ℕ
  scanHangs : Bool
  deriving DecidableEq, Repr

namespace HeadersRelayState

/-- The state when `OnDemandHeadersRelay::new` spawns the task. -/
def init : HeadersRelayState := ⟨0, 0, false⟩

/-- `OnDemandHeadersRelay::require_more_headers`. -/
def requireMoreHeaders (state : HeadersRelayState) (requiredHeader : ℕ) : HeadersRelayState :=
  if requiredHeader > state.requiredHeaderNumber then
    { state with requiredHeaderNumber := requiredHeader }
  else state

/-- One round of the loop of `background_task`, after its two reads; a task that hangs in a scan
runs no more rounds. -/
def round (numberBits : ℕ) (isMandatory : ℕ → Bool) (state : HeadersRelayState)
    (bestFinalizedSourceHeaderAtSource bestFinalizedSourceHeaderAtTarget : Option ℕ) :
    HeadersRelayState :=
  if state.scanHangs then state
  else
    match mandatoryHeadersScanRange numberBits bestFinalizedSourceHeaderAtSource
        bestFinalizedSourceHeaderAtTarget state.requiredHeaderNumber with
    | none => state
    | some mandatoryScanRange =>
      match relayMandatoryHeaderFromRange numberBits isMandatory state.requiredHeaderNumber
          (max mandatoryScanRange.1 state.latestNonMandatoryAtSource, mandatoryScanRange.2) with
      | some (true, requiredHeaderNumber) => { state with requiredHeaderNumber }
      -- no mandatory header in the range, or none that needs asking for: remember that
      | some (false, _) => { state with latestNonMandatoryAtSource := mandatoryScanRange.2 }
      | none => { state with scanHangs := true }

end HeadersRelayState

/-- What happens between two rounds, and what a round reads: the number another relay asked for,
if any, and the best finalized numbers at the source and at the target. -/
structure HeadersRound where
  requiredHeader : Option ℕ
  bestFinalizedSourceHeaderAtSource : Option ℕ
  bestFinalizedSourceHeaderAtTarget : Option ℕ

/-- A round with what happened before it. -/
def HeadersRound.step (numberBits : ℕ) (isMandatory : ℕ → Bool) (input : HeadersRound)
    (state : HeadersRelayState) : HeadersRelayState :=
  let state := match input.requiredHeader with
    | some requiredHeader => state.requireMoreHeaders requiredHeader
    | none => state
  state.round numberBits isMandatory input.bestFinalizedSourceHeaderAtSource
    input.bestFinalizedSourceHeaderAtTarget

/-- The task's states along a run. -/
def headersRelayStates (numberBits : ℕ) (isMandatory : ℕ → Bool) (inputs : ℕ → HeadersRound) :
    ℕ → HeadersRelayState :=
  runInputs (HeadersRound.step numberBits isMandatory) .init inputs

/-- `SubstrateFinalitySource::best_finalized_block_number` of an on-demand relay: the source's best
finalized number, never above the required one. -/
def bestFinalizedBlockNumber (onChainBestFinalizedBlockNumber requiredHeaderNumber : ℕ) : ℕ :=
  if onChainBestFinalizedBlockNumber > requiredHeaderNumber then requiredHeaderNumber
  else onChainBestFinalizedBlockNumber

/-! ## One round -/

section Round

variable {numberBits : ℕ} {isMandatory : ℕ → Bool}

/-- A header the scan finds is mandatory. -/
theorem findMandatoryHeaderInRange_mandatory {range : ℕ × ℕ} {m : ℕ}
    (h : findMandatoryHeaderInRange numberBits isMandatory range = some (some m)) :
    isMandatory m = true := by
  unfold findMandatoryHeaderInRange at h
  split_ifs at h
  · exact List.find?_some (Option.some.inj h)
  · split at h
    · rename_i hfind
      cases h
      exact List.find?_some hfind
    · obtain ⟨found, hfind, hsome⟩ := Option.map_eq_some_iff.mp h
      cases hsome
      exact List.find?_some hfind

/-- **A scan past the last mandatory header finds the first one from `0`**: with no mandatory
header from the range's start on, what the scan finds, after going round, is at most every
mandatory header. -/
theorem findMandatoryHeaderInRange_le {range : ℕ × ℕ} {m m' : ℕ}
    (hnone : ∀ n, range.1 ≤ n → isMandatory n = false) (hm : isMandatory m = true)
    (h : findMandatoryHeaderInRange numberBits isMandatory range = some (some m')) : m' ≤ m := by
  have hfromStart : ∀ count, (List.range' range.1 count).find? isMandatory = none := by
    intro count
    rw [List.find?_range'_eq_none]
    intro n hn _
    simp [hnone n hn]
  unfold findMandatoryHeaderInRange at h
  split_ifs at h
  · rw [hfromStart] at h
    cases h
  · rw [hfromStart] at h
    obtain ⟨found, hfind, hsome⟩ := Option.map_eq_some_iff.mp h
    cases hsome
    obtain ⟨-, -, hfirst⟩ := List.find?_range'_eq_some.mp hfind
    by_contra hlt
    simpa [hm] using hfirst m (Nat.zero_le m) (by omega)

theorem mandatoryHeadersScanRange_eq_some {bestFinalizedSourceHeaderAtSource
      bestFinalizedSourceHeaderAtTarget : Option ℕ} {requiredHeaderNumber : ℕ} {range : ℕ × ℕ}
    (h : mandatoryHeadersScanRange numberBits bestFinalizedSourceHeaderAtSource
      bestFinalizedSourceHeaderAtTarget requiredHeaderNumber = some range) :
    range.2 = bestFinalizedSourceHeaderAtSource.getD
        (bestFinalizedSourceHeaderAtTarget.getD requiredHeaderNumber) ∧
      requiredHeaderNumber < range.2 := by
  rw [mandatoryHeadersScanRange] at h
  split_ifs at h with hge
  obtain rfl := Option.some.inj h
  exact ⟨rfl, by omega⟩

/-- `relay_mandatory_header_from_range` hangs with the scan, and otherwise asks for the range's
first mandatory header exactly when it lies above the required number. -/
theorem relayMandatoryHeaderFromRange_cases (requiredHeaderNumber : ℕ) (range : ℕ × ℕ) :
    relayMandatoryHeaderFromRange numberBits isMandatory requiredHeaderNumber range = none ∨
    (relayMandatoryHeaderFromRange numberBits isMandatory requiredHeaderNumber range =
        some (false, requiredHeaderNumber) ∧
      ∀ m, findMandatoryHeaderInRange numberBits isMandatory range = some (some m) →
        m ≤ requiredHeaderNumber) ∨
    ∃ m, findMandatoryHeaderInRange numberBits isMandatory range = some (some m) ∧
      requiredHeaderNumber < m ∧
      relayMandatoryHeaderFromRange numberBits isMandatory requiredHeaderNumber range =
        some (true, m) := by
  unfold relayMandatoryHeaderFromRange
  cases hfound : findMandatoryHeaderInRange numberBits isMandatory range with
  | none => exact .inl rfl
  | some found =>
    cases found with
    | none => exact .inr (.inl ⟨rfl, fun m hm ↦ nomatch hm⟩)
    | some m =>
      dsimp only
      split_ifs with hle
      · exact .inr (.inl ⟨rfl, fun m' hm' ↦ Option.some.inj (Option.some.inj hm') ▸ hle⟩)
      · exact .inr (.inr ⟨m, rfl, by omega, rfl⟩)

namespace HeadersRelayState

theorem requireMoreHeaders_requiredHeaderNumber (state : HeadersRelayState) (requiredHeader : ℕ) :
    (state.requireMoreHeaders requiredHeader).requiredHeaderNumber =
      max requiredHeader state.requiredHeaderNumber := by
  rw [requireMoreHeaders]
  split_ifs with hgt
  · exact (max_eq_left (Nat.le_of_lt hgt)).symm
  · exact (max_eq_right (Nat.le_of_not_lt hgt)).symm

@[simp] theorem requireMoreHeaders_latestNonMandatoryAtSource (state : HeadersRelayState)
    (requiredHeader : ℕ) :
    (state.requireMoreHeaders requiredHeader).latestNonMandatoryAtSource =
      state.latestNonMandatoryAtSource := by
  rw [requireMoreHeaders]
  split_ifs <;> rfl

/-- **What a round does.**  It leaves the state as it is; or it scans the range from the target's
best on, from the remembered number on, and hangs in the scan; or it asks for nothing and
remembers the range's end; or it raises the required number to a mandatory header the scan
found, which lies above it. -/
theorem round_cases (state : HeadersRelayState)
    (bestFinalizedSourceHeaderAtSource bestFinalizedSourceHeaderAtTarget : Option ℕ) :
    state.round numberBits isMandatory bestFinalizedSourceHeaderAtSource
        bestFinalizedSourceHeaderAtTarget = state ∨
      ∃ range, mandatoryHeadersScanRange numberBits bestFinalizedSourceHeaderAtSource
          bestFinalizedSourceHeaderAtTarget state.requiredHeaderNumber = some range ∧
        (state.round numberBits isMandatory bestFinalizedSourceHeaderAtSource
            bestFinalizedSourceHeaderAtTarget = { state with scanHangs := true } ∨
        (state.round numberBits isMandatory bestFinalizedSourceHeaderAtSource
            bestFinalizedSourceHeaderAtTarget =
              { state with latestNonMandatoryAtSource := range.2 } ∧
          ∀ m, findMandatoryHeaderInRange numberBits isMandatory
            (max range.1 state.latestNonMandatoryAtSource, range.2) = some (some m) →
            m ≤ state.requiredHeaderNumber) ∨
        ∃ m, findMandatoryHeaderInRange numberBits isMandatory
            (max range.1 state.latestNonMandatoryAtSource, range.2) = some (some m) ∧
          state.requiredHeaderNumber < m ∧
          state.round numberBits isMandatory bestFinalizedSourceHeaderAtSource
            bestFinalizedSourceHeaderAtTarget = { state with requiredHeaderNumber := m }) := by
  unfold round
  split_ifs with hhangs
  · exact .inl rfl
  cases hrange : mandatoryHeadersScanRange numberBits bestFinalizedSourceHeaderAtSource
      bestFinalizedSourceHeaderAtTarget state.requiredHeaderNumber with
  | none => exact .inl rfl
  | some range =>
    refine .inr ⟨range, rfl, ?_⟩
    dsimp only
    rcases relayMandatoryHeaderFromRange_cases state.requiredHeaderNumber
        (max range.1 state.latestNonMandatoryAtSource, range.2) with
      hhang | ⟨hrelay, hle⟩ | ⟨m, hfound, hlt, hrelay⟩
    · rw [hhang]
      exact .inl rfl
    · rw [hrelay]
      exact .inr (.inl ⟨rfl, hle⟩)
    · rw [hrelay]
      exact .inr (.inr ⟨m, hfound, hlt, rfl⟩)

/-- A task that hangs in a scan stays where it is. -/
theorem round_of_scanHangs {state : HeadersRelayState} (hhangs : state.scanHangs = true)
    (bestFinalizedSourceHeaderAtSource bestFinalizedSourceHeaderAtTarget : Option ℕ) :
    state.round numberBits isMandatory bestFinalizedSourceHeaderAtSource
      bestFinalizedSourceHeaderAtTarget = state :=
  if_pos hhangs

/-- A scan that returns a mandatory header already required asks for nothing and remembers the
range's end. -/
theorem round_eq_remember {bestFinalizedSourceHeaderAtSource
      bestFinalizedSourceHeaderAtTarget : Option ℕ} {state : HeadersRelayState} {range : ℕ × ℕ}
    {m : ℕ} (hhangs : state.scanHangs = false)
    (hrange : mandatoryHeadersScanRange numberBits bestFinalizedSourceHeaderAtSource
      bestFinalizedSourceHeaderAtTarget state.requiredHeaderNumber = some range)
    (hfound : findMandatoryHeaderInRange numberBits isMandatory
      (max range.1 state.latestNonMandatoryAtSource, range.2) = some (some m))
    (hrequired : m ≤ state.requiredHeaderNumber) :
    state.round numberBits isMandatory bestFinalizedSourceHeaderAtSource
        bestFinalizedSourceHeaderAtTarget =
      { state with latestNonMandatoryAtSource := range.2 } := by
  rw [round, if_neg (Bool.eq_false_iff.mp hhangs), hrange]
  dsimp only
  rw [relayMandatoryHeaderFromRange, hfound]
  dsimp only
  rw [if_pos hrequired]

/-- A round keeps the required number, or raises it to a mandatory header. -/
theorem round_requiredHeaderNumber (state : HeadersRelayState)
    (bestFinalizedSourceHeaderAtSource bestFinalizedSourceHeaderAtTarget : Option ℕ) :
    state.requiredHeaderNumber ≤ (state.round numberBits isMandatory
        bestFinalizedSourceHeaderAtSource bestFinalizedSourceHeaderAtTarget).requiredHeaderNumber ∧
      ((state.round numberBits isMandatory bestFinalizedSourceHeaderAtSource
          bestFinalizedSourceHeaderAtTarget).requiredHeaderNumber = state.requiredHeaderNumber ∨
        isMandatory (state.round numberBits isMandatory bestFinalizedSourceHeaderAtSource
          bestFinalizedSourceHeaderAtTarget).requiredHeaderNumber = true) := by
  rcases state.round_cases bestFinalizedSourceHeaderAtSource bestFinalizedSourceHeaderAtTarget with
    hsame | ⟨range, -, hhang | ⟨hremember, -⟩ | ⟨m, hfound, hlt, hraise⟩⟩
  · rw [hsame]
    exact ⟨le_rfl, .inl rfl⟩
  · rw [hhang]
    exact ⟨le_rfl, .inl rfl⟩
  · rw [hremember]
    exact ⟨le_rfl, .inl rfl⟩
  · rw [hraise]
    exact ⟨hlt.le, .inr (findMandatoryHeaderInRange_mandatory hfound)⟩

end HeadersRelayState

/-- A round with what happened before it keeps the required number, takes the number another
relay asked for, or raises it to a mandatory header. -/
theorem step_requiredHeaderNumber (input : HeadersRound) (state : HeadersRelayState) :
    state.requiredHeaderNumber ≤ (input.step numberBits isMandatory state).requiredHeaderNumber ∧
      ((input.step numberBits isMandatory state).requiredHeaderNumber = state.requiredHeaderNumber ∨
        input.requiredHeader = some (input.step numberBits isMandatory state).requiredHeaderNumber ∨
        isMandatory (input.step numberBits isMandatory state).requiredHeaderNumber = true) := by
  cases hrequest : input.requiredHeader with
  | none =>
    have hround := @HeadersRelayState.round_requiredHeaderNumber numberBits isMandatory state
      input.bestFinalizedSourceHeaderAtSource input.bestFinalizedSourceHeaderAtTarget
    simp only [HeadersRound.step, hrequest]
    exact ⟨hround.1, hround.2.imp_right .inr⟩
  | some requiredHeader =>
    have hround := @HeadersRelayState.round_requiredHeaderNumber numberBits isMandatory
      (state.requireMoreHeaders requiredHeader) input.bestFinalizedSourceHeaderAtSource
      input.bestFinalizedSourceHeaderAtTarget
    rw [HeadersRelayState.requireMoreHeaders_requiredHeaderNumber] at hround
    simp only [HeadersRound.step, hrequest]
    refine ⟨le_trans (le_max_right _ _) hround.1, ?_⟩
    rcases hround.2 with hkept | hmandatory
    · rw [hkept]
      rcases le_total requiredHeader state.requiredHeaderNumber with hle | hle
      · exact .inl (max_eq_right hle)
      · exact .inr (.inl (by rw [max_eq_left hle]))
    · exact .inr (.inr hmandatory)

end Round

/-! ## Along a run -/

section Run

variable (numberBits : ℕ) (isMandatory : ℕ → Bool) (inputs : ℕ → HeadersRound)

@[simp] theorem headersRelayStates_zero : headersRelayStates numberBits isMandatory inputs 0 = .init :=
  rfl

theorem headersRelayStates_succ (i : ℕ) :
    headersRelayStates numberBits isMandatory inputs (i + 1) =
      (inputs i).step numberBits isMandatory (headersRelayStates numberBits isMandatory inputs i) :=
  rfl

/-- **Where the required number comes from**, along every run: it never goes down, and it is `0`,
a number another relay asked for in an earlier round, or a mandatory header. -/
theorem requiredHeaderNumber_run (i : ℕ) :
    (headersRelayStates numberBits isMandatory inputs i).requiredHeaderNumber ≤
        (headersRelayStates numberBits isMandatory inputs (i + 1)).requiredHeaderNumber ∧
      ((headersRelayStates numberBits isMandatory inputs i).requiredHeaderNumber = 0 ∨
        (∃ j < i, (inputs j).requiredHeader =
          some (headersRelayStates numberBits isMandatory inputs i).requiredHeaderNumber) ∨
        isMandatory (headersRelayStates numberBits isMandatory inputs i).requiredHeaderNumber = true) := by
  refine ⟨(step_requiredHeaderNumber (inputs i) _).1, ?_⟩
  induction i with
  | zero => exact .inl rfl
  | succ i ih =>
    rw [headersRelayStates_succ]
    rcases (@step_requiredHeaderNumber numberBits isMandatory (inputs i)
        (headersRelayStates numberBits isMandatory inputs i)).2 with hkept | hasked | hmandatory
    · rw [hkept]
      rcases ih with hzero | ⟨j, hj, hasked⟩ | hmandatory
      · exact .inl hzero
      · exact .inr (.inl ⟨j, by omega, hasked⟩)
      · exact .inr (.inr hmandatory)
    · exact .inr (.inl ⟨i, by omega, hasked⟩)
    · exact .inr (.inr hmandatory)

/-- **The scan forgets a mandatory header beyond the required one.**  At round `k` the task scans
`[a, b]` and finds a mandatory header `m` already required, so it remembers `b`.  If from then on
no other relay asks for more, the source stays at or above `b` and no header from `b` on changes
the authority set, the required number never moves again: a scan that goes round past
`Number::MAX` finds a header at most `m`, and a mandatory header between the required number and
`b` is never asked for. -/
theorem requiredHeaderNumber_forgets {k a b m : ℕ} (hrequest : (inputs k).requiredHeader = none)
    (hrange : mandatoryHeadersScanRange numberBits (inputs k).bestFinalizedSourceHeaderAtSource
      (inputs k).bestFinalizedSourceHeaderAtTarget
      (headersRelayStates numberBits isMandatory inputs k).requiredHeaderNumber = some (a, b))
    (hfound : findMandatoryHeaderInRange numberBits isMandatory
      (max a (headersRelayStates numberBits isMandatory inputs k).latestNonMandatoryAtSource, b) =
        some (some m))
    (hrequired : m ≤ (headersRelayStates numberBits isMandatory inputs k).requiredHeaderNumber)
    (hlater : ∀ i, k < i → (inputs i).requiredHeader = none ∧
      ∃ atSource, (inputs i).bestFinalizedSourceHeaderAtSource = some atSource ∧ b ≤ atSource)
    (hnone : ∀ n, b ≤ n → isMandatory n = false) :
    ∀ i, k < i → (headersRelayStates numberBits isMandatory inputs i).requiredHeaderNumber =
      (headersRelayStates numberBits isMandatory inputs k).requiredHeaderNumber := by
  intro i hi
  have hm := findMandatoryHeaderInRange_mandatory hfound
  -- the invariant from round `k + 1` on: the required number as it was, and `b` remembered or
  -- the task hanging in a scan
  suffices h : (headersRelayStates numberBits isMandatory inputs i).requiredHeaderNumber =
      (headersRelayStates numberBits isMandatory inputs k).requiredHeaderNumber ∧
      (b ≤ (headersRelayStates numberBits isMandatory inputs i).latestNonMandatoryAtSource ∨
        (headersRelayStates numberBits isMandatory inputs i).scanHangs = true) from h.1
  induction i, hi using Nat.le_induction with
  | base =>
    rw [headersRelayStates_succ]
    simp only [HeadersRound.step, hrequest]
    cases hhangs : (headersRelayStates numberBits isMandatory inputs k).scanHangs with
    | true =>
      rw [HeadersRelayState.round_of_scanHangs hhangs]
      exact ⟨rfl, .inr hhangs⟩
    | false =>
      rw [HeadersRelayState.round_eq_remember hhangs hrange hfound hrequired]
      exact ⟨rfl, .inl le_rfl⟩
  | succ i hki ih =>
    obtain ⟨hnoRequest, atSource, hatSource, hb⟩ := hlater i hki
    rw [headersRelayStates_succ]
    simp only [HeadersRound.step, hnoRequest, hatSource]
    obtain ⟨hkept, hremembered | hhangs⟩ := ih
    · rcases @HeadersRelayState.round_cases numberBits isMandatory
          (headersRelayStates numberBits isMandatory inputs i) (some atSource)
          (inputs i).bestFinalizedSourceHeaderAtTarget with
        hsame | ⟨range, hrange', hhang | ⟨hremember, -⟩ | ⟨m', hfound', hlt, -⟩⟩
      · rw [hsame]
        exact ⟨hkept, .inl hremembered⟩
      · rw [hhang]
        exact ⟨hkept, .inr rfl⟩
      · rw [hremember]
        refine ⟨hkept, .inl ?_⟩
        rw [(mandatoryHeadersScanRange_eq_some hrange').1]
        exact hb
      · have hle := findMandatoryHeaderInRange_le
          (fun n hn ↦ hnone n (hremembered.trans ((le_max_right _ _).trans hn))) hm hfound'
        omega
    · rw [HeadersRelayState.round_of_scanHangs hhangs]
      exact ⟨hkept, .inr hhangs⟩

end Run

/-- **The finality relay of an on-demand relay stays within the requirement**: while the source's
and the target's best are below `Number::MAX`, a header a turn of its loop submits lies above
the target's best, at most the required number and at most the source's best. -/
theorem iterate_le_requiredHeaderNumber {Proof : Type} {targetHeaderNumber : Proof → ℕ}
    {source : Finality.SourceChain Proof} {syncParams : Finality.FinalitySyncParams}
    {loopState loopState' : Finality.LoopState Proof}
    (hbuffered : loopState.Buffered targetHeaderNumber)
    {onChainBestFinalizedBlockNumber requiredHeaderNumber bestNumberAtTarget : ℕ}
    {header : Finality.Header} {finalityProof : Proof}
    (hsource : onChainBestFinalizedBlockNumber < 2 ^ source.numberBits - 1)
    (htarget : bestNumberAtTarget < 2 ^ source.numberBits - 1)
    (h : loopState.iterate targetHeaderNumber source syncParams
      (bestFinalizedBlockNumber onChainBestFinalizedBlockNumber requiredHeaderNumber)
      bestNumberAtTarget = some (loopState', some (header, finalityProof))) :
    bestNumberAtTarget < header.number ∧ header.number ≤ requiredHeaderNumber ∧
      header.number ≤ onChainBestFinalizedBlockNumber := by
  obtain ⟨-, hsubmits⟩ :=
    Finality.LoopState.iterate_submits targetHeaderNumber source syncParams hbuffered h
  have hcapped : bestFinalizedBlockNumber onChainBestFinalizedBlockNumber requiredHeaderNumber ≤
      requiredHeaderNumber ∧
      bestFinalizedBlockNumber onChainBestFinalizedBlockNumber requiredHeaderNumber ≤
        onChainBestFinalizedBlockNumber := by
    unfold bestFinalizedBlockNumber
    split_ifs <;> omega
  obtain ⟨hlt, hle⟩ := (hsubmits header finalityProof rfl).2 (hcapped.2.trans_lt hsource) htarget
  exact ⟨hlt, hle.trans hcapped.1, hle.trans hcapped.2⟩

/-- Asked for header `3` with header `5` finalized at the source, the loop submits the header `2`
the source has a proof of. -/
theorem iterate_le_requiredHeaderNumber_persistentAtTwo :
    ∃ loopState', Finality.LoopState.init.iterate id Finality.persistentAtTwo ⟨10, false⟩
        (bestFinalizedBlockNumber 5 3) 0 = some (loopState', some (⟨2, false⟩, 2)) ∧
      5 < 2 ^ Finality.persistentAtTwo.numberBits - 1 ∧
      0 < 2 ^ Finality.persistentAtTwo.numberBits - 1 ∧ 0 < 2 ∧ 2 ≤ 3 ∧ 2 ≤ 5 := by
  obtain ⟨loopState', h⟩ : ∃ loopState', Finality.LoopState.init.iterate id
      Finality.persistentAtTwo ⟨10, false⟩ (bestFinalizedBlockNumber 5 3) 0 =
        some (loopState', some (⟨2, false⟩, 2)) := ⟨_, rfl⟩
  have hsource : 5 < 2 ^ Finality.persistentAtTwo.numberBits - 1 := by decide
  have htarget : 0 < 2 ^ Finality.persistentAtTwo.numberBits - 1 := by decide
  exact ⟨loopState', h, hsource, htarget,
    iterate_le_requiredHeaderNumber (Finality.LoopState.buffered_init id) hsource htarget h⟩

/-- A source whose headers `60` and `110` change the authority set. -/
def changesAt60And110 (n : ℕ) : Bool :=
  n = 60 || n = 110

/-- Another relay asks for header `100`; then the source is at `120` and the target at `50`, and
later the target at `100`. -/
def askedFor100 : ℕ → HeadersRound
  | 0 => ⟨some 100, none, none⟩
  | 1 => ⟨none, some 120, some 50⟩
  | _ + 2 => ⟨none, some 120, some 100⟩

/-- The scan of round `1` finds header `60`, already required, and remembers `120`: header `110`,
which changes the authority set and which the target misses, is never asked for. -/
theorem requiredHeaderNumber_forgets_110 :
    changesAt60And110 110 = true ∧
      (headersRelayStates 32 changesAt60And110 askedFor100 1).requiredHeaderNumber = 100 ∧
      ∀ i, 1 < i → (headersRelayStates 32 changesAt60And110 askedFor100 i).requiredHeaderNumber =
        100 := by
  refine ⟨rfl, rfl, requiredHeaderNumber_forgets 32 changesAt60And110 askedFor100 (k := 1) (a := 51)
    (b := 120) (m := 60) rfl rfl rfl (by decide) ?_ ?_⟩
  · intro i hi
    obtain ⟨j, rfl⟩ : ∃ j, i = j + 2 := ⟨i - 2, by omega⟩
    exact ⟨rfl, 120, rfl, le_rfl⟩
  · intro n hn
    simp only [changesAt60And110, Bool.or_eq_false_iff, decide_eq_false_iff_not]
    omega

end OnDemand
