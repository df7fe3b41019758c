import SoloParaBridge.Lib.BinarySearch
import SoloParaBridge.Lib.Checkpoints
import SoloParaBridge.Lib.Unsigned
import Mathlib.Data.List.Range
import Mathlib.Data.Nat.Find

/-!
# Which header the finality relay submits

`finality_relay::finality_loop::select_header_to_submit`.  The relay reads the source headers the
target does not have, `(best_number_at_target, best_number_at_source]`, in order
(`read_missing_headers`).  The first mandatory header (one that changes the authority set) stops
the scan: it is submitted with its persistent proof, or the scan fails when it has none.  Other
headers with a persistent proof replace the selection and clear the list of headers read since
the last one.  Unless the relay submits mandatory headers only, it then reads the proofs the
finality stream has ready into its buffer of recent proofs, and may pick a later header of the
list that one of those proves (`select_better_recent_finality_proof`), found by binary searches
in the buffer and in the list.  Last, the buffer is pruned below the selection.

Header numbers are `P::Number`, of `numberBits` bits, and `header_number + One::one()` wraps at
`Number::MAX`, as a release build computes it.  From `best_number_at_target = Number::MAX` the scan
starts at `0`; with `best_number_at_source = Number::MAX` the condition
`header_number <= best_number_at_source` never fails, so the scan goes round from `0` and only a
mandatory header ends it.  A header is its number and its mandatory flag, and the source client
answers every request; the proofs are of any type, with their target number read by
`targetHeaderNumber`.

`selectHeaderToSubmit_spec` is the result for numbers below `Number::MAX`: the first mandatory
header is submitted or reported, and with none, a selected header is in the range, at least the
last header with a persistent proof, and proven by its persistent proof or by a recent proof of
its number.  The binary searches are shown never to panic along the way: the list of headers read
is a run of consecutive numbers, so the search in it finds every number between its ends.  At
`Number::MAX` the relay may submit a header at or below the target's best
(`selectHeaderToSubmit_at_max`), but whatever the numbers, it never passes the first mandatory
header above the target's best (`selectHeaderToSubmit_stopsAt`): the scan passes only headers that
are not mandatory.

On a buffer sorted by strictly increasing numbers, as the relay keeps it, the two helpers are
what their names say: pruning keeps the proofs above the justified number, cut to the limit
(`pruneRecentFinalityProofs_eq_filter`), and the improvement picks the last buffered proof among
the headers' numbers, with the header of that number (`selectBetterRecentFinalityProof_of_sorted`).
-/

set_option autoImplicit false

namespace Finality

open BinarySearch Checkpoints

/-- A header of the source chain: its number, and whether it is mandatory. -/
structure Header where
  number : ℕ
  isMandatory : Bool
  deriving DecidableEq, Repr

/-- The source chain as the relay reads it: the width of its header numbers, and what the source
client answers for each number: whether the header is mandatory, and its persistent finality
proof, if any. -/
structure SourceChain (Proof : Type) where
  numberBits : ℕ
  isMandatory : ℕ → Bool
  persistentProof : ℕ → Option Proof

/-- `header_and_finality_proof(number)`. -/
def SourceChain.headerAndFinalityProof {Proof : Type} (source : SourceChain Proof) (number : ℕ) :
    Header × Option Proof :=
  (⟨number, source.isMandatory number⟩, source.persistentProof number)

/-- The error `select_header_to_submit` can end with, with the source client always answering. -/
inductive Error where
  | missingMandatoryFinalityProof (number : ℕ)
  deriving DecidableEq, Repr

/-- `SelectedFinalityProof`. -/
inductive SelectedFinalityProof (Proof : Type) where
  | mandatory (header : Header) (finalityProof : Proof)
  | regular (unjustifiedHeaders : List Header) (header : Header) (finalityProof : Proof)
  | none (unjustifiedHeaders : List Header)

/-- The parameters of `FinalitySyncParams` the selection reads. -/
structure FinalitySyncParams where
  recentFinalityProofsLimit : ℕ
  onlyMandatoryHeaders : Bool

/-- The relay's proofs: those the finality stream has ready, and the buffer of recent proofs with
their target numbers. -/
structure Buffers (Proof : Type) where
  finalityProofsStream : List Proof
  recentFinalityProofs : List (ℕ × Proof)

variable {Proof : Type}

/-! ## The model -/

/-- The loop of `read_missing_headers` at `headerNumber`, with `remaining` numbers left to read,
the headers read since the last persistent proof, and the last header with one. -/
def readMissingHeadersLoop (source : SourceChain Proof) :
    ℕ → ℕ → List Header → Option (Header × Proof) → Except Error (SelectedFinalityProof Proof)
  | 0, _, unjustifiedHeaders, selectedFinalityProof =>
    match selectedFinalityProof with
    | some (header, proof) => .ok (.regular unjustifiedHeaders header proof)
    | none => .ok (.none unjustifiedHeaders)
  | remaining + 1, headerNumber, unjustifiedHeaders, selectedFinalityProof =>
    let (header, finalityProof) := source.headerAndFinalityProof headerNumber
    match header.isMandatory, finalityProof with
    | true, some finalityProof => .ok (.mandatory header finalityProof)
    | true, none => .error (.missingMandatoryFinalityProof header.number)
    | false, some finalityProof =>
      readMissingHeadersLoop source remaining (headerNumber + 1) [] (some (header, finalityProof))
    | false, none =>
      readMissingHeadersLoop source remaining (headerNumber + 1) (unjustifiedHeaders ++ [header])
        selectedFinalityProof

/-- Whether a pass of the scan ended at a mandatory header, with its proof or with the error. -/
def endsScan : Except Error (SelectedFinalityProof Proof) → Bool
  | .ok (.mandatory ..) => true
  | .ok _ => false
  | .error _ => true

/-- `read_missing_headers`: the loop from `best_number_at_target + 1` while
`header_number <= best_number_at_source`, with `+ 1` wrapping at `Number::MAX`; `none` where it
never returns. -/
def readMissingHeaders (source : SourceChain Proof) (bestNumberAtSource bestNumberAtTarget : ℕ) :
    Option (Except Error (SelectedFinalityProof Proof)) :=
  let headerNumber := Unsigned.wrappingAdd source.numberBits bestNumberAtTarget 1
  if bestNumberAtSource < 2 ^ source.numberBits - 1 then
    some (readMissingHeadersLoop source (bestNumberAtSource + 1 - headerNumber) headerNumber [] none)
  else
    -- every number passes the test: after `Number::MAX` the scan goes round from `0`
    let toMax := readMissingHeadersLoop source (2 ^ source.numberBits - headerNumber) headerNumber
      [] none
    let fromZero := readMissingHeadersLoop source (2 ^ source.numberBits) 0 [] none
    if endsScan toMax then some toMax else if endsScan fromZero then some fromZero else none

/-- `read_finality_proofs_from_stream`: every proof the stream has ready goes to the buffer, with
its target number. -/
def readFinalityProofsFromStream (targetHeaderNumber : Proof → ℕ) (buffers : Buffers Proof) :
    Buffers Proof :=
  ⟨[], buffers.recentFinalityProofs ++
    buffers.finalityProofsStream.map fun finalityProof ↦
      (targetHeaderNumber finalityProof, finalityProof)⟩

/-- `binary_search_by_key(&number, ..).unwrap_or_else(|index| index.saturating_sub(1))` in the
buffer: the position of a proof of `number`, or the one before where it would go. -/
def proofIndexAtOrBefore (recentFinalityProofs : List (ℕ × Proof)) (number : ℕ) : ℕ :=
  match binarySearchByKey Prod.fst recentFinalityProofs number with
  | .ok index => index
  | .error index => index - 1

/-- `select_better_recent_finality_proof`, or `none` where it panics.  The `swap_remove` it makes
in `unjustified_headers` is not returned: the caller drops the list afterwards. -/
def selectBetterRecentFinalityProof (recentFinalityProofs : List (ℕ × Proof))
    (unjustifiedHeaders : List Header) (selectedFinalityProof : Option (Header × Proof)) :
    Option (Option (Header × Proof)) :=
  if unjustifiedHeaders.isEmpty || recentFinalityProofs.isEmpty then some selectedFinalityProof
  else
    match unjustifiedHeaders.head?, unjustifiedHeaders.getLast?, recentFinalityProofs.head?,
        recentFinalityProofs.getLast? with
    | some unjustifiedRangeBegin, some unjustifiedRangeEnd, some bufferedRangeBegin,
        some bufferedRangeEnd =>
      let intersectionBegin := max unjustifiedRangeBegin.number bufferedRangeBegin.1
      let intersectionEnd := min unjustifiedRangeEnd.number bufferedRangeEnd.1
      match recentFinalityProofs[proofIndexAtOrBefore recentFinalityProofs intersectionEnd]? with
      | some (selectedHeaderNumber, finalityProof) =>
        if intersectionBegin ≤ selectedHeaderNumber ∧ selectedHeaderNumber ≤ intersectionEnd then
          -- `.expect("unjustified_headers contain all headers from intersection")`
          match binarySearchByKey Header.number unjustifiedHeaders selectedHeaderNumber with
          | .ok selectedHeaderPosition =>
            (unjustifiedHeaders[selectedHeaderPosition]?).map fun selectedHeader ↦
              some (selectedHeader, finalityProof)
          | .error _ => none
        else some selectedFinalityProof
      | none => none
    | _, _, _, _ => none

/-- `prune_recent_finality_proofs`: drop the proofs up to the justified header, and the oldest
beyond the limit. -/
def pruneRecentFinalityProofs (justifiedHeaderNumber : ℕ) (recentFinalityProofs : List (ℕ × Proof))
    (recentFinalityProofsLimit : ℕ) : List (ℕ × Proof) :=
  let justifiedHeaderIdx :=
    match binarySearchByKey Prod.fst recentFinalityProofs justifiedHeaderNumber with
    | .ok idx => idx + 1
    | .error idx => idx
  let proofsLimitIdx := recentFinalityProofs.length - recentFinalityProofsLimit
  recentFinalityProofs.drop (max justifiedHeaderIdx proofsLimitIdx)

/-- The part of `select_header_to_submit` after a selection that is not mandatory: read the stream,
try to improve the selection, and prune the buffer below it. -/
def improveFromStream (targetHeaderNumber : Proof → ℕ) (buffers : Buffers Proof)
    (bestNumberAtTarget : ℕ) (syncParams : FinalitySyncParams) (unjustifiedHeaders : List Header)
    (selectedFinalityProof : Option (Header × Proof)) :
    Option (Except Error (Option (Header × Proof)) × Buffers Proof) :=
  let buffers := readFinalityProofsFromStream targetHeaderNumber buffers
  match selectBetterRecentFinalityProof buffers.recentFinalityProofs unjustifiedHeaders
      selectedFinalityProof with
  | none => none
  | some selectedFinalityProof =>
    let oldestFinalityProofToKeep :=
      (selectedFinalityProof.map fun selected ↦ selected.1.number).getD bestNumberAtTarget
    some (.ok selectedFinalityProof,
      { buffers with
        recentFinalityProofs := pruneRecentFinalityProofs oldestFinalityProofToKeep
          buffers.recentFinalityProofs syncParams.recentFinalityProofsLimit })

/-- `select_header_to_submit`: what it returns and the buffers it leaves, or `none` where it
panics or never returns. -/
def selectHeaderToSubmit (targetHeaderNumber : Proof → ℕ) (source : SourceChain Proof)
    (buffers : Buffers Proof) (bestNumberAtSource bestNumberAtTarget : ℕ)
    (syncParams : FinalitySyncParams) :
    Option (Except Error (Option (Header × Proof)) × Buffers Proof) :=
  match readMissingHeaders source bestNumberAtSource bestNumberAtTarget with
  | none => none
  | some (.error e) => some (.error e, buffers)
  | some (.ok (.mandatory header finalityProof)) => some (.ok (some (header, finalityProof)), buffers)
  | some (.ok (.regular unjustifiedHeaders header finalityProof)) =>
    if syncParams.onlyMandatoryHeaders then some (.ok none, buffers)
    else
      improveFromStream targetHeaderNumber buffers bestNumberAtTarget syncParams unjustifiedHeaders
        (some (header, finalityProof))
  | some (.ok (.none unjustifiedHeaders)) =>
    if syncParams.onlyMandatoryHeaders then some (.ok none, buffers)
    else
      improveFromStream targetHeaderNumber buffers bestNumberAtTarget syncParams unjustifiedHeaders
        none

/-! ## Runs of headers -/

/-- The headers numbered `first`, `first + 1`, … , `count` of them, none mandatory: what the scan
keeps of a stretch with no mandatory header. -/
def runHeaders (first count : ℕ) : List Header :=
  (List.range' first count).map fun number ↦ ⟨number, false⟩

theorem mem_runHeaders {first count : ℕ} {header : Header} :
    header ∈ runHeaders first count ↔
      header.isMandatory = false ∧ first ≤ header.number ∧ header.number < first + count := by
  obtain ⟨number, isMandatory⟩ := header
  simp only [runHeaders, List.mem_map, List.mem_range'_1, Header.mk.injEq]
  constructor
  · rintro ⟨n, hn, rfl, rfl⟩
    exact ⟨rfl, hn⟩
  · rintro ⟨rfl, hn⟩
    exact ⟨number, hn, rfl, rfl⟩

theorem runHeaders_append_singleton (first count : ℕ) :
    runHeaders first count ++ [⟨first + count, false⟩] = runHeaders first (count + 1) := by
  rw [runHeaders, runHeaders, List.range'_1_concat, List.map_append, List.map_singleton]

/-! ## The scan of the missing headers -/

variable (source : SourceChain Proof)

/-- At the first mandatory header `m`, the scan stops: with its proof, or with an error. -/
theorem readMissingHeadersLoop_mandatory {m : ℕ} (hm : source.isMandatory m = true) :
    ∀ {remaining headerNumber : ℕ} {unjustifiedHeaders : List Header}
      {selectedFinalityProof : Option (Header × Proof)},
      headerNumber ≤ m → m < headerNumber + remaining →
      (∀ k, headerNumber ≤ k → k < m → source.isMandatory k = false) →
      readMissingHeadersLoop source remaining headerNumber unjustifiedHeaders
          selectedFinalityProof =
        match source.persistentProof m with
        | some finalityProof => .ok (.mandatory ⟨m, true⟩ finalityProof)
        | none => .error (.missingMandatoryFinalityProof m)
  | 0, _, _, _, hle, hlt, _ => absurd hlt (by omega)
  | remaining + 1, headerNumber, unjustifiedHeaders, selectedFinalityProof, hle, hlt, hfirst => by
    rcases Nat.eq_or_lt_of_le hle with rfl | hlt'
    · simp only [readMissingHeadersLoop, SourceChain.headerAndFinalityProof, hm]
      cases source.persistentProof headerNumber <;> rfl
    · have hnot := hfirst headerNumber le_rfl hlt'
      have hrest : ∀ (unjustifiedHeaders : List Header) (selectedFinalityProof : Option (Header × Proof)),
          readMissingHeadersLoop source remaining (headerNumber + 1) unjustifiedHeaders
              selectedFinalityProof =
            match source.persistentProof m with
            | some finalityProof => .ok (.mandatory ⟨m, true⟩ finalityProof)
            | none => .error (.missingMandatoryFinalityProof m) :=
        fun _ _ ↦ readMissingHeadersLoop_mandatory hm (by omega) (by omega)
          fun k hk hkm ↦ hfirst k (by omega) hkm
      simp only [readMissingHeadersLoop, SourceChain.headerAndFinalityProof, hnot]
      cases source.persistentProof headerNumber with
      | none => exact hrest _ _
      | some finalityProof => exact hrest _ _

/-- What the scan has gathered at `headerNumber`, having started at `start`: the last header with a
persistent proof and the run of headers after it, or the run of all headers read when none had
one. -/
def Gathered (start headerNumber : ℕ) :
    List Header → Option (Header × Proof) → Prop
  | unjustifiedHeaders, some (header, finalityProof) =>
    start ≤ header.number ∧ header.number < headerNumber ∧ header.isMandatory = false ∧
      source.persistentProof header.number = some finalityProof ∧
      (∀ n, header.number < n → n < headerNumber → source.persistentProof n = none) ∧
      unjustifiedHeaders = runHeaders (header.number + 1) (headerNumber - (header.number + 1))
  | unjustifiedHeaders, none =>
    (∀ n, start ≤ n → n < headerNumber → source.persistentProof n = none) ∧
      unjustifiedHeaders = runHeaders start (headerNumber - start)

/-- Without mandatory headers, the scan gathers to the end of the range. -/
theorem readMissingHeadersLoop_gathered {start : ℕ} :
    ∀ {remaining headerNumber : ℕ} {unjustifiedHeaders : List Header}
      {selectedFinalityProof : Option (Header × Proof)},
      start ≤ headerNumber →
      (∀ k, headerNumber ≤ k → k < headerNumber + remaining → source.isMandatory k = false) →
      Gathered source start headerNumber unjustifiedHeaders selectedFinalityProof →
      ∃ unjustifiedHeaders' selectedFinalityProof',
        Gathered source start (headerNumber + remaining) unjustifiedHeaders'
          selectedFinalityProof' ∧
        readMissingHeadersLoop source remaining headerNumber unjustifiedHeaders
            selectedFinalityProof =
          readMissingHeadersLoop source 0 (headerNumber + remaining) unjustifiedHeaders'
            selectedFinalityProof'
  | 0, headerNumber, unjustifiedHeaders, selectedFinalityProof, _, _, hgathered =>
    ⟨unjustifiedHeaders, selectedFinalityProof, hgathered, rfl⟩
  | remaining + 1, headerNumber, unjustifiedHeaders, selectedFinalityProof, hstart, hnone,
      hgathered => by
    have hnot := hnone headerNumber le_rfl (by omega)
    have hnone' : ∀ k, headerNumber + 1 ≤ k → k < headerNumber + 1 + remaining →
        source.isMandatory k = false :=
      fun k hk hk' ↦ hnone k (by omega) (by omega)
    rw [show headerNumber + (remaining + 1) = headerNumber + 1 + remaining by omega]
    simp only [readMissingHeadersLoop, SourceChain.headerAndFinalityProof, hnot]
    cases hproof : source.persistentProof headerNumber with
    | some finalityProof =>
      refine readMissingHeadersLoop_gathered (by omega) hnone'
        ⟨hstart, by simp, rfl, hproof, fun n hn hn' ↦ absurd hn' (by simp at hn ⊢; omega), ?_⟩
      simp [runHeaders]
    | none =>
      refine readMissingHeadersLoop_gathered (by omega) hnone' ?_
      cases selectedFinalityProof with
      | none =>
        obtain ⟨hnoProof, rfl⟩ := hgathered
        refine ⟨fun n hn hn' ↦ ?_, ?_⟩
        · rcases Nat.lt_or_ge n headerNumber with hlt | hge
          · exact hnoProof n hn hlt
          · rw [show n = headerNumber by omega]
            exact hproof
        · rw [show headerNumber + 1 - start = headerNumber - start + 1 by omega,
            ← runHeaders_append_singleton, Nat.add_sub_cancel' hstart]
      | some selected =>
        obtain ⟨header, finalityProof⟩ := selected
        obtain ⟨hheaderStart, hheaderLt, hmandatory, hpersistent, hnoProof, rfl⟩ := hgathered
        refine ⟨hheaderStart, by omega, hmandatory, hpersistent, fun n hn hn' ↦ ?_, ?_⟩
        · rcases Nat.lt_or_ge n headerNumber with hlt | hge
          · exact hnoProof n hn hlt
          · rw [show n = headerNumber by omega]
            exact hproof
        · rw [show headerNumber + 1 - (header.number + 1) =
              headerNumber - (header.number + 1) + 1 by omega,
            ← runHeaders_append_singleton, Nat.add_sub_cancel' (by omega : header.number + 1 ≤ headerNumber)]

/-- The headers a pass of the scan ends with: the mandatory one, or the selection and the run
after it. -/
def SelectedFinalityProof.headers : SelectedFinalityProof Proof → List Header
  | .mandatory header _ => [header]
  | .regular unjustifiedHeaders header _ => header :: unjustifiedHeaders
  | .none unjustifiedHeaders => unjustifiedHeaders

/-- **The scan passes only headers that are not mandatory**: from a header that does not pass the
first mandatory header above `b`, every header it ends with does not pass it either. -/
theorem readMissingHeadersLoop_stopsAt {b : ℕ} :
    ∀ {remaining headerNumber : ℕ} {unjustifiedHeaders : List Header}
      {selectedFinalityProof : Option (Header × Proof)} {result : SelectedFinalityProof Proof},
      StopsAt source.isMandatory b headerNumber →
      (∀ header ∈ unjustifiedHeaders, StopsAt source.isMandatory b header.number) →
      (∀ selected ∈ selectedFinalityProof, StopsAt source.isMandatory b selected.1.number) →
      readMissingHeadersLoop source remaining headerNumber unjustifiedHeaders
          selectedFinalityProof = .ok result →
      ∀ header ∈ result.headers, StopsAt source.isMandatory b header.number
  | 0, _, unjustifiedHeaders, selectedFinalityProof, result, _, hunjustified, hselected, h => by
    cases selectedFinalityProof with
    | none =>
      cases h
      exact hunjustified
    | some selected =>
      obtain ⟨header, finalityProof⟩ := selected
      cases h
      intro header' hheader'
      rcases List.mem_cons.mp hheader' with rfl | hrun
      · exact hselected _ rfl
      · exact hunjustified _ hrun
  | remaining + 1, headerNumber, unjustifiedHeaders, selectedFinalityProof, result, hstart,
      hunjustified, hselected, h => by
    simp only [readMissingHeadersLoop, SourceChain.headerAndFinalityProof] at h
    cases hm : source.isMandatory headerNumber <;> cases hp : source.persistentProof headerNumber <;>
      simp only [hm, hp] at h
    · refine readMissingHeadersLoop_stopsAt (hstart.succ hm) (fun header hheader ↦ ?_) hselected h
      rcases List.mem_append.mp hheader with hrun | hlast
      · exact hunjustified header hrun
      · rw [List.mem_singleton.mp hlast]
        exact hstart
    · exact readMissingHeadersLoop_stopsAt (hstart.succ hm) (fun _ h ↦ by cases h)
        (fun selected hselected ↦ by rw [← Option.some.inj hselected]; exact hstart) h
    · cases h
    · cases h
      intro header hheader
      rw [List.mem_singleton.mp hheader]
      exact hstart

/-! ## The improvement from the buffer -/

/-- The position read in a buffer that is not empty is in it. -/
theorem exists_getElem?_proofIndexAtOrBefore {recentFinalityProofs : List (ℕ × Proof)}
    (hrecent : recentFinalityProofs ≠ []) (number : ℕ) :
    ∃ entry, recentFinalityProofs[proofIndexAtOrBefore recentFinalityProofs number]? = some entry := by
  unfold proofIndexAtOrBefore
  cases hsearch : binarySearchByKey Prod.fst recentFinalityProofs number with
  | ok index =>
    obtain ⟨entry, hentry, -⟩ := binarySearchByKey_eq_ok hsearch
    exact ⟨entry, hentry⟩
  | error index =>
    have hle := binarySearchByKey_eq_error hsearch
    have hlength : 0 < recentFinalityProofs.length := List.length_pos_iff.mpr hrecent
    exact ⟨_, List.getElem?_eq_getElem (show index - 1 < recentFinalityProofs.length by omega)⟩

/-- The ends of a list of headers with consecutive numbers from `first`. -/
theorem ends_of_consecutive {unjustifiedHeaders : List Header} {first : ℕ}
    (hheaders : unjustifiedHeaders ≠ [])
    (hnumbers : unjustifiedHeaders.map Header.number = List.range' first unjustifiedHeaders.length) :
    (∃ header, unjustifiedHeaders.head? = some header ∧ header.number = first) ∧
      ∃ header, unjustifiedHeaders.getLast? = some header ∧
        header.number = first + unjustifiedHeaders.length - 1 := by
  have hlength : unjustifiedHeaders.length ≠ 0 := (List.length_pos_iff.mpr hheaders).ne'
  have hhead := congrArg List.head? hnumbers
  have hlast := congrArg List.getLast? hnumbers
  rw [List.head?_map, List.head?_eq_some_head hheaders, List.head?_range', if_neg hlength] at hhead
  rw [List.getLast?_map, List.getLast?_eq_some_getLast hheaders, List.getLast?_range',
    if_neg hlength] at hlast
  exact ⟨⟨_, List.head?_eq_some_head hheaders, Option.some.inj hhead⟩,
    ⟨_, List.getLast?_eq_some_getLast hheaders, by simpa [Nat.add_sub_assoc] using hlast⟩⟩

/-- **The improvement on headers with consecutive numbers.**  It reads the buffer at the proof of
the intersection's end or the one before; if that proof's number is in the intersection, the
search in the headers finds the header of that number and the proof goes with it, and otherwise
the selection is kept.  Neither search panics. -/
theorem selectBetterRecentFinalityProof_of_consecutive {recentFinalityProofs : List (ℕ × Proof)}
    {unjustifiedHeaders : List Header} {first : ℕ} (hrecent : recentFinalityProofs ≠ [])
    (hheaders : unjustifiedHeaders ≠ [])
    (hnumbers : unjustifiedHeaders.map Header.number = List.range' first unjustifiedHeaders.length)
    (selectedFinalityProof : Option (Header × Proof)) :
    ∃ entry, recentFinalityProofs[proofIndexAtOrBefore recentFinalityProofs
        (min (first + unjustifiedHeaders.length - 1) (recentFinalityProofs.getLast hrecent).1)]? =
          some entry ∧
      (max first (recentFinalityProofs.head hrecent).1 ≤ entry.1 ∧
          entry.1 ≤ min (first + unjustifiedHeaders.length - 1)
            (recentFinalityProofs.getLast hrecent).1 →
        ∃ header ∈ unjustifiedHeaders, header.number = entry.1 ∧
          selectBetterRecentFinalityProof recentFinalityProofs unjustifiedHeaders
            selectedFinalityProof = some (some (header, entry.2))) ∧
      (¬ (max first (recentFinalityProofs.head hrecent).1 ≤ entry.1 ∧
          entry.1 ≤ min (first + unjustifiedHeaders.length - 1)
            (recentFinalityProofs.getLast hrecent).1) →
        selectBetterRecentFinalityProof recentFinalityProofs unjustifiedHeaders
          selectedFinalityProof = some selectedFinalityProof) := by
  obtain ⟨⟨headerBegin, hbegin, hfirst⟩, ⟨headerEnd, hend, hlast⟩⟩ :=
    ends_of_consecutive hheaders hnumbers
  obtain ⟨entry, hentry⟩ := exists_getElem?_proofIndexAtOrBefore hrecent
    (min (first + unjustifiedHeaders.length - 1) (recentFinalityProofs.getLast hrecent).1)
  have hempty : ¬ (unjustifiedHeaders.isEmpty || recentFinalityProofs.isEmpty) = true := by
    simp [hheaders, hrecent]
  unfold selectBetterRecentFinalityProof
  rw [if_neg hempty]
  simp only [hbegin, hend, List.head?_eq_some_head hrecent, List.getLast?_eq_some_getLast hrecent,
    hfirst, hlast, hentry]
  obtain ⟨selectedHeaderNumber, finalityProof⟩ := entry
  refine ⟨_, rfl, fun hintersection ↦ ?_, fun hintersection ↦ by rw [if_neg hintersection]⟩
  rw [if_pos hintersection]
  have hsorted : unjustifiedHeaders.Pairwise fun a b ↦ a.number ≤ b.number := by
    rw [← List.pairwise_map, hnumbers]
    exact (List.pairwise_lt_range' 1).imp Nat.le_of_lt
  have hmem : selectedHeaderNumber ∈ unjustifiedHeaders.map Header.number := by
    have hlength : 0 < unjustifiedHeaders.length := List.length_pos_iff.mpr hheaders
    rw [hnumbers, List.mem_range'_1]
    omega
  obtain ⟨header, hheader, hnumber⟩ := List.mem_map.mp hmem
  obtain ⟨position, hposition⟩ := exists_binarySearchByKey_eq_ok hsorted ⟨header, hheader, hnumber⟩
  obtain ⟨found, hfound, hfoundNumber⟩ := binarySearchByKey_eq_ok hposition
  refine ⟨found, List.mem_of_getElem? hfound, hfoundNumber, ?_⟩
  rw [hposition]
  dsimp only
  rw [hfound]
  rfl

/-- On a run of headers the improvement does not panic: it keeps the selection, or picks a header
of the run with a proof the buffer holds for its number. -/
theorem selectBetterRecentFinalityProof_runHeaders (recentFinalityProofs : List (ℕ × Proof))
    (first count : ℕ) (selectedFinalityProof : Option (Header × Proof)) :
    ∃ selected, selectBetterRecentFinalityProof recentFinalityProofs (runHeaders first count)
        selectedFinalityProof = some selected ∧
      (selected = selectedFinalityProof ∨ ∃ header finalityProof,
        selected = some (header, finalityProof) ∧ header ∈ runHeaders first count ∧
        (header.number, finalityProof) ∈ recentFinalityProofs) := by
  by_cases hempty : (runHeaders first count).isEmpty || recentFinalityProofs.isEmpty
  · rw [selectBetterRecentFinalityProof, if_pos hempty]
    exact ⟨_, rfl, .inl rfl⟩
  simp only [Bool.or_eq_true, List.isEmpty_iff, not_or] at hempty
  obtain ⟨hrun, hrecent⟩ := hempty
  have hnumbers : (runHeaders first count).map Header.number =
      List.range' first (runHeaders first count).length := by
    simp [runHeaders, List.map_map, Function.comp_def]
  obtain ⟨⟨number, finalityProof⟩, hentry, hinside, houtside⟩ :=
    selectBetterRecentFinalityProof_of_consecutive hrecent hrun hnumbers selectedFinalityProof
  by_cases hintersection : max first (recentFinalityProofs.head hrecent).1 ≤ number ∧
      number ≤ min (first + (runHeaders first count).length - 1)
        (recentFinalityProofs.getLast hrecent).1
  · obtain ⟨header, hheader, hnumber, hselect⟩ := hinside hintersection
    refine ⟨_, hselect, .inr ⟨header, finalityProof, rfl, hheader, ?_⟩⟩
    rw [hnumber]
    exact List.mem_of_getElem? hentry
  · exact ⟨_, houtside hintersection, .inl rfl⟩

/-- Whatever the headers, the improvement keeps the selection or picks one of them. -/
theorem selectBetterRecentFinalityProof_mem {recentFinalityProofs : List (ℕ × Proof)}
    {unjustifiedHeaders : List Header} {selectedFinalityProof selected : Option (Header × Proof)}
    (h : selectBetterRecentFinalityProof recentFinalityProofs unjustifiedHeaders
      selectedFinalityProof = some selected) :
    selected = selectedFinalityProof ∨
      ∃ header finalityProof, selected = some (header, finalityProof) ∧
        header ∈ unjustifiedHeaders := by
  unfold selectBetterRecentFinalityProof at h
  split_ifs at h
  · exact .inl (Option.some.inj h).symm
  split at h
  · dsimp only at h
    split at h
    · split_ifs at h
      · split at h
        · obtain ⟨header, hheader, rfl⟩ := Option.map_eq_some_iff.mp h
          exact .inr ⟨header, _, rfl, List.mem_of_getElem? hheader⟩
        · cases h
      · exact .inl (Option.some.inj h).symm
    · cases h
  · cases h

/-! ## The selection -/

variable {bestNumberAtSource bestNumberAtTarget : ℕ}

/-- Below `Number::MAX` the scan is one pass of the loop over
`(best_number_at_target, best_number_at_source]`. -/
theorem readMissingHeaders_of_lt (hsource : bestNumberAtSource < 2 ^ source.numberBits - 1)
    (htarget : bestNumberAtTarget < 2 ^ source.numberBits - 1) :
    readMissingHeaders source bestNumberAtSource bestNumberAtTarget =
      some (readMissingHeadersLoop source (bestNumberAtSource - bestNumberAtTarget)
        (bestNumberAtTarget + 1) [] none) := by
  unfold readMissingHeaders
  dsimp only
  rw [Unsigned.wrappingAdd_of_lt (by omega), if_pos hsource,
    show bestNumberAtSource + 1 - (bestNumberAtTarget + 1) =
      bestNumberAtSource - bestNumberAtTarget by omega]

/-- Whatever the numbers, a scan that ends is one pass of the loop, from a header at most just
above the target's best: the one after it, or `0` where `+ 1` wrapped or the scan went round. -/
theorem readMissingHeaders_eq_some {result : Except Error (SelectedFinalityProof Proof)}
    (h : readMissingHeaders source bestNumberAtSource bestNumberAtTarget = some result) :
    ∃ remaining headerNumber, headerNumber ≤ bestNumberAtTarget + 1 ∧
      result = readMissingHeadersLoop source remaining headerNumber [] none := by
  have hstart : Unsigned.wrappingAdd source.numberBits bestNumberAtTarget 1 ≤
      bestNumberAtTarget + 1 := Nat.mod_le _ _
  unfold readMissingHeaders at h
  dsimp only at h
  split_ifs at h
  · exact ⟨_, _, hstart, (Option.some.inj h).symm⟩
  · exact ⟨_, _, hstart, (Option.some.inj h).symm⟩
  · exact ⟨_, 0, Nat.zero_le _, (Option.some.inj h).symm⟩

/-- **Whatever the numbers, the scan does not pass the first mandatory header above the target's
best**: it starts at most just above it, and a mandatory header ends it. -/
theorem readMissingHeaders_stopsAt {result : SelectedFinalityProof Proof}
    (h : readMissingHeaders source bestNumberAtSource bestNumberAtTarget = some (.ok result)) :
    ∀ header ∈ result.headers, StopsAt source.isMandatory bestNumberAtTarget header.number := by
  obtain ⟨remaining, headerNumber, hstart, hloop⟩ := readMissingHeaders_eq_some source h
  exact readMissingHeadersLoop_stopsAt source (stopsAt_of_le hstart) (fun _ h ↦ by cases h)
    (fun _ h ↦ by cases h) hloop.symm

section BelowMax

variable (hsource : bestNumberAtSource < 2 ^ source.numberBits - 1)
  (htarget : bestNumberAtTarget < 2 ^ source.numberBits - 1)
include hsource htarget

theorem readMissingHeaders_mandatory {m : ℕ} (hlt : bestNumberAtTarget < m)
    (hle : m ≤ bestNumberAtSource) (hm : source.isMandatory m = true)
    (hfirst : ∀ k, bestNumberAtTarget < k → k < m → source.isMandatory k = false) :
    readMissingHeaders source bestNumberAtSource bestNumberAtTarget =
      some (match source.persistentProof m with
        | some finalityProof => .ok (.mandatory ⟨m, true⟩ finalityProof)
        | none => .error (.missingMandatoryFinalityProof m)) := by
  rw [readMissingHeaders_of_lt source hsource htarget,
    readMissingHeadersLoop_mandatory source hm (by omega) (by omega)
      fun k hk hkm ↦ hfirst k (by omega) hkm]

theorem readMissingHeaders_gathered
    (hnone : ∀ n, bestNumberAtTarget < n → n ≤ bestNumberAtSource → source.isMandatory n = false) :
    ∃ unjustifiedHeaders selectedFinalityProof,
      Gathered source (bestNumberAtTarget + 1)
        (bestNumberAtTarget + 1 + (bestNumberAtSource - bestNumberAtTarget)) unjustifiedHeaders
        selectedFinalityProof ∧
      readMissingHeaders source bestNumberAtSource bestNumberAtTarget =
        some (readMissingHeadersLoop source 0
          (bestNumberAtTarget + 1 + (bestNumberAtSource - bestNumberAtTarget)) unjustifiedHeaders
          selectedFinalityProof) := by
  obtain ⟨unjustifiedHeaders, selectedFinalityProof, hgathered, hloop⟩ :=
    @readMissingHeadersLoop_gathered _ source (bestNumberAtTarget + 1)
      (bestNumberAtSource - bestNumberAtTarget) (bestNumberAtTarget + 1) [] none le_rfl
      (fun k hk hk' ↦ hnone k (by omega) (by omega))
      ⟨fun n hn hn' ↦ absurd hn' (by omega), by simp [runHeaders]⟩
  exact ⟨unjustifiedHeaders, selectedFinalityProof, hgathered,
    by rw [readMissingHeaders_of_lt source hsource htarget, hloop]⟩

end BelowMax

variable (targetHeaderNumber : Proof → ℕ)

/-- The buffer holds each proof with its own target number. -/
def Buffered (buffers : Buffers Proof) : Prop :=
  ∀ entry ∈ buffers.recentFinalityProofs, entry.1 = targetHeaderNumber entry.2

variable (buffers : Buffers Proof) (syncParams : FinalitySyncParams)

/-- After a selection that is not mandatory the relay does not panic, and keeps the selection or
picks a header of the run with a proof of its number from the buffer or the stream. -/
theorem improveFromStream_runHeaders (bestNumberAtTarget first count : ℕ)
    (selectedFinalityProof : Option (Header × Proof)) :
    ∃ selected buffers',
      improveFromStream targetHeaderNumber buffers bestNumberAtTarget syncParams
          (runHeaders first count) selectedFinalityProof = some (.ok selected, buffers') ∧
        (selected = selectedFinalityProof ∨ ∃ header finalityProof,
          selected = some (header, finalityProof) ∧ header ∈ runHeaders first count ∧
          ((header.number, finalityProof) ∈ buffers.recentFinalityProofs ∨
            finalityProof ∈ buffers.finalityProofsStream ∧
              targetHeaderNumber finalityProof = header.number)) := by
  obtain ⟨selected, hselected, hcases⟩ := selectBetterRecentFinalityProof_runHeaders
    (readFinalityProofsFromStream targetHeaderNumber buffers).recentFinalityProofs first count
    selectedFinalityProof
  refine ⟨selected, _, by rw [improveFromStream, hselected], ?_⟩
  rcases hcases with rfl | ⟨header, finalityProof, rfl, hheader, hentry⟩
  · exact .inl rfl
  · refine .inr ⟨header, finalityProof, rfl, hheader, ?_⟩
    simp only [readFinalityProofsFromStream, List.mem_append, List.mem_map, Prod.mk.injEq] at hentry
    rcases hentry with hrecent | ⟨proof, hproof, hnumber, rfl⟩
    · exact .inl hrecent
    · exact .inr ⟨hproof, hnumber⟩

/-- Whatever the buffer, the improvement keeps the selection or picks one of the headers. -/
theorem improveFromStream_mem {unjustifiedHeaders : List Header}
    {selectedFinalityProof selected : Option (Header × Proof)} {buffers' : Buffers Proof}
    (h : improveFromStream targetHeaderNumber buffers bestNumberAtTarget syncParams
      unjustifiedHeaders selectedFinalityProof = some (.ok selected, buffers')) :
    selected = selectedFinalityProof ∨
      ∃ header finalityProof, selected = some (header, finalityProof) ∧
        header ∈ unjustifiedHeaders := by
  unfold improveFromStream at h
  dsimp only at h
  split at h
  · cases h
  · rename_i hbetter
    cases h
    exact selectBetterRecentFinalityProof_mem hbetter

/-- **Whatever the numbers, a selected header does not pass the first mandatory header above the
target's best**: it is one the scan read. -/
theorem selectHeaderToSubmit_stopsAt {header : Header} {finalityProof : Proof}
    {buffers' : Buffers Proof}
    (h : selectHeaderToSubmit targetHeaderNumber source buffers bestNumberAtSource
      bestNumberAtTarget syncParams = some (.ok (some (header, finalityProof)), buffers')) :
    StopsAt source.isMandatory bestNumberAtTarget header.number := by
  unfold selectHeaderToSubmit at h
  split at h
  · cases h
  · cases h
  · rename_i hread
    cases h
    exact readMissingHeaders_stopsAt source hread _ (List.mem_singleton_self _)
  · rename_i unjustifiedHeaders scanned scannedProof hread
    split_ifs at h
    · cases h
    rcases improveFromStream_mem targetHeaderNumber buffers syncParams h with
      hscanned | ⟨_, _, hsome, hheader⟩
    · obtain ⟨rfl, -⟩ := Prod.mk.inj (Option.some.inj hscanned)
      exact readMissingHeaders_stopsAt source hread _ List.mem_cons_self
    · obtain ⟨rfl, -⟩ := Prod.mk.inj (Option.some.inj hsome)
      exact readMissingHeaders_stopsAt source hread _ (List.mem_cons_of_mem _ hheader)
  · rename_i unjustifiedHeaders hread
    split_ifs at h
    · cases h
    rcases improveFromStream_mem targetHeaderNumber buffers syncParams h with
      hnone | ⟨_, _, hsome, hheader⟩
    · cases hnone
    · obtain ⟨rfl, -⟩ := Prod.mk.inj (Option.some.inj hsome)
      exact readMissingHeaders_stopsAt source hread _ hheader

/-- What the relay selects after a scan with no mandatory header: nothing, the scan's selection, or
a header of the run after it with a proof of its number from the buffer or the stream. -/
theorem selectHeaderToSubmit_of_gathered {stop first count : ℕ}
    {selectedFinalityProof : Option (Header × Proof)}
    (hread : readMissingHeaders source bestNumberAtSource bestNumberAtTarget =
      some (readMissingHeadersLoop source 0 stop (runHeaders first count) selectedFinalityProof)) :
    ∃ selected buffers', selectHeaderToSubmit targetHeaderNumber source buffers bestNumberAtSource
        bestNumberAtTarget syncParams = some (.ok selected, buffers') ∧
      (selected = none ∨ selected = selectedFinalityProof ∨ ∃ header finalityProof,
        selected = some (header, finalityProof) ∧ header ∈ runHeaders first count ∧
        ((header.number, finalityProof) ∈ buffers.recentFinalityProofs ∨
          finalityProof ∈ buffers.finalityProofsStream ∧
            targetHeaderNumber finalityProof = header.number)) := by
  rw [selectHeaderToSubmit, hread]
  have himprove := improveFromStream_runHeaders targetHeaderNumber buffers syncParams
    bestNumberAtTarget first count selectedFinalityProof
  rcases selectedFinalityProof with _ | ⟨header, finalityProof⟩ <;>
    simp only [readMissingHeadersLoop]
  all_goals
    by_cases honly : syncParams.onlyMandatoryHeaders
    · rw [if_pos honly]
      exact ⟨none, buffers, rfl, .inl rfl⟩
    · rw [if_neg honly]
      obtain ⟨selected, buffers', h, hcases⟩ := himprove
      exact ⟨selected, buffers', h, .inr hcases⟩

/-- The scan's gathering as a run: it starts at some `first`, and no header from `first` on has a
persistent proof. -/
theorem Gathered.exists_first {start stop : ℕ} {unjustifiedHeaders : List Header}
    {selectedFinalityProof : Option (Header × Proof)}
    (h : Gathered source start stop unjustifiedHeaders selectedFinalityProof) :
    ∃ first, start ≤ first ∧ unjustifiedHeaders = runHeaders first (stop - first) ∧
      ∀ n, first ≤ n → n < stop → source.persistentProof n = none := by
  cases selectedFinalityProof with
  | none =>
    obtain ⟨hnoProof, rfl⟩ := h
    exact ⟨start, le_rfl, rfl, hnoProof⟩
  | some selected =>
    obtain ⟨header, finalityProof⟩ := selected
    obtain ⟨hstart, -, -, -, hnoProof, rfl⟩ := h
    exact ⟨header.number + 1, by omega, rfl, fun n hn hn' ↦ hnoProof n (by omega) hn'⟩

/-- **With no mandatory header in the range** the relay selects nothing or a header of the range,
at least the last one with a persistent proof, with its persistent proof or a proof of its number
from the buffer or the stream. -/
theorem selectHeaderToSubmit_of_not_mandatory
    (hsource : bestNumberAtSource < 2 ^ source.numberBits - 1)
    (htarget : bestNumberAtTarget < 2 ^ source.numberBits - 1)
    (hbuffered : Buffered targetHeaderNumber buffers)
    (hnone : ∀ n, bestNumberAtTarget < n → n ≤ bestNumberAtSource → source.isMandatory n = false) :
    ∃ selected buffers', selectHeaderToSubmit targetHeaderNumber source buffers bestNumberAtSource
        bestNumberAtTarget syncParams = some (.ok selected, buffers') ∧
      ∀ header finalityProof, selected = some (header, finalityProof) →
        bestNumberAtTarget < header.number ∧ header.number ≤ bestNumberAtSource ∧
        header.isMandatory = false ∧
        (source.persistentProof header.number = some finalityProof ∨
          ((header.number, finalityProof) ∈ buffers.recentFinalityProofs ∨
            finalityProof ∈ buffers.finalityProofsStream) ∧
          targetHeaderNumber finalityProof = header.number) ∧
        ∀ n, bestNumberAtTarget < n → n ≤ bestNumberAtSource → (source.persistentProof n).isSome →
          n ≤ header.number := by
  obtain ⟨unjustifiedHeaders, selectedFinalityProof, hgathered, hread⟩ :=
    readMissingHeaders_gathered source hsource htarget hnone
  obtain ⟨first, hfirst, rfl, hnoProof⟩ := hgathered.exists_first
  have hpersistent : ∀ n, bestNumberAtTarget < n → n ≤ bestNumberAtSource →
      (source.persistentProof n).isSome → n < first := by
    intro n hn hn' hsome
    by_contra hge
    rw [hnoProof n (by omega) (by omega)] at hsome
    cases hsome
  obtain ⟨selected, buffers', hselect, hcases⟩ :=
    selectHeaderToSubmit_of_gathered source targetHeaderNumber buffers syncParams hread
  refine ⟨selected, buffers', hselect, ?_⟩
  rintro header finalityProof rfl
  rcases hcases with hnone' | hscan | ⟨header', finalityProof', hsame, hheader, hproof⟩
  · cases hnone'
  · cases selectedFinalityProof with
    | none => cases hscan
    | some scanned =>
      cases hscan
      obtain ⟨hstart, hlt, hmandatory, hproof, hnoProofAfter, -⟩ := hgathered
      refine ⟨by omega, by omega, hmandatory, .inl hproof, fun n hn hn' hsome ↦ ?_⟩
      by_contra hgt
      rw [hnoProofAfter n (by omega) (by omega)] at hsome
      cases hsome
  · obtain ⟨rfl, rfl⟩ := Prod.mk.inj (Option.some.inj hsame)
    obtain ⟨hmandatory, hge, hlt⟩ := mem_runHeaders.mp hheader
    refine ⟨by omega, by omega, hmandatory, .inr ?_, fun n hn hn' hsome ↦
      (hpersistent n hn hn' hsome).le.trans hge⟩
    rcases hproof with hrecent | ⟨hstream, hnumber⟩
    · exact ⟨.inl hrecent, (hbuffered _ hrecent).symm⟩
    · exact ⟨.inr hstream, hnumber⟩

/-! ## The buffer of recent proofs -/

theorem buffered_nil (finalityProofsStream : List Proof) :
    Buffered targetHeaderNumber ⟨finalityProofsStream, []⟩ :=
  fun _ hentry ↦ absurd hentry List.not_mem_nil

/-- Reading the stream and pruning keep every proof of the buffer with its own target number. -/
theorem Buffered.of_improveFromStream (h : Buffered targetHeaderNumber buffers)
    {unjustifiedHeaders : List Header} {selectedFinalityProof : Option (Header × Proof)}
    {result : Except Error (Option (Header × Proof))} {buffers' : Buffers Proof}
    (himprove : improveFromStream targetHeaderNumber buffers bestNumberAtTarget syncParams
      unjustifiedHeaders selectedFinalityProof = some (result, buffers')) :
    Buffered targetHeaderNumber buffers' := by
  unfold improveFromStream at himprove
  dsimp only at himprove
  split at himprove
  · cases himprove
  · cases himprove
    intro entry hentry
    have hmem := List.mem_of_mem_drop hentry
    simp only [readFinalityProofsFromStream, List.mem_append, List.mem_map] at hmem
    rcases hmem with hrecent | ⟨finalityProof, -, rfl⟩
    · exact h entry hrecent
    · rfl

/-- The step lemma of the buffer: `select_header_to_submit` keeps it as it was, or reads the
stream into it and prunes it. -/
theorem Buffered.of_selectHeaderToSubmit (h : Buffered targetHeaderNumber buffers)
    {result : Except Error (Option (Header × Proof))} {buffers' : Buffers Proof}
    (hselect : selectHeaderToSubmit targetHeaderNumber source buffers bestNumberAtSource
      bestNumberAtTarget syncParams = some (result, buffers')) :
    Buffered targetHeaderNumber buffers' := by
  unfold selectHeaderToSubmit at hselect
  split at hselect
  · cases hselect
  · cases hselect
    exact h
  · cases hselect
    exact h
  · split_ifs at hselect
    · cases hselect
      exact h
    · exact h.of_improveFromStream targetHeaderNumber buffers syncParams hselect
  · split_ifs at hselect
    · cases hselect
      exact h
    · exact h.of_improveFromStream targetHeaderNumber buffers syncParams hselect

/-- **With a first mandatory header `m` in the range** the relay submits it, or fails at it when
it has no persistent proof; the buffers are left as they are. -/
theorem selectHeaderToSubmit_of_mandatory
    (hsource : bestNumberAtSource < 2 ^ source.numberBits - 1)
    (htarget : bestNumberAtTarget < 2 ^ source.numberBits - 1) {m : ℕ} (hlt : bestNumberAtTarget < m)
    (hle : m ≤ bestNumberAtSource) (hm : source.isMandatory m = true)
    (hfirst : ∀ k, bestNumberAtTarget < k → k < m → source.isMandatory k = false) :
    selectHeaderToSubmit targetHeaderNumber source buffers bestNumberAtSource bestNumberAtTarget
        syncParams =
      some (match source.persistentProof m with
        | some finalityProof => .ok (some (⟨m, true⟩, finalityProof))
        | none => .error (.missingMandatoryFinalityProof m), buffers) := by
  rw [selectHeaderToSubmit, readMissingHeaders_mandatory source hsource htarget hlt hle hm hfirst]
  cases source.persistentProof m <;> rfl

/-- **What `select_header_to_submit` selects** below `Number::MAX`: the first mandatory header
above the target's, with its persistent proof, or the error that it has none; and with no
mandatory header in the range, a header of the range with a proof from the source, the buffer or
the stream, at or above every header with a persistent proof. -/
theorem selectHeaderToSubmit_spec (hsource : bestNumberAtSource < 2 ^ source.numberBits - 1)
    (htarget : bestNumberAtTarget < 2 ^ source.numberBits - 1)
    (hbuffered : Buffered targetHeaderNumber buffers) :
    ∃ result buffers', selectHeaderToSubmit targetHeaderNumber source buffers bestNumberAtSource
        bestNumberAtTarget syncParams = some (result, buffers') ∧
      (∀ m, bestNumberAtTarget < m → m ≤ bestNumberAtSource → source.isMandatory m = true →
        (∀ k, bestNumberAtTarget < k → k < m → source.isMandatory k = false) →
        result = match source.persistentProof m with
          | some finalityProof => .ok (some (⟨m, true⟩, finalityProof))
          | none => .error (.missingMandatoryFinalityProof m)) ∧
      ((∀ n, bestNumberAtTarget < n → n ≤ bestNumberAtSource → source.isMandatory n = false) →
        ∃ selected, result = .ok selected ∧ ∀ header finalityProof,
          selected = some (header, finalityProof) →
          bestNumberAtTarget < header.number ∧ header.number ≤ bestNumberAtSource ∧
          header.isMandatory = false ∧
          (source.persistentProof header.number = some finalityProof ∨
            ((header.number, finalityProof) ∈ buffers.recentFinalityProofs ∨
              finalityProof ∈ buffers.finalityProofsStream) ∧
            targetHeaderNumber finalityProof = header.number) ∧
          ∀ n, bestNumberAtTarget < n → n ≤ bestNumberAtSource →
            (source.persistentProof n).isSome → n ≤ header.number) := by
  by_cases hmandatory : ∃ m, bestNumberAtTarget < m ∧ m ≤ bestNumberAtSource ∧
      source.isMandatory m = true
  · obtain ⟨hlt, hle, hm⟩ := Nat.find_spec hmandatory
    have hfirst : ∀ k, bestNumberAtTarget < k → k < Nat.find hmandatory →
        source.isMandatory k = false := by
      intro k hk hkm
      by_contra hk'
      exact Nat.find_min hmandatory hkm ⟨hk, by omega, by simpa using hk'⟩
    refine ⟨_, buffers, selectHeaderToSubmit_of_mandatory source targetHeaderNumber buffers
      syncParams hsource htarget hlt hle hm hfirst, fun m hm₁ hm₂ hm₃ hm₄ ↦ ?_, fun hnone ↦ ?_⟩
    · have hm_eq : m = Nat.find hmandatory := by
        rcases Nat.lt_trichotomy m (Nat.find hmandatory) with hlt' | heq | hgt
        · exact absurd hm₃ (by rw [hfirst m hm₁ hlt']; decide)
        · exact heq
        · exact absurd hm (by rw [hm₄ _ hlt hgt]; decide)
      rw [hm_eq]
    · exact absurd (hnone _ hlt hle) (by rw [hm]; decide)
  · have hnone : ∀ n, bestNumberAtTarget < n → n ≤ bestNumberAtSource →
        source.isMandatory n = false := by
      intro n hn hn'
      by_contra hn''
      exact hmandatory ⟨n, hn, hn', by simpa using hn''⟩
    obtain ⟨selected, buffers', hselect, hgood⟩ :=
      selectHeaderToSubmit_of_not_mandatory source targetHeaderNumber buffers syncParams hsource
        htarget hbuffered hnone
    exact ⟨_, buffers', hselect,
      fun m hm₁ hm₂ hm₃ _ ↦ absurd hm₃ (by rw [hnone m hm₁ hm₂]; decide),
      fun _ ↦ ⟨selected, rfl, hgood⟩⟩

/-- A source with `u32` header numbers, no mandatory header and a persistent proof of header 2
only. -/
def persistentAtTwo : SourceChain ℕ :=
  ⟨32, fun _ ↦ false, fun n ↦ if n = 2 then some 2 else none⟩

/-- The stream's proof of header 4 improves on the persistent proof of header 2, and the buffer is
pruned up to it. -/
theorem selectHeaderToSubmit_spec_improved :
    5 < 2 ^ persistentAtTwo.numberBits - 1 ∧ 0 < 2 ^ persistentAtTwo.numberBits - 1 ∧
      Buffered id (⟨[4], [(3, 3)]⟩ : Buffers ℕ) ∧
      selectHeaderToSubmit id persistentAtTwo ⟨[4], [(3, 3)]⟩ 5 0 ⟨10, false⟩ =
        some (.ok (some (⟨4, false⟩, 4)), ⟨[], []⟩) ∧
      ∀ n, 0 < n → n ≤ 5 → (persistentAtTwo.persistentProof n).isSome → n ≤ 4 := by
  have hbuffered : Buffered id (⟨[4], [(3, 3)]⟩ : Buffers ℕ) := by
    intro entry hentry
    rw [List.mem_singleton.mp hentry]
    rfl
  have hselect : selectHeaderToSubmit id persistentAtTwo ⟨[4], [(3, 3)]⟩ 5 0 ⟨10, false⟩ =
      some (.ok (some (⟨4, false⟩, 4)), ⟨[], []⟩) := by
    rfl
  obtain ⟨result, buffers', hsel, -, hregular⟩ :=
    @selectHeaderToSubmit_spec ℕ persistentAtTwo 5 0 id ⟨[4], [(3, 3)]⟩ ⟨10, false⟩ (by decide)
      (by decide) hbuffered
  obtain ⟨selected, rfl, hgood⟩ := hregular fun _ _ _ ↦ rfl
  rw [hselect] at hsel
  cases hsel
  exact ⟨by decide, by decide, hbuffered, hselect, (hgood _ _ rfl).2.2.2.2⟩

/-- A source with `u32` header numbers whose one mandatory header is the genesis, with a
persistent proof. -/
def mandatoryAtZero : SourceChain ℕ :=
  ⟨32, fun n ↦ n = 0, fun n ↦ if n = 0 then some 0 else none⟩

/-- At `best_number_at_source = u32::MAX` every number passes the loop's test, so
`header_number + 1` wraps to `0` and the scan goes on: with no mandatory header in
`(u32::MAX - 2, u32::MAX]` the relay still selects the mandatory genesis header, below the
target's best. -/
theorem selectHeaderToSubmit_at_max :
    (∀ n, 2 ^ 32 - 3 < n → n ≤ 2 ^ 32 - 1 → mandatoryAtZero.isMandatory n = false) ∧
      selectHeaderToSubmit id mandatoryAtZero ⟨[], []⟩ (2 ^ 32 - 1) (2 ^ 32 - 3) ⟨10, false⟩ =
        some (.ok (some (⟨0, true⟩, 0)), ⟨[], []⟩) := by
  refine ⟨fun n hn _ ↦ ?_, rfl⟩
  simp only [mandatoryAtZero, decide_eq_false_iff_not]
  omega

/-! ## The two helpers on a sorted buffer

The relay keeps its buffer sorted by strictly increasing number; there the binary searches of the
two helpers find the split after the justified number and the last proof up to the
intersection's end. -/

/-- On a sorted buffer, the proof read by `proofIndexAtOrBefore` is the last one up to `number`,
or every proof is above `number`. -/
theorem proofIndexAtOrBefore_of_sorted {recentFinalityProofs : List (ℕ × Proof)}
    (hsorted : recentFinalityProofs.Pairwise fun a b ↦ a.1 ≤ b.1) {number : ℕ}
    {entry : ℕ × Proof}
    (hentry : recentFinalityProofs[proofIndexAtOrBefore recentFinalityProofs number]? = some entry) :
    (entry.1 ≤ number ∧ ∀ other ∈ recentFinalityProofs, other.1 ≤ number → other.1 ≤ entry.1) ∨
      ∀ other ∈ recentFinalityProofs, number < other.1 := by
  unfold proofIndexAtOrBefore at hentry
  cases hsearch : binarySearchByKey Prod.fst recentFinalityProofs number with
  | ok index =>
    rw [hsearch] at hentry
    dsimp only at hentry
    obtain ⟨found, hfound, hnumber⟩ := binarySearchByKey_eq_ok hsearch
    obtain rfl : found = entry := Option.some.inj (hfound.symm.trans hentry)
    exact .inl ⟨hnumber.le, fun other _ hother ↦ hnumber ▸ hother⟩
  | error index =>
    rw [hsearch] at hentry
    dsimp only at hentry
    obtain ⟨hbefore, hafter⟩ := binarySearchByKey_eq_error_of_sorted hsorted hsearch
    cases index with
    | zero =>
      refine .inr fun other hother ↦ ?_
      obtain ⟨k, hk, rfl⟩ := List.getElem_of_mem hother
      exact hafter k _ (Nat.zero_le k) (List.getElem?_eq_getElem hk)
    | succ index =>
      rw [Nat.add_sub_cancel] at hentry
      refine .inl ⟨(hbefore index entry (Nat.lt_succ_self index) hentry).le, ?_⟩
      intro other hother hle
      obtain ⟨k, hk, rfl⟩ := List.getElem_of_mem hother
      have hk' : k ≤ index := by
        by_contra hgt
        exact absurd hle (Nat.not_le.mpr (hafter k _ (by omega) (List.getElem?_eq_getElem hk)))
      obtain ⟨hindex, rfl⟩ := List.getElem?_eq_some_iff.mp hentry
      rcases Nat.eq_or_lt_of_le hk' with rfl | hlt
      · exact le_rfl
      · exact List.pairwise_iff_getElem.mp hsorted k index hk hindex hlt

/-- On a strictly sorted buffer, `prune_recent_finality_proofs` drops from the split after the
justified number, or from where the last `recentFinalityProofsLimit` proofs start if that is
later; the proofs before the split are those up to the justified number. -/
theorem pruneRecentFinalityProofs_eq_drop {recentFinalityProofs : List (ℕ × Proof)}
    (hsorted : recentFinalityProofs.Pairwise fun a b ↦ a.1 < b.1)
    (justifiedHeaderNumber recentFinalityProofsLimit : ℕ) :
    ∃ split, pruneRecentFinalityProofs justifiedHeaderNumber recentFinalityProofs
        recentFinalityProofsLimit =
          recentFinalityProofs.drop (max split (recentFinalityProofs.length - recentFinalityProofsLimit)) ∧
      split ≤ recentFinalityProofs.length ∧
      (∀ k entry, k < split → recentFinalityProofs[k]? = some entry →
        entry.1 ≤ justifiedHeaderNumber) ∧
      ∀ k entry, split ≤ k → recentFinalityProofs[k]? = some entry →
        justifiedHeaderNumber < entry.1 := by
  unfold pruneRecentFinalityProofs
  cases hsearch : binarySearchByKey Prod.fst recentFinalityProofs justifiedHeaderNumber with
  | ok index =>
    obtain ⟨found, hfound, hnumber⟩ := binarySearchByKey_eq_ok hsearch
    obtain ⟨hindex, rfl⟩ := List.getElem?_eq_some_iff.mp hfound
    refine ⟨index + 1, rfl, hindex, fun k entry hk hentry ↦ ?_, fun k entry hk hentry ↦ ?_⟩
    · obtain ⟨hk', rfl⟩ := List.getElem?_eq_some_iff.mp hentry
      rcases Nat.eq_or_lt_of_le (Nat.le_of_lt_succ hk) with rfl | hlt
      · exact hnumber.le
      · exact hnumber ▸ (List.pairwise_iff_getElem.mp hsorted k index hk' hindex hlt).le
    · obtain ⟨hk', rfl⟩ := List.getElem?_eq_some_iff.mp hentry
      exact hnumber ▸ List.pairwise_iff_getElem.mp hsorted index k hindex hk' (by omega)
  | error index =>
    obtain ⟨hbefore, hafter⟩ := binarySearchByKey_eq_error_of_sorted
      (hsorted.imp fun h ↦ Nat.le_of_lt h) hsearch
    exact ⟨index, rfl, binarySearchByKey_eq_error hsearch,
      fun k entry hk hentry ↦ (hbefore k entry hk hentry).le, hafter⟩

/-- **What pruning keeps** of a strictly sorted buffer: the proofs above the justified number, cut
to the last `recentFinalityProofsLimit` of them. -/
theorem pruneRecentFinalityProofs_eq_filter {recentFinalityProofs : List (ℕ × Proof)}
    (hsorted : recentFinalityProofs.Pairwise fun a b ↦ a.1 < b.1)
    (justifiedHeaderNumber recentFinalityProofsLimit : ℕ) :
    pruneRecentFinalityProofs justifiedHeaderNumber recentFinalityProofs recentFinalityProofsLimit =
      (recentFinalityProofs.filter fun entry ↦ justifiedHeaderNumber < entry.1).drop
        ((recentFinalityProofs.filter fun entry ↦ justifiedHeaderNumber < entry.1).length -
          recentFinalityProofsLimit) := by
  obtain ⟨split, hprune, hsplit, hbefore, hafter⟩ :=
    pruneRecentFinalityProofs_eq_drop hsorted justifiedHeaderNumber recentFinalityProofsLimit
  have hfilter : (recentFinalityProofs.filter fun entry ↦ justifiedHeaderNumber < entry.1) =
      recentFinalityProofs.drop split :=
    filter_eq_drop (fun k entry hk hentry ↦ by simpa using hbefore k entry hk hentry)
      (fun k entry hk hentry ↦ by simpa using hafter k entry hk hentry)
  rw [hprune, hfilter, List.drop_drop, List.length_drop]
  congr 1
  omega

/-- **What the improvement picks** on a sorted buffer and headers with consecutive numbers: the
selection as it was when no buffered proof's number is among the headers', and otherwise the
last such proof with the header of its number.  A buffered number is always in the buffer's own
range, so among the headers' numbers is the intersection the source speaks of. -/
theorem selectBetterRecentFinalityProof_of_sorted {recentFinalityProofs : List (ℕ × Proof)}
    (hsorted : recentFinalityProofs.Pairwise fun a b ↦ a.1 ≤ b.1) {unjustifiedHeaders : List Header}
    {first : ℕ} (hheaders : unjustifiedHeaders ≠ [])
    (hnumbers : unjustifiedHeaders.map Header.number = List.range' first unjustifiedHeaders.length)
    (selectedFinalityProof : Option (Header × Proof)) :
    ((∀ entry ∈ recentFinalityProofs,
        ¬ (first ≤ entry.1 ∧ entry.1 < first + unjustifiedHeaders.length)) →
      selectBetterRecentFinalityProof recentFinalityProofs unjustifiedHeaders selectedFinalityProof =
        some selectedFinalityProof) ∧
    ((∃ entry ∈ recentFinalityProofs, first ≤ entry.1 ∧ entry.1 < first + unjustifiedHeaders.length) →
      ∃ entry ∈ recentFinalityProofs,
        (first ≤ entry.1 ∧ entry.1 < first + unjustifiedHeaders.length) ∧
        (∀ other ∈ recentFinalityProofs, first ≤ other.1 →
          other.1 < first + unjustifiedHeaders.length → other.1 ≤ entry.1) ∧
        ∃ header ∈ unjustifiedHeaders, header.number = entry.1 ∧
          selectBetterRecentFinalityProof recentFinalityProofs unjustifiedHeaders
            selectedFinalityProof = some (some (header, entry.2))) := by
  by_cases hrecent : recentFinalityProofs = []
  · subst hrecent
    refine ⟨fun _ ↦ ?_, fun ⟨_, hmem, _⟩ ↦ absurd hmem List.not_mem_nil⟩
    simp [selectBetterRecentFinalityProof]
  obtain ⟨entry, hentry, hinside, houtside⟩ :=
    selectBetterRecentFinalityProof_of_consecutive hrecent hheaders hnumbers selectedFinalityProof
  have hmem : entry ∈ recentFinalityProofs := List.mem_of_getElem? hentry
  have hhead : (recentFinalityProofs.head hrecent).1 ≤ entry.1 :=
    hsorted.rel_head_of_rel_head_head hmem le_rfl
  have hbelowEnd : ∀ other ∈ recentFinalityProofs, first ≤ other.1 →
      other.1 < first + unjustifiedHeaders.length →
        other.1 ≤ min (first + unjustifiedHeaders.length - 1)
          (recentFinalityProofs.getLast hrecent).1 :=
    fun other hother _ hlt ↦
      Nat.le_min.mpr ⟨by omega, hsorted.rel_getLast_of_rel_getLast_getLast hother le_rfl⟩
  have hlast := proofIndexAtOrBefore_of_sorted hsorted hentry
  by_cases hintersection : max first (recentFinalityProofs.head hrecent).1 ≤ entry.1 ∧
      entry.1 ≤ min (first + unjustifiedHeaders.length - 1) (recentFinalityProofs.getLast hrecent).1
  · have hrange : first ≤ entry.1 ∧ entry.1 < first + unjustifiedHeaders.length := by
      have hlength : 0 < unjustifiedHeaders.length := List.length_pos_iff.mpr hheaders
      have := Nat.min_le_left (first + unjustifiedHeaders.length - 1)
        (recentFinalityProofs.getLast hrecent).1
      exact ⟨(Nat.max_le.mp hintersection.1).1, by omega⟩
    refine ⟨fun hnone ↦ absurd hrange (hnone entry hmem),
      fun _ ↦ ⟨entry, hmem, hrange, fun other hother hfirst hlt ↦ ?_, hinside hintersection⟩⟩
    rcases hlast with ⟨-, hmax⟩ | hall
    · exact hmax other hother (hbelowEnd other hother hfirst hlt)
    · exact absurd (hbelowEnd other hother hfirst hlt) (Nat.not_le.mpr (hall other hother))
  · have hnone : ∀ other ∈ recentFinalityProofs,
        ¬ (first ≤ other.1 ∧ other.1 < first + unjustifiedHeaders.length) := by
      rintro other hother ⟨hfirst, hlt⟩
      have hle := hbelowEnd other hother hfirst hlt
      rcases hlast with ⟨hentryLe, hmax⟩ | hall
      · have hother' := hmax other hother hle
        exact hintersection ⟨Nat.max_le.mpr ⟨by omega, hhead⟩, hentryLe⟩
      · exact absurd hle (Nat.not_le.mpr (hall other hother))
    exact ⟨fun _ ↦ houtside hintersection,
      fun ⟨other, hother, hrange⟩ ↦ absurd hrange (hnone other hother)⟩

theorem recentFinalityProofs_spec (recentFinalityProofs : List (ℕ × Proof))
    (hsorted : recentFinalityProofs.Pairwise fun a b ↦ a.1 < b.1) :
    (∀ justifiedHeaderNumber recentFinalityProofsLimit,
      pruneRecentFinalityProofs justifiedHeaderNumber recentFinalityProofs
          recentFinalityProofsLimit =
        (recentFinalityProofs.filter fun entry ↦ justifiedHeaderNumber < entry.1).drop
          ((recentFinalityProofs.filter fun entry ↦ justifiedHeaderNumber < entry.1).length -
            recentFinalityProofsLimit)) ∧
    ∀ (unjustifiedHeaders : List Header) (first : ℕ), unjustifiedHeaders ≠ [] →
      unjustifiedHeaders.map Header.number = List.range' first unjustifiedHeaders.length →
      ∀ selectedFinalityProof : Option (Header × Proof),
        ((∀ entry ∈ recentFinalityProofs,
            ¬ (first ≤ entry.1 ∧ entry.1 < first + unjustifiedHeaders.length)) →
          selectBetterRecentFinalityProof recentFinalityProofs unjustifiedHeaders
            selectedFinalityProof = some selectedFinalityProof) ∧
        ((∃ entry ∈ recentFinalityProofs,
            first ≤ entry.1 ∧ entry.1 < first + unjustifiedHeaders.length) →
          ∃ entry ∈ recentFinalityProofs,
            (first ≤ entry.1 ∧ entry.1 < first + unjustifiedHeaders.length) ∧
            (∀ other ∈ recentFinalityProofs, first ≤ other.1 →
              other.1 < first + unjustifiedHeaders.length → other.1 ≤ entry.1) ∧
            ∃ header ∈ unjustifiedHeaders, header.number = entry.1 ∧
              selectBetterRecentFinalityProof recentFinalityProofs unjustifiedHeaders
                selectedFinalityProof = some (some (header, entry.2))) :=
  ⟨pruneRecentFinalityProofs_eq_filter hsorted, fun _ _ hheaders hnumbers selectedFinalityProof ↦
    selectBetterRecentFinalityProof_of_sorted (hsorted.imp Nat.le_of_lt) hheaders hnumbers
      selectedFinalityProof⟩

/-- A buffer of proofs of headers 3, 5 and 8: pruning at 5 with a limit of one keeps the proof of
8, and on the run of headers 4 to 6 the improvement picks the proof of 5. -/
theorem recentFinalityProofs_spec_threeProofs :
    [(3, 3), (5, 5), (8, 8)].Pairwise (fun a b : ℕ × ℕ ↦ a.1 < b.1) ∧
      pruneRecentFinalityProofs 5 [(3, 3), (5, 5), (8, 8)] 1 = [(8, 8)] ∧
      selectBetterRecentFinalityProof [(3, 3), (5, 5), (8, 8)] (runHeaders 4 3) none =
        some (some (⟨5, false⟩, 5)) := by
  have hsorted : [(3, 3), (5, 5), (8, 8)].Pairwise (fun a b : ℕ × ℕ ↦ a.1 < b.1) := by decide
  have hspec := recentFinalityProofs_spec [(3, 3), (5, 5), (8, 8)] hsorted
  obtain ⟨entry, hentry, hrange, -, header, hheader, hnumber, hselect⟩ :=
    (hspec.2 (runHeaders 4 3) 4 (by decide) (by decide) none).2 ⟨(5, 5), by decide, by decide⟩
  have hfive : entry = (5, 5) := by
    have hlength : (runHeaders 4 3).length = 3 := rfl
    rw [hlength] at hrange
    simp only [List.mem_cons, List.not_mem_nil, or_false] at hentry
    rcases hentry with rfl | rfl | rfl
    · exact absurd hrange (by decide)
    · rfl
    · exact absurd hrange (by decide)
  subst hfive
  obtain rfl : header = ⟨5, false⟩ := by
    obtain ⟨hmandatory, -⟩ := mem_runHeaders.mp hheader
    obtain ⟨number, isMandatory⟩ := header
    dsimp only at hmandatory hnumber
    rw [hmandatory, hnumber]
  exact ⟨hsorted, (hspec.1 5 1).trans (by decide), hselect⟩

end Finality
