import SoloParaBridge.Lib.Trace
import SoloParaBridge.Millau.Primitives
import Mathlib.Data.List.Nodup

/-!
# The off-chain plugin: the commit task and the reveal poller

A logic-provider node runs two tasks over one `Arc<Mutex<LocalStorage>>`:

* the **commit task** (`run_service`): every tick it submits a `CommitHash` for a fresh metadata
  id, and when the submission went through it calls `store_key`, which appends the id to the list
  stored under `TRACKED_STORAGE_KEYS`, and then `store_commit_info`, which stores the answer and
  the seed under the id itself;
* the **reveal poller** (`check_keys`): it reads the tracked list, *releases the lock*, and walks
  its own copy of the list; for every id whose reveal window is open and whose commit info is
  stored it submits a `RevealHash` and notes the position; at the end it removes the noted
  positions from its copy with `Vec::remove`, one after another, and writes the copy back over
  whatever the storage holds by then.

Each section that holds the mutex is one atomic step here, and so is each answer the runtime and
the keystore give; everything else a task does touches no shared state.  A `Node` holds the
storage and where each task stands, and `Node.step` is one move of one task, the answers from
outside being part of the event.  A `?` that returns early ends the pass with nothing written;
a `Vec::remove` past the end panics, and the poller task is gone for good.

The two defects of the pass are facts of this model:

* the write-back is a lost update: it overwrites the list with a copy read before the pass, so an
  id that `store_key` added in the meantime disappears, its reveal never submitted
  (`checkKeysWriteBack_trackedKeys`, `storeKey_lost_by_writeBack`, `trackedKey_lost_by_writeBack`);
* the positions are removed in increasing order from a list that shrinks at every removal, so
  from the second removal on each one takes the id *after* the one it meant
  (`removeEach_pair_removes_next`).
-/

set_option autoImplicit false

namespace OffchainPlugin

open Millau Trace

/-- `OffchainCommitmentInfo`: what the commit task keeps for the reveal. -/
structure OffchainCommitmentInfo where
  revealHash : H256
  commitHash : H256
  randomSeed : UInt8
  deriving DecidableEq

/-- The off-chain storage the two tasks share, and the reveals submitted so far. -/
structure Storage where
  /-- `TRACKED_STORAGE_KEYS`: the metadata ids whose reveal is pending, once the key is set. -/
  trackedKeys : Option (List MetadataId)
  /-- The `OffchainCommitmentInfo` stored under each metadata id. -/
  commitInfo : MetadataId → Option OffchainCommitmentInfo
  /-- The metadata ids of the `RevealHash` calls submitted, oldest first. -/
  reveals : List MetadataId

/-- Whether `TRACKED_STORAGE_KEYS` lists `key`. -/
def Storage.tracks (st : Storage) (key : MetadataId) : Bool :=
  match st.trackedKeys with
  | some keys => keys.contains key
  | none => false

/-- `store_key`: append the id to the tracked list unless it is there already; start the list
when the key is not set. -/
def storeKey (key : MetadataId) (st : Storage) : Storage :=
  match st.trackedKeys with
  | some keysList =>
    if keysList.contains key then st else { st with trackedKeys := some (keysList ++ [key]) }
  | none => { st with trackedKeys := some [key] }

/-- `store_commit_info`: store the commit info under the id, unless something is stored there. -/
def storeCommitInfo (key : MetadataId) (commitmentInfo : OffchainCommitmentInfo)
    (st : Storage) : Storage :=
  match st.commitInfo key with
  | none => { st with commitInfo := Function.update st.commitInfo key (some commitmentInfo) }
  | some _ => st

/-- `to_remove.into_iter().for_each(|i| { tracked_keys.remove(i); })`: `Vec::remove` at each
position in turn, on the vector the previous removals left; `none` is the panic of a position
past the end. -/
def removeEach {α : Type} : List ℕ → List α → Option (List α)
  | [], l => some l
  | i :: is, l => if i < l.length then removeEach is (l.eraseIdx i) else none

/-! ## The two tasks -/

/-- Where the reveal poller stands. -/
inductive Poller where
  /-- Between two passes of `check_keys`. -/
  | idle
  /-- In the loop of `check_keys`, over its own copy of the tracked list. -/
  | checkingKeys (trackedKeys : List MetadataId) (idxRd : ℕ) (toRemove : List ℕ)
  /-- The task panicked and is gone. -/
  | panicked

/-- Where the commit task stands, after a `CommitHash` for `key` has been submitted. -/
inductive Committer where
  | idle
  | storingKey (key : MetadataId) (commitmentInfo : OffchainCommitmentInfo)
  | storingCommitInfo (key : MetadataId) (commitmentInfo : OffchainCommitmentInfo)

/-- The node: the shared storage and the two tasks. -/
structure Node where
  storage : Storage
  poller : Poller
  committer : Committer

/-- What the runtime and the keystore answer to one iteration of the loop of `check_keys`. -/
inductive RevealCheck where
  /-- `within_reveal_window_for_key` fails, and the pass returns early. -/
  | apiError
  /-- The window of the id is not open. -/
  | outsideWindow
  /-- The window is open; `send_commitment_reveal` goes through or fails (and the pass returns
  early). -/
  | inWindow (submitted : Bool)

/-- One move of one task. -/
inductive Event where
  /-- A tick of `run_service` whose `CommitHash` for `key` was submitted. -/
  | commit (key : MetadataId) (commitmentInfo : OffchainCommitmentInfo)
  | storeKey
  | storeCommitInfo
  /-- A tick of the poller: `check_keys` reads the tracked list. -/
  | checkKeysRead
  | checkKeysLoop (answer : RevealCheck)
  | checkKeysWriteBack

/-- A node whose storage has never been written, its two tasks just started. -/
def Node.init : Node := ⟨⟨none, fun _ ↦ none, []⟩, .idle, .idle⟩

/-- A tick of `run_service`: its `CommitHash` was submitted. -/
def runServiceCommit (s : Node) (key : MetadataId) (commitmentInfo : OffchainCommitmentInfo) :
    Option Node :=
  match s.committer with
  | .idle => some { s with committer := .storingKey key commitmentInfo }
  | _ => none

/-- `store_key`, under the lock. -/
def runServiceStoreKey (s : Node) : Option Node :=
  match s.committer with
  | .storingKey key commitmentInfo =>
    some { s with storage := storeKey key s.storage, committer := .storingCommitInfo key commitmentInfo }
  | _ => none

/-- `store_commit_info`, under the lock. -/
def runServiceStoreCommitInfo (s : Node) : Option Node :=
  match s.committer with
  | .storingCommitInfo key commitmentInfo =>
    some { s with storage := storeCommitInfo key commitmentInfo s.storage, committer := .idle }
  | _ => none

/-- The start of `check_keys`: read `TRACKED_STORAGE_KEYS` under the lock, then drop the lock;
a pass over an unset key ends there. -/
def checkKeysRead (s : Node) : Option Node :=
  match s.poller with
  | .idle =>
    match s.storage.trackedKeys with
    | some trackedKeys => some { s with poller := .checkingKeys trackedKeys 0 [] }
    | none => some s
  | _ => none

/-- One iteration of the loop at `idx_rd`: ask whether the window is open, read the commit info
under the lock, and submit the reveal. -/
def checkKeysLoop (s : Node) (answer : RevealCheck) : Option Node :=
  match s.poller with
  | .checkingKeys trackedKeys idxRd toRemove =>
    match trackedKeys[idxRd]? with
    | none => none
    | some key =>
      match answer with
      | .apiError => some { s with poller := .idle }
      | .outsideWindow => some { s with poller := .checkingKeys trackedKeys (idxRd + 1) toRemove }
      | .inWindow submitted =>
        match s.storage.commitInfo key with
        | none => some { s with poller := .checkingKeys trackedKeys (idxRd + 1) toRemove }
        | some _ =>
          if submitted then
            some { s with
              storage := { s.storage with reveals := s.storage.reveals ++ [key] }
              poller := .checkingKeys trackedKeys (idxRd + 1) (toRemove ++ [idxRd]) }
          else some { s with poller := .idle }
  | _ => none

/-- The end of `check_keys`: remove the noted positions from the copy, then write the copy back
under the lock. -/
def checkKeysWriteBack (s : Node) : Option Node :=
  match s.poller with
  | .checkingKeys trackedKeys idxRd toRemove =>
    if idxRd = trackedKeys.length then
      match removeEach toRemove trackedKeys with
      | some kept =>
        some { s with storage := { s.storage with trackedKeys := some kept }, poller := .idle }
      | none => some { s with poller := .panicked }
    else none
  | _ => none

/-- One move of the node. -/
def Node.step (s : Node) : Event → Option Node
  | .commit key commitmentInfo => runServiceCommit s key commitmentInfo
  | .storeKey => runServiceStoreKey s
  | .storeCommitInfo => runServiceStoreCommitInfo s
  | .checkKeysRead => checkKeysRead s
  | .checkKeysLoop answer => checkKeysLoop s answer
  | .checkKeysWriteBack => checkKeysWriteBack s

/-- The states the node reaches, over every interleaving of its two tasks. -/
def Node.Reachable (s : Node) : Prop :=
  Relation.ReflTransGen (StepOf Node.step) Node.init s

/-! ## The shared list -/

/-- `store_key` leaves its id tracked. -/
theorem storeKey_tracks (key : MetadataId) (st : Storage) : (storeKey key st).tracks key = true := by
  unfold storeKey
  split
  · rename_i keysList hkeys
    split
    · rename_i hmem
      rw [Storage.tracks, hkeys]
      exact hmem
    · simp [Storage.tracks]
  · simp [Storage.tracks]

/-- What is left after the removals is part of what there was. -/
theorem removeEach_sublist {α : Type} {is : List ℕ} {l l' : List α}
    (h : removeEach is l = some l') : l'.Sublist l := by
  induction is generalizing l with
  | nil =>
    rw [removeEach, Option.some_inj] at h
    rw [h]
  | cons i is ih =>
    rw [removeEach] at h
    split at h
    · exact (ih h).trans (List.eraseIdx_sublist l i)
    · exact absurd h (by simp)

/-- **Removing positions in increasing order shifts them.**  The second of two positions
`i < j` removes the id at `j + 1` and keeps the one at `j`: the first removal moved every id after
`i` one place to the front. -/
theorem removeEach_pair_removes_next {α : Type} [DecidableEq α] {l l' : List α} (hnodup : l.Nodup) {i j : ℕ}
    (hij : i < j) (hj : j + 1 < l.length) (h : removeEach [i, j] l = some l') :
    l[j] ∈ l' ∧ l[j + 1] ∉ l' := by
  have hi : i < l.length := by omega
  have hlen : j < (l.eraseIdx i).length := by rw [List.length_eraseIdx_of_lt hi]; omega
  have hl' : l' = (l.eraseIdx i).eraseIdx j := by
    simp only [removeEach, if_pos hi, if_pos hlen, Option.some_inj] at h
    exact h.symm
  have hshift : (l.eraseIdx i)[j] = l[j + 1] := by
    rw [List.getElem_eraseIdx_of_ge hlen (Nat.le_of_lt hij)]
  have hnodup' : (l.eraseIdx i).Nodup := hnodup.sublist (List.eraseIdx_sublist l i)
  have hmem : ∀ a, a ∈ l' ↔ a ≠ l[j + 1] ∧ a ≠ l[i] ∧ a ∈ l := by
    intro a
    rw [hl', ← hnodup'.erase_getElem j hlen, hnodup'.mem_erase_iff, hshift,
      ← hnodup.erase_getElem i hi, hnodup.mem_erase_iff]
  refine ⟨(hmem _).mpr ⟨?_, ?_, List.getElem_mem _⟩, fun h ↦ ((hmem _).mp h).1 rfl⟩
  · exact fun e ↦ absurd ((List.Nodup.getElem_inj_iff hnodup).mp e) (by omega)
  · exact fun e ↦ absurd ((List.Nodup.getElem_inj_iff hnodup).mp e) (by omega)

/-! ## The write-back of `check_keys` -/

/-- **The write-back ignores the storage.**  At the end of a pass the tracked list is the pass's
own copy less the removed positions, whatever the storage held when the pass ended. -/
theorem checkKeysWriteBack_trackedKeys {s t : Node} {trackedKeys : List MetadataId} {idxRd : ℕ}
    {toRemove : List ℕ} (hpoller : s.poller = .checkingKeys trackedKeys idxRd toRemove)
    (h : checkKeysWriteBack s = some t) (hpanic : t.poller ≠ .panicked) :
    ∃ kept, removeEach toRemove trackedKeys = some kept ∧ t.storage.trackedKeys = some kept := by
  rw [checkKeysWriteBack, hpoller] at h
  dsimp only at h
  split at h
  · split at h
    · rename_i kept hkept
      rw [Option.some_inj] at h
      exact ⟨kept, hkept, by rw [← h]⟩
    · rw [Option.some_inj] at h
      exact absurd (by rw [← h]) hpanic
  · exact absurd h (by simp)

/-- An id the pass did not read is not tracked after the write-back, even if `store_key` tracked
it while the pass ran. -/
theorem checkKeysWriteBack_not_tracks {s t : Node} {trackedKeys : List MetadataId} {idxRd : ℕ}
    {toRemove : List ℕ} (hpoller : s.poller = .checkingKeys trackedKeys idxRd toRemove)
    (h : checkKeysWriteBack s = some t) (hpanic : t.poller ≠ .panicked) {key : MetadataId}
    (hkey : key ∉ trackedKeys) : t.storage.tracks key = false := by
  obtain ⟨kept, hkept, htracked⟩ := checkKeysWriteBack_trackedKeys hpoller h hpanic
  have hnot : key ∉ kept := fun hmem ↦ hkey ((removeEach_sublist hkept).subset hmem)
  rw [Storage.tracks, htracked]
  simpa using hnot

/-- **The lost update, from any state.**  While a pass of `check_keys` runs over a copy without
`key`, `store_key` tracks `key`; the write-back that ends the pass leaves it untracked, unless
the poller panics. -/
theorem storeKey_lost_by_writeBack {s s' t : Node} {trackedKeys : List MetadataId} {idxRd : ℕ}
    {toRemove : List ℕ} (hpoller : s.poller = .checkingKeys trackedKeys idxRd toRemove)
    {key : MetadataId} {commitmentInfo : OffchainCommitmentInfo}
    (hcommitter : s.committer = .storingKey key commitmentInfo) (hkey : key ∉ trackedKeys)
    (hstore : s.step .storeKey = some s') (hwrite : s'.step .checkKeysWriteBack = some t)
    (hpanic : t.poller ≠ .panicked) :
    s'.storage.tracks key = true ∧ t.storage.tracks key = false := by
  rw [Node.step, runServiceStoreKey, hcommitter] at hstore
  obtain rfl := Option.some.inj hstore
  have hpoller' : (⟨storeKey key s.storage, s.poller, .storingCommitInfo key commitmentInfo⟩ :
      Node).poller = .checkingKeys trackedKeys idxRd toRemove := hpoller
  exact ⟨storeKey_tracks key s.storage, checkKeysWriteBack_not_tracks hpoller' hwrite hpanic hkey⟩

/-- **A tracked id lost by the write-back.**  The commit task tracks id `1`; the poller reads the
list `[1]` and lets go of the lock; meanwhile the commit task commits to id `2` and `store_key`
tracks it; the poller finds the window of `1` closed and writes its copy back.  Id `2` is no
longer tracked, and its reveal was never submitted — whatever the two commitments were. -/
theorem trackedKey_lost_by_writeBack (info₁ info₂ : OffchainCommitmentInfo) :
    ∃ s₁ s₂ : Node,
      runEvents Node.step Node.init
          [.commit 1 info₁, .storeKey, .storeCommitInfo, .checkKeysRead, .commit 2 info₂,
            .storeKey] = some s₁ ∧
        s₁.storage.tracks 2 = true ∧
        runEvents Node.step s₁
          [.storeCommitInfo, .checkKeysLoop .outsideWindow, .checkKeysWriteBack] = some s₂ ∧
        s₂.storage.tracks 2 = false ∧ 2 ∉ s₂.storage.reveals :=
  ⟨_, _, rfl, rfl, rfl, rfl, List.not_mem_nil⟩

/-- **A pass that submits two reveals never writes what it meant to.**  The commit task tracks
ids `1` and `2`; a pass of `check_keys` finds both windows open, submits both reveals and notes
positions `0` and `1`; the first removal leaves one id and the second is past the end, so the
poller panics and the list stays `[1, 2]`.  With a third id `3` tracked and closed, the second
removal takes `3` instead of `2`: the list written back is `[2]`, whose reveal was submitted,
and `3`, whose reveal was not, is gone. -/
theorem checkKeys_two_reveals (info₁ info₂ info₃ : OffchainCommitmentInfo) :
    ∃ s t : Node,
      runEvents Node.step Node.init
          [.commit 1 info₁, .storeKey, .storeCommitInfo, .commit 2 info₂, .storeKey,
            .storeCommitInfo, .checkKeysRead, .checkKeysLoop (.inWindow true),
            .checkKeysLoop (.inWindow true), .checkKeysWriteBack] = some s ∧
        s.storage.reveals = [1, 2] ∧ s.storage.trackedKeys = some [1, 2] ∧
        s.poller = .panicked ∧
      runEvents Node.step Node.init
          [.commit 1 info₁, .storeKey, .storeCommitInfo, .commit 2 info₂, .storeKey,
            .storeCommitInfo, .commit 3 info₃, .storeKey, .storeCommitInfo, .checkKeysRead,
            .checkKeysLoop (.inWindow true), .checkKeysLoop (.inWindow true),
            .checkKeysLoop .outsideWindow, .checkKeysWriteBack] = some t ∧
        t.storage.reveals = [1, 2] ∧ t.storage.trackedKeys = some [2] :=
  ⟨_, _, rfl, rfl, rfl, rfl, rfl, rfl, rfl⟩

end OffchainPlugin
