import Mathlib.Data.List.Basic

/-!
# Removing the entries of a list by index

`Vec::remove(i)` shifts every later entry down by one, so a loop that removes several indices
from one vector removes the ones it meant to only if it goes from the largest index down.  This
file states what such a loop leaves: `keepExcept removed i l`, the entries of `l`, numbered
from `i`, whose number is not in `removed` (`foldl_eraseIdx_reverse`).
-/

set_option autoImplicit false

universe u

namespace List

variable {α : Type u}

/-- The entries of `l`, numbered from `i`, whose number is not in `removed`. -/
def keepExcept (removed : List ℕ) : ℕ → List α → List α
  | _, [] => []
  | i, a :: l => if i ∈ removed then keepExcept removed (i + 1) l else a :: keepExcept removed (i + 1) l

@[simp] theorem keepExcept_nil (removed : List ℕ) (i : ℕ) :
    keepExcept removed i ([] : List α) = [] :=
  rfl

theorem keepExcept_cons (removed : List ℕ) (i : ℕ) (a : α) (l : List α) :
    keepExcept removed i (a :: l) =
      if i ∈ removed then keepExcept removed (i + 1) l else a :: keepExcept removed (i + 1) l :=
  rfl

/-- Only which numbers are removed matters. -/
theorem keepExcept_congr {removed removed' : List ℕ} (h : ∀ j, j ∈ removed ↔ j ∈ removed') :
    ∀ (i : ℕ) (l : List α), keepExcept removed i l = keepExcept removed' i l
  | _, [] => rfl
  | i, a :: l => by
    rw [keepExcept_cons, keepExcept_cons, keepExcept_congr h (i + 1) l]
    simp only [h i]

/-- Numbers below the first one are never removed. -/
theorem keepExcept_of_lt {removed : List ℕ} :
    ∀ {i : ℕ} (_ : ∀ j ∈ removed, j < i) (l : List α), keepExcept removed i l = l
  | _, _, [] => rfl
  | i, h, a :: l => by
    rw [keepExcept_cons, if_neg fun hi ↦ Nat.lt_irrefl i (h i hi),
      keepExcept_of_lt (fun j hj ↦ Nat.lt_succ_of_lt (h j hj)) l]

/-- Removing the entry numbered `m` first, and then those below it: every later entry moves down
by one, past all the numbers still to remove. -/
theorem keepExcept_eraseIdx {removed : List ℕ} {m : ℕ} (hm : ∀ j ∈ removed, j < m) :
    ∀ {i : ℕ} (_ : i ≤ m) (l : List α),
      keepExcept removed i (l.eraseIdx (m - i)) = keepExcept (m :: removed) i l
  | _, _, [] => rfl
  | i, hi, a :: l => by
    rcases Nat.eq_or_lt_of_le hi with rfl | hlt
    · rw [Nat.sub_self, eraseIdx_cons_zero, keepExcept_cons, if_pos mem_cons_self,
        keepExcept_of_lt hm l, keepExcept_of_lt _ l]
      intro j hj
      rcases mem_cons.mp hj with rfl | hj
      · exact Nat.lt_succ_self j
      · exact Nat.lt_succ_of_lt (hm j hj)
    · have hsub : m - i = (m - (i + 1)) + 1 := by omega
      have hmem : i ∈ m :: removed ↔ i ∈ removed := by
        rw [mem_cons]
        exact ⟨fun h ↦ h.resolve_left (Nat.ne_of_lt hlt), Or.inr⟩
      rw [hsub, eraseIdx_cons_succ, keepExcept_cons, keepExcept_cons,
        keepExcept_eraseIdx hm hlt l]
      simp only [hmem]

/-- Removing the indices of a decreasing list one after the other. -/
theorem foldl_eraseIdx_of_pairwise_gt :
    ∀ {removed : List ℕ} (_ : removed.Pairwise (· > ·)) (l : List α),
      removed.foldl List.eraseIdx l = keepExcept removed 0 l
  | [], _, l => (keepExcept_of_lt (fun _ h ↦ absurd h (not_mem_nil)) l).symm
  | m :: removed, h, l => by
    rw [pairwise_cons] at h
    rw [foldl_cons, foldl_eraseIdx_of_pairwise_gt h.2, ← Nat.sub_zero m,
      keepExcept_eraseIdx h.1 (Nat.zero_le m), Nat.sub_zero]

/-- **Removing an increasing list of indices from the largest down** removes exactly those
entries. -/
theorem foldl_eraseIdx_reverse {removed : List ℕ} (h : removed.Pairwise (· < ·)) (l : List α) :
    removed.reverse.foldl List.eraseIdx l = keepExcept removed 0 l := by
  have hrev : removed.reverse.Pairwise (· > ·) := pairwise_reverse.mpr h
  rw [foldl_eraseIdx_of_pairwise_gt hrev]
  exact keepExcept_congr (fun j ↦ mem_reverse) 0 l

end List
