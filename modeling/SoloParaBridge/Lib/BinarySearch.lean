import Mathlib.Order.Lattice
import Mathlib.Data.List.Pairwise

/-!
# Binary search by a key

`slice::binary_search_by_key` of the Rust standard library at the toolchain the repository pins:
the loop halves `[left, right)`, probes `mid = left + (right - left) / 2`, returns `Ok(mid)` at the
first probe whose key is the target and `Err(left)` once the range is empty.  The loop runs on
fuel, one iteration per element, which is never short: each probe shrinks the range.

On any list, `Ok(i)` names an element with the target key (`binarySearchByKey_eq_ok`) and
`Err(j)` a position at most the length (`binarySearchByKey_eq_error`).  On a list sorted by the
key, `Err(j)` is the insertion point (`binarySearchByKey_eq_error_of_sorted`), so the search finds
a key that is there (`exists_binarySearchByKey_eq_ok`).
-/

set_option autoImplicit false

namespace BinarySearch

variable {α β : Type} [LinearOrder β] (key : α → β)

/-- The loop of `binary_search_by` over `[left, right)`, with `fuel` more iterations. -/
def loop (xs : List α) (target : β) : ℕ → ℕ → ℕ → Except ℕ ℕ
  | 0, left, _ => .error left
  | fuel + 1, left, right =>
    if left < right then
      let mid := left + (right - left) / 2
      match xs[mid]? with
      | none => .error left
      | some x =>
        match compare (key x) target with
        | .lt => loop xs target fuel (mid + 1) right
        | .gt => loop xs target fuel left mid
        | .eq => .ok mid
    else .error left

/-- `xs.binary_search_by_key(&target, key)`. -/
def binarySearchByKey (xs : List α) (target : β) : Except ℕ ℕ :=
  loop key xs target xs.length 0 xs.length

variable {key} {xs : List α} {target : β}

theorem loop_eq_ok : ∀ {fuel left right i : ℕ}, loop key xs target fuel left right = .ok i →
    ∃ x, xs[i]? = some x ∧ key x = target
  | 0, _, _, _, h => by cases h
  | fuel + 1, left, right, i, h => by
    unfold loop at h
    split_ifs at h with hlt
    dsimp only at h
    split at h
    · cases h
    · rename_i x hx
      split at h
      · exact loop_eq_ok h
      · exact loop_eq_ok h
      · rename_i hcompare
        cases h
        exact ⟨x, hx, compare_eq_iff_eq.mp hcompare⟩

/-- The loop stays in `[left, right]`, so it ends at most at `right`. -/
theorem loop_eq_error : ∀ {fuel left right j : ℕ}, left ≤ right →
    loop key xs target fuel left right = .error j → j ≤ right
  | 0, _, _, _, hle, h => by
    cases h
    exact hle
  | fuel + 1, left, right, j, hle, h => by
    unfold loop at h
    split_ifs at h with hlt
    · dsimp only at h
      split at h
      · cases h
        exact hle
      · split at h
        · exact loop_eq_error (by omega) h
        · have hj := loop_eq_error (by omega) h
          omega
        · cases h
    · cases h
      exact hle

/-- On a sorted list, `Err(j)` is the insertion point: the keys before `j` are smaller than the
target and those from `j` on larger.  The positions below `left` have smaller keys and those from
`right` on larger ones, each probe keeps it so, and the loop ends with `right ≤ left`. -/
theorem loop_eq_error_insertion (hsorted : xs.Pairwise fun a b ↦ key a ≤ key b) :
    ∀ {fuel left right j : ℕ}, right - left ≤ fuel → right ≤ xs.length →
      (∀ k x, k < left → xs[k]? = some x → key x < target) →
      (∀ k x, right ≤ k → xs[k]? = some x → target < key x) →
      loop key xs target fuel left right = .error j →
        (∀ k x, k < j → xs[k]? = some x → key x < target) ∧
          ∀ k x, j ≤ k → xs[k]? = some x → target < key x
  | 0, left, right, _, hfuel, _, hbelow, habove, h => by
    cases h
    exact ⟨hbelow, fun k x hk hx ↦ habove k x (by omega) hx⟩
  | fuel + 1, left, right, j, hfuel, hright, hbelow, habove, h => by
    unfold loop at h
    split_ifs at h with hlt
    · have hmid : left + (right - left) / 2 < xs.length := by omega
      dsimp only at h
      rw [List.getElem?_eq_getElem hmid] at h
      simp only at h
      have hle : ∀ k x, xs[k]? = some x → k ≤ left + (right - left) / 2 →
          key x ≤ key xs[left + (right - left) / 2] := by
        intro k x hx hk
        obtain ⟨hk', rfl⟩ := List.getElem?_eq_some_iff.mp hx
        rcases Nat.eq_or_lt_of_le hk with heq | hlt'
        · simp only [heq, le_refl]
        · exact List.pairwise_iff_getElem.mp hsorted k _ hk' hmid hlt'
      have hge : ∀ k x, xs[k]? = some x → left + (right - left) / 2 ≤ k →
          key xs[left + (right - left) / 2] ≤ key x := by
        intro k x hx hk
        obtain ⟨hk', rfl⟩ := List.getElem?_eq_some_iff.mp hx
        rcases Nat.eq_or_lt_of_le hk with heq | hlt'
        · simp only [heq, le_refl]
        · exact List.pairwise_iff_getElem.mp hsorted _ k hmid hk' hlt'
      split at h
      · rename_i hcompare
        refine loop_eq_error_insertion hsorted (by omega) hright ?_ habove h
        intro k x hk hx
        rcases Nat.lt_or_ge k left with hkl | hkl
        · exact hbelow k x hkl hx
        · exact (hle k x hx (by omega)).trans_lt (compare_lt_iff_lt.mp hcompare)
      · rename_i hcompare
        refine loop_eq_error_insertion hsorted (by omega) (by omega) hbelow ?_ h
        intro k x hk hx
        exact (compare_gt_iff_gt.mp hcompare).trans_le (hge k x hx hk)
      · cases h
    · cases h
      exact ⟨hbelow, fun k x hk hx ↦ habove k x (by omega) hx⟩

/-- On a sorted list, the loop ends in `Err` only if no key is the target. -/
theorem loop_eq_error_of_sorted (hsorted : xs.Pairwise fun a b ↦ key a ≤ key b)
    {fuel left right j : ℕ} (hfuel : right - left ≤ fuel) (hright : right ≤ xs.length)
    (hbelow : ∀ k x, k < left → xs[k]? = some x → key x < target)
    (habove : ∀ k x, right ≤ k → xs[k]? = some x → target < key x)
    (h : loop key xs target fuel left right = .error j) : ∀ x ∈ xs, key x ≠ target := by
  obtain ⟨hbefore, hafter⟩ := loop_eq_error_insertion hsorted hfuel hright hbelow habove h
  intro x hx
  obtain ⟨k, hk, rfl⟩ := List.getElem_of_mem hx
  rcases Nat.lt_or_ge k j with hkj | hkj
  · exact (hbefore k _ hkj (List.getElem?_eq_getElem hk)).ne
  · exact (hafter k _ hkj (List.getElem?_eq_getElem hk)).ne'

/-- `Ok(i)` names an element whose key is the target, whatever the list. -/
theorem binarySearchByKey_eq_ok {i : ℕ} (h : binarySearchByKey key xs target = .ok i) :
    ∃ x, xs[i]? = some x ∧ key x = target :=
  loop_eq_ok h

/-- `Err(j)` is a position at most the length, whatever the list. -/
theorem binarySearchByKey_eq_error {j : ℕ} (h : binarySearchByKey key xs target = .error j) :
    j ≤ xs.length :=
  loop_eq_error (Nat.zero_le _) h

/-- On a list sorted by the key, `Err(j)` is where the target would go: every key before `j` is
smaller and every key from `j` on larger. -/
theorem binarySearchByKey_eq_error_of_sorted (hsorted : xs.Pairwise fun a b ↦ key a ≤ key b)
    {j : ℕ} (h : binarySearchByKey key xs target = .error j) :
    (∀ k x, k < j → xs[k]? = some x → key x < target) ∧
      ∀ k x, j ≤ k → xs[k]? = some x → target < key x :=
  loop_eq_error_insertion hsorted (by omega) (Nat.le_refl _)
    (fun k _ hk _ ↦ absurd hk (Nat.not_lt_zero k))
    (fun k _ hk hx ↦ absurd (List.getElem?_eq_some_iff.mp hx).1 (by omega)) h

/-- A list whose entries fail `p` before position `i` and pass it from there on keeps, under
`p`, exactly its entries from `i`: what is left of a sorted list above a bound. -/
theorem filter_eq_drop {p : α → Bool} {i : ℕ}
    (hbefore : ∀ k x, k < i → xs[k]? = some x → p x = false)
    (hafter : ∀ k x, i ≤ k → xs[k]? = some x → p x = true) : xs.filter p = xs.drop i := by
  have htake : (xs.take i).filter p = [] := by
    rw [List.filter_eq_nil_iff]
    intro x hx
    obtain ⟨k, hk, rfl⟩ := List.getElem_of_mem hx
    rw [List.length_take] at hk
    rw [List.getElem_take, hbefore k _ (by omega) (List.getElem?_eq_getElem _)]
    decide
  have hdrop : (xs.drop i).filter p = xs.drop i := by
    rw [List.filter_eq_self]
    intro x hx
    obtain ⟨k, hk, rfl⟩ := List.getElem_of_mem hx
    rw [List.getElem_drop]
    exact hafter (i + k) _ (by omega) (List.getElem?_eq_getElem _)
  calc xs.filter p = (xs.take i ++ xs.drop i).filter p := by rw [List.take_append_drop]
    _ = xs.drop i := by rw [List.filter_append, htake, hdrop, List.nil_append]

/-- On a list sorted by the key, a key that is there is found. -/
theorem exists_binarySearchByKey_eq_ok (hsorted : xs.Pairwise fun a b ↦ key a ≤ key b)
    (hmem : ∃ x ∈ xs, key x = target) : ∃ i, binarySearchByKey key xs target = .ok i := by
  cases hsearch : binarySearchByKey key xs target with
  | ok i => exact ⟨i, rfl⟩
  | error j =>
    obtain ⟨x, hx, hkey⟩ := hmem
    have hnot := loop_eq_error_of_sorted hsorted (by omega) (Nat.le_refl _)
      (fun k _ hk _ ↦ absurd hk (Nat.not_lt_zero k))
      (fun k x hk hx ↦ absurd (List.getElem?_eq_some_iff.mp hx).1 (by omega)) hsearch
    exact absurd hkey (hnot x hx)

/-! ## Lists strictly sorted by the key -/

/-- In a list strictly sorted by the key, entries at two positions have two keys. -/
theorem key_ne_of_ne (hsorted : xs.Pairwise fun a b ↦ key a < key b) {i j : ℕ}
    (hi : i < xs.length) (hj : j < xs.length) (hij : i ≠ j) : key xs[i] ≠ key xs[j] := by
  rcases Nat.lt_or_gt_of_ne hij with hlt | hgt
  · exact (List.pairwise_iff_getElem.mp hsorted i j hi hj hlt).ne
  · exact (List.pairwise_iff_getElem.mp hsorted j i hj hi hgt).ne'

/-- In a list strictly sorted by the key, an entry is the only one with its key. -/
theorem eq_of_key_eq (hsorted : xs.Pairwise fun a b ↦ key a < key b) {x y : α} (hx : x ∈ xs)
    (hy : y ∈ xs) (h : key x = key y) : x = y := by
  obtain ⟨i, hi, rfl⟩ := List.getElem_of_mem hx
  obtain ⟨j, hj, rfl⟩ := List.getElem_of_mem hy
  by_cases hij : i = j
  · subst hij
    rfl
  · exact absurd h (key_ne_of_ne hsorted hi hj hij)

/-- Changing the entry at `i` of a list strictly sorted by the key is changing the one entry with
its key. -/
theorem set_eq_map_of_sorted (hsorted : xs.Pairwise fun a b ↦ key a < key b) {i : ℕ} {x : α}
    (hx : xs[i]? = some x) (f : α → α) :
    xs.set i (f x) = xs.map fun y ↦ if key y = key x then f y else y := by
  obtain ⟨hi, rfl⟩ := List.getElem?_eq_some_iff.mp hx
  refine List.ext_getElem (by simp) fun j hj _ ↦ ?_
  rw [List.getElem_set, List.getElem_map]
  by_cases hij : i = j
  · subst hij
    rw [if_pos rfl, if_pos rfl]
  · have hj' : j < xs.length := by simpa using hj
    rw [if_neg hij, if_neg (key_ne_of_ne hsorted hj' hi (Ne.symm hij))]

end BinarySearch
