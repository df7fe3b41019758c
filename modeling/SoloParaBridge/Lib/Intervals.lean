import Mathlib.Data.List.Chain
import Mathlib.Algebra.BigOperators.Intervals
import Mathlib.Order.Interval.Finset.Nat
import Mathlib.Algebra.Group.Action.Defs
import Mathlib.Algebra.Order.Interval.Finset.SuccPred

/-!
# Runs of consecutive intervals

A queue of records, each standing for the closed interval `[lo a, hi a]` of natural numbers, in
which every interval is non-empty and starts right after the one before it: together they cover
one interval `[n, m)` exactly once, in order.  `Consecutive lo hi n l` says so, with `n` the
first number covered, and `nextAfter hi n l` is `m`, the first number after them.

The operations a queue like this sees are pushing a run at the back, growing the last run by one,
and dropping the runs that lie wholly below some bound from the front.  `consecutive_append` is
the rule for the first two, and `consecutive_dropWhile` says what is left after the third;
`mem_cover_iff` says which numbers the runs cover.
-/

set_option autoImplicit false

universe u

namespace Intervals

variable {α : Type u} (lo hi : α → ℕ)

/-- The intervals `[lo a, hi a]` of the list are non-empty and consecutive, the first starting at
`n`. -/
def Consecutive : ℕ → List α → Prop
  | _, [] => True
  | n, a :: l => lo a = n ∧ lo a ≤ hi a ∧ Consecutive (hi a + 1) l

/-- The first number after the runs of the list, `n` for no runs. -/
def nextAfter : ℕ → List α → ℕ
  | n, [] => n
  | _, a :: l => nextAfter (hi a + 1) l

variable {lo hi}

@[simp] theorem consecutive_nil (n : ℕ) : Consecutive lo hi n [] := trivial

@[simp] theorem consecutive_cons (n : ℕ) (a : α) (l : List α) :
    Consecutive lo hi n (a :: l) ↔ lo a = n ∧ lo a ≤ hi a ∧ Consecutive lo hi (hi a + 1) l :=
  Iff.rfl

@[simp] theorem nextAfter_nil (n : ℕ) : nextAfter hi n [] = n := rfl

@[simp] theorem nextAfter_cons (n : ℕ) (a : α) (l : List α) :
    nextAfter hi n (a :: l) = nextAfter hi (hi a + 1) l := rfl

/-- The first number after the runs is one past the end of the last run. -/
theorem nextAfter_eq (n : ℕ) (l : List α) :
    nextAfter hi n l = (l.getLast?.map fun a ↦ hi a + 1).getD n := by
  induction l generalizing n with
  | nil => rfl
  | cons a l ih =>
    rw [nextAfter_cons, ih]
    cases l with
    | nil => rfl
    | cons b l => rw [List.getLast?_cons_cons]; rfl

theorem nextAfter_append (n : ℕ) (l₁ l₂ : List α) :
    nextAfter hi n (l₁ ++ l₂) = nextAfter hi (nextAfter hi n l₁) l₂ := by
  induction l₁ generalizing n with
  | nil => rfl
  | cons a l ih => exact ih _

/-- **Runs split at any point.**  A list of runs is consecutive from `n` exactly when its first
part is, and its second part is consecutive from where the first part ends. -/
theorem consecutive_append (n : ℕ) (l₁ l₂ : List α) :
    Consecutive lo hi n (l₁ ++ l₂) ↔
      Consecutive lo hi n l₁ ∧ Consecutive lo hi (nextAfter hi n l₁) l₂ := by
  induction l₁ generalizing n with
  | nil => simp
  | cons a l ih =>
    rw [List.cons_append, consecutive_cons, consecutive_cons, ih, nextAfter_cons]
    tauto

theorem consecutive_singleton (n : ℕ) (a : α) :
    Consecutive lo hi n [a] ↔ lo a = n ∧ lo a ≤ hi a := by
  simp

/-- The runs cover `n`, and go up from there. -/
theorem le_nextAfter {n : ℕ} {l : List α} (h : Consecutive lo hi n l) : n ≤ nextAfter hi n l := by
  induction l generalizing n with
  | nil => exact Nat.le_refl n
  | cons a l ih =>
    obtain ⟨hlo, hle, hl⟩ := h
    have := ih hl
    rw [nextAfter_cons]
    omega

/-- Every run is non-empty. -/
theorem Consecutive.lo_le_hi {n : ℕ} {l : List α} (h : Consecutive lo hi n l) :
    ∀ a ∈ l, lo a ≤ hi a := by
  induction l generalizing n with
  | nil => simp
  | cons b l ih =>
    obtain ⟨-, hle, hl⟩ := h
    intro a ha
    rcases List.mem_cons.mp ha with rfl | ha
    · exact hle
    · exact ih hl a ha

/-- The first run starts at `n`. -/
theorem Consecutive.lo_head {n : ℕ} {l : List α} (h : Consecutive lo hi n l) :
    ∀ a ∈ l.head?, lo a = n := by
  cases l with
  | nil => simp
  | cons b l =>
    intro a ha
    rw [List.head?_cons, Option.mem_def, Option.some_inj] at ha
    exact ha ▸ h.1

/-- Each run starts right after the one before it. -/
theorem Consecutive.isChain {n : ℕ} {l : List α} (h : Consecutive lo hi n l) :
    l.IsChain fun a b ↦ lo b = hi a + 1 := by
  induction l generalizing n with
  | nil => exact .nil
  | cons b l ih =>
    obtain ⟨-, -, hl⟩ := h
    refine (ih hl).cons ?_
    intro c hc
    exact hl.lo_head c hc

/-- Every run ends before the first number after the runs. -/
theorem Consecutive.hi_lt_nextAfter {n : ℕ} {l : List α} (h : Consecutive lo hi n l) :
    ∀ a ∈ l, hi a < nextAfter hi n l := by
  induction l generalizing n with
  | nil => simp
  | cons b l ih =>
    obtain ⟨-, -, hl⟩ := h
    intro a ha
    rw [nextAfter_cons]
    rcases List.mem_cons.mp ha with rfl | ha
    · exact Nat.lt_of_lt_of_le (Nat.lt_succ_self _) (le_nextAfter hl)
    · exact ih hl a ha

/-- Every run starts at or after `n`. -/
theorem Consecutive.le_lo {n : ℕ} {l : List α} (h : Consecutive lo hi n l) :
    ∀ a ∈ l, n ≤ lo a := by
  induction l generalizing n with
  | nil => simp
  | cons b l ih =>
    obtain ⟨hlo, hle, hl⟩ := h
    intro a ha
    rcases List.mem_cons.mp ha with rfl | ha
    · exact hlo.ge
    · have := ih hl a ha
      omega

/-- The first run reaching past `x` starts at or below `x + 1`, when the runs start there. -/
theorem Consecutive.lo_le_of_hi_le {n x : ℕ} {l : List α} (h : Consecutive lo hi n l)
    (hn : n ≤ x + 1) (i : Fin l.length) (hbefore : ∀ j : Fin l.length, j < i → hi l[j] ≤ x) :
    lo l[i] ≤ x + 1 := by
  induction l generalizing n with
  | nil => exact i.elim0
  | cons a l ih =>
    obtain ⟨hlo, -, hl⟩ := h
    rcases i with ⟨_ | k, hk⟩
    · simpa [hlo] using hn
    · have ha : hi a ≤ x := hbefore ⟨0, by simp⟩ (Fin.mk_lt_mk.mpr (Nat.succ_pos k))
      have := ih hl (by omega) ⟨k, by simpa using hk⟩ fun j hj ↦
        hbefore ⟨j + 1, by simp⟩ (Fin.mk_lt_mk.mpr (Nat.succ_lt_succ hj))
      simpa using this

/-- **Which numbers the runs cover**: those from `n` up to the first one after them. -/
theorem mem_cover_iff {n : ℕ} {l : List α} (h : Consecutive lo hi n l) (x : ℕ) :
    (∃ a ∈ l, lo a ≤ x ∧ x ≤ hi a) ↔ n ≤ x ∧ x < nextAfter hi n l := by
  induction l generalizing n with
  | nil => simp
  | cons a l ih =>
    obtain ⟨hlo, hle, hl⟩ := h
    have hnext := le_nextAfter hl
    rw [List.exists_mem_cons_iff, ih hl, nextAfter_cons]
    omega

/-- **Dropping the runs that end at or below `c`.**  From runs that start at or below `c + 1`,
either nothing is left and the runs ended at or below `c`, or the first run left reaches `c + 1`
and still starts at or below it, and the rest follows it as before. -/
theorem consecutive_dropWhile {n c : ℕ} {l : List α} (h : Consecutive lo hi n l)
    (hn : n ≤ c + 1) :
    (l.dropWhile (fun a ↦ decide (hi a ≤ c)) = [] → nextAfter hi n l ≤ c + 1) ∧
      ∀ a rest, l.dropWhile (fun a ↦ decide (hi a ≤ c)) = a :: rest →
        lo a ≤ c + 1 ∧ c < hi a ∧ Consecutive lo hi (hi a + 1) rest ∧
          nextAfter hi (hi a + 1) rest = nextAfter hi n l := by
  induction l generalizing n with
  | nil => exact ⟨fun _ ↦ hn, fun a rest hnil ↦ absurd hnil (by simp)⟩
  | cons b l ih =>
    obtain ⟨hlo, hle, hl⟩ := h
    by_cases hb : hi b ≤ c
    · have hdrop : (b :: l).dropWhile (fun a ↦ decide (hi a ≤ c)) =
          l.dropWhile (fun a ↦ decide (hi a ≤ c)) := by
        simp [hb]
      rw [hdrop, nextAfter_cons]
      exact ih hl (by omega)
    · have hdrop : (b :: l).dropWhile (fun a ↦ decide (hi a ≤ c)) = b :: l := by
        simp [hb]
      rw [hdrop]
      refine ⟨fun hnil ↦ absurd hnil (by simp), ?_⟩
      intro a rest hcons
      obtain ⟨rfl, rfl⟩ := List.cons.inj hcons
      exact ⟨by omega, by omega, hl, rfl⟩

/-! ## Weights over the runs

A weight on the numbers that is constant along each run adds up over a window run by run:
`sum_Ico_eq_sum_runs`.  This is how a sum over the runs that clips each run to a window counts
the numbers of the window. -/

/-- Each number the runs cover is covered by one run: summing over the runs the value of the
run that covers `k` gives the weight of `k`. -/
theorem sum_runs_covering {w : ℕ → ℕ} {c : α → ℕ} {n : ℕ} {l : List α}
    (h : Consecutive lo hi n l) (hc : ∀ a ∈ l, ∀ k, lo a ≤ k → k ≤ hi a → w k = c a) {k : ℕ}
    (hn : n ≤ k) (hk : k < nextAfter hi n l) :
    (l.map fun a ↦ if lo a ≤ k ∧ k ≤ hi a then c a else 0).sum = w k := by
  induction l generalizing n with
  | nil =>
    rw [nextAfter_nil] at hk
    omega
  | cons a l ih =>
    obtain ⟨hlo, hle, hl⟩ := h
    rw [nextAfter_cons] at hk
    rw [List.map_cons, List.sum_cons]
    by_cases hka : k ≤ hi a
    · have hrest : ∀ b ∈ l, ¬(lo b ≤ k ∧ k ≤ hi b) := fun b hb ⟨hb', _⟩ ↦ by
        have := hl.le_lo b hb
        omega
      have hzero : (l.map fun b ↦ if lo b ≤ k ∧ k ≤ hi b then c b else 0).sum = 0 :=
        List.sum_eq_zero fun m hm ↦ by
          obtain ⟨b, hb, rfl⟩ := List.mem_map.mp hm
          exact if_neg (hrest b hb)
      rw [if_pos ⟨by omega, hka⟩, hc a List.mem_cons_self k (by omega) hka, hzero, Nat.add_zero]
    · rw [if_neg (by omega), Nat.zero_add]
      exact ih hl (fun b hb ↦ hc b (List.mem_cons_of_mem a hb)) (by omega) hk

/-- The numbers of the window `[x, y)` in the run `[lo a, hi a]`, weighted by `c`. -/
theorem sum_Ico_run (c x y p q : ℕ) :
    ∑ k ∈ Finset.Ico x y, (if p ≤ k ∧ k ≤ q then c else 0) = c * (min (q + 1) y - max p x) := by
  have hwindow : (Finset.Ico x y).filter (fun k ↦ p ≤ k ∧ k ≤ q) =
      Finset.Ico (max p x) (min (q + 1) y) := by
    ext k
    simp only [Finset.mem_filter, Finset.mem_Ico]
    omega
  rw [← Finset.sum_filter, hwindow, Finset.sum_const, Nat.card_Ico, smul_eq_mul, Nat.mul_comm]

/-- **Sums over a window, run by run.**  A weight that is `c a` all along each run `a` adds up,
over a window `[x, y)` that the runs cover, to the sum over the runs of `c a` times the length
of the run's part of the window. -/
theorem sum_Ico_eq_sum_runs {w : ℕ → ℕ} {c : α → ℕ} {n : ℕ} {l : List α}
    (h : Consecutive lo hi n l) (hc : ∀ a ∈ l, ∀ k, lo a ≤ k → k ≤ hi a → w k = c a) {x y : ℕ}
    (hx : n ≤ x) (hy : y ≤ nextAfter hi n l) :
    ∑ k ∈ Finset.Ico x y, w k = (l.map fun a ↦ c a * (min (hi a + 1) y - max (lo a) x)).sum := by
  calc ∑ k ∈ Finset.Ico x y, w k
      = ∑ k ∈ Finset.Ico x y, (l.map fun a ↦ if lo a ≤ k ∧ k ≤ hi a then c a else 0).sum := by
        refine Finset.sum_congr rfl fun k hk ↦ ?_
        rw [Finset.mem_Ico] at hk
        exact (sum_runs_covering h hc (by omega) (by omega)).symm
    _ = (l.map fun a ↦ ∑ k ∈ Finset.Ico x y, if lo a ≤ k ∧ k ≤ hi a then c a else 0).sum := by
        have hswap := Multiset.sum_map_sum (m := (l : Multiset α)) (s := Finset.Ico x y)
          (f := fun a k ↦ if lo a ≤ k ∧ k ≤ hi a then c a else 0)
        simp only [Multiset.map_coe, Multiset.sum_coe] at hswap
        exact hswap.symm
    _ = (l.map fun a ↦ c a * (min (hi a + 1) y - max (lo a) x)).sum := by
        simp only [sum_Ico_run]

/-- The numbers of `(a, c]` with a property are those of `(a, b]` and of `(b, c]`. -/
theorem card_filter_Icc_add (p : ℕ → Prop) [DecidablePred p] {a b c : ℕ} (hab : a ≤ b)
    (hbc : b ≤ c) :
    ((Finset.Icc (a + 1) b).filter p).card + ((Finset.Icc (b + 1) c).filter p).card =
      ((Finset.Icc (a + 1) c).filter p).card := by
  simp only [Finset.card_filter, ← Finset.Ico_add_one_right_eq_Icc]
  exact Finset.sum_Ico_consecutive _ (by omega) (by omega)

/-- The numbers of `[b, e]` in the run `[p, q]`. -/
theorem card_filter_Icc_run (b e p q : ℕ) :
    ((Finset.Icc b e).filter fun n ↦ p ≤ n ∧ n ≤ q).card = min (q + 1) (e + 1) - max p b := by
  have hrun := sum_Ico_run 1 b (e + 1) p q
  rw [Nat.one_mul] at hrun
  rw [Finset.card_filter, ← Finset.Ico_add_one_right_eq_Icc, hrun]

/-- **Counting over runs that do not meet.**  When no two runs of the list share a number, the
numbers of a set in each run add up to the numbers of the set in some run. -/
theorem sum_card_filter_of_pairwise_disjoint (s : Finset ℕ) {l : List α}
    (h : l.Pairwise fun a b ↦ Disjoint (Finset.Icc (lo a) (hi a)) (Finset.Icc (lo b) (hi b))) :
    (l.map fun a ↦ (s.filter fun n ↦ lo a ≤ n ∧ n ≤ hi a).card).sum =
      (s.filter fun n ↦ ∃ a ∈ l, lo a ≤ n ∧ n ≤ hi a).card := by
  induction l with
  | nil => simp
  | cons a l ih =>
    rw [List.pairwise_cons] at h
    have hsplit : s.filter (fun n ↦ ∃ b ∈ a :: l, lo b ≤ n ∧ n ≤ hi b) =
        s.filter (fun n ↦ lo a ≤ n ∧ n ≤ hi a) ∪
          s.filter (fun n ↦ ∃ b ∈ l, lo b ≤ n ∧ n ≤ hi b) := by
      ext n
      simp only [Finset.mem_filter, Finset.mem_union, List.mem_cons, exists_eq_or_imp]
      tauto
    have hdisjoint : Disjoint (s.filter fun n ↦ lo a ≤ n ∧ n ≤ hi a)
        (s.filter fun n ↦ ∃ b ∈ l, lo b ≤ n ∧ n ≤ hi b) := by
      rw [Finset.disjoint_left]
      intro n hn hn'
      obtain ⟨-, hna⟩ := Finset.mem_filter.mp hn
      obtain ⟨-, b, hb, hnb⟩ := Finset.mem_filter.mp hn'
      exact Finset.disjoint_left.mp (h.1 b hb) (Finset.mem_Icc.mpr hna) (Finset.mem_Icc.mpr hnb)
    rw [List.map_cons, List.sum_cons, ih h.2, hsplit, Finset.card_union_of_disjoint hdisjoint]

end Intervals
