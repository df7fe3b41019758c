import Mathlib.Data.List.Range
import Mathlib.Data.List.Perm.Basic

/-!
# Checkpoints a rising value must not pass

A number that only goes up (the best finalized header of a light client, a cursor) is moved to
values proposed against what the proposer saw some time before.  Some numbers are checkpoints
(`marks`) that the value has to stop at on its way up.  A proposal made at `b` is safe when it
does not pass the first checkpoint above `b` (`StopsAt marks b x`), and it stays safe whatever
the value has become since (`StopsAt.mono`).  Moving the value only to safe proposals visits every
checkpoint on the way (`Visits.push`), so that the checkpoints among the visited values are those
of the whole range up to the value, in order (`Visits.filter_eq`, with the value
`last start visited`).
-/

set_option autoImplicit false

namespace Checkpoints

variable (marks : ℕ → Bool)

/-- `x` does not pass the first checkpoint above `b`. -/
def StopsAt (b x : ℕ) : Prop :=
  ∀ m, b < m → marks m = true → x ≤ m

/-- Every checkpoint of `(start, value]` is among `visited`. -/
def Visits (start value : ℕ) (visited : List ℕ) : Prop :=
  ∀ m, start < m → m ≤ value → marks m = true → m ∈ visited

variable {marks}

/-- A proposal safe at `b` is safe at every later value. -/
theorem StopsAt.mono {b b' x : ℕ} (h : StopsAt marks b x) (hb : b ≤ b') : StopsAt marks b' x :=
  fun m hm hmark ↦ h m (Nat.lt_of_le_of_lt hb hm) hmark

/-- Every value up to just above `b` is safe at `b`. -/
theorem stopsAt_of_le {b x : ℕ} (hx : x ≤ b + 1) : StopsAt marks b x :=
  fun _ hm _ ↦ Nat.le_trans hx hm

/-- A proposal safe at `b` that is no checkpoint may be passed by one. -/
theorem StopsAt.succ {b x : ℕ} (h : StopsAt marks b x) (hx : marks x = false) :
    StopsAt marks b (x + 1) := by
  intro m hm hmark
  rcases Nat.lt_or_ge x m with hlt | hge
  · exact hlt
  · have hxm := h m hm hmark
    obtain rfl : x = m := Nat.le_antisymm hxm hge
    rw [hx] at hmark
    cases hmark

theorem visits_nil (start : ℕ) : Visits marks start start [] :=
  fun _ hm hm' _ ↦ absurd hm' (Nat.not_le_of_lt hm)

/-- Moving the value from `b` to a proposal safe at `b` visits every checkpoint up to it. -/
theorem Visits.push {start b x : ℕ} {visited : List ℕ} (h : Visits marks start b visited)
    (hstop : StopsAt marks b x) : Visits marks start x (visited ++ [x]) := by
  intro m hm hmx hmark
  rw [List.mem_append, List.mem_singleton]
  by_cases hmb : m ≤ b
  · exact .inl (h m hm hmb hmark)
  · exact .inr (Nat.le_antisymm hmx (hstop m (by omega) hmark))

/-- The value once it moved from `start` through `visited`. -/
def last (start : ℕ) (visited : List ℕ) : ℕ :=
  (start :: visited).getLast (List.cons_ne_nil _ _)

@[simp] theorem last_append_singleton (start x : ℕ) (visited : List ℕ) :
    last start (visited ++ [x]) = x :=
  List.getLast_append_singleton (start :: visited)

/-- A rising value is at least every value it moved through. -/
theorem le_last_of_mem {start n : ℕ} {visited : List ℕ}
    (hsorted : (start :: visited).Pairwise (· < ·)) (hn : n ∈ start :: visited) :
    n ≤ last start visited :=
  (hsorted.imp Nat.le_of_lt).rel_getLast_of_rel_getLast_getLast hn (Nat.le_refl _)

/-- A move up from the value goes above every value moved through. -/
theorem last_lt_of_pairwise_append {start x : ℕ} {visited : List ℕ}
    (hsorted : (start :: visited ++ [x]).Pairwise (· < ·)) : last start visited < x :=
  (List.pairwise_append.mp hsorted).2.2 _ (List.getLast_mem _) x (List.mem_singleton_self x)

/-- **The visited values hold the checkpoints of the range**, in order: values rising from
`start` that visit every checkpoint on their way have exactly those of `(start, last]` among
them. -/
theorem Visits.filter_eq {start : ℕ} {visited : List ℕ}
    (h : Visits marks start (last start visited) visited)
    (hsorted : (start :: visited).Pairwise (· < ·)) :
    visited.filter marks =
      (List.range' (start + 1) (last start visited - start)).filter marks := by
  have hvisited : visited.Pairwise (· < ·) := (List.pairwise_cons.mp hsorted).2
  have hperm : List.Perm (visited.filter marks)
      ((List.range' (start + 1) (last start visited - start)).filter marks) := by
    rw [List.perm_ext_iff_of_nodup ((hvisited.imp Nat.ne_of_lt).filter _)
      ((List.nodup_range' 1).filter _)]
    intro m
    simp only [List.mem_filter, List.mem_range'_1]
    constructor
    · rintro ⟨hm, hmark⟩
      have hlo : start < m := List.rel_of_pairwise_cons hsorted hm
      have hhi : m ≤ last start visited := le_last_of_mem hsorted (List.mem_cons_of_mem _ hm)
      exact ⟨⟨by omega, by omega⟩, hmark⟩
    · rintro ⟨⟨hlo, hhi⟩, hmark⟩
      exact ⟨h m (by omega) (by omega) hmark, hmark⟩
  refine List.Perm.eq_of_pairwise ?_ (hvisited.filter _)
    ((List.pairwise_lt_range' 1).filter _) hperm
  intro a b _ _ hab hba
  omega

/-- The visited values count the checkpoints of the range. -/
theorem Visits.countP_eq {start : ℕ} {visited : List ℕ}
    (h : Visits marks start (last start visited) visited)
    (hsorted : (start :: visited).Pairwise (· < ·)) :
    visited.countP marks =
      (List.range' (start + 1) (last start visited - start)).countP marks := by
  rw [List.countP_eq_length_filter, List.countP_eq_length_filter, h.filter_eq hsorted]

end Checkpoints
