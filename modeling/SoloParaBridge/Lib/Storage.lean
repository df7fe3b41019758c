import Mathlib.Logic.Relation
import Mathlib.Data.List.Basic

/-!
# Storage primitives of a runtime

Three notions that every pallet of this development is built from, stated once and for any
types.

* `BoundedVec α n` is a list that can never hold more than `n` entries.  `BoundedVec.tryPush`
  is the only way to grow one, and it refuses at the bound, so "at most `n` entries" is a fact
  of the type and not an invariant to be proved again for every map that stores one.
* `Exec ε σ` is what running the body of a dispatchable leaves behind: the storage it has
  written so far, and whether it returned `Ok` or `Err e`.  A body may write and then fail, and
  what becomes of those writes is not the body's business: `Exec.transactional` is the storage
  layer `#[pallet::call]` wraps the body of every dispatchable in — so also when a hook calls it
  directly — which keeps the writes of an `Ok` and discards those of an `Err`.  `Exec.state` is
  the storage as the body left it, whatever its result.
* Reachability is `Relation.ReflTransGen` of a step relation; `invariant_of_reflTransGen` is
  the rule every invariant of the development is proved by: true initially, kept by a step,
  hence true of every reachable state.
-/

set_option autoImplicit false

universe u v

/-! ## Bounded vectors -/

/-- A list of at most `n` entries. -/
structure BoundedVec (α : Type u) (n : ℕ) where
  /-- The entries, in order. -/
  toList : List α
  /-- There are at most `n` of them. -/
  length_le : toList.length ≤ n
  deriving DecidableEq

namespace BoundedVec

variable {α : Type u} {n : ℕ}

/-- The empty vector, the value of a `ValueQuery` map at a key never written. -/
def empty : BoundedVec α n := ⟨[], Nat.zero_le n⟩

instance : Inhabited (BoundedVec α n) := ⟨empty⟩

@[simp] theorem empty_toList : (empty : BoundedVec α n).toList = [] := rfl

theorem length_append_singleton_le {l : List α} (a : α) (h : l.length < n) :
    (l ++ [a]).length ≤ n := by
  rw [List.length_append, List.length_singleton]
  omega

/-- `try_push`: append at the end, or refuse when the vector is full. -/
def tryPush (v : BoundedVec α n) (a : α) : Option (BoundedVec α n) :=
  if h : v.toList.length < n then some ⟨v.toList ++ [a], length_append_singleton_le a h⟩
  else none

theorem tryPush_eq_some {v w : BoundedVec α n} {a : α} (h : v.tryPush a = some w) :
    v.toList.length < n ∧ w.toList = v.toList ++ [a] := by
  rw [tryPush] at h
  split at h
  · rename_i hlt
    rw [Option.some_inj] at h
    exact ⟨hlt, by rw [← h]⟩
  · exact absurd h (by simp)

theorem tryPush_isSome {v : BoundedVec α n} (h : v.toList.length < n) (a : α) :
    ∃ w, v.tryPush a = some w := by
  rw [tryPush, dif_pos h]
  exact ⟨_, rfl⟩

/-- `BoundedVec::try_from`: the whole list, or a refusal when it is too long. -/
def tryFrom (l : List α) : Option (BoundedVec α n) :=
  if h : l.length ≤ n then some ⟨l, h⟩ else none

theorem tryFrom_eq_some {l : List α} {v : BoundedVec α n} (h : tryFrom l = some v) :
    v.toList = l := by
  rw [tryFrom] at h
  split at h
  · rw [← Option.some.inj h]
  · cases h

/-- `Vec::remove`: drop the entry at position `i`. -/
def removeAt (v : BoundedVec α n) (i : ℕ) : BoundedVec α n :=
  ⟨v.toList.eraseIdx i, Nat.le_trans (List.length_eraseIdx_le v.toList i) v.length_le⟩

@[simp] theorem removeAt_toList (v : BoundedVec α n) (i : ℕ) :
    (v.removeAt i).toList = v.toList.eraseIdx i := rfl

/-- Overwrite the entry at position `i`, as a mutable iteration does. -/
def set (v : BoundedVec α n) (i : ℕ) (a : α) : BoundedVec α n :=
  ⟨v.toList.set i a, by rw [List.length_set]; exact v.length_le⟩

@[simp] theorem set_toList (v : BoundedVec α n) (i : ℕ) (a : α) :
    (v.set i a).toList = v.toList.set i a := rfl

end BoundedVec

/-! ## Iterators -/

/-- `Iterator::find` on an iterator that is used again afterwards: the first element that
satisfies `p`, and what the iterator still holds after it. -/
def findAndRest {α : Type u} (p : α → Bool) : List α → Option (α × List α)
  | [] => none
  | a :: rest => if p a then some (a, rest) else findAndRest p rest

theorem findAndRest_eq_some {α : Type u} {p : α → Bool} {l rest : List α} {a : α}
    (h : findAndRest p l = some (a, rest)) :
    ∃ pre, l = pre ++ a :: rest ∧ p a = true ∧ ∀ x ∈ pre, p x = false := by
  induction l with
  | nil => exact absurd h (by simp [findAndRest])
  | cons b l ih =>
    rw [findAndRest] at h
    split at h
    · rename_i hb
      injection h with h
      obtain ⟨rfl, rfl⟩ := Prod.mk.inj h
      exact ⟨[], rfl, hb, by simp⟩
    · rename_i hb
      obtain ⟨pre, rfl, ha, hpre⟩ := ih h
      refine ⟨b :: pre, rfl, ha, ?_⟩
      intro x hx
      rcases List.mem_cons.mp hx with rfl | hx
      · simpa using hb
      · exact hpre x hx

/-- A lookup that finds every element of a list collects them all. -/
theorem mapM_eq_some_map {α : Type u} {β : Type v} {f : α → Option β} {g : α → β} :
    ∀ {l : List α}, (∀ a ∈ l, f a = some (g a)) → l.mapM f = some (l.map g)
  | [], _ => rfl
  | a :: l, h => by
    rw [List.mapM_cons, h a List.mem_cons_self,
      mapM_eq_some_map fun b hb ↦ h b (List.mem_cons_of_mem a hb)]
    rfl

/-- A run that may not end, whose successful result is projected: a projected success comes
from a success. -/
theorem exists_of_map_exceptMap_eq_ok {ε : Type u} {α β : Type v} {f : α → β}
    {value : Option (Except ε α)} {y : β} (h : value.map (Except.map f) = some (.ok y)) :
    ∃ x, value = some (.ok x) ∧ f x = y := by
  cases value with
  | none => cases h
  | some result =>
    cases result with
    | error e => cases h
    | ok x => exact ⟨x, rfl, Except.ok.inj (Option.some.inj h)⟩

/-- A loop that rewrites the entry of each key of a list with the same function `g`, over a list
that names no key twice: a key of the list is rewritten once, every other key is left alone. -/
theorem foldl_update_apply {α : Type u} {β : Type v} [DecidableEq α] (g : β → β) :
    ∀ {l : List α} (_ : l.Nodup) (f : α → β) (x : α),
      l.foldl (fun f a ↦ Function.update f a (g (f a))) f x = if x ∈ l then g (f x) else f x
  | [], _, f, x => by simp
  | a :: l, hl, f, x => by
    rw [List.nodup_cons] at hl
    rw [List.foldl_cons, foldl_update_apply g hl.2]
    by_cases hxa : x = a
    · subst hxa
      simp [hl.1]
    · simp [hxa]

/-! ## Running a body, with and without a storage layer -/

/-- The storage a body leaves behind, and its result. -/
inductive Exec (ε : Type u) (σ : Type v) where
  /-- The body returned `Ok` after writing `s`. -/
  | ok (s : σ)
  /-- The body returned `Err e` after writing `s`. -/
  | err (e : ε) (s : σ)

namespace Exec

variable {ε : Type u} {σ : Type v}

/-- The storage as the body left it, whatever it returned. -/
def state : Exec ε σ → σ
  | ok s => s
  | err _ s => s

/-- Whether the body returned `Ok`. -/
def isOk : Exec ε σ → Bool
  | ok _ => true
  | err _ _ => false

/-- The storage layer around a dispatchable: the writes of an `Ok` are kept, those of an `Err`
are discarded and the storage is what it was before the call, `s₀`. -/
def transactional (s₀ : σ) : Exec ε σ → σ
  | ok s => s
  | err _ _ => s₀

@[simp] theorem state_ok (s : σ) : (ok s : Exec ε σ).state = s := rfl
@[simp] theorem state_err (e : ε) (s : σ) : (err e s : Exec ε σ).state = s := rfl
@[simp] theorem isOk_ok (s : σ) : (ok s : Exec ε σ).isOk = true := rfl
@[simp] theorem isOk_err (e : ε) (s : σ) : (err e s : Exec ε σ).isOk = false := rfl
@[simp] theorem transactional_ok (s₀ s : σ) : transactional s₀ (ok s : Exec ε σ) = s := rfl
@[simp] theorem transactional_err (s₀ s : σ) (e : ε) : transactional s₀ (err e s) = s₀ := rfl

/-- Under the storage layer a call either keeps its `Ok` writes or leaves nothing behind. -/
theorem transactional_eq (s₀ : σ) (r : Exec ε σ) :
    transactional s₀ r = if r.isOk then r.state else s₀ := by
  cases r <;> rfl

/-- A check that fails with an error leaves only what follows it to return `Ok`. -/
theorem ite_err_eq_ok {c : Prop} [Decidable c] {e : ε} {s t : σ} {r : Exec ε σ}
    (h : (if c then err e s else r) = ok t) : ¬ c ∧ r = ok t := by
  by_cases hc : c
  · rw [if_pos hc] at h
    cases h
  · rw [if_neg hc] at h
    exact ⟨hc, h⟩

/-- A property of the storage that every `Ok` of a body establishes holds after the call under
the storage layer, provided the storage had it before. -/
theorem transactional_of {P : σ → Prop} {s₀ : σ} {r : Exec ε σ} (h₀ : P s₀)
    (hok : ∀ s, r = ok s → P s) : P (transactional s₀ r) := by
  cases r with
  | ok s => exact hok s rfl
  | err _ _ => exact h₀

end Exec

/-! ## Reachable states -/

section Reachable

variable {σ : Type u}

/-- **The invariant rule.**  A property that holds of the initial state and that every step
keeps holds of every state the steps reach. -/
theorem invariant_of_reflTransGen {r : σ → σ → Prop} {P : σ → Prop} {a b : σ}
    (h : Relation.ReflTransGen r a b) (ha : P a) (hr : ∀ x y, P x → r x y → P y) : P b := by
  induction h with
  | refl => exact ha
  | tail _ hst ih => exact hr _ _ ih hst

end Reachable
