import Mathlib.Logic.Relation
import Mathlib.Logic.Function.Iterate
import Mathlib.Order.Basic

/-!
# Systems driven by events

A system whose every move is one of a set of events — a process taking its next step, a message
arriving, an answer of the environment — is a partial function `step : σ → ε → Option σ`:
`none` when the event cannot happen in that state.  Its step relation is "some event leads
from `s` to `t`", and a run is a list of events fed to it one after another.

The two views are connected once and for all: a run of events is a path of the relation
(`reflTransGen_of_runEvents`), so that a concrete run, evaluated by `decide` or `rfl`, shows a
state reachable, and an invariant proved over the relation holds along it.  A run too long to
evaluate, one move repeated `k` times, is a path too (`reflTransGen_iterate_of`).

A system that never stops, fed one input each round, is a sequence of states (`runInputs`); its
progress is shown one request at a time with `exists_held_of_waits`.
-/

set_option autoImplicit false

universe u v

namespace Trace

variable {σ : Type u} {ε : Type v}

/-- Some event leads from `s` to `t`. -/
def StepOf (step : σ → ε → Option σ) (s t : σ) : Prop :=
  ∃ e, step s e = some t

/-- Feed the events to the system in order; `none` as soon as one cannot happen. -/
def runEvents (step : σ → ε → Option σ) : σ → List ε → Option σ
  | s, [] => some s
  | s, e :: es => (step s e).bind fun t ↦ runEvents step t es

@[simp] theorem runEvents_nil (step : σ → ε → Option σ) (s : σ) : runEvents step s [] = some s :=
  rfl

@[simp] theorem runEvents_cons (step : σ → ε → Option σ) (s : σ) (e : ε) (es : List ε) :
    runEvents step s (e :: es) = (step s e).bind fun t ↦ runEvents step t es :=
  rfl

/-- **A run of events is a path of the step relation.** -/
theorem reflTransGen_of_runEvents {step : σ → ε → Option σ} {s t : σ} {es : List ε}
    (h : runEvents step s es = some t) : Relation.ReflTransGen (StepOf step) s t := by
  induction es generalizing s with
  | nil =>
    rw [runEvents_nil, Option.some_inj] at h
    rw [h]
  | cons e es ih =>
    rw [runEvents_cons, Option.bind_eq_some_iff] at h
    obtain ⟨u, hu, hrest⟩ := h
    exact Relation.ReflTransGen.head ⟨e, hu⟩ (ih hrest)

/-- **Repeating one move is a path.**  If a move keeps a property and is a step from every state
with it, then any number of repetitions of it from such a state is a path. -/
theorem reflTransGen_iterate_of {r : σ → σ → Prop} {f : σ → σ} {P : σ → Prop}
    (hP : ∀ s, P s → P (f s)) (hf : ∀ s, P s → r s (f s)) {s : σ} (hs : P s) :
    ∀ k, Relation.ReflTransGen r s (f^[k] s)
  | 0 => .refl
  | k + 1 => by
    rw [Function.iterate_succ_apply']
    exact (reflTransGen_iterate_of hP hf hs k).tail (hf _ (Function.Iterate.rec P hs hP k))

theorem reflTransGen_iterate {r : σ → σ → Prop} {f : σ → σ} (hf : ∀ s, r s (f s)) (s : σ) :
    ∀ k, Relation.ReflTransGen r s (f^[k] s) :=
  reflTransGen_iterate_of (P := fun _ ↦ True) (fun _ _ ↦ trivial) (fun s _ ↦ hf s) trivial

/-! ## Runs that never end

A system that reads one input each round, forever (a relay loop polling its chains), is the
sequence of its states `runInputs step init inputs`.  Progress is argued one request at a time: a
state kept for as long as its request is not served is still there when it first is
(`exists_held_of_waits`), and an observed value that never decreases stays at least what it was
(`NeverDecreases.le`). -/

/-- The states of a run: `init`, then each round's state from that round's input. -/
def runInputs (step : ε → σ → σ) (init : σ) (inputs : ℕ → ε) : ℕ → σ
  | 0 => init
  | i + 1 => step (inputs i) (runInputs step init inputs i)

@[simp] theorem runInputs_zero (step : ε → σ → σ) (init : σ) (inputs : ℕ → ε) :
    runInputs step init inputs 0 = init :=
  rfl

@[simp] theorem runInputs_succ (step : ε → σ → σ) (init : σ) (inputs : ℕ → ε) (i : ℕ) :
    runInputs step init inputs (i + 1) = step (inputs i) (runInputs step init inputs i) :=
  rfl

/-- **A state that waits is there when its condition comes.**  If from round `i` on the state `a`
stays while `served` fails, and `served` holds at some round `j ≥ i`, then at some round between
them the state is `a` and `served` holds. -/
theorem exists_held_of_waits {states : ℕ → σ} {served : ℕ → Prop} {a : σ} :
    ∀ (distance : ℕ) {i j : ℕ}, i + distance = j →
      (∀ k, i ≤ k → states k = a → ¬ served k → states (k + 1) = a) → states i = a → served j →
        ∃ k, i ≤ k ∧ k ≤ j ∧ states k = a ∧ served k
  | 0, i, _, rfl, _, hi, hj => ⟨i, Nat.le_refl i, Nat.le_refl i, hi, hj⟩
  | distance + 1, i, j, hij, hwait, hi, hj => by
    by_cases hserved : served i
    · exact ⟨i, Nat.le_refl i, by omega, hi, hserved⟩
    · obtain ⟨k, hik, hkj, hk, hservedk⟩ :=
        exists_held_of_waits distance (by omega) (fun k hk ↦ hwait k (by omega))
          (hwait i (Nat.le_refl i) hi hserved) hj
      exact ⟨k, by omega, hkj, hk, hservedk⟩

/-- An observed value that, once there, stays there and never decreases. -/
def NeverDecreases {α : Type u} [Preorder α] (observed : ℕ → Option α) : Prop :=
  ∀ i a, observed i = some a → ∃ b, observed (i + 1) = some b ∧ a ≤ b

/-- The run lemma of `NeverDecreases`: what was observed at round `i` is exceeded at every later
round. -/
theorem NeverDecreases.le {α : Type u} [Preorder α] {observed : ℕ → Option α}
    (h : NeverDecreases observed) {i j : ℕ} (hij : i ≤ j) {a : α} (hi : observed i = some a) :
    ∃ b, observed j = some b ∧ a ≤ b := by
  obtain ⟨distance, rfl⟩ := Nat.exists_eq_add_of_le hij
  clear hij
  induction distance with
  | zero => exact ⟨a, hi, le_rfl⟩
  | succ distance ih =>
    obtain ⟨b, hj, hab⟩ := ih
    obtain ⟨c, hj', hbc⟩ := h (i + distance) b hj
    exact ⟨c, hj', hab.trans hbc⟩

/-- A bound the observations have reached stays reached. -/
theorem NeverDecreases.ge {α : Type u} [Preorder α] {observed : ℕ → Option α}
    (h : NeverDecreases observed) {i j : ℕ} (hij : i ≤ j) {bound : α}
    (hi : ∃ a, observed i = some a ∧ bound ≤ a) : ∃ b, observed j = some b ∧ bound ≤ b := by
  obtain ⟨a, ha, hbound⟩ := hi
  obtain ⟨b, hb, hab⟩ := h.le hij ha
  exact ⟨b, hb, hbound.trans hab⟩

end Trace
