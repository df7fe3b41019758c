import Mathlib.Data.List.Nodup

/-!
# A ring buffer of keys over a map of their entries

A store that keeps only the last `capacity` things it imported can lay them out as a ring buffer
of keys (`slots`, written at `pointer`, which then advances modulo the capacity) and a map from
each key to its entry.  `RingMap.push` writes one key: it reads the key to prune from the slot
under the pointer, writes the new key there and its entry into the map, advances the pointer, and
only then removes the pruned key's entry — so a pruned key equal to the new one takes the new
entry with it.

`RingMap.Holds capacity b items` says what `b` holds when `items` (oldest first) were pushed into
the empty buffer, none of their keys twice: the pointer is `items.length % capacity`; slot `i`
holds the key of the one item among the last `capacity` whose position is `i` modulo the
capacity; and the map holds exactly the entries of the last `capacity` items.  `Holds.push` is the
step, and the consequences are read off by `Holds.entries_isSome_iff` (the keys of the map are the
keys in the slots), `Holds.mem_slots_iff` (those are the keys of the last `capacity` items) and
`Holds.entries_last` (the last item is there).
-/

set_option autoImplicit false

universe u v

/-- A ring buffer of keys over a map of their entries. -/
structure RingMap (κ : Type u) (ν : Type v) where
  /-- The key written at each position. -/
  slots : ℕ → Option κ
  /-- The next position written. -/
  pointer : ℕ
  /-- The entry of each key. -/
  entries : κ → Option ν

namespace RingMap

variable {κ : Type u} {ν : Type v}

/-- The buffer nothing was pushed into. -/
def empty : RingMap κ ν := ⟨fun _ ↦ none, 0, fun _ ↦ none⟩

/-- Push key `k` with entry `v` into a buffer of `capacity` slots. -/
def push [DecidableEq κ] (capacity : ℕ) (b : RingMap κ ν) (k : κ) (v : ν) : RingMap κ ν :=
  let pruning := b.slots b.pointer
  let entries := Function.update b.entries k (some v)
  { slots := Function.update b.slots b.pointer (some k)
    pointer := (b.pointer + 1) % capacity
    entries :=
      match pruning with
      | some old => Function.update entries old none
      | none => entries }

@[simp]
theorem push_slots [DecidableEq κ] (capacity : ℕ) (b : RingMap κ ν) (k : κ) (v : ν) :
    (b.push capacity k v).slots = Function.update b.slots b.pointer (some k) := rfl

@[simp]
theorem push_pointer [DecidableEq κ] (capacity : ℕ) (b : RingMap κ ν) (k : κ) (v : ν) :
    (b.push capacity k v).pointer = (b.pointer + 1) % capacity := rfl

theorem push_entries_of_none [DecidableEq κ] {capacity : ℕ} {b : RingMap κ ν} {k : κ} {v : ν}
    (hslot : b.slots b.pointer = none) :
    (b.push capacity k v).entries = Function.update b.entries k (some v) := by
  simp only [push, hslot]

theorem push_entries_of_some [DecidableEq κ] {capacity : ℕ} {b : RingMap κ ν} {k old : κ}
    {v : ν} (hslot : b.slots b.pointer = some old) :
    (b.push capacity k v).entries =
      Function.update (Function.update b.entries k (some v)) old none := by
  simp only [push, hslot]

/-! ## What every push keeps -/

/-- What a buffer of `capacity` slots keeps under any pushes, repeated keys included: the pointer
is a position of the ring, no slot beyond it is written, and every key with an entry is in a
slot. -/
structure Tidy (capacity : ℕ) (b : RingMap κ ν) : Prop where
  pointer_lt : b.pointer < capacity
  slots_eq_none : ∀ i, capacity ≤ i → b.slots i = none
  mem_slots_of_entries : ∀ k, (b.entries k).isSome → ∃ i, b.slots i = some k

theorem tidy_empty {capacity : ℕ} (hcap : 0 < capacity) : Tidy capacity (empty : RingMap κ ν) where
  pointer_lt := hcap
  slots_eq_none _ _ := rfl
  mem_slots_of_entries _ h := absurd h (by simp [empty])

/-- **Any push keeps the buffer tidy**: the pruned key loses its entry, and every other key with
an entry keeps its slot or is the key just written. -/
theorem Tidy.push [DecidableEq κ] {capacity : ℕ} {b : RingMap κ ν} (h : Tidy capacity b)
    (hcap : 0 < capacity) (k : κ) (v : ν) : Tidy capacity (b.push capacity k v) where
  pointer_lt := by
    rw [push_pointer]
    exact Nat.mod_lt _ hcap
  slots_eq_none i hi := by
    rw [push_slots, Function.update_of_ne (by have := h.pointer_lt; omega)]
    exact h.slots_eq_none i hi
  mem_slots_of_entries k' hk' := by
    by_cases hk : k' = k
    · exact ⟨b.pointer, by rw [hk, push_slots, Function.update_self]⟩
    have hentry : (b.entries k').isSome ∧ b.slots b.pointer ≠ some k' := by
      cases hslot : b.slots b.pointer with
      | none =>
        rw [push_entries_of_none hslot, Function.update_of_ne hk] at hk'
        exact ⟨hk', by simp⟩
      | some old =>
        rw [push_entries_of_some hslot] at hk'
        have hko : k' ≠ old := by
          rintro rfl
          simp at hk'
        rw [Function.update_of_ne hko, Function.update_of_ne hk] at hk'
        exact ⟨hk', fun heq ↦ hko (Option.some.inj heq).symm⟩
    obtain ⟨i, hi⟩ := h.mem_slots_of_entries k' hentry.1
    have hne : i ≠ b.pointer := by
      rintro rfl
      exact hentry.2 hi
    exact ⟨i, by rw [push_slots, Function.update_of_ne hne]; exact hi⟩

/-! ## Positions in the window of the last `capacity` items -/

/-- Two positions of the last `capacity` of `n` items with the same number modulo the capacity
are the same. -/
theorem eq_of_mod_eq {capacity i j : ℕ} (hmod : i % capacity = j % capacity) (hij : i ≤ j)
    (hj : j < i + capacity) : i = j := by
  have hzero : (j - i) % capacity = 0 := Nat.sub_mod_eq_zero_of_mod_eq hmod.symm
  have hsmall : (j - i) % capacity = j - i := Nat.mod_eq_of_lt (by omega)
  omega

/-- No key is at two positions of a list whose keys have no repeats. -/
theorem eq_of_getElem?_eq {items : List (κ × ν)} (hnodup : (items.map Prod.fst).Nodup) {i j : ℕ}
    {k : κ} {v w : ν} (hi : items[i]? = some (k, v)) (hj : items[j]? = some (k, w)) : i = j := by
  have hkey : ∀ {m : ℕ} {x : ν}, items[m]? = some (k, x) → (items.map Prod.fst)[m]? = some k := by
    intro m x hm
    rw [List.getElem?_map, hm]
    rfl
  have hlen : ∀ {m : ℕ} {x : ν}, items[m]? = some (k, x) → m < (items.map Prod.fst).length := by
    intro m x hm
    rw [List.length_map]
    exact (List.getElem?_eq_some_iff.mp hm).1
  rcases Nat.lt_trichotomy i j with hlt | heq | hgt
  · exact absurd ((hkey hi).trans (hkey hj).symm)
      (List.nodup_iff_getElem?_ne_getElem?.mp hnodup i j hlt (hlen hj))
  · exact heq
  · exact absurd ((hkey hj).trans (hkey hi).symm)
      (List.nodup_iff_getElem?_ne_getElem?.mp hnodup j i hgt (hlen hi))

theorem getElem?_concat_of_lt {items : List (κ × ν)} {x : κ × ν} {j : ℕ}
    (hj : j < items.length) : (items ++ [x])[j]? = items[j]? :=
  List.getElem?_append_left hj

/-- The positions of `items ++ [x]`: those of `items`, and the last one, which holds `x`. -/
theorem getElem?_concat_eq_some {items : List (κ × ν)} {x y : κ × ν} {j : ℕ} :
    (items ++ [x])[j]? = some y ↔ items[j]? = some y ∨ (j = items.length ∧ x = y) := by
  rcases Nat.lt_trichotomy j items.length with hlt | rfl | hgt
  · rw [getElem?_concat_of_lt hlt]
    constructor
    · exact Or.inl
    · rintro (h | ⟨rfl, -⟩)
      · exact h
      · exact absurd hlt (Nat.lt_irrefl _)
  · rw [List.getElem?_concat_length, List.getElem?_eq_none (Nat.le_refl _)]
    simp
  · rw [List.getElem?_eq_none (by simp; omega), List.getElem?_eq_none (by omega)]
    simp only [reduceCtorEq, false_iff, false_or, not_and]
    intro h
    omega

/-! ## The invariant -/

/-- What `b` holds when `items` were pushed into the empty buffer of `capacity` slots. -/
structure Holds (capacity : ℕ) (b : RingMap κ ν) (items : List (κ × ν)) : Prop where
  /-- No key was pushed twice. -/
  nodup : (items.map Prod.fst).Nodup
  /-- The pointer has gone round once per `capacity` pushes. -/
  pointer_eq : b.pointer = items.length % capacity
  /-- Slot `i` holds the key of the item among the last `capacity` at position `i` modulo the
  capacity. -/
  slots_eq_some : ∀ i k, b.slots i = some k ↔
    ∃ j, items.length ≤ j + capacity ∧ j % capacity = i ∧ ∃ v, items[j]? = some (k, v)
  /-- The map holds the entries of the last `capacity` items. -/
  entries_eq_some : ∀ k v, b.entries k = some v ↔
    ∃ j, items.length ≤ j + capacity ∧ items[j]? = some (k, v)

theorem holds_empty (capacity : ℕ) : Holds capacity (empty : RingMap κ ν) [] where
  nodup := List.nodup_nil
  pointer_eq := (Nat.zero_mod capacity).symm
  slots_eq_some := by simp [empty]
  entries_eq_some := by simp [empty]

variable {capacity : ℕ} {b : RingMap κ ν} {items : List (κ × ν)}

/-- The slot under the pointer holds the key of the item `capacity` positions back, if there is
one. -/
theorem Holds.slots_pointer (h : Holds capacity b items) {old : κ}
    (hold : b.slots b.pointer = some old) :
    ∃ v, items.length = (items.length - capacity) + capacity ∧
      items[items.length - capacity]? = some (old, v) := by
  rw [h.pointer_eq, h.slots_eq_some] at hold
  obtain ⟨j, hwindow, hmod, v, hj⟩ := hold
  have hlt : j < items.length := (List.getElem?_eq_some_iff.mp hj).1
  have hsame : items.length = j + capacity :=
    eq_of_mod_eq (by rw [Nat.add_mod_right]; exact hmod.symm) hwindow (by omega)
  refine ⟨v, by omega, ?_⟩
  rw [show items.length - capacity = j by omega]
  exact hj

/-- With the slot under the pointer empty, fewer than `capacity` items were pushed. -/
theorem Holds.length_lt_of_slots_pointer (h : Holds capacity b items) (hcap : 0 < capacity)
    (hnone : b.slots b.pointer = none) : items.length < capacity := by
  by_contra hlt
  have hle : capacity ≤ items.length := Nat.le_of_not_lt hlt
  have hidx : items.length - capacity < items.length := by omega
  obtain ⟨k, v, hj⟩ : ∃ k v, items[items.length - capacity]? = some (k, v) :=
    ⟨_, _, List.getElem?_eq_getElem hidx⟩
  have hslot : b.slots b.pointer = some k := by
    rw [h.pointer_eq, h.slots_eq_some]
    refine ⟨items.length - capacity, by omega, ?_, v, hj⟩
    rw [← Nat.sub_add_cancel hle, Nat.add_mod_right, Nat.sub_add_cancel hle]
  rw [hnone] at hslot
  cases hslot

/-- The last `capacity` of `items ++ [(k, v)]`: the new item, and those of the last `capacity` of
`items` that are not the oldest of them. -/
theorem window_concat (hcap : 0 < capacity) {k k' : κ} {v v' : ν} :
    (∃ j, items.length + 1 ≤ j + capacity ∧ (items ++ [(k, v)])[j]? = some (k', v')) ↔
      (k', v') = (k, v) ∨ ∃ j, items.length + 1 ≤ j + capacity ∧ items[j]? = some (k', v') := by
  constructor
  · rintro ⟨j, hwindow, hj⟩
    rcases getElem?_concat_eq_some.mp hj with hj | ⟨-, hkv⟩
    · exact .inr ⟨j, hwindow, hj⟩
    · exact .inl hkv.symm
  · rintro (hkv | ⟨j, hwindow, hj⟩)
    · exact ⟨items.length, by omega, by rw [List.getElem?_concat_length, hkv]⟩
    · have hlt : j < items.length := (List.getElem?_eq_some_iff.mp hj).1
      exact ⟨j, hwindow, by rw [getElem?_concat_of_lt hlt]; exact hj⟩

/-- A key not among those of `items` is at no position of it. -/
theorem getElem?_ne_of_not_mem {k : κ} (hfresh : k ∉ items.map Prod.fst) (j : ℕ) (w : ν) :
    items[j]? ≠ some (k, w) := fun hj ↦
  hfresh (List.mem_map.mpr ⟨(k, w), List.mem_of_getElem? hj, rfl⟩)

/-- The map after a push of a fresh key. -/
theorem Holds.push_entries [DecidableEq κ] (h : Holds capacity b items) (hcap : 0 < capacity)
    {k : κ} {v : ν} (hfresh : k ∉ items.map Prod.fst) (k' : κ) (v' : ν) :
    (b.push capacity k v).entries k' = some v' ↔
      ∃ j, (items ++ [(k, v)]).length ≤ j + capacity ∧ (items ++ [(k, v)])[j]? = some (k', v') := by
  rw [List.length_append, List.length_singleton, window_concat hcap]
  cases hslot : b.slots b.pointer with
  | none =>
    have hlt := h.length_lt_of_slots_pointer hcap hslot
    rw [push_entries_of_none hslot]
    by_cases hk : k' = k
    · subst hk
      rw [Function.update_self]
      simp only [Option.some.injEq, Prod.mk.injEq, true_and]
      exact ⟨fun hv ↦ .inl hv.symm, fun hor ↦ hor.elim Eq.symm
        fun ⟨j, _, hj⟩ ↦ absurd hj (getElem?_ne_of_not_mem hfresh j v')⟩
    · rw [Function.update_of_ne hk, h.entries_eq_some]
      simp only [Prod.mk.injEq, hk, false_and, false_or]
      exact ⟨fun ⟨j, _, hj⟩ ↦ ⟨j, by have := (List.getElem?_eq_some_iff.mp hj).1; omega, hj⟩,
        fun ⟨j, hwindow, hj⟩ ↦ ⟨j, by omega, hj⟩⟩
  | some old =>
    obtain ⟨v₀, hlen, hold⟩ := h.slots_pointer hslot
    have hne : old ≠ k := fun hk ↦ getElem?_ne_of_not_mem hfresh _ v₀ (hk ▸ hold)
    rw [push_entries_of_some hslot]
    by_cases hko : k' = old
    · subst hko
      rw [Function.update_self]
      simp only [reduceCtorEq, false_iff, not_or, Prod.mk.injEq, hne, false_and,
        not_false_eq_true, true_and, not_exists, not_and]
      intro j hwindow hj
      have := eq_of_getElem?_eq h.nodup hj hold
      omega
    · rw [Function.update_of_ne hko]
      by_cases hk : k' = k
      · subst hk
        rw [Function.update_self]
        simp only [Option.some.injEq, Prod.mk.injEq, true_and]
        exact ⟨fun hv ↦ .inl hv.symm, fun hor ↦ hor.elim Eq.symm
          fun ⟨j, _, hj⟩ ↦ absurd hj (getElem?_ne_of_not_mem hfresh j v')⟩
      · rw [Function.update_of_ne hk, h.entries_eq_some]
        simp only [Prod.mk.injEq, hk, false_and, false_or]
        constructor
        · rintro ⟨j, hwindow, hj⟩
          refine ⟨j, ?_, hj⟩
          by_contra hout
          have hj' : items[items.length - capacity]? = some (k', v') := by
            rw [show items.length - capacity = j by omega]
            exact hj
          rw [hold] at hj'
          exact hko (Prod.mk.inj (Option.some.inj hj')).1.symm
        · rintro ⟨j, hwindow, hj⟩
          exact ⟨j, by omega, hj⟩

/-- **One push keeps the invariant**, for a key not pushed before. -/
theorem Holds.push [DecidableEq κ] (h : Holds capacity b items) (hcap : 0 < capacity)
    {k : κ} {v : ν} (hfresh : k ∉ items.map Prod.fst) :
    Holds capacity (b.push capacity k v) (items ++ [(k, v)]) where
  nodup := by
    rw [List.map_append, List.nodup_append]
    refine ⟨h.nodup, List.nodup_singleton k, fun a ha b hb hab ↦ ?_⟩
    rw [List.map_cons, List.map_nil, List.mem_singleton] at hb
    rw [hab, hb] at ha
    exact hfresh ha
  pointer_eq := by
    simp only [RingMap.push, h.pointer_eq, List.length_append, List.length_singleton]
    rw [Nat.mod_add_mod]
  slots_eq_some := by
    intro i k'
    simp only [RingMap.push, List.length_append, List.length_singleton]
    by_cases hi : i = b.pointer
    · subst hi
      rw [Function.update_self, h.pointer_eq]
      constructor
      · rintro ⟨⟩
        exact ⟨items.length, by omega, rfl, v, List.getElem?_concat_length⟩
      · rintro ⟨j, hwindow, hmod, w, hj⟩
        rcases getElem?_concat_eq_some.mp hj with hj | ⟨rfl, hkv⟩
        · have hlt : j < items.length := (List.getElem?_eq_some_iff.mp hj).1
          have := eq_of_mod_eq hmod (Nat.le_of_lt hlt) (by omega)
          omega
        · rw [(Prod.mk.inj hkv).1]
    · rw [Function.update_of_ne hi, h.slots_eq_some]
      constructor
      · rintro ⟨j, hwindow, hmod, w, hj⟩
        have hlt : j < items.length := (List.getElem?_eq_some_iff.mp hj).1
        refine ⟨j, ?_, hmod, w, by rw [getElem?_concat_of_lt hlt]; exact hj⟩
        by_contra hout
        have hmod' : j % capacity = items.length % capacity := by
          rw [show items.length = j + capacity by omega, Nat.add_mod_right]
        exact hi (by rw [← hmod, hmod', h.pointer_eq])
      · rintro ⟨j, hwindow, hmod, w, hj⟩
        rcases getElem?_concat_eq_some.mp hj with hj | ⟨rfl, -⟩
        · exact ⟨j, by omega, hmod, w, hj⟩
        · exact absurd (by rw [← hmod, h.pointer_eq]) hi
  entries_eq_some := h.push_entries hcap hfresh

/-! ## What the invariant says -/

/-- The keys with an entry are the keys in the slots. -/
theorem Holds.entries_isSome_iff (h : Holds capacity b items) (k : κ) :
    (b.entries k).isSome ↔ ∃ i, b.slots i = some k := by
  simp only [Option.isSome_iff_exists, h.entries_eq_some, h.slots_eq_some]
  constructor
  · rintro ⟨v, j, hwindow, hj⟩
    exact ⟨j % capacity, j, hwindow, rfl, v, hj⟩
  · rintro ⟨-, j, hwindow, -, v, hj⟩
    exact ⟨v, j, hwindow, hj⟩

/-- The keys in the slots are those of the last `capacity` items. -/
theorem Holds.mem_slots_iff (h : Holds capacity b items) (k : κ) :
    (∃ i, b.slots i = some k) ↔ k ∈ (items.drop (items.length - capacity)).map Prod.fst := by
  simp only [h.slots_eq_some, List.mem_map]
  constructor
  · rintro ⟨-, j, hwindow, -, v, hj⟩
    have hlt : j < items.length := (List.getElem?_eq_some_iff.mp hj).1
    refine ⟨(k, v), List.mem_iff_getElem?.mpr ⟨j - (items.length - capacity), ?_⟩, rfl⟩
    rw [List.getElem?_drop, show items.length - capacity + (j - (items.length - capacity)) = j by
      omega]
    exact hj
  · rintro ⟨⟨k', v⟩, hmem, rfl⟩
    obtain ⟨m, hm⟩ := List.mem_iff_getElem?.mp hmem
    rw [List.getElem?_drop] at hm
    have hlt : items.length - capacity + m < items.length := (List.getElem?_eq_some_iff.mp hm).1
    exact ⟨_, items.length - capacity + m, by omega, rfl, v, hm⟩

/-- The last item pushed has its entry. -/
theorem Holds.entries_last (h : Holds capacity b items) (hcap : 0 < capacity) {k : κ} {v : ν}
    (hlast : items.getLast? = some (k, v)) : b.entries k = some v := by
  rw [List.getLast?_eq_getElem?] at hlast
  rw [h.entries_eq_some]
  exact ⟨items.length - 1, by omega, hlast⟩

/-- Only the first `capacity` slots are ever written. -/
theorem Holds.slots_eq_none (h : Holds capacity b items) (hcap : 0 < capacity) {i : ℕ}
    (hi : capacity ≤ i) : b.slots i = none := by
  cases hslot : b.slots i with
  | none => rfl
  | some k =>
    obtain ⟨j, -, hmod, -⟩ := (h.slots_eq_some i k).mp hslot
    have := Nat.mod_lt j hcap
    omega

end RingMap
