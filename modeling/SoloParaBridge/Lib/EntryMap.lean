import Mathlib.Data.List.Basic
import Mathlib.Algebra.BigOperators.Group.List.Basic
import Mathlib.Algebra.GroupWithZero.Nat

/-!
# Maps updated entry by entry

A loop that fills a `BTreeMap` with `*map.entry(key).or_default() += value` leaves a key in the
map exactly for the keys it touched, with the value the updates made of the default.  Kept as a
list of entries, the map is `modify key default f`, which updates the entry of `key` with `f`, or
adds `(key, f default)` at the end; `List.lookup` reads it.

What a loop of such updates leaves is read off the three rules below: the key updated holds the
update of what it held (`lookup_modify_self`), every other key holds what it held
(`lookup_modify_ne`), and the values add up to what they added up to, with the old value of the
key replaced by its update (`sum_modify`).
-/

set_option autoImplicit false

namespace EntryMap

variable {K V : Type} [DecidableEq K]

/-- `*map.entry(key).or_insert(default) = f(..)`: the entry of `key` updated by `f`, or a new
entry `f default` at the end. -/
def modify (key : K) (default : V) (f : V → V) : List (K × V) → List (K × V)
  | [] => [(key, f default)]
  | entry :: map =>
    if entry.1 = key then (key, f entry.2) :: map else entry :: modify key default f map

variable {key : K} {default : V} {f : V → V}

theorem lookup_modify_self (map : List (K × V)) :
    (modify key default f map).lookup key = some (f ((map.lookup key).getD default)) := by
  induction map with
  | nil => simp [modify]
  | cons entry map ih =>
    obtain ⟨k, v⟩ := entry
    by_cases hkey : k = key
    · subst hkey
      simp [modify]
    · have hne : (key == k) = false := by simpa using Ne.symm hkey
      simp only [modify, hkey, if_false, List.lookup_cons, hne]
      exact ih

theorem lookup_modify_ne {key' : K} (h : key' ≠ key) (map : List (K × V)) :
    (modify key default f map).lookup key' = map.lookup key' := by
  have hne : (key' == key) = false := by simpa using h
  induction map with
  | nil => simp [modify, List.lookup_cons, hne]
  | cons entry map ih =>
    obtain ⟨k, v⟩ := entry
    by_cases hkey : k = key
    · subst hkey
      simp [modify, List.lookup_cons, hne]
    · simp only [modify, hkey, if_false, List.lookup_cons]
      split <;> simp_all

/-- A key is in the map after the update exactly if it is the key updated or was there before. -/
theorem mem_keys_modify {key' : K} (map : List (K × V)) :
    key' ∈ (modify key default f map).map Prod.fst ↔ key' = key ∨ key' ∈ map.map Prod.fst := by
  induction map with
  | nil => simp [modify]
  | cons entry map ih =>
    by_cases hkey : entry.1 = key
    · simp only [modify, hkey, if_true, List.map_cons, List.mem_cons]
      tauto
    · simp only [modify, hkey, if_false, List.map_cons, List.mem_cons, ih]
      tauto

theorem nodup_keys_modify {map : List (K × V)} (h : (map.map Prod.fst).Nodup) :
    ((modify key default f map).map Prod.fst).Nodup := by
  induction map with
  | nil => simp [modify]
  | cons entry map ih =>
    rw [List.map_cons, List.nodup_cons] at h
    by_cases hkey : entry.1 = key
    · simp only [modify, hkey, if_true, List.map_cons, List.nodup_cons]
      rw [← hkey]
      exact h
    · simp only [modify, hkey, if_false, List.map_cons, List.nodup_cons, mem_keys_modify]
      exact ⟨by simpa [hkey] using h.1, ih h.2⟩

/-- The values of the map after the update: the old value of the key (the default when it had
none) is replaced by its update. -/
theorem sum_modify (key : K) (f : ℕ → ℕ) (map : List (K × ℕ)) :
    ((modify key 0 f map).map Prod.snd).sum + (map.lookup key).getD 0 =
      (map.map Prod.snd).sum + f ((map.lookup key).getD 0) := by
  induction map with
  | nil => simp [modify]
  | cons entry map ih =>
    obtain ⟨k, v⟩ := entry
    by_cases hkey : k = key
    · subst hkey
      simp [modify]
      omega
    · have hne : (key == k) = false := by simpa using Ne.symm hkey
      simp only [modify, hkey, if_false, List.map_cons, List.sum_cons, List.lookup_cons, hne]
      omega

/-- `map.insert(key, value)`: the entry of `key` replaced, or a new entry at the end. -/
def insert (key : K) (value : V) (map : List (K × V)) : List (K × V) :=
  modify key value (fun _ ↦ value) map

variable {value : V}

theorem lookup_insert_self (map : List (K × V)) : (insert key value map).lookup key = some value :=
  lookup_modify_self map

theorem lookup_insert_ne {key' : K} (h : key' ≠ key) (map : List (K × V)) :
    (insert key value map).lookup key' = map.lookup key' :=
  lookup_modify_ne h map

theorem nodup_keys_insert {map : List (K × V)} (h : (map.map Prod.fst).Nodup) :
    ((insert key value map).map Prod.fst).Nodup :=
  nodup_keys_modify h

/-- Writing back the value a key has changes nothing: `modify` and `lookup` both stop at the
key's first entry. -/
theorem insert_of_lookup_eq {map : List (K × V)} (h : map.lookup key = some value) :
    insert key value map = map := by
  induction map with
  | nil => cases h
  | cons entry map ih =>
    obtain ⟨k, v⟩ := entry
    by_cases hkey : k = key
    · subst hkey
      simp only [List.lookup_cons, beq_self_eq_true, Option.some.injEq] at h
      simp [insert, modify, h]
    · have hne : (key == k) = false := by simpa using Ne.symm hkey
      simp only [List.lookup_cons, hne] at h
      simp only [insert, modify, hkey, if_false, List.cons.injEq, true_and]
      exact ih h

theorem mem_of_lookup_eq_some {map : List (K × V)} (h : map.lookup key = some value) :
    (key, value) ∈ map := by
  induction map with
  | nil => cases h
  | cons entry map ih =>
    obtain ⟨k, v⟩ := entry
    by_cases hkey : key = k
    · subst hkey
      simp only [List.lookup_cons, beq_self_eq_true, Option.some.injEq] at h
      simp [h]
    · have hne : (key == k) = false := by simpa using hkey
      simp only [List.lookup_cons, hne] at h
      exact List.mem_cons_of_mem _ (ih h)

/-- With one entry per key, the entries of the map are its keys' values. -/
theorem lookup_eq_some_of_mem {map : List (K × V)} (hnodup : (map.map Prod.fst).Nodup)
    (h : (key, value) ∈ map) : map.lookup key = some value := by
  induction map with
  | nil => cases h
  | cons entry map ih =>
    obtain ⟨k, v⟩ := entry
    rw [List.map_cons, List.nodup_cons] at hnodup
    rcases List.mem_cons.mp h with hentry | hmem
    · simp only [Prod.mk.injEq] at hentry
      obtain ⟨rfl, rfl⟩ := hentry
      simp
    · have hkey : key ≠ k := by
        rintro rfl
        exact hnodup.1 (List.mem_map.mpr ⟨_, hmem, rfl⟩)
      have hne : (key == k) = false := by simpa using hkey
      simp only [List.lookup_cons, hne]
      exact ih hnodup.2 hmem

end EntryMap
