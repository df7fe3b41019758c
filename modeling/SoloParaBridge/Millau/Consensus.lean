import SoloParaBridge.Millau.LogicProvider

/-!
# What consensus decides

`get_most_frequent_hash` counts the revealed hashes in a `BTreeMap<Hash, u16>`, takes the entry
with the largest count (the last one among equals) and accepts it when its share of the reveals
is above the majority's ratio, `50/100` or `66/100`.

* `hashCounts_represents`: the map holds, at every revealed hash, how often it was revealed —
  modulo `2^16`, as the `u16` counter wraps.
* `getMostFrequentHash_eq_ok_iff`: below `2^16` reveals, a hash is accepted exactly when more
  than the ratio's share of the reveals are of it.  Both ratios are at least one half, so such a
  hash is the unique most frequent one, and the tie-breaking of `max_by_key` never decides.

`Majority::TwoThirds` is `66/100`, which is below two thirds: 65 reveals of 98 pass it
(`getMostFrequentHash_accepts_65_of_98`).
-/

set_option autoImplicit false

namespace LogicProvider

open Millau Commitments

variable {AccountId Hash : Type} [LinearOrder Hash]

/-! ## The frequency map -/

/-- `counts` is the `BTreeMap` of the hashes `hashes`: its keys increase, and it holds exactly
the revealed hashes, each with its number of reveals as a `u16` counts it. -/
structure Represents (counts : List (Hash × ℕ)) (hashes : List Hash) : Prop where
  sorted : counts.Pairwise fun a b ↦ a.1 < b.1
  mem_iff : ∀ k c, (k, c) ∈ counts ↔ k ∈ hashes ∧ c = hashes.count k % 65536

/-- A key below every key of a map is not one of its keys. -/
theorem not_mem_of_lt_keys {counts : List (Hash × ℕ)} {k : Hash}
    (hlt : ∀ a ∈ counts, k < a.1) (c : ℕ) : (k, c) ∉ counts :=
  fun hmem ↦ lt_irrefl k (hlt _ hmem)

/-- Every entry of the bumped map is the bumped key's or one of the map's. -/
theorem mem_bumpCount_of_mem {h k : Hash} {c : ℕ} :
    ∀ {counts : List (Hash × ℕ)}, (k, c) ∈ bumpCount h counts → k = h ∨ (k, c) ∈ counts
  | [], hmem => by
    rw [bumpCount, List.mem_singleton, Prod.mk.injEq] at hmem
    exact .inl hmem.1
  | (k₀, c₀) :: rest, hmem => by
    rw [bumpCount] at hmem
    split_ifs at hmem with hlt heq
    · rcases List.mem_cons.mp hmem with hmem | hmem
      · exact .inl (Prod.mk.inj hmem).1
      · exact .inr hmem
    · rcases List.mem_cons.mp hmem with hmem | hmem
      · exact .inl ((Prod.mk.inj hmem).1.trans heq.symm)
      · exact .inr (List.mem_cons_of_mem _ hmem)
    · rcases List.mem_cons.mp hmem with hmem | hmem
      · exact .inr (hmem ▸ List.mem_cons_self)
      · exact (mem_bumpCount_of_mem hmem).imp_right (List.mem_cons_of_mem _)

/-- Bumping a key keeps the keys increasing. -/
theorem bumpCount_sorted (h : Hash) :
    ∀ {counts : List (Hash × ℕ)}, counts.Pairwise (fun a b ↦ a.1 < b.1) →
      (bumpCount h counts).Pairwise fun a b ↦ a.1 < b.1
  | [], _ => List.pairwise_singleton _ _
  | (k₀, c₀) :: rest, hsorted => by
    rw [List.pairwise_cons] at hsorted
    rw [bumpCount]
    split_ifs with hlt heq
    · refine List.Pairwise.cons (fun b hb ↦ ?_) (List.Pairwise.cons hsorted.1 hsorted.2)
      rcases List.mem_cons.mp hb with rfl | hb
      · exact hlt
      · exact hlt.trans (hsorted.1 b hb)
    · exact List.Pairwise.cons (fun b hb ↦ heq ▸ hsorted.1 b hb) hsorted.2
    · refine List.Pairwise.cons (fun b hb ↦ ?_) (bumpCount_sorted h hsorted.2)
      obtain ⟨kb, cb⟩ := b
      rcases mem_bumpCount_of_mem hb with hkey | hmem
      · rw [hkey]
        exact lt_of_le_of_ne (not_lt.mp hlt) (Ne.symm heq)
      · exact hsorted.1 _ hmem

theorem lookup_cons_ne {k k₀ : Hash} {c₀ : ℕ} {rest : List (Hash × ℕ)} (hk : k ≠ k₀) :
    ((k₀, c₀) :: rest).lookup k = rest.lookup k := by
  rw [List.lookup_cons, beq_false_of_ne hk]

/-- The value a sorted map gives a key, zero for a key it lacks. -/
theorem lookup_getD_eq {counts : List (Hash × ℕ)} (hsorted : counts.Pairwise fun a b ↦ a.1 < b.1)
    {k : Hash} {c : ℕ} (hmem : (k, c) ∈ counts) : (counts.lookup k).getD 0 = c := by
  induction counts with
  | nil => exact absurd hmem List.not_mem_nil
  | cons a rest ih =>
    obtain ⟨k₀, c₀⟩ := a
    rw [List.pairwise_cons] at hsorted
    by_cases hk : k = k₀
    · subst hk
      rcases List.mem_cons.mp hmem with hmem | hmem
      · rw [List.lookup_cons_self, Option.getD_some, (Prod.mk.inj hmem).2]
      · exact absurd hmem (not_mem_of_lt_keys (fun b hb ↦ hsorted.1 b hb) c)
    · rw [lookup_cons_ne hk]
      exact ih hsorted.2 ((List.mem_cons.mp hmem).resolve_left fun e ↦ hk (Prod.mk.inj e).1)

theorem lookup_getD_of_not_mem {counts : List (Hash × ℕ)} {k : Hash}
    (hnot : ∀ c, (k, c) ∉ counts) : (counts.lookup k).getD 0 = 0 := by
  induction counts with
  | nil => rfl
  | cons a rest ih =>
    obtain ⟨k₀, c₀⟩ := a
    have hk : k ≠ k₀ := fun e ↦ hnot c₀ (e ▸ List.mem_cons_self)
    rw [lookup_cons_ne hk]
    exact ih fun c hc ↦ hnot c (List.mem_cons_of_mem _ hc)

/-- **One `*hash_counts.entry(hash).or_default() += 1`.** -/
theorem mem_bumpCount {counts : List (Hash × ℕ)} (hsorted : counts.Pairwise fun a b ↦ a.1 < b.1)
    (h k : Hash) (c : ℕ) :
    (k, c) ∈ bumpCount h counts ↔
      (k = h ∧ c = ((counts.lookup h).getD 0 + 1) % 65536) ∨ (k ≠ h ∧ (k, c) ∈ counts) := by
  induction counts with
  | nil =>
    rw [bumpCount, List.mem_singleton, Prod.mk.injEq]
    simp only [List.lookup_nil, Option.getD_none, List.not_mem_nil, and_false, or_false]
  | cons a rest ih =>
    obtain ⟨k₀, c₀⟩ := a
    rw [List.pairwise_cons] at hsorted
    have hrest : ∀ c', (k₀, c') ∉ rest := not_mem_of_lt_keys fun b hb ↦ hsorted.1 b hb
    rw [bumpCount]
    split_ifs with hlt heq
    · have hnot : ∀ c', (h, c') ∉ (k₀, c₀) :: rest := not_mem_of_lt_keys fun b hb ↦ by
        rcases List.mem_cons.mp hb with rfl | hb
        · exact hlt
        · exact hlt.trans (hsorted.1 b hb)
      rw [lookup_getD_of_not_mem hnot, List.mem_cons, Prod.mk.injEq]
      by_cases hk : k = h
      · subst hk
        simp only [true_and, Nat.zero_add, ne_eq, not_true_eq_false, false_and, or_false,
          or_iff_left_iff_imp]
        exact fun hmem ↦ absurd hmem (hnot c)
      · simp only [hk, false_and, false_or, ne_eq, not_false_eq_true, true_and]
    · subst heq
      rw [List.lookup_cons_self, Option.getD_some, List.mem_cons, Prod.mk.injEq, List.mem_cons,
        Prod.mk.injEq]
      by_cases hk : k = h
      · subst hk
        simp only [true_and, ne_eq, not_true_eq_false, false_and, or_false,
          or_iff_left_iff_imp]
        exact fun hmem ↦ absurd hmem (hrest c)
      · simp only [hk, false_and, false_or, ne_eq, not_false_eq_true, true_and]
    · have hk₀ : h ≠ k₀ := heq
      rw [lookup_cons_ne hk₀, List.mem_cons, ih hsorted.2,
        List.mem_cons]
      by_cases hk : k = h
      · subst hk
        have hne : (k, c) ≠ (k₀, c₀) := fun e ↦ hk₀ (Prod.mk.inj e).1
        simp only [hne, false_or, true_and, ne_eq, not_true_eq_false, false_and, or_false]
      · simp only [hk, false_and, false_or, ne_eq, not_false_eq_true, true_and]

/-- The map of the reveals gives every hash its number of reveals. -/
theorem Represents.lookup_getD {counts : List (Hash × ℕ)} {hashes : List Hash}
    (hrep : Represents counts hashes) (k : Hash) :
    (counts.lookup k).getD 0 = hashes.count k % 65536 := by
  by_cases hk : k ∈ hashes
  · exact lookup_getD_eq hrep.sorted ((hrep.mem_iff _ _).mpr ⟨hk, rfl⟩)
  · rw [lookup_getD_of_not_mem fun c hc ↦ hk ((hrep.mem_iff _ _).mp hc).1,
      List.count_eq_zero_of_not_mem hk]

theorem represents_nil : Represents ([] : List (Hash × ℕ)) [] :=
  ⟨.nil, fun _ _ ↦ by simp⟩

/-- One more reveal, counted. -/
theorem Represents.bumpCount {counts : List (Hash × ℕ)} {hashes : List Hash}
    (hrep : Represents counts hashes) (h : Hash) :
    Represents (bumpCount h counts) (hashes ++ [h]) := by
  refine ⟨bumpCount_sorted h hrep.sorted, fun k c ↦ ?_⟩
  rw [mem_bumpCount hrep.sorted, hrep.lookup_getD, List.count_append, List.mem_append,
    List.mem_singleton]
  by_cases hk : k = h
  · subst hk
    simp only [true_and, ne_eq, not_true_eq_false, false_and, or_false, or_true,
      List.count_singleton_self, Nat.mod_add_mod]
  · have hcount : [h].count k = 0 := List.count_eq_zero_of_not_mem (by simpa using hk)
    simp only [hk, false_and, false_or, ne_eq, not_false_eq_true, true_and, or_false, hcount,
      Nat.add_zero, hrep.mem_iff]

theorem foldl_bumpCount_represents :
    ∀ (hs : List Hash) {counts : List (Hash × ℕ)} {pre : List Hash}, Represents counts pre →
      Represents (hs.foldl (fun counts h ↦ bumpCount h counts) counts) (pre ++ hs)
  | [], _, _, hrep => by
    rw [List.foldl_nil, List.append_nil]
    exact hrep
  | h :: hs, _, pre, hrep => by
    rw [List.foldl_cons, ← List.singleton_append, ← List.append_assoc]
    exact foldl_bumpCount_represents hs (hrep.bumpCount h)

/-- **The frequency map of the reveals.** -/
theorem hashCounts_represents (hashes : List Hash) : Represents (hashCounts hashes) hashes := by
  have h := foldl_bumpCount_represents hashes represents_nil
  rwa [List.nil_append] at h

/-! ## The most frequent hash -/

omit [LinearOrder Hash] in
/-- The fold of `max_by_key` ends at its start or at a later entry, and at a largest count. -/
theorem foldl_maxByKey :
    ∀ (rest : List (Hash × ℕ)) (best : Hash × ℕ),
      let x := rest.foldl (fun best y ↦ if best.2 ≤ y.2 then y else best) best
      (x = best ∨ x ∈ rest) ∧ best.2 ≤ x.2 ∧ ∀ y ∈ rest, y.2 ≤ x.2
  | [], best => ⟨.inl rfl, le_refl _, fun _ h ↦ absurd h List.not_mem_nil⟩
  | y :: rest, best => by
    obtain ⟨hx, hbest, hrest⟩ :=
      foldl_maxByKey rest (if best.2 ≤ y.2 then y else best)
    rw [List.foldl_cons]
    have hstep : best.2 ≤ (if best.2 ≤ y.2 then y else best).2 ∧
        y.2 ≤ (if best.2 ≤ y.2 then y else best).2 := by
      split_ifs with hle
      · exact ⟨hle, le_refl _⟩
      · exact ⟨le_refl _, le_of_lt (not_le.mp hle)⟩
    refine ⟨?_, hstep.1.trans hbest, fun z hz ↦ ?_⟩
    · rcases hx with hx | hx
      · rw [hx]
        split_ifs
        · exact .inr List.mem_cons_self
        · exact .inl rfl
      · exact .inr (List.mem_cons_of_mem y hx)
    · rcases List.mem_cons.mp hz with rfl | hz
      · exact hstep.2.trans hbest
      · exact hrest z hz

omit [LinearOrder Hash] in
/-- `max_by_key` returns an entry with the largest count. -/
theorem maxByKey_eq_some {counts : List (Hash × ℕ)} {x : Hash × ℕ}
    (h : maxByKey counts = some x) : x ∈ counts ∧ ∀ y ∈ counts, y.2 ≤ x.2 := by
  cases counts with
  | nil => cases h
  | cons first rest =>
    rw [maxByKey, Option.some_inj] at h
    subst h
    obtain ⟨hx, hfirst, hrest⟩ := foldl_maxByKey rest first
    refine ⟨?_, fun y hy ↦ ?_⟩
    · rcases hx with hx | hx
      · rw [hx]
        exact List.mem_cons_self
      · exact List.mem_cons_of_mem first hx
    · rcases List.mem_cons.mp hy with rfl | hy
      · exact hfirst
      · exact hrest y hy

omit [LinearOrder Hash] in
theorem exists_maxByKey_eq_some {counts : List (Hash × ℕ)} {x : Hash × ℕ} (hx : x ∈ counts) :
    ∃ y, maxByKey counts = some y := by
  cases counts with
  | nil => exact absurd hx List.not_mem_nil
  | cons first rest => exact ⟨_, rfl⟩

omit [LinearOrder Hash] in
theorem count_add_count_le_length [DecidableEq Hash] {a b : Hash} (hab : a ≠ b) :
    ∀ l : List Hash, l.count a + l.count b ≤ l.length
  | [] => le_refl 0
  | x :: l => by
    have ih := count_add_count_le_length hab l
    rw [List.count_cons, List.count_cons, List.length_cons]
    by_cases hxa : x = a
    · subst hxa
      simp only [beq_self_eq_true, if_true, beq_false_of_ne hab, Bool.false_eq_true, if_false]
      omega
    · by_cases hxb : x = b
      · subst hxb
        simp only [beq_false_of_ne hxa, Bool.false_eq_true, if_false, beq_self_eq_true, if_true]
        omega
      · simp only [beq_false_of_ne hxa, beq_false_of_ne hxb, Bool.false_eq_true, if_false]
        omega

omit [LinearOrder Hash] in
/-- A hash revealed by more than half of the reveals is revealed more often than any other. -/
theorem count_lt_of_half_lt [DecidableEq Hash] {hashes : List Hash} {a b : Hash} (hab : a ≠ b)
    (ha : hashes.length < 2 * hashes.count a) : hashes.count b < hashes.count a := by
  have := count_add_count_le_length hab hashes
  omega

/-- **What `get_most_frequent_hash` decides.**  With no forced hash and fewer than `2^16`
reveals, it accepts a hash exactly when the share of the reveals that are of it is above the
majority's ratio. -/
theorem getMostFrequentHash_eq_ok_iff (majority : Majority)
    {submissions : List (AccountId × Hash)} (hlen : submissions.length < 65536) (h : Hash) :
    getMostFrequentHash majority submissions none = .ok h ↔
      majority.toRatio.1 * submissions.length <
        (submissions.map Prod.snd).count h * majority.toRatio.2 := by
  have hrep := hashCounts_represents (submissions.map Prod.snd)
  have hlength : (submissions.map Prod.snd).length = submissions.length := List.length_map _
  have hcount : ∀ k, (submissions.map Prod.snd).count k % 65536 =
      (submissions.map Prod.snd).count k := fun k ↦
    Nat.mod_eq_of_lt (lt_of_le_of_lt List.count_le_length (hlength ▸ hlen))
  have hmem : ∀ k c, (k, c) ∈ hashCounts (submissions.map Prod.snd) ↔
      k ∈ submissions.map Prod.snd ∧ c = (submissions.map Prod.snd).count k := fun k c ↦ by
    rw [hrep.mem_iff, hcount]
  rw [getMostFrequentHash]
  constructor
  · intro hok
    split at hok
    · cases hok
    · rename_i h' occurrences hmax
      split_ifs at hok with hratio
      cases hok
      obtain ⟨-, rfl⟩ := (hmem _ _).mp (maxByKey_eq_some hmax).1
      simpa [ratioGt] using hratio
  · intro hratio
    have hpos : 0 < (submissions.map Prod.snd).count h := by
      rcases majority with _ | _ <;> simp only [Majority.toRatio] at hratio <;> omega
    have hmemh : (h, (submissions.map Prod.snd).count h) ∈ hashCounts (submissions.map Prod.snd) :=
      (hmem _ _).mpr ⟨List.count_pos_iff.mp hpos, rfl⟩
    obtain ⟨⟨h', occurrences⟩, hmax⟩ := exists_maxByKey_eq_some hmemh
    obtain ⟨hmem', hge⟩ := maxByKey_eq_some hmax
    obtain ⟨-, rfl⟩ := (hmem _ _).mp hmem'
    have hh' : h' = h := by
      by_contra hne
      have hhalf : (submissions.map Prod.snd).length < 2 * (submissions.map Prod.snd).count h := by
        rcases majority with _ | _ <;> simp only [Majority.toRatio] at hratio <;> omega
      exact absurd (hge _ hmemh) (not_le.mpr (count_lt_of_half_lt (Ne.symm hne) hhalf))
    subst hh'
    rw [hmax]
    dsimp only
    rw [if_pos (by simpa [ratioGt] using hratio)]

/-! ## The winners of a round -/

/-- **The winners among committers sorted by block.**  `find` consumes the sorted list up to the
first committer `p` accepts; the winners are the rest of the list filtered for accepted
committers of the same block, with the first one appended.  Over a list sorted by block with each
account once, they are each accepted account whose block is the least block of an accepted
account, each once. -/
theorem winners_of_findAndRest {l : List (AccountId × ℕ)} (hsorted : l.Pairwise fun a b ↦ a.2 ≤ b.2)
    (hnodup : (l.map Prod.fst).Nodup) {p : AccountId → Bool} {first : AccountId × ℕ}
    {rest : List (AccountId × ℕ)} (hfind : findAndRest (fun sub ↦ p sub.1) l = some (first, rest)) :
    (((rest.filter fun sub ↦ p sub.1 && decide (sub.2 = first.2)) ++ [first]).map Prod.fst).Nodup ∧
      ∀ who, who ∈ ((rest.filter fun sub ↦ p sub.1 && decide (sub.2 = first.2)) ++ [first]).map
          Prod.fst ↔
        p who = true ∧ ∃ block, (who, block) ∈ l ∧
          ∀ who' block', p who' = true → (who', block') ∈ l → block ≤ block' := by
  obtain ⟨pre, rfl, hfirst, hpre⟩ := findAndRest_eq_some hfind
  have hafter : ∀ y ∈ rest, first.2 ≤ y.2 :=
    (List.pairwise_cons.mp (List.pairwise_append.mp hsorted).2.1).1
  rw [List.map_append, List.map_cons] at hnodup
  have hnodup' := (List.nodup_append.mp hnodup).2.1
  have hleast : ∀ who' block', p who' = true → (who', block') ∈ pre ++ first :: rest →
      first.2 ≤ block' := by
    intro who' block' hp hmem
    rcases List.mem_append.mp hmem with hmem | hmem
    · exact absurd (hpre _ hmem) (by simp [hp])
    · rcases List.mem_cons.mp hmem with rfl | hmem
      · exact le_refl _
      · exact hafter _ hmem
  refine ⟨?_, fun who ↦ ⟨?_, ?_⟩⟩
  · rw [List.map_append, List.nodup_append]
    refine ⟨(hnodup'.of_cons).sublist ((List.filter_sublist).map Prod.fst),
      List.nodup_singleton _, fun a ha b hb hab ↦ ?_⟩
    rw [List.map_cons, List.map_nil, List.mem_singleton] at hb
    subst hab
    subst hb
    exact (List.nodup_cons.mp hnodup').1 (((List.filter_sublist).map Prod.fst).subset ha)
  · rw [List.mem_map]
    rintro ⟨x, hx, rfl⟩
    have hx' : x ∈ pre ++ first :: rest ∧ p x.1 = true ∧ x.2 = first.2 := by
      rcases List.mem_append.mp hx with hx | hx
      · rw [List.mem_filter, Bool.and_eq_true, decide_eq_true_eq] at hx
        exact ⟨List.mem_append_right _ (List.mem_cons_of_mem _ hx.1), hx.2.1, hx.2.2⟩
      · rw [List.mem_singleton.mp hx]
        exact ⟨List.mem_append_right _ List.mem_cons_self, hfirst, rfl⟩
    exact ⟨hx'.2.1, x.2, hx'.1, fun who' block' hp hmem ↦ hx'.2.2 ▸ hleast who' block' hp hmem⟩
  · rintro ⟨hp, block, hmem, hmin⟩
    rw [List.mem_map]
    rcases List.mem_append.mp hmem with hmem | hmem
    · exact absurd (hpre _ hmem) (by simp [hp])
    rcases List.mem_cons.mp hmem with hfirst' | hmem
    · exact ⟨first, List.mem_append_right _ List.mem_cons_self, by rw [← hfirst']⟩
    · have hblock : block = first.2 :=
        le_antisymm (hmin first.1 first.2 hfirst (List.mem_append_right _ List.mem_cons_self))
          (hafter _ hmem)
      refine ⟨(who, block), List.mem_append_left _ ?_, rfl⟩
      rw [List.mem_filter, Bool.and_eq_true, decide_eq_true_eq]
      exact ⟨hmem, hp, hblock⟩

section Rewards

variable {Public Ledger : Type} {T : Config AccountId Hash Public Ledger} [DecidableEq AccountId]

/-- `who` revealed `hash` inside the reveal window of `m`: its commitment is fulfilled with
`hash`, and flagged. -/
def RevealedInWindow (s : State T) (m : MetadataId) (hash : Hash) (who : AccountId) : Prop :=
  ∃ c ∈ (s.commits m).toList, c.submitter = who ∧ c.fulfillment = some hash ∧
    c.inRevealPeriod = true

omit [LinearOrder Hash] [DecidableEq AccountId] in
theorem mem_finalSubmissions {s : State T} {m : MetadataId} {who : AccountId} {hash : Hash} :
    (who, hash) ∈ finalSubmissions s m ↔ RevealedInWindow s m hash who := by
  rw [finalSubmissions, List.mem_filterMap]
  constructor
  · rintro ⟨c, hc, hmap⟩
    split_ifs at hmap with hflag
    obtain ⟨hash', hfulfillment, heq⟩ := Option.map_eq_some_iff.mp hmap
    obtain ⟨rfl, rfl⟩ := Prod.mk.inj heq
    exact ⟨c, hc, rfl, hfulfillment, hflag⟩
  · rintro ⟨c, hc, rfl, hfulfillment, hflag⟩
    exact ⟨c, hc, by rw [if_pos hflag, hfulfillment]; rfl⟩

omit [DecidableEq AccountId] in
/-- The accounts with a correct submission are those that revealed the hash in the window. -/
theorem mem_accountsWithCorrectSubmission {s : State T} {m : MetadataId} {hash : Hash}
    {who : AccountId} :
    who ∈ ((finalSubmissions s m).filter fun sub ↦ sub.2 = hash).map Prod.fst ↔
      RevealedInWindow s m hash who := by
  rw [List.mem_map]
  constructor
  · rintro ⟨⟨a, hash'⟩, hmem, rfl⟩
    rw [List.mem_filter, decide_eq_true_eq] at hmem
    obtain ⟨hmem, rfl⟩ := hmem
    exact mem_finalSubmissions.mp hmem
  · intro hrevealed
    refine ⟨(who, hash), ?_, rfl⟩
    rw [List.mem_filter, decide_eq_true_eq]
    exact ⟨mem_finalSubmissions.mpr hrevealed, rfl⟩

/-- The winners `calculate_rewards` returns, when no account has two entries in
`CommitmentBlockNumbers[m]`: each account once, at least one, and exactly the accounts that
revealed the deciding hash in the window and committed in the least block any such account did. -/
theorem calculateRewards_winners {s : State T} {m : MetadataId}
    {forceCorrectResult : Option Hash} {winners : List AccountId} {reward : ℕ}
    (hnodup : ((s.commitmentBlockNumbers m).toList.map Prod.fst).Nodup)
    (h : calculateRewards s m forceCorrectResult = .ok (winners, reward)) :
    ∃ hash, getMostFrequentHash s.majorityType (finalSubmissions s m) forceCorrectResult =
        .ok hash ∧
      winners.Nodup ∧ winners ≠ [] ∧
      ∀ who, who ∈ winners ↔ RevealedInWindow s m hash who ∧
        ∃ block, (who, block) ∈ (s.commitmentBlockNumbers m).toList ∧
          ∀ who' block', RevealedInWindow s m hash who' →
            (who', block') ∈ (s.commitmentBlockNumbers m).toList → block ≤ block' := by
  rw [calculateRewards] at h
  dsimp only at h
  split_ifs at h
  split at h
  · cases h
  rename_i hash hhash
  split at h
  · cases h
  rename_i first rest hfind
  obtain ⟨rfl, rfl⟩ := Prod.mk.inj (Except.ok.inj h)
  have hperm := List.mergeSort_perm (s.commitmentBlockNumbers m).toList
    fun a b ↦ decide (a.2 ≤ b.2)
  have hsorted : ((s.commitmentBlockNumbers m).toList.mergeSort fun a b ↦ decide (a.2 ≤ b.2)).Pairwise
      fun a b ↦ a.2 ≤ b.2 :=
    (List.pairwise_mergeSort (fun a b c hab hbc ↦ decide_eq_true
        ((of_decide_eq_true hab).trans (of_decide_eq_true hbc)))
      (fun a b ↦ by simpa using le_total a.2 b.2) _).imp of_decide_eq_true
  obtain ⟨hwnodup, hwmem⟩ := winners_of_findAndRest hsorted
    ((hperm.map Prod.fst).nodup_iff.mpr hnodup)
    (p := fun a ↦ decide (a ∈ ((finalSubmissions s m).filter fun sub ↦ sub.2 = hash).map Prod.fst))
    hfind
  refine ⟨hash, hhash, hwnodup, by simp, fun who ↦ ?_⟩
  rw [hwmem who, decide_eq_true_eq, mem_accountsWithCorrectSubmission]
  simp only [hperm.mem_iff, decide_eq_true_eq, mem_accountsWithCorrectSubmission]

/-- The reward `calculate_rewards` returns is `Reward` divided among the winners. -/
theorem calculateRewards_reward {s : State T} {m : MetadataId}
    {forceCorrectResult : Option Hash} {winners : List AccountId} {reward : ℕ}
    (h : calculateRewards s m forceCorrectResult = .ok (winners, reward)) :
    reward = T.reward / winners.length := by
  rw [calculateRewards] at h
  dsimp only at h
  split_ifs at h
  split at h
  · cases h
  split at h
  · cases h
  obtain ⟨rfl, rfl⟩ := Prod.mk.inj (Except.ok.inj h)
  rfl

/-- **The winners of a round and their reward.**  When `calculate_rewards` returns winners `W` and
a reward `r`, and no account has two entries in `CommitmentBlockNumbers[m]`: the deciding hash is
the forced one or the one `get_most_frequent_hash` returns; `W` names each account once and is
not empty; its accounts are exactly those that revealed the deciding hash in the window and
committed in the least block any such account committed in; and `r` is `Reward / |W|`, so the
rewards issued, `|W| * r`, are at most `Reward`. -/
theorem calculateRewards_eq_ok {s : State T} {m : MetadataId} {forceCorrectResult : Option Hash}
    {winners : List AccountId} {reward : ℕ}
    (hnodup : ((s.commitmentBlockNumbers m).toList.map Prod.fst).Nodup)
    (h : calculateRewards s m forceCorrectResult = .ok (winners, reward)) :
    ∃ hash, getMostFrequentHash s.majorityType (finalSubmissions s m) forceCorrectResult =
        .ok hash ∧
      winners.Nodup ∧ winners ≠ [] ∧
      (∀ who, who ∈ winners ↔ RevealedInWindow s m hash who ∧
        ∃ block, (who, block) ∈ (s.commitmentBlockNumbers m).toList ∧
          ∀ who' block', RevealedInWindow s m hash who' →
            (who', block') ∈ (s.commitmentBlockNumbers m).toList → block ≤ block') ∧
      reward = T.reward / winners.length ∧ winners.length * reward ≤ T.reward := by
  obtain ⟨hash, hhash, hwnodup, hne, hwmem⟩ := calculateRewards_winners hnodup h
  have hreward := calculateRewards_reward h
  refine ⟨hash, hhash, hwnodup, hne, hwmem, hreward, ?_⟩
  rw [hreward]
  exact Nat.mul_div_le T.reward winners.length

/-- The configuration of the Millau runtime built with `runtime-benchmarks`, where
`MaxParticipants` is `1024`. -/
def millauBenchmarksConfig : Config ℕ ℕ ℕ (ℕ → ℕ) := { millauConfig with maxParticipants := 1024 }

/-- A round of metadata id `0` with four committers, all revealed in the window: `4` committed
to the hash `1` in block `2`, `2` and `3` to the hash `0` in block `3`, and `1` to `0` in block
`5`. -/
def roundOfFour : State millauBenchmarksConfig where
  blockNumber := 10
  commits := fun _ ↦ ⟨[⟨10, some 1, 4, true⟩, ⟨8, some 0, 2, true⟩, ⟨9, some 0, 3, true⟩,
    ⟨7, some 0, 1, true⟩], by decide⟩
  revealWindow := fun _ ↦ none
  commitmentBlockNumbers := fun _ ↦ ⟨[(4, 2), (2, 3), (3, 3), (1, 5)], by decide⟩
  majorityType := .twoThirds
  roundStates := fun _ ↦ none
  processedHashes := fun _ ↦ none
  ledger := fun _ ↦ 0
  sentProofs := []

/-- Three of four reveals are of `0`, and its earliest committers, `2` and `3`, share the
reward. -/
theorem calculateRewards_eq_ok_roundOfFour :
    ((roundOfFour.commitmentBlockNumbers 0).toList.map Prod.fst).Nodup ∧
      calculateRewards roundOfFour 0 none = .ok ([3, 2], 500000000000000) ∧
      ∃ hash, getMostFrequentHash roundOfFour.majorityType (finalSubmissions roundOfFour 0) none =
          .ok hash ∧
        [3, 2].Nodup ∧ [3, 2] ≠ [] ∧
        (∀ who, who ∈ [3, 2] ↔ RevealedInWindow roundOfFour 0 hash who ∧
          ∃ block, (who, block) ∈ (roundOfFour.commitmentBlockNumbers 0).toList ∧
            ∀ who' block', RevealedInWindow roundOfFour 0 hash who' →
              (who', block') ∈ (roundOfFour.commitmentBlockNumbers 0).toList → block ≤ block') ∧
        500000000000000 = millauBenchmarksConfig.reward / [3, 2].length ∧
        [3, 2].length * 500000000000000 ≤ millauBenchmarksConfig.reward := by
  have hnodup : ((roundOfFour.commitmentBlockNumbers 0).toList.map Prod.fst).Nodup := by decide
  have hsorted : ((roundOfFour.commitmentBlockNumbers 0).toList.mergeSort
      fun a b ↦ decide (a.2 ≤ b.2)) = (roundOfFour.commitmentBlockNumbers 0).toList :=
    List.mergeSort_of_pairwise (by decide)
  have h : calculateRewards roundOfFour 0 none = .ok ([3, 2], 500000000000000) := by
    rw [calculateRewards]
    dsimp only
    rw [hsorted]
    decide
  exact ⟨hnodup, h, calculateRewards_eq_ok hnodup h⟩

end Rewards

/-- Ninety-eight reveals by distinct accounts, sixty-five of the hash `1` and thirty-three of
`2`. -/
def reveals65of98 : List (ℕ × ℕ) := (List.range 98).map fun i ↦ (i, if i < 65 then 1 else 2)

/-- **`TwoThirds` accepts less than two thirds.**  `get_most_frequent_hash` accepts `1` from
`reveals65of98`, although sixty-five is less than two thirds of ninety-eight: `66/100` is below
`2/3`. -/
theorem getMostFrequentHash_accepts_65_of_98 :
    getMostFrequentHash .twoThirds reveals65of98 none = .ok 1 ∧ reveals65of98.length = 98 ∧
      (reveals65of98.map Prod.snd).count 1 = 65 ∧ 3 * 65 < 2 * 98 := by
  have hlen : reveals65of98.length = 98 := by decide
  have hcount : (reveals65of98.map Prod.snd).count 1 = 65 := by decide
  refine ⟨(getMostFrequentHash_eq_ok_iff .twoThirds (by omega) 1).mpr ?_, hlen, hcount,
    by decide⟩
  rw [hlen, hcount]
  decide

/-- **A unanimous round of a multiple of `2^16` reveals is refused**, whoever revealed them: the
`u16` counter of the one hash wraps to zero. -/
theorem getMostFrequentHash_unanimous_of_wrap (majority : Majority)
    {submissions : List (AccountId × Hash)} {h : Hash} (hall : ∀ x ∈ submissions, x.2 = h)
    (hne : submissions ≠ []) (hwrap : submissions.length % 65536 = 0) :
    getMostFrequentHash majority submissions none = .error .consensusNotReached := by
  have hhashes : submissions.map Prod.snd = List.replicate submissions.length h := by
    refine List.eq_replicate_iff.mpr ⟨List.length_map _, fun k hk ↦ ?_⟩
    obtain ⟨x, hx, rfl⟩ := List.mem_map.mp hk
    exact hall x hx
  have hrep := hashCounts_represents (submissions.map Prod.snd)
  rw [hhashes] at hrep
  have hcount : (List.replicate submissions.length h).count h % 65536 = 0 := by
    rw [List.count_replicate_self, hwrap]
  have hentry : ∀ x ∈ hashCounts (List.replicate submissions.length h), x = (h, 0) := by
    rintro ⟨k, c⟩ hx
    obtain ⟨hk, rfl⟩ := (hrep.mem_iff k c).mp hx
    rw [List.mem_replicate] at hk
    rw [hk.2, hcount]
  have hmem : (h, 0) ∈ hashCounts (List.replicate submissions.length h) := by
    refine (hrep.mem_iff _ _).mpr ⟨List.mem_replicate.mpr ⟨?_, rfl⟩, hcount.symm⟩
    exact (List.length_pos_iff.mpr hne).ne'
  obtain ⟨x, hmax⟩ := exists_maxByKey_eq_some hmem
  rw [getMostFrequentHash, hhashes, hmax, hentry x (maxByKey_eq_some hmax).1]
  dsimp only
  rw [if_neg]
  rcases majority with _ | _ <;> simp [ratioGt, Majority.toRatio]

/-- `65536` reveals of the hash `1`, each by an account of its own. -/
def unanimous65536 : List (ℕ × ℕ) := (List.range 65536).map fun i ↦ (i, 1)

theorem getMostFrequentHash_unanimous_65536 :
    (unanimous65536.map Prod.fst).Nodup ∧
      getMostFrequentHash .twoThirds unanimous65536 none = .error .consensusNotReached :=
  ⟨by
    simp only [unanimous65536, List.map_map, Function.comp_def, List.map_id']
    exact List.nodup_range,
    getMostFrequentHash_unanimous_of_wrap .twoThirds
      (by simp [unanimous65536] : ∀ x ∈ unanimous65536, x.2 = 1) (by simp [unanimous65536])
      (by simp [unanimous65536])⟩

end LogicProvider
