import SoloParaBridge.HeaderChain.Strict
import SoloParaBridge.Lib.EntryMap

/-!
# Equivocations collected from GRANDPA justifications

`bp_header_chain::justification::verification::equivocation`.  An `EquivocationsCollector` is a
`JustificationVerifier` whose callbacks let every vote through: a redundant vote, a second vote of
an authority and a vote for an unrelated block all reach `process_valid_vote`, and only the votes
of unknown authorities and the votes with a bad signature are dropped.  `process_valid_vote` keeps
an authority's first vote, and turns it into an equivocation at the first later vote for another
block; nothing changes an equivocation after that.  The votes a parse records stay in the map also
when the justification is then rejected for too little weight.

The collector is its own callbacks' state, so `parseJustification` returns the collector the parse
leaves beside what it returns.  The parse is shown to be the fold of `processValidVote` over the
justification's valid votes (`parseJustification_collector`), whatever it returns, and a run of
parses the fold over all of them (`parseJustifications_eq`).  What the map holds for each
authority is then read off its votes alone: `entryOf` is the first vote, or the first vote and the
first that disagrees with it, and `Records` says the map is `entryOf` at every authority.
-/

set_option autoImplicit false

namespace HeaderChain

/-- `finality_grandpa::Equivocation` of precommits: two votes of `identity` in `round_number`. -/
structure Equivocation (Hash AuthorityId Signature : Type) where
  roundNumber : ℕ
  identity : AuthorityId
  first : Precommit Hash × Signature
  second : Precommit Hash × Signature
  deriving DecidableEq, Repr

/-- `AuthorityVotes`. -/
inductive AuthorityVotes (Hash AuthorityId Signature : Type) where
  | singleVote (signed : SignedPrecommit Hash AuthorityId Signature)
  | equivocation (equivocation : Equivocation Hash AuthorityId Signature)
  deriving DecidableEq, Repr

/-- `sp_consensus_grandpa::EquivocationProof` of an equivocation of precommits, the only kind the
collector builds. -/
structure EquivocationProof (Hash AuthorityId Signature : Type) where
  setId : ℕ
  equivocation : Equivocation Hash AuthorityId Signature
  deriving DecidableEq, Repr

/-- `EquivocationsCollector`; the `BTreeMap` of votes is a list with one entry per authority. -/
structure EquivocationsCollector (Hash AuthorityId Signature : Type) where
  round : ℕ
  authoritiesSetId : ℕ
  authoritiesSet : VoterSet AuthorityId
  votes : List (AuthorityId × AuthorityVotes Hash AuthorityId Signature)

namespace EquivocationsCollector

/-- `Error`. -/
inductive Error where
  | invalidRound
  | justificationVerification (e : HeaderChain.Error)
  deriving DecidableEq, Repr

variable {Hash AuthorityId Signature : Type} [DecidableEq Hash] [DecidableEq AuthorityId]

/-- `process_valid_vote`. -/
def processValidVote (self : EquivocationsCollector Hash AuthorityId Signature)
    (signed : SignedPrecommit Hash AuthorityId Signature) :
    EquivocationsCollector Hash AuthorityId Signature :=
  match self.votes.lookup signed.id with
  | some (.singleVote firstVote) =>
    if firstVote.precommit ≠ signed.precommit then
      { self with
        votes := EntryMap.insert signed.id
          (.equivocation ⟨self.round, signed.id, (firstVote.precommit, firstVote.signature),
            (signed.precommit, signed.signature)⟩) self.votes }
    else self
  | some (.equivocation _) => self
  | none => { self with votes := EntryMap.insert signed.id (.singleVote signed) self.votes }

/-- `into_equivocation_proofs`. -/
def intoEquivocationProofs (self : EquivocationsCollector Hash AuthorityId Signature) :
    List (EquivocationProof Hash AuthorityId Signature) :=
  self.votes.filterMap fun entry ↦
    match entry.2 with
    | .equivocation equivocation => some ⟨self.authoritiesSetId, equivocation⟩
    | .singleVote _ => none

/-- What `process_valid_vote` writes at the entry of the vote's authority. -/
def recordVote (round : ℕ) (signed : SignedPrecommit Hash AuthorityId Signature) :
    Option (AuthorityVotes Hash AuthorityId Signature) → AuthorityVotes Hash AuthorityId Signature
  | some (.singleVote firstVote) =>
    if firstVote.precommit ≠ signed.precommit then
      .equivocation ⟨round, signed.id, (firstVote.precommit, firstVote.signature),
        (signed.precommit, signed.signature)⟩
    else .singleVote firstVote
  | some (.equivocation equivocation) => .equivocation equivocation
  | none => .singleVote signed

/-- `process_valid_vote` writes the entry of the vote's authority only; where the source leaves
the map as it is, it writes back what the entry held. -/
theorem processValidVote_eq (self : EquivocationsCollector Hash AuthorityId Signature)
    (signed : SignedPrecommit Hash AuthorityId Signature) :
    self.processValidVote signed = { self with
      votes := EntryMap.insert signed.id
        (recordVote self.round signed (self.votes.lookup signed.id)) self.votes } := by
  cases hlookup : self.votes.lookup signed.id with
  | none => simp only [processValidVote, hlookup, recordVote]
  | some vote =>
    cases vote with
    | singleVote firstVote =>
      by_cases hsame : firstVote.precommit = signed.precommit
      · simp only [processValidVote, hlookup, recordVote, hsame, ne_eq, not_true_eq_false,
          if_false, EntryMap.insert_of_lookup_eq hlookup]
      · simp only [processValidVote, hlookup, recordVote, hsame, ne_eq, not_false_eq_true,
          if_true]
    | equivocation equivocation =>
      simp only [processValidVote, hlookup, recordVote, EntryMap.insert_of_lookup_eq hlookup]

/-- Recording votes changes the votes only. -/
theorem foldl_processValidVote (votes : List (SignedPrecommit Hash AuthorityId Signature))
    (self : EquivocationsCollector Hash AuthorityId Signature) :
    votes.foldl processValidVote self =
      { self with votes := (votes.foldl processValidVote self).votes } := by
  induction votes generalizing self with
  | nil => rfl
  | cons signed votes ih =>
    rw [List.foldl_cons, ih, processValidVote_eq]

/-! ## What the map holds for one authority -/

/-- The entry of an authority once the collector has seen its valid votes `votes`, in order:
none before its first vote, then its first vote, until a vote for another block makes it the
equivocation of the first vote and that one. -/
def entryOf (round : ℕ) :
    List (SignedPrecommit Hash AuthorityId Signature) → Option (AuthorityVotes Hash AuthorityId Signature)
  | [] => none
  | first :: votes =>
    match votes.find? fun second ↦ first.precommit ≠ second.precommit with
    | none => some (.singleVote first)
    | some second =>
      some (.equivocation ⟨round, second.id, (first.precommit, first.signature),
        (second.precommit, second.signature)⟩)

omit [DecidableEq AuthorityId] in
/-- `process_valid_vote` follows `entryOf` one vote further. -/
theorem entryOf_append_singleton (round : ℕ) (votes : List (SignedPrecommit Hash AuthorityId Signature))
    (signed : SignedPrecommit Hash AuthorityId Signature) :
    entryOf round (votes ++ [signed]) = some (recordVote round signed (entryOf round votes)) := by
  cases votes with
  | nil => simp [entryOf, recordVote]
  | cons first votes =>
    rw [List.cons_append]
    simp only [entryOf, List.find?_append]
    cases votes.find? fun second ↦ first.precommit ≠ second.precommit with
    | some second => simp only [Option.some_or, recordVote]
    | none =>
      by_cases hsame : first.precommit = signed.precommit
      · simp [recordVote, hsame]
      · simp [recordVote, hsame]

omit [DecidableEq AuthorityId] in
/-- An equivocation is made of two of the authority's votes, for different blocks. -/
theorem entryOf_eq_equivocation {round : ℕ} {votes : List (SignedPrecommit Hash AuthorityId Signature)}
    {equivocation : Equivocation Hash AuthorityId Signature}
    (h : entryOf round votes = some (.equivocation equivocation)) :
    equivocation.roundNumber = round ∧ ∃ first ∈ votes, ∃ second ∈ votes,
      first.precommit ≠ second.precommit ∧ equivocation.identity = second.id ∧
      equivocation.first = (first.precommit, first.signature) ∧
      equivocation.second = (second.precommit, second.signature) := by
  cases votes with
  | nil => cases h
  | cons first votes =>
    simp only [entryOf] at h
    split at h
    · cases h
    · rename_i second hfind
      cases h
      have hne : first.precommit ≠ second.precommit := by simpa using List.find?_some hfind
      exact ⟨rfl, first, List.mem_cons_self, second,
        List.mem_cons_of_mem _ (List.mem_of_find?_eq_some hfind), hne, rfl, rfl, rfl⟩

omit [DecidableEq AuthorityId] in
/-- The authority's entry is an equivocation exactly when two of its votes are for different
blocks. -/
theorem exists_entryOf_eq_equivocation_iff {round : ℕ}
    {votes : List (SignedPrecommit Hash AuthorityId Signature)} :
    (∃ equivocation, entryOf round votes = some (.equivocation equivocation)) ↔
      ∃ first ∈ votes, ∃ second ∈ votes, first.precommit ≠ second.precommit := by
  constructor
  · rintro ⟨equivocation, h⟩
    obtain ⟨-, first, hfirst, second, hsecond, hne, -⟩ := entryOf_eq_equivocation h
    exact ⟨first, hfirst, second, hsecond, hne⟩
  · rintro ⟨p, hp, q, hq, hne⟩
    cases votes with
    | nil => cases hp
    | cons first votes =>
      cases hfind : votes.find? fun second ↦ first.precommit ≠ second.precommit with
      | some second =>
        simp only [entryOf, hfind]
        exact ⟨_, rfl⟩
      | none =>
        have hsame : ∀ x ∈ first :: votes, x.precommit = first.precommit := by
          intro x hx
          rcases List.mem_cons.mp hx with rfl | hx
          · rfl
          · have hagrees := List.find?_eq_none.mp hfind x hx
            simp only [ne_eq, decide_not, Bool.not_eq_eq_eq_not, Bool.not_true,
              decide_eq_false_iff_not, not_not] at hagrees
            exact hagrees.symm
        exact absurd ((hsame p hp).trans (hsame q hq).symm) hne

/-! ## What the map holds -/

/-- The collector has recorded the valid votes `votes`: each authority's entry is what `entryOf`
gives for its own votes among them, and there is one entry per authority. -/
structure Records (collector : EquivocationsCollector Hash AuthorityId Signature)
    (votes : List (SignedPrecommit Hash AuthorityId Signature)) : Prop where
  nodup : (collector.votes.map Prod.fst).Nodup
  lookup_eq : ∀ id,
    collector.votes.lookup id = entryOf collector.round (votes.filter fun signed ↦ signed.id = id)

theorem records_nil (round authoritiesSetId : ℕ) (authoritiesSet : VoterSet AuthorityId) :
    Records (⟨round, authoritiesSetId, authoritiesSet, []⟩ :
      EquivocationsCollector Hash AuthorityId Signature) [] :=
  ⟨List.nodup_nil, fun _ ↦ rfl⟩

variable {self : EquivocationsCollector Hash AuthorityId Signature}
  {votes : List (SignedPrecommit Hash AuthorityId Signature)}

theorem Records.processValidVote (h : Records self votes)
    (signed : SignedPrecommit Hash AuthorityId Signature) :
    Records (self.processValidVote signed) (votes ++ [signed]) := by
  rw [processValidVote_eq]
  refine ⟨EntryMap.nodup_keys_insert h.nodup, fun id ↦ ?_⟩
  by_cases hid : id = signed.id
  · subst hid
    simp only [EntryMap.lookup_insert_self, List.filter_append, List.filter_singleton,
      decide_true, cond_true, entryOf_append_singleton, h.lookup_eq]
  · simp only [EntryMap.lookup_insert_ne hid, List.filter_append, List.filter_singleton,
      Ne.symm hid, decide_false, cond_false, List.append_nil, h.lookup_eq]

/-- The run lemma of `process_valid_vote`. -/
theorem Records.foldl (h : Records self votes)
    (signeds : List (SignedPrecommit Hash AuthorityId Signature)) :
    Records (signeds.foldl EquivocationsCollector.processValidVote self) (votes ++ signeds) := by
  induction signeds generalizing self votes with
  | nil => simpa using h
  | cons signed signeds ih =>
    rw [List.foldl_cons, List.append_cons]
    exact ih (h.processValidVote signed)

/-- An equivocation in the map names the authority it is filed under. -/
theorem Records.identity_eq (h : Records self votes) {id : AuthorityId}
    {equivocation : Equivocation Hash AuthorityId Signature}
    (hlookup : self.votes.lookup id = some (.equivocation equivocation)) :
    equivocation.identity = id := by
  rw [h.lookup_eq] at hlookup
  obtain ⟨-, -, -, second, hsecond, -, hidentity, -⟩ := entryOf_eq_equivocation hlookup
  rw [hidentity]
  simpa using (List.mem_filter.mp hsecond).2

/-- The proofs are the equivocations of the map, each filed under the authority it names. -/
theorem Records.mem_intoEquivocationProofs (h : Records self votes)
    {proof : EquivocationProof Hash AuthorityId Signature} :
    proof ∈ self.intoEquivocationProofs ↔ proof.setId = self.authoritiesSetId ∧
      self.votes.lookup proof.equivocation.identity = some (.equivocation proof.equivocation) := by
  obtain ⟨setId, equivocation⟩ := proof
  simp only [intoEquivocationProofs, List.mem_filterMap]
  constructor
  · rintro ⟨⟨id, vote⟩, hmem, hproof⟩
    cases vote with
    | singleVote _ => cases hproof
    | equivocation equivocation =>
      cases hproof
      have hlookup := EntryMap.lookup_eq_some_of_mem h.nodup hmem
      rw [h.identity_eq hlookup]
      exact ⟨rfl, hlookup⟩
  · rintro ⟨rfl, hlookup⟩
    exact ⟨_, EntryMap.mem_of_lookup_eq_some hlookup, rfl⟩

/-- No two proofs accuse the same authority. -/
theorem Records.nodup_identities (h : Records self votes) :
    (self.intoEquivocationProofs.map fun proof ↦ proof.equivocation.identity).Nodup := by
  rw [intoEquivocationProofs, List.map_filterMap]
  have hkeys : self.votes.Pairwise fun a b ↦ a ∈ self.votes ∧ b ∈ self.votes ∧ a.1 ≠ b.1 :=
    (List.pairwise_map.mp h.nodup).imp_of_mem fun ha hb hab ↦ ⟨ha, hb, hab⟩
  refine hkeys.filterMap _ ?_
  rintro ⟨a, va⟩ ⟨b, vb⟩ ⟨ha, hb, hab⟩ x hx y hy
  cases va with
  | singleVote _ => cases hx
  | equivocation ea =>
    cases vb with
    | singleVote _ => cases hy
    | equivocation eb =>
      cases hx
      cases hy
      dsimp only
      rw [h.identity_eq (EntryMap.lookup_eq_some_of_mem h.nodup ha),
        h.identity_eq (EntryMap.lookup_eq_some_of_mem h.nodup hb)]
      exact hab

/-- An authority is accused exactly when two of its recorded votes are for different blocks. -/
theorem Records.exists_mem_intoEquivocationProofs_iff (h : Records self votes) (id : AuthorityId) :
    (∃ proof ∈ self.intoEquivocationProofs, proof.equivocation.identity = id) ↔
      ∃ first ∈ votes, ∃ second ∈ votes, first.id = id ∧ second.id = id ∧
        first.precommit ≠ second.precommit := by
  have hentry : (∃ equivocation, self.votes.lookup id = some (.equivocation equivocation)) ↔
      ∃ first ∈ votes, ∃ second ∈ votes, first.id = id ∧ second.id = id ∧
        first.precommit ≠ second.precommit := by
    simp only [h.lookup_eq, exists_entryOf_eq_equivocation_iff, List.mem_filter,
      decide_eq_true_eq]
    constructor
    · rintro ⟨first, ⟨hfirst, rfl⟩, second, ⟨hsecond, hid⟩, hne⟩
      exact ⟨first, hfirst, second, hsecond, rfl, hid, hne⟩
    · rintro ⟨first, hfirst, second, hsecond, hfirstId, hsecondId, hne⟩
      exact ⟨first, ⟨hfirst, hfirstId⟩, second, ⟨hsecond, hsecondId⟩, hne⟩
  rw [← hentry]
  constructor
  · rintro ⟨proof, hproof, rfl⟩
    exact ⟨_, (h.mem_intoEquivocationProofs.mp hproof).2⟩
  · rintro ⟨equivocation, hlookup⟩
    have hidentity := h.identity_eq hlookup
    refine ⟨⟨self.authoritiesSetId, equivocation⟩, ?_, hidentity⟩
    exact h.mem_intoEquivocationProofs.mpr ⟨rfl, hidentity ▸ hlookup⟩

/-- Each proof accuses its authority with two of its recorded votes, for different blocks. -/
theorem Records.of_mem_intoEquivocationProofs (h : Records self votes)
    {proof : EquivocationProof Hash AuthorityId Signature}
    (hproof : proof ∈ self.intoEquivocationProofs) :
    proof.setId = self.authoritiesSetId ∧ proof.equivocation.roundNumber = self.round ∧
      ∃ first ∈ votes, ∃ second ∈ votes, first.id = proof.equivocation.identity ∧
        second.id = proof.equivocation.identity ∧ first.precommit ≠ second.precommit ∧
        proof.equivocation.first = (first.precommit, first.signature) ∧
        proof.equivocation.second = (second.precommit, second.signature) := by
  obtain ⟨hsetId, hlookup⟩ := h.mem_intoEquivocationProofs.mp hproof
  have hentry := hlookup
  rw [h.lookup_eq] at hentry
  obtain ⟨hround, first, hfirst, second, hsecond, hne, -, hfirstVote, hsecondVote⟩ :=
    entryOf_eq_equivocation hentry
  simp only [List.mem_filter, decide_eq_true_eq] at hfirst hsecond
  exact ⟨hsetId, hround, first, hfirst.1, second, hsecond.1, hfirst.2, hsecond.2, hne, hfirstVote,
    hsecondVote⟩

end EquivocationsCollector

variable {Hash AuthorityId Signature : Type} [DecidableEq Hash] [DecidableEq AuthorityId]

/-- The callbacks of `EquivocationsCollector`: every vote goes on to the next check, and none is
an error. -/
def collectorVerifier :
    JustificationVerifier (EquivocationsCollector Hash AuthorityId Signature) Hash AuthorityId
      Signature where
  processRedundantVote self _ := .ok (.run, self)
  processKnownAuthorityVote self _ _ := .ok (.run, self)
  processUnknownAuthorityVote self _ := .ok self
  processUnrelatedAncestryVote self _ := .ok (.run, self)
  processInvalidSignatureVote self _ := .ok self
  processValidVote := EquivocationsCollector.processValidVote
  processRedundantVotesAncestries self _ := .ok self

namespace EquivocationsCollector

variable {Header : Type} [HeaderT Header Hash]
  (checkSignature : Precommit Hash → AuthorityId → Signature → ℕ → ℕ → Bool)

/-- `parse_justification` on `&mut self`: what it returns and the collector it leaves, or `none`
when the verification runs forever.  This is `verify_justification` with the collector's
callbacks, which keeps the votes its loop recorded when it fails after the loop; its target check
passes, since the target is the justification's own, and the callbacks never fail, so the loop
never ends in an error (`processPrecommits_collector`). -/
def parseJustification (self : EquivocationsCollector Hash AuthorityId Signature)
    (justification : GrandpaJustification Header Hash AuthorityId Signature) :
    Option (Except Error Unit × EquivocationsCollector Hash AuthorityId Signature) :=
  if self.round ≠ justification.round then some (.error .invalidRound, self)
  else
    match collectorVerifier.processPrecommits checkSignature justification.round
        self.authoritiesSetId self.authoritiesSet ⟨self, AncestryChain.new justification, 0⟩ 0
        justification.commit.precommits with
    | none => none
    | some (.error e) => some (.error (.justificationVerification e), self)
    | some (.ok st) =>
      if st.cumulativeWeight < self.authoritiesSet.threshold then
        some (.error (.justificationVerification .tooLowCumulativeWeight), st.verifier)
      else if !st.chain.isFullyVisited then
        match collectorVerifier.processRedundantVotesAncestries st.verifier st.chain.unvisited with
        | .error e => some (.error (.justificationVerification e), st.verifier)
        | .ok self => some (.ok (), self)
      else some (.ok (), st.verifier)

/-- `EquivocationsCollector::new`: a collector for the round of `baseJustification`, which it
parses first. -/
def new (authoritiesSetId : ℕ) (authoritiesSet : VoterSet AuthorityId)
    (baseJustification : GrandpaJustification Header Hash AuthorityId Signature) :
    Option (Except Error (EquivocationsCollector Hash AuthorityId Signature)) :=
  let checker : EquivocationsCollector Hash AuthorityId Signature :=
    ⟨baseJustification.round, authoritiesSetId, authoritiesSet, []⟩
  match checker.parseJustification checkSignature baseJustification with
  | none => none
  | some (.error e, _) => some (.error e)
  | some (.ok (), checker) => some (.ok checker)

/-- Further justifications parsed one after the other, whatever each parse returns: the
collector they leave, or `none` when a parse runs forever. -/
def parseJustifications (self : EquivocationsCollector Hash AuthorityId Signature) :
    List (GrandpaJustification Header Hash AuthorityId Signature) →
      Option (EquivocationsCollector Hash AuthorityId Signature)
  | [] => some self
  | justification :: justifications =>
    match self.parseJustification checkSignature justification with
    | none => none
    | some (_, self) => parseJustifications self justifications

/-! ## What a parse records -/

/-- A vote the collector records: one of a voter of the set, with a signature valid for the round
and the set id. -/
def validVote (round authoritiesSetId : ℕ) (authoritiesSet : VoterSet AuthorityId)
    (signed : SignedPrecommit Hash AuthorityId Signature) : Bool :=
  (authoritiesSet.get signed.id).isSome &&
    checkSignature signed.precommit signed.id signed.signature round authoritiesSetId

/-- The votes a parse of `justification` records: its valid votes, if it is of the collector's
round. -/
def recordedVotes (self : EquivocationsCollector Hash AuthorityId Signature)
    (justification : GrandpaJustification Header Hash AuthorityId Signature) :
    List (SignedPrecommit Hash AuthorityId Signature) :=
  if self.round = justification.round then
    justification.commit.precommits.filter
      (validVote checkSignature justification.round self.authoritiesSetId self.authoritiesSet)
  else []

/-- `signed` is a precommit of one of `justifications` of round `round` by a voter of
`authoritiesSet`, with a signature valid for the round and `authoritiesSetId`. -/
def CollectedVote (round authoritiesSetId : ℕ) (authoritiesSet : VoterSet AuthorityId)
    (justifications : List (GrandpaJustification Header Hash AuthorityId Signature))
    (signed : SignedPrecommit Hash AuthorityId Signature) : Prop :=
  ∃ justification ∈ justifications, justification.round = round ∧
    signed ∈ justification.commit.precommits ∧ (authoritiesSet.get signed.id).isSome ∧
    checkSignature signed.precommit signed.id signed.signature round authoritiesSetId = true

omit [DecidableEq Hash] [DecidableEq AuthorityId] [HeaderT Header Hash] in
theorem mem_flatMap_recordedVotes (self : EquivocationsCollector Hash AuthorityId Signature)
    (justifications : List (GrandpaJustification Header Hash AuthorityId Signature))
    (signed : SignedPrecommit Hash AuthorityId Signature) :
    signed ∈ justifications.flatMap (self.recordedVotes checkSignature) ↔
      CollectedVote checkSignature self.round self.authoritiesSetId self.authoritiesSet
        justifications signed := by
  simp only [List.mem_flatMap, recordedVotes, CollectedVote]
  constructor
  · rintro ⟨justification, hjustification, hmem⟩
    split_ifs at hmem with hround
    · obtain ⟨hsigned, hvalid⟩ := List.mem_filter.mp hmem
      simp only [validVote, Bool.and_eq_true, ← hround] at hvalid
      exact ⟨justification, hjustification, hround.symm, hsigned, hvalid⟩
    · cases hmem
  · rintro ⟨justification, hjustification, hround, hsigned, hvoter, hsignature⟩
    refine ⟨justification, hjustification, ?_⟩
    rw [if_pos hround.symm]
    exact List.mem_filter.mpr ⟨hsigned, by simp [validVote, hvoter, hround, hsignature]⟩

omit [HeaderT Header Hash] in
/-- Recording votes does not change which votes a parse records. -/
theorem recordedVotes_foldl (votes : List (SignedPrecommit Hash AuthorityId Signature))
    (self : EquivocationsCollector Hash AuthorityId Signature) :
    ((votes.foldl processValidVote self).recordedVotes checkSignature :
        GrandpaJustification Header Hash AuthorityId Signature → _) =
      self.recordedVotes checkSignature := by
  rw [foldl_processValidVote]
  rfl

variable {round authoritiesSetId : ℕ} {authoritiesSet : VoterSet AuthorityId}

/-- One precommit through the collector's callbacks: the loop goes on, with the vote recorded if
it is valid. -/
theorem processPrecommit_collector
    {st : LoopState (EquivocationsCollector Hash AuthorityId Signature) Hash} {precommitIdx : ℕ}
    {signed : SignedPrecommit Hash AuthorityId Signature}
    {result : Except HeaderChain.Error (LoopState (EquivocationsCollector Hash AuthorityId Signature) Hash)}
    (h : collectorVerifier.processPrecommit checkSignature round authoritiesSetId authoritiesSet st
      precommitIdx signed = some result) :
    ∃ st', result = .ok st' ∧ st'.verifier =
      if validVote checkSignature round authoritiesSetId authoritiesSet signed then
        st.verifier.processValidVote signed
      else st.verifier := by
  simp only [JustificationVerifier.processPrecommit, collectorVerifier, ite_self] at h
  cases hweight : authoritiesSet.get signed.id with
  | none =>
    simp only [hweight, Option.some.injEq] at h
    exact ⟨_, h.symm, by simp [validVote, hweight]⟩
  | some weight =>
    cases hroute : st.chain.ancestry signed.precommit.targetHash signed.precommit.targetNumber with
    | none => simp [hweight, hroute] at h
    | some maybeRoute =>
      cases hsignature :
          checkSignature signed.precommit signed.id signed.signature round authoritiesSetId with
      | false =>
        simp only [hweight, hroute, hsignature, Bool.not_false, if_true, Option.some.injEq] at h
        exact ⟨_, h.symm, by simp [validVote, hsignature]⟩
      | true =>
        have hvalid : validVote checkSignature round authoritiesSetId authoritiesSet signed := by
          simp [validVote, hweight, hsignature]
        rw [if_pos hvalid]
        cases maybeRoute with
        | none =>
          simp only [hweight, hroute, hsignature, Bool.not_true, Bool.false_eq_true, if_false,
            Option.some.injEq] at h
          exact ⟨_, h.symm, rfl⟩
        | some route =>
          simp only [hweight, hroute, hsignature, Bool.not_true, Bool.false_eq_true, if_false,
            Option.some.injEq] at h
          exact ⟨_, h.symm, rfl⟩

omit [HeaderT Header Hash] in
/-- With the collector's callbacks the loop of `verify_justification` never stops at a vote: it
records the valid votes, in order. -/
theorem processPrecommits_collector :
    ∀ (precommits : List (SignedPrecommit Hash AuthorityId Signature))
      {st : LoopState (EquivocationsCollector Hash AuthorityId Signature) Hash} {precommitIdx : ℕ}
      {result :
        Except HeaderChain.Error (LoopState (EquivocationsCollector Hash AuthorityId Signature) Hash)},
      collectorVerifier.processPrecommits checkSignature round authoritiesSetId authoritiesSet st
          precommitIdx precommits = some result →
        ∃ st', result = .ok st' ∧ st'.verifier =
          (precommits.filter (validVote checkSignature round authoritiesSetId authoritiesSet)).foldl
            processValidVote st.verifier
  | [], st, _, _, h => ⟨st, (Option.some.inj h).symm, rfl⟩
  | signed :: precommits, st, precommitIdx, result, h => by
    rw [JustificationVerifier.processPrecommits_cons] at h
    cases hstep : collectorVerifier.processPrecommit checkSignature round authoritiesSetId
        authoritiesSet st precommitIdx signed with
    | none =>
      rw [hstep] at h
      cases h
    | some result₁ =>
      obtain ⟨st₁, rfl, hst₁⟩ := processPrecommit_collector checkSignature hstep
      rw [hstep] at h
      obtain ⟨st', rfl, hst'⟩ := processPrecommits_collector precommits h
      refine ⟨st', rfl, ?_⟩
      rw [hst', hst₁]
      by_cases hvalid : validVote checkSignature round authoritiesSetId authoritiesSet signed
      · rw [if_pos hvalid, List.filter_cons_of_pos hvalid, List.foldl_cons]
      · rw [if_neg hvalid, List.filter_cons_of_neg hvalid]

variable {self self' : EquivocationsCollector Hash AuthorityId Signature}

/-- What a parse leaves, whatever it returns: the collector with the justification's votes
recorded. -/
theorem parseJustification_collector
    {justification : GrandpaJustification Header Hash AuthorityId Signature}
    {result : Except Error Unit}
    (h : self.parseJustification checkSignature justification = some (result, self')) :
    self' = (self.recordedVotes checkSignature justification).foldl processValidVote self := by
  unfold parseJustification at h
  by_cases hround : self.round = justification.round
  · rw [if_neg (not_not.mpr hround)] at h
    rw [recordedVotes, if_pos hround]
    cases hloop : collectorVerifier.processPrecommits checkSignature justification.round
        self.authoritiesSetId self.authoritiesSet ⟨self, AncestryChain.new justification, 0⟩ 0
        justification.commit.precommits with
    | none =>
      rw [hloop] at h
      cases h
    | some loopResult =>
      obtain ⟨st, rfl, hst⟩ := processPrecommits_collector checkSignature _ hloop
      rw [← hst]
      rw [hloop] at h
      simp only [collectorVerifier] at h
      split_ifs at h <;> exact (congrArg Prod.snd (Option.some.inj h)).symm
  · rw [if_pos hround] at h
    rw [recordedVotes, if_neg hround, List.foldl_nil]
    exact (congrArg Prod.snd (Option.some.inj h)).symm

/-- `new` leaves the empty collector of the base round with the base justification's votes
recorded. -/
theorem new_collector {authoritiesSetId : ℕ} {authoritiesSet : VoterSet AuthorityId}
    {baseJustification : GrandpaJustification Header Hash AuthorityId Signature}
    (h : new checkSignature authoritiesSetId authoritiesSet baseJustification = some (.ok self)) :
    self = ((⟨baseJustification.round, authoritiesSetId, authoritiesSet, []⟩ :
      EquivocationsCollector Hash AuthorityId Signature).recordedVotes checkSignature
        baseJustification).foldl processValidVote
          ⟨baseJustification.round, authoritiesSetId, authoritiesSet, []⟩ := by
  unfold new at h
  dsimp only at h
  split at h
  · cases h
  · cases h
  · rename_i checker hparse
    cases h
    exact parseJustification_collector checkSignature hparse

/-- A run of parses records the votes of each justification in turn, whatever each parse
returns. -/
theorem parseJustifications_eq :
    ∀ (justifications : List (GrandpaJustification Header Hash AuthorityId Signature))
      {self self' : EquivocationsCollector Hash AuthorityId Signature},
      self.parseJustifications checkSignature justifications = some self' →
        self' = (justifications.flatMap (self.recordedVotes checkSignature)).foldl processValidVote
          self
  | [], _, _, h => (Option.some.inj h).symm
  | justification :: justifications, self, self', h => by
    rw [parseJustifications] at h
    split at h
    · cases h
    · rename_i result self₁ hparse
      have hself₁ := parseJustification_collector checkSignature hparse
      subst hself₁
      rw [parseJustifications_eq justifications h, recordedVotes_foldl, List.flatMap_cons,
        List.foldl_append]

/-! ## The proofs the collector returns -/

/-- **The equivocation proofs** of the collector after the base justification and the others:
one per authority, for exactly the authorities with two different collected precommits, each in
the base justification's round and set and made of two such precommits with their signatures. -/
theorem intoEquivocationProofs_spec {authoritiesSetId : ℕ} {authoritiesSet : VoterSet AuthorityId}
    {baseJustification : GrandpaJustification Header Hash AuthorityId Signature}
    {justifications : List (GrandpaJustification Header Hash AuthorityId Signature)}
    {collector₀ collector : EquivocationsCollector Hash AuthorityId Signature}
    (hnew : new checkSignature authoritiesSetId authoritiesSet baseJustification =
      some (.ok collector₀))
    (hparse : collector₀.parseJustifications checkSignature justifications = some collector) :
    let Collected := CollectedVote checkSignature baseJustification.round authoritiesSetId
      authoritiesSet (baseJustification :: justifications)
    (collector.intoEquivocationProofs.map fun proof ↦ proof.equivocation.identity).Nodup ∧
      (∀ id, (∃ proof ∈ collector.intoEquivocationProofs, proof.equivocation.identity = id) ↔
        ∃ first second, Collected first ∧ Collected second ∧ first.id = id ∧ second.id = id ∧
          first.precommit ≠ second.precommit) ∧
      ∀ proof ∈ collector.intoEquivocationProofs, proof.setId = authoritiesSetId ∧
        proof.equivocation.roundNumber = baseJustification.round ∧
        ∃ first second, Collected first ∧ Collected second ∧
          first.id = proof.equivocation.identity ∧ second.id = proof.equivocation.identity ∧
          first.precommit ≠ second.precommit ∧
          proof.equivocation.first = (first.precommit, first.signature) ∧
          proof.equivocation.second = (second.precommit, second.signature) := by
  intro Collected
  set empty : EquivocationsCollector Hash AuthorityId Signature :=
    ⟨baseJustification.round, authoritiesSetId, authoritiesSet, []⟩
  set votes := (baseJustification :: justifications).flatMap (empty.recordedVotes checkSignature)
  have hcollector : collector = votes.foldl processValidVote empty := by
    rw [parseJustifications_eq checkSignature justifications hparse,
      new_collector checkSignature hnew, recordedVotes_foldl, ← List.foldl_append,
      ← List.flatMap_cons]
  have hrecords : Records collector votes := by
    have h := (records_nil baseJustification.round authoritiesSetId authoritiesSet).foldl votes
    rwa [List.nil_append, ← hcollector] at h
  have hround : collector.round = baseJustification.round := by
    rw [hcollector, foldl_processValidVote]
  have hsetId : collector.authoritiesSetId = authoritiesSetId := by
    rw [hcollector, foldl_processValidVote]
  have hmem : ∀ signed, signed ∈ votes ↔ Collected signed :=
    mem_flatMap_recordedVotes checkSignature empty _
  refine ⟨hrecords.nodup_identities, fun id ↦ ?_, fun proof hproof ↦ ?_⟩
  · rw [hrecords.exists_mem_intoEquivocationProofs_iff]
    constructor
    · rintro ⟨first, hfirst, second, hsecond, hfirstId, hsecondId, hne⟩
      exact ⟨first, second, (hmem first).mp hfirst, (hmem second).mp hsecond, hfirstId, hsecondId,
        hne⟩
    · rintro ⟨first, second, hfirst, hsecond, hfirstId, hsecondId, hne⟩
      exact ⟨first, (hmem first).mpr hfirst, second, (hmem second).mpr hsecond, hfirstId,
        hsecondId, hne⟩
  · obtain ⟨hproofSetId, hroundNumber, first, hfirst, second, hsecond, hvotes⟩ :=
      hrecords.of_mem_intoEquivocationProofs hproof
    exact ⟨hproofSetId.trans hsetId, hroundNumber.trans hround, first, second,
      (hmem first).mp hfirst, (hmem second).mp hsecond, hvotes⟩

/-- A justification of block `12` by authority `1` alone, which voted for `11` in
`optimizedTestJustification`: it has too little weight, and the vote still counts. -/
def conflictingTestJustification : GrandpaJustification TestHeader ℕ ℕ Unit :=
  ⟨0, ⟨12, 12, [⟨⟨12, 12⟩, (), 1⟩]⟩, []⟩

theorem intoEquivocationProofs_spec_conflicting :
    let checkSignature : Precommit ℕ → ℕ → Unit → ℕ → ℕ → Bool := fun _ _ _ _ _ ↦ true
    let collector₀ : EquivocationsCollector ℕ ℕ Unit :=
      ⟨0, 0, testVoters, [(1, .singleVote ⟨⟨11, 11⟩, (), 1⟩), (2, .singleVote ⟨⟨10, 10⟩, (), 2⟩)]⟩
    let collector : EquivocationsCollector ℕ ℕ Unit :=
      ⟨0, 0, testVoters, [(1, .equivocation ⟨0, 1, (⟨11, 11⟩, ()), (⟨12, 12⟩, ())⟩),
        (2, .singleVote ⟨⟨10, 10⟩, (), 2⟩)]⟩
    let Collected := CollectedVote checkSignature 0 0 testVoters
      [optimizedTestJustification, conflictingTestJustification]
    new checkSignature 0 testVoters optimizedTestJustification = some (.ok collector₀) ∧
      collector₀.parseJustifications checkSignature [conflictingTestJustification] =
        some collector ∧
      (collector.intoEquivocationProofs.map fun proof ↦ proof.equivocation.identity).Nodup ∧
      (∀ id, (∃ proof ∈ collector.intoEquivocationProofs, proof.equivocation.identity = id) ↔
        ∃ first second, Collected first ∧ Collected second ∧ first.id = id ∧ second.id = id ∧
          first.precommit ≠ second.precommit) ∧
      ∀ proof ∈ collector.intoEquivocationProofs, proof.setId = 0 ∧
        proof.equivocation.roundNumber = 0 ∧
        ∃ first second, Collected first ∧ Collected second ∧
          first.id = proof.equivocation.identity ∧ second.id = proof.equivocation.identity ∧
          first.precommit ≠ second.precommit ∧
          proof.equivocation.first = (first.precommit, first.signature) ∧
          proof.equivocation.second = (second.precommit, second.signature) := by
  intro checkSignature collector₀ collector Collected
  have hnew : new checkSignature 0 testVoters optimizedTestJustification = some (.ok collector₀) :=
    rfl
  have hparse : collector₀.parseJustifications checkSignature [conflictingTestJustification] =
      some collector :=
    rfl
  exact ⟨hnew, hparse, intoEquivocationProofs_spec checkSignature hnew hparse⟩

/-- The parse of `conflictingTestJustification` fails for too little weight. -/
example :
    ((⟨0, 0, testVoters, [(1, .singleVote ⟨⟨11, 11⟩, (), 1⟩), (2, .singleVote ⟨⟨10, 10⟩, (), 2⟩)]⟩ :
      EquivocationsCollector ℕ ℕ Unit).parseJustification (fun _ _ _ _ _ ↦ true)
        conflictingTestJustification).map Prod.fst =
      some (.error (.justificationVerification .tooLowCumulativeWeight)) :=
  rfl

end EquivocationsCollector

end HeaderChain
