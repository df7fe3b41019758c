import SoloParaBridge.Grandpa.Imports

/-!
# The authorities the GRANDPA pallet verifies with

`Imports` counts the changes in the set id.  This module follows the authorities themselves: a
header that schedules a change hands the set over to the authorities it names, so that after a
run the pallet holds those of the last imported header that scheduled one, or the initial ones
(`Config.authoritiesAfter`).  The initialization sets this up (`State.initializeCall_authorities`)
and every call keeps it, with the header it imported (`State.dispatch_authorities`).  Only the
headers that schedule a change count (`Config.authoritiesAfter_filter`).
-/

set_option autoImplicit false

namespace Grandpa

open HeaderChain
open LogicProvider (Origin)

variable {Header Hash AuthorityId Signature AccountId : Type}

namespace Config

variable (T : Config Header Hash AuthorityId Signature)

/-- The authorities once `headers` are imported after a header whose authorities were
`initial`. -/
def authoritiesAfter (initial : List (AuthorityId × ℕ)) (headers : List Header) :
    List (AuthorityId × ℕ) :=
  headers.foldl (fun authorities header ↦
    ((T.findScheduledChange header).map ScheduledChange.nextAuthorities).getD authorities) initial

theorem authoritiesAfter_append (initial : List (AuthorityId × ℕ)) (headers headers' : List Header) :
    T.authoritiesAfter initial (headers ++ headers') =
      T.authoritiesAfter (T.authoritiesAfter initial headers) headers' :=
  List.foldl_append

/-- Only the headers that schedule a change matter. -/
theorem authoritiesAfter_filter (initial : List (AuthorityId × ℕ)) (headers : List Header) :
    T.authoritiesAfter initial
        (headers.filter fun header ↦ (T.findScheduledChange header).isSome) =
      T.authoritiesAfter initial headers := by
  induction headers generalizing initial with
  | nil => rfl
  | cons header headers ih =>
    cases hchange : T.findScheduledChange header with
    | none =>
      rw [List.filter_cons_of_neg (by simp [hchange]), ih]
      simp only [authoritiesAfter, List.foldl_cons, hchange, Option.map_none, Option.getD_none]
    | some change =>
      rw [List.filter_cons_of_pos (by simp [hchange])]
      simp only [authoritiesAfter, List.foldl_cons, hchange, Option.map_some, Option.getD_some]
      exact ih change.nextAuthorities

end Config

namespace State

variable {T : Config Header Hash AuthorityId Signature} {s s' : State T AccountId}

/-- An enacted change installs the authorities it names. -/
theorem tryEnactAuthorityChange_authorities {header : Header} {currentSetId : ℕ} {enacted : Bool}
    (h : s.tryEnactAuthorityChange header currentSetId = .ok (enacted, s')) :
    s'.currentAuthoritySet.authorities.toList =
      ((T.findScheduledChange header).map ScheduledChange.nextAuthorities).getD
        s.currentAuthoritySet.authorities.toList := by
  rw [tryEnactAuthorityChange] at h
  split at h
  · cases h
  split at h
  · rename_i hnone
    cases h
    rw [hnone, Option.map_none, Option.getD_none]
  · rename_i change hchange
    split at h
    · cases h
    split at h
    · cases h
    · rename_i authorities hfrom
      cases h
      rw [hchange, Option.map_some, Option.getD_some]
      exact BoundedVec.tryFrom_eq_some hfrom

variable [HeaderT Header Hash] [DecidableEq Hash] [DecidableEq AuthorityId]

theorem submitFinalityProof_authorities {origin : Origin AccountId} {header : Header}
    {justification : GrandpaJustification Header Hash AuthorityId Signature}
    (h : s.submitFinalityProof origin header justification = some (.ok s')) :
    s'.currentAuthoritySet.authorities.toList =
      ((T.findScheduledChange header).map ScheduledChange.nextAuthorities).getD
        s.currentAuthoritySet.authorities.toList := by
  obtain ⟨-, -, -, -, enacted, s₁, henact, rfl⟩ := submitFinalityProof_eq_ok h
  rw [insertHeader_currentAuthoritySet, apply_ite currentAuthoritySet,
    useFreeMandatoryHeader_currentAuthoritySet, ite_self]
  exact tryEnactAuthorityChange_authorities henact

variable [DecidableEq AccountId]

omit [DecidableEq AuthorityId] in
/-- The initialization installs the initial authorities. -/
theorem initializeCall_authorities {origin : Origin AccountId}
    {initData : InitializationData Header AuthorityId} (h : s.initializeCall origin initData = .ok s') :
    s'.currentAuthoritySet.authorities.toList = initData.authorityList := by
  obtain ⟨-, -, authoritySet, hnew, rfl⟩ := initializeCall_eq_ok h
  exact (StoredAuthoritySet.tryNew_eq_ok hnew).1

/-- **A call hands the authorities over along the header it imports**; in an initialized pallet,
no other call touches them. -/
theorem dispatch_authorities (hbest : s.bestFinalized ≠ none)
    {call : Call Header Hash AuthorityId Signature AccountId} {r : Exec Error (State T AccountId)}
    (h : s.dispatch call = some r) :
    (Exec.transactional s r).currentAuthoritySet.authorities.toList =
      T.authoritiesAfter s.currentAuthoritySet.authorities.toList
        (if r.isOk then call.finalityTarget?.toList else []) := by
  cases r with
  | err e s' => rfl
  | ok s' =>
    rw [Exec.transactional_ok, Exec.isOk_ok, if_pos rfl]
    cases call with
    | submitFinalityProof origin header justification => exact submitFinalityProof_authorities h
    | initializeCall origin initData =>
      exact absurd (initializeCall_eq_ok (Option.some.inj h)).2.1 hbest
    | setOwner origin newOwner =>
      rw [setOwner_eq_ok (Option.some.inj h)]
      rfl
    | setOperatingMode origin operatingMode =>
      rw [setOperatingMode_eq_ok (Option.some.inj h)]
      rfl
    | onInitialize =>
      cases h
      rfl
    | onFinalize =>
      cases h
      rfl

end State

end Grandpa
