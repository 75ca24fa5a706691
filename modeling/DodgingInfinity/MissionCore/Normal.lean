import DodgingInfinity.MissionCore.Record

/-!
# Validated content is in normal form

The path a validator is given only names the field in its refusal, and what a
validator returns is accepted again, unchanged.  So content that was validated
once has one digest, however often it is validated on the way to its record.
-/

namespace DodgingInfinity.MissionCore

open Checked

/-- What the check accepts is the same at every path. -/
def Placeless {α : Type} (check : α → String → Checks Unit) : Prop :=
  ∀ value first second, check value first = .ok () → check value second = .ok ()

/-- What the validator returns, it returns again, at every path. -/
def Normalizes {α : Type} (validator : α → String → Checks α) : Prop :=
  ∀ value first second clean, validator value first = .ok clean → validator clean second = .ok clean

/-! ## Checks -/

theorem requireStr_placeless (maxChars : Nat) (allowEmpty : Bool) : Placeless fun value location =>
      requireStr value location maxChars allowEmpty := by
  intro value first second h
  simpa only [requireStr, bind_eq_ok, exists_passed, failAt_eq_ok] using h

theorem requireHex_placeless (length : Nat) :
    Placeless fun value location => requireHex value location length := by
  intro value first second h
  simpa only [requireHex, requireStr, bind_eq_ok, exists_passed, failAt_eq_ok] using h

theorem requireContractKey_placeless : Placeless requireContractKey := by
  intro value first second h
  simpa only [requireContractKey, requireStr, bind_eq_ok, exists_passed, failAt_eq_ok] using h

theorem requireBoundedSeconds_placeless : Placeless requireBoundedSeconds := by
  intro value first second h
  simpa only [requireBoundedSeconds, requireAtLeast, bind_eq_ok, exists_passed,
    failAt_eq_ok] using h

theorem validateDependencyTarget_placeless :
    Placeless validateDependencyTarget := by
  intro value first second h
  cases value with
  | exactMission missionId revision digest =>
      simp only [validateDependencyTarget, requireId, requireAtLeast,
        bind_eq_ok, exists_passed, failAt_eq_ok] at h ⊢
      exact ⟨h.1, h.2.1, requireHex_placeless _ _ _ _ h.2.2⟩
  | exactResource resourceKey => exact requireContractKey_placeless _ _ _ h
  | eligibility digest => exact requireHex_placeless _ _ _ _ h

theorem validateRepositoryUrl_placeless : Placeless validateRepositoryUrl := by
  intro value first second h
  unfold validateRepositoryUrl at h ⊢
  split at h
  · exact h
  · split at h
    · cases h
    · simpa only [failAt_eq_ok] using h

/-! ## Lists of validated entries -/

theorem collect_length {α : Type} {validator : α → String → Checks α}
    {location : String} {index : Nat} {items clean : List α}
    (h : collect validator location index items = .ok clean) :
    clean.length = items.length := by
  induction items generalizing index clean with
  | nil =>
      obtain rfl := Except.ok.inj h
      rfl
  | cons item rest ih =>
      simp only [collect, bind_eq_ok, pure_eq_ok] at h
      obtain ⟨_, -, others, hothers, rfl⟩ := h
      simp [ih hothers]

/-- Every collected entry is one the validator returned. -/
theorem mem_of_collect {α : Type} {validator : α → String → Checks α}
    {location : String} {index : Nat} {items clean : List α}
    (h : collect validator location index items = .ok clean) {entry : α} (hentry : entry ∈ clean) :
    ∃ item path, validator item path = .ok entry := by
  induction items generalizing index clean with
  | nil =>
      obtain rfl := Except.ok.inj h
      cases hentry
  | cons item rest ih =>
      simp only [collect, bind_eq_ok, pure_eq_ok] at h
      obtain ⟨first, hfirst, others, hothers, rfl⟩ := h
      rcases List.mem_cons.mp hentry with rfl | hrest
      · exact ⟨item, _, hfirst⟩
      · exact ih hothers hrest

/-- Entries in normal form are collected as they are. -/
theorem collect_of_normal {α : Type} {validator : α → String → Checks α}
    {items : List α} (h : ∀ item ∈ items, ∀ path, validator item path = .ok item)
    (location : String) (index : Nat) :
    collect validator location index items = .ok items := by
  induction items generalizing index with
  | nil => rfl
  | cons item rest ih =>
      simp only [collect, bind_eq_ok, pure_eq_ok]
      exact ⟨item, h item (List.mem_cons_self ..) _, rest,
        ih (fun other hother => h other (List.mem_cons_of_mem _ hother)) _, rfl⟩

theorem requireKeyedEntries_normalizes {α : Type} (key : α → String)
    {validator : α → String → Checks α} (hvalidator : Normalizes validator)
    (maxItems : Nat) {value clean : List α} {first : String}
    (h : requireKeyedEntries key validator value first maxItems = .ok clean) (second : String) :
    requireKeyedEntries key validator clean second maxItems = .ok clean := by
  simp only [requireKeyedEntries, requireList, bind_eq_ok, exists_passed,
    failAt_eq_ok, pure_eq_ok, not_not] at h ⊢
  obtain ⟨hlength, collected, hcollected, hnodup, rfl⟩ := h
  have hnormal : ∀ item ∈ sortedBy key collected, ∀ path,
      validator item path = .ok item := by
    intro item hitem path
    rw [mem_sortedBy] at hitem
    obtain ⟨source, place, hsource⟩ := mem_of_collect hcollected hitem
    exact hvalidator source place path item hsource
  refine ⟨?_, sortedBy key collected, collect_of_normal hnormal second 0, ?_,
    sortedBy_sortedBy key collected⟩
  · rwa [length_sortedBy, collect_length hcollected]
  · exact (((sortedBy_perm key collected).map key).nodup_iff).mpr hnodup

theorem requireSortedKeys_normalizes {maxItems : Nat}
    {value clean : List String} {first : String}
    (h : requireSortedKeys value first maxItems = .ok clean)
    (second : String) : requireSortedKeys clean second maxItems = .ok clean := by
  simp only [requireSortedKeys, requireList, bind_eq_ok, exists_passed,
    failAt_eq_ok, pure_eq_ok, not_not] at h ⊢
  obtain ⟨hlength, hkeys, hnodup, rfl⟩ := h
  refine ⟨by rwa [length_sortedBy], ?_, (nodup_sortedBy id).mpr hnodup, sortedBy_sortedBy id value⟩
  refine checkElements_of_forall second 0 fun key hkey path => ?_
  rw [mem_sortedBy] at hkey
  obtain ⟨place, hplace⟩ := exists_check_of_checkElements hkeys hkey
  exact requireContractKey_placeless _ _ _ hplace

theorem requireSortedSubset_normalizes {α : Type} [DecidableEq α]
    {text : α → String} {value clean : List α} {first : String}
    {problem : Problem} {allowEmpty : Bool}
    (h : requireSortedSubset text value first problem allowEmpty = .ok clean) (second : String) :
    requireSortedSubset text clean second problem allowEmpty = .ok clean := by
  simp only [requireSortedSubset, bind_eq_ok, exists_passed, failAt_eq_ok,
    pure_eq_ok, not_not, not_and] at h ⊢
  obtain ⟨hnodup, hsome, rfl⟩ := h
  refine ⟨(nodup_sortedBy text).mpr hnodup, fun hempty hnil => ?_, sortedBy_sortedBy text value⟩
  exact hsome hempty ((sortedBy_eq_nil text).mp hnil)

/-! ## The proof contract -/

theorem validateRequirement_normalizes : Normalizes validateRequirement := by
  intro value first second clean h
  simp only [validateRequirement, bind_eq_ok, exists_passed, failAt_eq_ok,
    pure_eq_ok, not_not] at h ⊢
  obtain ⟨hkinds, hnodup, hsome, hkey, hdescription, keys, hkeys, hseconds, rfl⟩ := h
  refine ⟨?_, (nodup_sortedBy EvidenceKind.text).mpr hnodup, ?_,
    requireContractKey_placeless _ _ _ hkey, requireStr_placeless _ _ _ _ _ hdescription, keys,
    requireSortedKeys_normalizes hkeys _, requireBoundedSeconds_placeless _ _ _ hseconds, ?_⟩
  · simpa only [mem_sortedBy] using hkinds
  · intro hnil
    exact hsome ((sortedBy_eq_nil EvidenceKind.text).mp hnil)
  · rw [sortedBy_sortedBy]

theorem validateRequiredArtifact_normalizes :
    Normalizes validateRequiredArtifact := by
  intro value first second clean h
  simp only [validateRequiredArtifact, bind_eq_ok, exists_passed, pure_eq_ok] at h ⊢
  obtain ⟨hkey, hdigest, rfl⟩ := h
  exact ⟨requireContractKey_placeless _ _ _ hkey, requireHex_placeless _ _ _ _ hdigest, trivial⟩

theorem validateRequiredDependency_normalizes :
    Normalizes validateRequiredDependency := by
  intro value first second clean h
  simp only [validateRequiredDependency, bind_eq_ok, exists_passed, failAt_eq_ok, pure_eq_ok] at h ⊢
  obtain ⟨htarget, hform, hkey, rfl⟩ := h
  exact ⟨validateDependencyTarget_placeless _ _ _ htarget, hform,
    requireContractKey_placeless _ _ _ hkey, trivial⟩

theorem validateRequiredReadiness_normalizes :
    Normalizes validateRequiredReadiness := by
  intro value first second clean h
  simp only [validateRequiredReadiness, bind_eq_ok, exists_passed, pure_eq_ok] at h ⊢
  obtain ⟨hkey, hseconds, rfl⟩ := h
  exact ⟨requireContractKey_placeless _ _ _ hkey,
    requireBoundedSeconds_placeless _ _ _ hseconds, trivial⟩

theorem validateProofContract_normalizes :
    Normalizes validateProofContract := by
  intro value first second clean h
  simp only [validateProofContract, validateBoundedCount, requireAtLeast,
    bind_eq_ok, exists_passed, failAt_eq_ok, pure_eq_ok] at h ⊢
  obtain ⟨requirements, hrequirements, hsome, artifacts, hartifacts, hcovered,
    hused, dependencies, hdependencies, readiness, hreadiness, permitted,
    hpermitted, hattempts, hcheckpoints, rfl⟩ := h
  exact ⟨requirements, requireKeyedEntries_normalizes _ validateRequirement_normalizes _
      hrequirements _, hsome, artifacts,
    requireKeyedEntries_normalizes _ validateRequiredArtifact_normalizes _
      hartifacts _, hcovered, hused, dependencies,
    requireKeyedEntries_normalizes _ validateRequiredDependency_normalizes _
      hdependencies _, readiness,
    requireKeyedEntries_normalizes _ validateRequiredReadiness_normalizes _
      hreadiness _, permitted, requireSortedKeys_normalizes hpermitted _,
    hattempts, hcheckpoints, rfl⟩

/-! ## Proposals -/

/-- A validated proposal validates again, to itself. -/
theorem validateProposal_normalizes : Normalizes validateProposal := by
  intro value first second clean h
  simp only [validateProposal, bind_eq_ok, exists_passed] at h ⊢
  obtain ⟨hobjective, hcontext, hurl, hscope, actions, hactions, hrest⟩ := h
  have hactions := requireSortedSubset_normalizes hactions (second ++ ".requested_action_scope")
  cases hcontract : value.proofContract with
  | none =>
      simp only [hcontract, pure_eq_ok] at hrest
      subst hrest
      exact ⟨requireStr_placeless _ _ _ _ _ hobjective, requireStr_placeless _ _ _ _ _ hcontext,
        validateRepositoryUrl_placeless _ _ _ hurl,
        requireStr_placeless _ _ _ _ _ hscope, actions, hactions, by
          simp only [pure_eq_ok]⟩
  | some contract =>
      simp only [hcontract, bind_eq_ok, pure_eq_ok] at hrest
      obtain ⟨validated, hvalidated, rfl⟩ := hrest
      refine ⟨requireStr_placeless _ _ _ _ _ hobjective, requireStr_placeless _ _ _ _ _ hcontext,
        validateRepositoryUrl_placeless _ _ _ hurl,
        requireStr_placeless _ _ _ _ _ hscope, actions, hactions, ?_⟩
      simp only [bind_eq_ok, pure_eq_ok]
      exact ⟨validated, validateProofContract_normalizes _ _ _ validated hvalidated, rfl⟩

/-- Validating a proposal before digesting it changes no digest. -/
theorem proposalDigest_of_validated [JsonDigest] {proposal clean : Proposal}
    (h : validateProposal proposal "proposal" = .ok clean) :
    proposalDigest clean = proposalDigest proposal := by
  have hagain := validateProposal_normalizes _ _ "proposal" _ h
  unfold proposalDigest
  rw [hagain, h]

end DodgingInfinity.MissionCore
