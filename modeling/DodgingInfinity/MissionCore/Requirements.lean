import DodgingInfinity.Library.Counting
import DodgingInfinity.MissionCore.Progress

/-!
# When a requirement is satisfied

The status of a requirement is the first of its checks that fails.  What is left
when none fails is stated here without them: what the accepted evidence under one
activation must be, all of it, for the requirement to be met.
-/

namespace DodgingInfinity.MissionCore

/-- Evidence of a requirement that was accepted under an activation, and not
invalidated since. -/
structure AcceptedUnder (requirement : Requirement) (state : StateRecord)
    (activationId : String) (evidence : Evidence) : Prop where
  recorded : evidence ∈ state.evidence
  requirement_eq : evidence.requirementKey = requirement.key
  activation_eq : evidence.activationId = activationId
  accepted : evidence.acceptance ≠ none
  standing : evidence.invalidation = none

/-- An artifact that is what the contract declares for a key. -/
structure Covers (declared : RequiredArtifact) (artifact : Artifact) : Prop where
  key_eq : artifact.key = some declared.key
  role_eq : artifact.role = declared.role
  available : artifact.available = true
  digest_eq : artifact.contentDigestSha256 = some declared.expectedContentDigestSha256

/-- The evidence references an artifact of the state that covers what the contract
declares for a key. -/
def ReferencesCover (contract : ProofContract) (state : StateRecord)
    (evidence : Evidence) (key : String) : Prop :=
  ∃ declared artifactId artifact, (requiredArtifactIndex contract).get? key = some declared ∧
    artifactId ∈ evidence.artifactIds ∧
    artifactById state artifactId = some artifact ∧ Covers declared artifact

/-- The acceptances of a requirement under an activation, as they are recorded. -/
def acceptancesUnder (requirement : Requirement) (state : StateRecord)
    (activationId : String) : List Acceptance :=
  ((requirementCandidates requirement state activationId).filter isAccepted).filterMap
    Evidence.acceptance

/-- The acceptance with the highest sequence, the one recorded first where several
share it. -/
structure Latest (acceptances : List Acceptance) (latest : Acceptance) : Prop where
  recorded : latest ∈ acceptances
  highest : ∀ other ∈ acceptances, other.stamp.sequence ≤ latest.stamp.sequence
  first : ∀ other ∈ acceptances, latest.stamp.sequence ≤ other.stamp.sequence →
    acceptances.idxOf latest ≤ acceptances.idxOf other

/-- What all of the accepted evidence must be for the requirement to be met. -/
structure RequirementMet (contract : ProofContract) (requirement : Requirement)
    (state : StateRecord) (activationId : String) (now : Nat) : Prop where
  some_accepted : ∃ evidence, AcceptedUnder requirement state activationId evidence
  one_digest : ∀ first second, AcceptedUnder requirement state activationId first →
    AcceptedUnder requirement state activationId second →
    first.contentDigestSha256 = second.contentDigestSha256
  kinds : ∀ evidence, AcceptedUnder requirement state activationId evidence →
    evidence.kind ∈ requirement.evidenceKinds ∧ evidence.kind.satisfying = true
  digests : ∀ evidence acceptance, AcceptedUnder requirement state activationId evidence →
    evidence.acceptance = some acceptance →
    acceptance.contentDigestSha256 = evidence.contentDigestSha256
  artifacts : ∀ evidence, AcceptedUnder requirement state activationId evidence →
    ∀ key ∈ requirement.requiredArtifactKeys, ReferencesCover contract state evidence key
  fresh : ∃ latest, Latest (acceptancesUnder requirement state activationId) latest ∧
    latest.acceptedAt ≤ now ∧ now ≤ latest.acceptedAt + requirement.maxEvidenceAgeSeconds

section

variable {contract : ProofContract} {requirement : Requirement} {state : StateRecord}
  {activationId : String} {now : Nat} {evidence : Evidence}

theorem mem_accepted : evidence ∈ (requirementCandidates requirement state
      activationId).filter isAccepted ↔
    AcceptedUnder requirement state activationId evidence := by
  simp only [requirementCandidates, isAccepted, List.mem_filter, decide_eq_true_eq,
    Option.isSome_iff_ne_none]
  constructor
  · rintro ⟨⟨hrecorded, hrequirement, hactivation⟩, haccepted, hstanding⟩
    exact ⟨hrecorded, hrequirement, hactivation, haccepted, hstanding⟩
  · rintro ⟨hrecorded, hrequirement, hactivation, haccepted, hstanding⟩
    exact ⟨⟨hrecorded, hrequirement, hactivation⟩, haccepted, hstanding⟩

theorem artifactCovers_eq_true {artifact : Option Artifact}
    {declared : RequiredArtifact} : artifactCovers artifact declared = true ↔
      ∃ held, artifact = some held ∧ Covers declared held := by
  cases artifact with
  | none => simp [artifactCovers]
  | some held =>
      simp only [artifactCovers, decide_eq_true_eq, Option.some.injEq, exists_eq_left']
      constructor
      · rintro ⟨hkey, hrole, havailable, hdigest⟩
        exact ⟨hkey, hrole, havailable, hdigest⟩
      · rintro ⟨hkey, hrole, havailable, hdigest⟩
        exact ⟨hkey, hrole, havailable, hdigest⟩

theorem referencesRequired_eq_true {key : String} :
    referencesRequired contract evidence state key = true ↔
      ReferencesCover contract state evidence key := by
  unfold referencesRequired ReferencesCover
  split
  · rename_i hundeclared
    simp [hundeclared]
  · rename_i declared hdeclared
    simp only [List.any_eq_true, artifactCovers_eq_true, hdeclared, Option.some.injEq]
    constructor
    · rintro ⟨artifactId, hreferenced, artifact, hheld, hcovers⟩
      exact ⟨declared, artifactId, artifact, rfl, hreferenced, hheld, hcovers⟩
    · rintro ⟨_, artifactId, artifact, rfl, hreferenced, hheld, hcovers⟩
      exact ⟨artifactId, hreferenced, artifact, hheld, hcovers⟩

/-- An accepted record matches its requirement exactly when each of its three checks
does. -/
theorem evidenceMismatch_eq_none : evidenceMismatch contract requirement evidence state = none ↔
      (evidence.kind ∈ requirement.evidenceKinds ∧ evidence.kind.satisfying = true) ∧
      evidence.acceptance.map Acceptance.contentDigestSha256 = some evidence.contentDigestSha256 ∧
      ∀ key ∈ requirement.requiredArtifactKeys,
        ReferencesCover contract state evidence key := by
  unfold evidenceMismatch
  split
  · rename_i hkind
    constructor
    · intro h
      cases h
    · rintro ⟨⟨hdeclared, hsatisfying⟩, -, -⟩
      rcases hkind with hundeclared | hunsatisfying
      · exact absurd hdeclared hundeclared
      · rw [hsatisfying] at hunsatisfying
        cases hunsatisfying
  · rename_i hkind
    rw [not_or, not_not, Bool.not_eq_false] at hkind
    split
    · rename_i hdigest
      constructor
      · intro h
        cases h
      · rintro ⟨-, hsame, -⟩
        exact absurd hsame hdigest
    · rename_i hdigest
      simp only [Option.map_eq_none_iff, List.find?_eq_none, decide_eq_true_eq,
        Bool.not_eq_false, referencesRequired_eq_true]
      exact ⟨fun h => ⟨hkind, not_not.mp hdigest, h⟩, fun h => h.2.2⟩

theorem latestAcceptance_eq_some {latest : Acceptance} :
    latestAcceptance ((requirementCandidates requirement state activationId).filter
        isAccepted) = some latest ↔
      Latest (acceptancesUnder requirement state activationId) latest := by
  unfold latestAcceptance
  rw [List.argmax_eq_some_iff]
  constructor
  · rintro ⟨hrecorded, hhighest, hfirst⟩
    exact ⟨hrecorded, hhighest, hfirst⟩
  · rintro ⟨hrecorded, hhighest, hfirst⟩
    exact ⟨hrecorded, hhighest, hfirst⟩

theorem outsideAge_eq_false {recordedAt maxAgeSeconds : Nat} :
    outsideAge now recordedAt maxAgeSeconds = false ↔
      recordedAt ≤ now ∧ now ≤ recordedAt + maxAgeSeconds := by
  simp only [outsideAge, decide_eq_false_iff_not]
  omega

/-- Every accepted record matches exactly when each of the three checks holds of all
of them. -/
theorem forall_evidenceMismatch_eq_none :
    (∀ evidence ∈ (requirementCandidates requirement state activationId).filter
        isAccepted, evidenceMismatch contract requirement evidence state = none) ↔
      (∀ evidence, AcceptedUnder requirement state activationId evidence →
        evidence.kind ∈ requirement.evidenceKinds ∧ evidence.kind.satisfying = true) ∧
      (∀ evidence acceptance, AcceptedUnder requirement state activationId evidence →
        evidence.acceptance = some acceptance →
        acceptance.contentDigestSha256 = evidence.contentDigestSha256) ∧
      ∀ evidence, AcceptedUnder requirement state activationId evidence →
        ∀ key ∈ requirement.requiredArtifactKeys,
          ReferencesCover contract state evidence key := by
  simp only [mem_accepted, evidenceMismatch_eq_none]
  constructor
  · intro hmatches
    refine ⟨fun evidence hevidence => (hmatches evidence hevidence).1, ?_,
      fun evidence hevidence => (hmatches evidence hevidence).2.2⟩
    intro evidence acceptance hevidence hacceptance
    have hdigest := (hmatches evidence hevidence).2.1
    rw [hacceptance, Option.map_some, Option.some.injEq] at hdigest
    exact hdigest
  · rintro ⟨hkinds, hdigests, hartifacts⟩ evidence hevidence
    obtain ⟨acceptance, hacceptance⟩ :=
      Option.ne_none_iff_exists'.mp hevidence.accepted
    refine ⟨hkinds evidence hevidence, ?_, hartifacts evidence hevidence⟩
    rw [hacceptance, Option.map_some, hdigests evidence acceptance hevidence hacceptance]

theorem not_met_of_none_accepted
    (hnone : (requirementCandidates requirement state activationId).filter
      isAccepted = []) :
    ¬ RequirementMet contract requirement state activationId now := by
  intro hmet
  obtain ⟨evidence, hevidence⟩ := hmet.some_accepted
  have hmem := mem_accepted.mpr hevidence
  rw [hnone] at hmem
  cases hmem

/-- What is left to judge once there is accepted evidence, of one digest, that
matches: the age of the latest acceptance. -/
theorem met_iff_fresh (haccepted : (requirementCandidates requirement state activationId).filter
      isAccepted ≠ []) (hdigests : (((requirementCandidates requirement state activationId).filter
      isAccepted).map Evidence.contentDigestSha256).dedup.length ≤ 1)
    (hmatches : ∀ evidence ∈ (requirementCandidates requirement state
      activationId).filter isAccepted,
      evidenceMismatch contract requirement evidence state = none) :
    RequirementMet contract requirement state activationId now ↔
      ∃ latest, Latest (acceptancesUnder requirement state activationId) latest ∧
        latest.acceptedAt ≤ now ∧
        now ≤ latest.acceptedAt + requirement.maxEvidenceAgeSeconds := by
  constructor
  · intro hmet
    exact hmet.fresh
  · intro hfresh
    obtain ⟨evidence, hmem⟩ := List.exists_mem_of_ne_nil _ haccepted
    obtain ⟨hkinds, hsame, hartifacts⟩ := forall_evidenceMismatch_eq_none.mp hmatches
    refine ⟨⟨evidence, mem_accepted.mp hmem⟩, ?_, hkinds, hsame, hartifacts, hfresh⟩
    intro first second hfirst hsecond
    exact dedup_length_le_one.mp hdigests first (mem_accepted.mpr hfirst) second
      (mem_accepted.mpr hsecond)

/-- No check of the status fails exactly when the requirement is met. -/
theorem requirementStatus_eq_satisfied :
    requirementStatus contract requirement state activationId now = .satisfied ↔
      RequirementMet contract requirement state activationId now := by
  unfold requirementStatus
  dsimp only
  split_ifs with hcandidates haccepted hsubmitted hdigests hmismatch
  · have hnone : (requirementCandidates requirement state activationId).filter
        isAccepted = [] := by
      rw [hcandidates, List.filter_nil]
    simp only [false_iff]
    exact not_met_of_none_accepted hnone
  · simp only [false_iff]
    exact not_met_of_none_accepted haccepted
  · simp only [false_iff]
    exact not_met_of_none_accepted haccepted
  · simp only [false_iff]
    intro hmet
    have hfew : (((requirementCandidates requirement state activationId).filter
        isAccepted).map Evidence.contentDigestSha256).dedup.length ≤ 1 := by
      apply dedup_length_le_one.mpr
      intro first hfirst second hsecond
      exact hmet.one_digest first second (mem_accepted.mp hfirst) (mem_accepted.mp hsecond)
    omega
  · simp only [false_iff]
    intro hmet
    obtain ⟨evidence, hmem, hmismatched⟩ := hmismatch
    have hall := forall_evidenceMismatch_eq_none.mpr ⟨hmet.kinds, hmet.digests, hmet.artifacts⟩
    exact hmismatched (hall evidence hmem)
  · have hmatches : ∀ evidence ∈ (requirementCandidates requirement state
        activationId).filter isAccepted,
        evidenceMismatch contract requirement evidence state = none := by
      intro evidence hmem
      by_contra hne
      exact hmismatch ⟨evidence, hmem, hne⟩
    rw [met_iff_fresh haccepted (by omega) hmatches]
    cases hlatest : latestAcceptance ((requirementCandidates requirement state
        activationId).filter isAccepted) with
    | none =>
        simp only [reduceCtorEq, false_iff]
        rintro ⟨latest, hmost, -⟩
        rw [latestAcceptance_eq_some.mpr hmost] at hlatest
        cases hlatest
    | some latest =>
        have hmost := latestAcceptance_eq_some.mp hlatest
        dsimp only
        split_ifs with houtside
        · simp only [false_iff]
          rintro ⟨other, hother, hbounds⟩
          have heq := latestAcceptance_eq_some.mpr hother
          rw [hlatest, Option.some.injEq] at heq
          subst heq
          rw [outsideAge_eq_false.mpr hbounds] at houtside
          cases houtside
        · simp only [true_iff]
          rw [Bool.not_eq_true] at houtside
          exact ⟨latest, hmost, outsideAge_eq_false.mp houtside⟩

/-- A narrative claim or a process exit is no evidence a met requirement rests on. -/
theorem RequirementMet.kind_ne (hmet : RequirementMet contract requirement state activationId now)
    (hevidence : AcceptedUnder requirement state activationId evidence) :
    evidence.kind ≠ .narrativeClaim ∧ evidence.kind ≠ .processExit := by
  have hsatisfying := (hmet.kinds evidence hevidence).2
  constructor
  · intro hkind
    rw [hkind] at hsatisfying
    cases hsatisfying
  · intro hkind
    rw [hkind] at hsatisfying
    cases hsatisfying

end

/-- A requirement is SATISFIED exactly when every condition on its accepted evidence
holds, and never by narrative claims and process exits alone. -/
theorem requirement_satisfied_exactly (contract : ProofContract)
    (requirement : Requirement) (state : StateRecord) (activationId : String) (now : Nat) :
    (requirementStatus contract requirement state activationId now = .satisfied ↔
      RequirementMet contract requirement state activationId now) ∧
    ((∀ evidence, AcceptedUnder requirement state activationId evidence →
        evidence.kind = .narrativeClaim ∨ evidence.kind = .processExit) →
      requirementStatus contract requirement state activationId now ≠ .satisfied) := by
  refine ⟨requirementStatus_eq_satisfied, ?_⟩
  intro halone hsatisfied
  have hmet := requirementStatus_eq_satisfied.mp hsatisfied
  obtain ⟨evidence, hevidence⟩ := hmet.some_accepted
  have hkinds := hmet.kind_ne hevidence
  rcases halone evidence hevidence with hnarrative | hexit
  · exact hkinds.1 hnarrative
  · exact hkinds.2 hexit

end DodgingInfinity.MissionCore
