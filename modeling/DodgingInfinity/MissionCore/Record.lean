import DodgingInfinity.Canonical
import DodgingInfinity.Json
import DodgingInfinity.MissionCore.Problem

/-!
# Mission identity, proposals, lifecycle and provenance

The shapes every Mission record shares: the identifier grammar, the closed
vocabularies, the proposal with its proof contract, the lifecycle table, the
caller contexts and the provenance block built from one.
-/

namespace DodgingInfinity.MissionCore

open Checked

/-! ## Identity -/

inductive IdPrefix where
  | mission
  | request
  | decision
  | authorization
  | ledgerEntry
  | proofContract
  | evidence
  | artifact
  | blocker
  | claim
  | checkpoint
  | dependency
  | stateOperation
  deriving DecidableEq

def IdPrefix.text : IdPrefix → String
  | .mission => "mn"
  | .request => "mq"
  | .decision => "md"
  | .authorization => "ma"
  | .ledgerEntry => "ml"
  | .proofContract => "mt"
  | .evidence => "mv"
  | .artifact => "mf"
  | .blocker => "mb"
  | .claim => "mc"
  | .checkpoint => "mk"
  | .dependency => "mx"
  | .stateOperation => "mo"

def idHexChars : Nat := 32

def idHexAlphabet : List Char := "0123456789abcdef".toList

/-- Why a value is not an identifier with the given prefix. -/
inductive IdProblem where
  | length
  | start
  | alphabet
  deriving DecidableEq

def idProblem (value : String) (kind : IdPrefix) : Option IdProblem :=
  let start := kind.text.toList ++ ['-']
  if value.toList.length ≠ start.length + idHexChars then some .length
  else if value.toList.take start.length ≠ start then some .start
  else if ∃ character ∈ value.toList.drop start.length,
      character ∉ idHexAlphabet then some .alphabet
  else none

def requireId (value : String) (kind : IdPrefix) (location : String) : Checks Unit :=
  failAt (idProblem value kind ≠ none) .idGrammar location

/-! ## Generic validators -/

def requireStr (value location : String) (maxChars : Nat)
    (allowEmpty : Bool) : Checks Unit := do
  failAt (allowEmpty = false ∧ value.toList = []) .badValue location
  failAt (value.toList.length > maxChars) .tooLarge location

def requireOptionalStr (value : Option String) (location : String) (maxChars : Nat) : Checks Unit :=
  match value with
  | none => .ok ()
  | some text => requireStr text location maxChars false

def requireAtLeast (value minimum : Nat) (location : String) : Checks Unit :=
  failAt (value < minimum) .badValue location

def requireHex (value location : String) (length : Nat) : Checks Unit := do
  requireStr value location length false
  failAt (value.toList.length ≠ length ∨
    ∃ character ∈ value.toList, character ∉ idHexAlphabet) .badValue location

def requireOptionalHex (value : Option String) (location : String) (length : Nat) : Checks Unit :=
  match value with
  | none => .ok ()
  | some text => requireHex text location length

/-- A digest that must be present; a null one has the wrong type. -/
def requirePresentHex (value : Option String) (location : String) (length : Nat) : Checks Unit :=
  match value with
  | none => .error ⟨.badType, location⟩
  | some text => requireHex text location length

def requireOptionalId (value : Option String) (kind : IdPrefix) (location : String) : Checks Unit :=
  match value with
  | none => .ok ()
  | some text => requireId text kind location

/-- A duplicate-free list over a closed vocabulary, returned sorted by the
text of its entries. -/
def requireSortedSubset {α : Type} [DecidableEq α] (text : α → String)
    (value : List α) (location : String) (problem : Problem)
    (allowEmpty : Bool) : Checks (List α) := do
  failAt (¬ value.Nodup) problem location
  failAt (allowEmpty = false ∧ value = []) problem location
  pure (sortedBy text value)

/-- A list that is its own sorted subset. -/
def requireSorted {α : Type} [DecidableEq α] (text : α → String)
    (value : List α) (location : String) (problem : Problem)
    (allowEmpty : Bool) : Checks Unit := do
  let ordered ← requireSortedSubset text value location problem allowEmpty
  failAt (ordered ≠ value) problem location

/-! ## Vocabularies -/

inductive ActionScope where
  | engineeringChange
  | repositoryRead
  | verificationRun
  deriving DecidableEq

def ActionScope.text : ActionScope → String
  | .engineeringChange => "engineering_change"
  | .repositoryRead => "repository_read"
  | .verificationRun => "verification_run"

inductive DeliveryTarget where
  | githubPr
  deriving DecidableEq

def DeliveryTarget.text : DeliveryTarget → String
  | .githubPr => "github_pr"

inductive MissionState where
  | awaitingDecision
  | authorized
  | denied
  | running
  | blocked
  | completed
  | closed
  | cancelled
  | rejected
  | changesRequested
  deriving DecidableEq

namespace MissionState

def reachable : List MissionState :=
  [awaitingDecision, authorized, denied, running, blocked, completed,
    cancelled, rejected, changesRequested]

def runTransitions : List (MissionState × MissionState) :=
  [(authorized, running), (authorized, blocked), (authorized, cancelled),
    (running, completed), (running, blocked), (running, cancelled)]

instance : LawfulBEq (MissionState × MissionState) := inferInstance

def terminal : List MissionState := [blocked, completed, cancelled, rejected]

def allowedTransitions : MissionState → List MissionState
  | awaitingDecision => [authorized, denied, rejected, changesRequested]
  | authorized => [awaitingDecision, running, blocked, cancelled]
  | denied => [awaitingDecision]
  | running => [completed, blocked, cancelled]
  | blocked => []
  | completed => []
  | closed => []
  | cancelled => []
  | rejected => []
  | changesRequested => [awaitingDecision]

end MissionState

/-- Refuse unless the transition is an explicitly wired one. -/
def validateTransition (current target : MissionState) : Checks Unit :=
  failIf (target ∉ current.allowedTransitions) .invalidTransition

/-! ## The run vocabulary -/

inductive CancelAchieved where
  | beforeIntent
  | afterIntentTargetUnknown
  | afterObservedRunning
  | afterTargetTerminated
  deriving DecidableEq

inductive CancelControl where
  | notApplicable
  | ownedGroupReaped
  | ownedGroupAlreadyGone
  | unavailableNoOwnedGroup
  | refusedOwnershipUnverified
  | failedGroupStillAlive
  | interruptedNotResignalled
  deriving DecidableEq

inductive CancelQuiescence where
  | nothingStarted
  | ownedGroupReaped
  | taskObservedStopped
  | unproven
  deriving DecidableEq

inductive RunIdentitySource where
  | startResult
  | reconciliation
  deriving DecidableEq

/-- The conjuncts of a verification, in their fixed evaluation order. -/
inductive VerifyConjunct where
  | resultReported
  | evidenceComplete
  | evidenceValid
  | targetIdentity
  | targetStopped
  | targetSucceeded
  | reviewApprove
  | resultBound
  | baselineUnmoved
  | surfaceReceiptPresent
  | surfaceUnchanged
  | deliveryAuthorityNone
  deriving DecidableEq

namespace VerifyConjunct

def all : List VerifyConjunct :=
  [resultReported, evidenceComplete, evidenceValid, targetIdentity,
    targetStopped, targetSucceeded, reviewApprove, resultBound,
    baselineUnmoved, surfaceReceiptPresent, surfaceUnchanged, deliveryAuthorityNone]

def name : VerifyConjunct → String
  | resultReported => "result_reported"
  | evidenceComplete => "evidence_complete"
  | evidenceValid => "evidence_valid"
  | targetIdentity => "target_identity"
  | targetStopped => "target_stopped"
  | targetSucceeded => "target_succeeded"
  | reviewApprove => "review_approve"
  | resultBound => "result_bound"
  | baselineUnmoved => "baseline_unmoved"
  | surfaceReceiptPresent => "surface_receipt_present"
  | surfaceUnchanged => "surface_unchanged"
  | deliveryAuthorityNone => "delivery_authority_none"

end VerifyConjunct

def runResultRequirementKey : String := "run_result"

/-- The first conjunct that does not hold; a run is verified when there is
none. -/
def verificationOutcome (holds : VerifyConjunct → Bool) : Option VerifyConjunct :=
  VerifyConjunct.all.find? fun conjunct => holds conjunct = false

/-- The stops a reconciliation of a run records. -/
inductive ReconcileStop where
  | noMatch
  | multipleMatches
  | conflictingIdentity
  | degraded
  | unprovenAssociation
  | notObservable
  | lateChildAborted
  deriving DecidableEq

/-- The reasons of a run's lifecycle events. -/
inductive RunReason where
  | observedRunning
  | observedAfterStop
  | verified
  | cancelled (achieved : CancelAchieved)
  | reconciled (stop : ReconcileStop)
  | conjunctFailed (conjunct : VerifyConjunct)
  deriving DecidableEq

/-- The stops that mean that nothing was observable yet. -/
def RunReason.lateResolutionStop : RunReason → Bool
  | .reconciled .degraded => true
  | .reconciled .notObservable => true
  | _ => false

/-- The reasons with which a run may enter a state. -/
def RunReason.admittedBy (target : MissionState) : RunReason → Bool
  | .observedRunning => target = .running
  | .observedAfterStop => target = .running
  | .verified => target = .completed
  | .cancelled _ => target = .cancelled
  | .reconciled _ => target = .blocked
  | .conjunctFailed _ => target = .blocked

def runRequiredActionScope : List ActionScope := [.engineeringChange]

def maxRunPauses : Nat := 16

def maxRunPathChars : Nat := 4096

inductive WorkspaceState where
  | preparing
  | prepared
  deriving DecidableEq

def maxWorkspaceProblemChars : Nat := 128

def maxWorkspaceDetailChars : Nat := 2000

def maxVerificationAttempts : Nat := 16

def maxReconcileAttempts : Nat := 16

def maxPendingProofBlockers : Nat := 16

def maxBlockerDetailChars : Nat := 2000

def maxObservedStatusChars : Nat := 64

/-- The digest naming one exact workspace binding. -/
def workspaceBindingDigest [JsonDigest] (missionId pathRealpath
    repositoryRealpath targetRepositoryUrl : String) (revision : Nat)
    (proposalDigestSha256 baselineCommitSha : String) : String :=
  jsonDigest (.object [("mission_id", .text missionId), ("path_realpath", .text pathRealpath),
    ("repository_realpath", .text repositoryRealpath),
    ("target_repository_url", .text targetRepositoryUrl), ("revision", .ofNat revision),
    ("proposal_digest_sha256", .text proposalDigestSha256),
    ("baseline_commit_sha", .text baselineCommitSha)])

/-! ## The proof contract -/

inductive EvidenceKind where
  | artifactDigest
  | externalAttestation
  | narrativeClaim
  | processExit
  | verificationRecord
  deriving DecidableEq

def EvidenceKind.text : EvidenceKind → String
  | .artifactDigest => "ARTIFACT_DIGEST"
  | .externalAttestation => "EXTERNAL_ATTESTATION"
  | .narrativeClaim => "NARRATIVE_CLAIM"
  | .processExit => "PROCESS_EXIT"
  | .verificationRecord => "VERIFICATION_RECORD"

/-- The kinds that can ever satisfy a requirement. -/
def EvidenceKind.satisfying : EvidenceKind → Bool
  | .artifactDigest => true
  | .externalAttestation => true
  | .narrativeClaim => false
  | .processExit => false
  | .verificationRecord => true

inductive ArtifactRole where
  | originalInput
  | produced
  | verification
  deriving DecidableEq

def ArtifactRole.text : ArtifactRole → String
  | .originalInput => "ORIGINAL_INPUT"
  | .produced => "PRODUCED"
  | .verification => "VERIFICATION"

inductive DependencyKind where
  | mission
  | resource
  deriving DecidableEq

def DependencyKind.text : DependencyKind → String
  | .mission => "MISSION"
  | .resource => "RESOURCE"

/-- How a required prerequisite is named; a constructor is one target form
with exactly its keys.  The single eligibility condition needs no field. -/
inductive DependencyTarget where
  | exactMission (missionId : String) (revision : Nat)
      (proposalDigestSha256 : String)
  | exactResource (resourceKey : String)
  | eligibility (proposalDigestSha256 : String)
  deriving DecidableEq

def DependencyTarget.formAllowed : DependencyKind → DependencyTarget → Bool
  | .mission, .exactMission .. => true
  | .mission, .eligibility _ => true
  | .resource, .exactResource _ => true
  | _, _ => false

structure Requirement where
  key : String
  description : String
  evidenceKinds : List EvidenceKind
  requiredArtifactKeys : List String
  maxEvidenceAgeSeconds : Nat
  deriving DecidableEq

structure RequiredArtifact where
  key : String
  role : ArtifactRole
  expectedContentDigestSha256 : String
  deriving DecidableEq

structure RequiredDependency where
  key : String
  kind : DependencyKind
  target : DependencyTarget
  deriving DecidableEq

structure RequiredReadiness where
  resourceKey : String
  maxAgeSeconds : Nat
  deriving DecidableEq

structure ContinuationBudget where
  maxAttempts : Nat
  maxCheckpoints : Nat
  deriving DecidableEq

structure ProofContract where
  requirements : List Requirement
  requiredArtifacts : List RequiredArtifact
  requiredDependencies : List RequiredDependency
  requiredResourceReadiness : List RequiredReadiness
  /-- The one field of the degradation policy. -/
  permittedBlockerKeys : List String
  continuationBudget : ContinuationBudget
  deriving DecidableEq

structure Proposal where
  objective : String
  targetContext : String
  repositoryUrl : Option String
  requestedScope : String
  requestedActionScope : List ActionScope
  requestedDeliveryTarget : Option DeliveryTarget
  proofContract : Option ProofContract
  deriving DecidableEq

def maxObjectiveChars : Nat := 8000

def maxTargetContextChars : Nat := 4000

def maxScopeTextChars : Nat := 4000

def maxTransportChars : Nat := 64

def maxPrincipalRefChars : Nat := 128

def maxSubjectChars : Nat := 256

def maxProofRequirements : Nat := 32

def maxRequiredArtifacts : Nat := 64

def maxRequiredDependencies : Nat := 32

def maxRequiredResourceReadiness : Nat := 16

def maxPermittedBlockerKeys : Nat := 32

def maxContractKeyChars : Nat := 128

def maxRequirementDescriptionChars : Nat := 2000

def maxStalenessBoundSeconds : Nat := 315360000

def maxContinuationAttempts : Nat := 64

def maxContinuationCheckpoints : Nat := 256

def contractKeyAlphabet : List Char :=
  "abcdefghijklmnopqrstuvwxyz0123456789_.-".toList

def requireContractKey (value location : String) : Checks Unit := do
  requireStr value location maxContractKeyChars false
  failAt (∃ character ∈ value.toList, character ∉ contractKeyAlphabet) .proofContract location

/-- A staleness bound, in seconds. -/
def requireBoundedSeconds (value : Nat) (location : String) : Checks Unit := do
  requireAtLeast value 1 location
  failAt (value > maxStalenessBoundSeconds) .tooLarge location

def requireList {α : Type} (value : List α) (location : String) (maxItems : Nat) : Checks Unit :=
  failAt (value.length > maxItems) .tooLarge location

/-- Apply a validator to every entry, in order, and collect the results. -/
def collect {α : Type} (validator : α → String → Checks α)
    (location : String) (index : Nat) : List α → Checks (List α)
  | [] => .ok []
  | entry :: rest => do
      let clean ← validator entry (elementAt location index)
      let others ← collect validator location (index + 1) rest
      pure (clean :: others)

/-- Closed entries each with a unique key, returned sorted by that key. -/
def requireKeyedEntries {α : Type} (key : α → String)
    (validator : α → String → Checks α) (value : List α) (location : String)
    (maxItems : Nat) : Checks (List α) := do
  requireList value location maxItems
  let clean ← collect validator location 0 value
  failAt (¬ (clean.map key).Nodup) .proofContract location
  pure (sortedBy key clean)

def requireSortedKeys (value : List String) (location : String)
    (maxItems : Nat) : Checks (List String) := do
  requireList value location maxItems
  checkElements requireContractKey location 0 value
  failAt (¬ value.Nodup) .proofContract location
  pure (sortedBy id value)

def validateRequirement (value : Requirement) (location : String) :
    Checks Requirement := do
  failAt (∃ kind ∈ value.evidenceKinds, kind.satisfying = false)
    .proofContract (location ++ ".evidence_kinds")
  failAt (¬ value.evidenceKinds.Nodup) .proofContract (location ++ ".evidence_kinds")
  failAt (value.evidenceKinds = []) .proofContract (location ++ ".evidence_kinds")
  requireContractKey value.key (location ++ ".key")
  requireStr value.description (location ++ ".description") maxRequirementDescriptionChars false
  let artifactKeys ← requireSortedKeys value.requiredArtifactKeys
    (location ++ ".required_artifact_keys") maxRequiredArtifacts
  requireBoundedSeconds value.maxEvidenceAgeSeconds (location ++ ".max_evidence_age_seconds")
  pure { value with
    evidenceKinds := sortedBy EvidenceKind.text value.evidenceKinds
    requiredArtifactKeys := artifactKeys }

def validateRequiredArtifact (value : RequiredArtifact) (location : String) :
    Checks RequiredArtifact := do
  requireContractKey value.key (location ++ ".key")
  requireHex value.expectedContentDigestSha256 (location ++ ".expected_content_digest_sha256") 64
  pure value

def validateDependencyTarget (value : DependencyTarget) (location : String) : Checks Unit :=
  match value with
  | .exactMission missionId revision digest => do
      requireId missionId .mission (location ++ ".mission_id")
      requireAtLeast revision 1 (location ++ ".revision")
      requireHex digest (location ++ ".proposal_digest_sha256") 64
  | .exactResource resourceKey =>
      requireContractKey resourceKey (location ++ ".resource_key")
  | .eligibility digest =>
      requireHex digest (location ++ ".proposal_digest_sha256") 64

def validateRequiredDependency (value : RequiredDependency)
    (location : String) : Checks RequiredDependency := do
  validateDependencyTarget value.target (location ++ ".target")
  failAt (value.target.formAllowed value.kind = false) .proofContract location
  requireContractKey value.key (location ++ ".key")
  pure value

def validateRequiredReadiness (value : RequiredReadiness)
    (location : String) : Checks RequiredReadiness := do
  requireContractKey value.resourceKey (location ++ ".resource_key")
  requireBoundedSeconds value.maxAgeSeconds (location ++ ".max_age_seconds")
  pure value

def validateBoundedCount (value minimum maximum : Nat) (location : String) :
    Checks Unit := do
  requireAtLeast value minimum location
  failAt (value > maximum) .tooLarge location

/-- The validated contract with every list in its deterministic order. -/
def validateProofContract (value : ProofContract) (location : String) :
    Checks ProofContract := do
  let requirements ← requireKeyedEntries Requirement.key validateRequirement
    value.requirements (location ++ ".requirements") maxProofRequirements
  failAt (requirements = []) .proofContract (location ++ ".requirements")
  let artifacts ← requireKeyedEntries RequiredArtifact.key
    validateRequiredArtifact value.requiredArtifacts
    (location ++ ".required_artifacts") maxRequiredArtifacts
  failAt (∃ requirement ∈ requirements, ∃ key ∈ requirement.requiredArtifactKeys,
        key ∉ artifacts.map RequiredArtifact.key)
    .contractIncoherent (location ++ ".requirements")
  failAt (∃ artifact ∈ artifacts, ∀ requirement ∈ requirements,
      artifact.key ∉ requirement.requiredArtifactKeys)
    .contractIncoherent (location ++ ".required_artifacts")
  let dependencies ← requireKeyedEntries RequiredDependency.key
    validateRequiredDependency value.requiredDependencies
    (location ++ ".required_dependencies") maxRequiredDependencies
  let readiness ← requireKeyedEntries RequiredReadiness.resourceKey
    validateRequiredReadiness value.requiredResourceReadiness
    (location ++ ".required_resource_readiness") maxRequiredResourceReadiness
  let permitted ← requireSortedKeys value.permittedBlockerKeys
    (location ++ ".degradation_policy.permitted_blocker_keys")
    maxPermittedBlockerKeys
  validateBoundedCount value.continuationBudget.maxAttempts 0
    maxContinuationAttempts (location ++ ".continuation_budget.max_attempts")
  validateBoundedCount value.continuationBudget.maxCheckpoints 1 maxContinuationCheckpoints
    (location ++ ".continuation_budget.max_checkpoints")
  pure {
    requirements := requirements
    requiredArtifacts := artifacts
    requiredDependencies := dependencies
    requiredResourceReadiness := readiness
    permittedBlockerKeys := permitted
    continuationBudget := value.continuationBudget
  }

namespace DependencyTarget

def toJson : DependencyTarget → Json
  | exactMission missionId revision digest => .object [
      ("form", .text "EXACT_MISSION"), ("mission_id", .text missionId),
      ("revision", .ofNat revision), ("proposal_digest_sha256", .text digest)]
  | exactResource resourceKey => .object [
      ("form", .text "EXACT_RESOURCE"), ("resource_key", .text resourceKey)]
  | eligibility digest => .object [
      ("form", .text "ELIGIBILITY"), ("condition", .text "MISSION_WITH_PROPOSAL_DIGEST"),
      ("proposal_digest_sha256", .text digest)]

end DependencyTarget

def Requirement.toJson (value : Requirement) : Json := .object [("key", .text value.key),
  ("description", .text value.description),
  ("evidence_kinds", .listOf (fun kind => .text kind.text) value.evidenceKinds),
  ("required_artifact_keys", .listOf .text value.requiredArtifactKeys),
  ("max_evidence_age_seconds", .ofNat value.maxEvidenceAgeSeconds)]

def RequiredArtifact.toJson (value : RequiredArtifact) : Json := .object [("key", .text value.key),
  ("role", .text value.role.text),
  ("expected_content_digest_sha256", .text value.expectedContentDigestSha256)]

def RequiredDependency.toJson (value : RequiredDependency) : Json := .object [
  ("key", .text value.key), ("kind", .text value.kind.text), ("target", value.target.toJson)]

def RequiredReadiness.toJson (value : RequiredReadiness) : Json := .object [
  ("resource_key", .text value.resourceKey), ("max_age_seconds", .ofNat value.maxAgeSeconds)]

def ProofContract.toJson (value : ProofContract) : Json := .object [
  ("requirements", .listOf Requirement.toJson value.requirements),
  ("required_artifacts", .listOf RequiredArtifact.toJson value.requiredArtifacts),
  ("required_dependencies",
    .listOf RequiredDependency.toJson value.requiredDependencies), ("required_resource_readiness",
    .listOf RequiredReadiness.toJson value.requiredResourceReadiness),
  ("degradation_policy", .object [
    ("permitted_blocker_keys", .listOf .text value.permittedBlockerKeys)]),
  ("continuation_budget", .object [("max_attempts", .ofNat value.continuationBudget.maxAttempts),
    ("max_checkpoints", .ofNat value.continuationBudget.maxCheckpoints)])]

/-- The digest of the validated contract content. -/
def proofContractDigest [JsonDigest] (value : ProofContract) :
    Checks String := do
  let clean ← validateProofContract value "proof_contract"
  pure (jsonDigest clean.toJson)

/-! ## Proposals -/

def validateRepositoryUrl (value : Option String) (location : String) : Checks Unit :=
  match value with
  | none => .ok ()
  | some url =>
      match Canonical.canonicalizeRepositoryUrl url with
      | .error _ => .error ⟨.repositoryIdentity, location⟩
      | .ok target =>
          failAt (target.canonicalUrl ≠ url) .repositoryIdentity location

/-- The validated proposal with its lists sorted.  A null proof contract is
the absent one. -/
def validateProposal (value : Proposal) (location : String) :
    Checks Proposal := do
  requireStr value.objective (location ++ ".objective") maxObjectiveChars false
  requireStr value.targetContext (location ++ ".target_context") maxTargetContextChars true
  validateRepositoryUrl value.repositoryUrl (location ++ ".repository_url")
  requireStr value.requestedScope (location ++ ".requested_scope") maxScopeTextChars false
  let actions ← requireSortedSubset ActionScope.text value.requestedActionScope
    (location ++ ".requested_action_scope") .actionScope false
  match value.proofContract with
  | none => pure { value with requestedActionScope := actions }
  | some contract => do
      let clean ← validateProofContract contract (location ++ ".proof_contract")
      pure { value with
        requestedActionScope := actions, proofContract := some clean }

/-- The key of an absent proof contract is absent too. -/
def Proposal.toJson (value : Proposal) : Json := .object ([("objective", .text value.objective),
  ("target_context", .text value.targetContext),
  ("repository_url", .optional .text value.repositoryUrl),
  ("requested_scope", .text value.requestedScope), ("requested_action_scope",
    .listOf (fun scope => .text scope.text) value.requestedActionScope),
  ("requested_delivery_target",
    .optional (fun target => .text target.text) value.requestedDeliveryTarget)] ++
  match value.proofContract with
  | none => []
  | some contract => [("proof_contract", contract.toJson)])

/-- The digest of the validated proposal content. -/
def proposalDigest [JsonDigest] (value : Proposal) : Checks String := do
  let clean ← validateProposal value "proposal"
  pure (jsonDigest clean.toJson)

/-! ## Contexts and provenance -/

inductive PrincipalKind where
  | connectorCredential
  | localProcessUser
  | unauthenticatedLocalCaller
  | operatorAttested
  deriving DecidableEq

namespace PrincipalKind

def text : PrincipalKind → String
  | connectorCredential => "configured_connector_credential_ordinal"
  | localProcessUser => "local_process_user"
  | unauthenticatedLocalCaller => "unauthenticated_local_caller"
  | operatorAttested => "operator_attested_relay"

/-- The kinds a transport authenticated from its own state. -/
def isAuthenticated : PrincipalKind → Bool
  | connectorCredential => true
  | localProcessUser => true
  | unauthenticatedLocalCaller => false
  | operatorAttested => false

/-- The kinds that carry an approval and nothing else on the decision path. -/
def approveOnly : PrincipalKind → Bool
  | operatorAttested => true
  | _ => false

end PrincipalKind

/-- What a provenance block records as the proof behind a principal kind. -/
inductive ProvenanceProof where
  | transportCredentialOnly
  | noneUnauthenticated
  | operatorAttested
  deriving DecidableEq

def proofByPrincipalKind : PrincipalKind → ProvenanceProof
  | .connectorCredential => .transportCredentialOnly
  | .localProcessUser => .transportCredentialOnly
  | .unauthenticatedLocalCaller => .noneUnauthenticated
  | .operatorAttested => .operatorAttested

def maxAttestedApprovalValiditySeconds : Nat := 900

def withdrawalKeyValiditySeconds : Nat := 604800

def maxChangeRequestReasonChars : Nat := 2000

def transportAlphabet : List Char :=
  "abcdefghijklmnopqrstuvwxyz0123456789_".toList

/-- The stored form of a context, and what two contexts are compared by. -/
structure ContextFields where
  transport : String
  principalKind : PrincipalKind
  principalRef : String
  configuredSubject : Option String
  deriving DecidableEq

/-- What a caller presents: the adapter's own context, or an operator's
attestation.  The two share a shape, not a meaning. -/
inductive Context where
  | authenticated (fields : ContextFields)
  | operatorAttested (fields : ContextFields)
  deriving DecidableEq

namespace Context

def asDict : Context → ContextFields
  | authenticated fields => fields
  | operatorAttested fields => fields

def principalKind (context : Context) : PrincipalKind :=
  context.asDict.principalKind

end Context

/-- The checks both context types share, around the check of their kind. -/
def validateContextFields (fields : ContextFields) (kindCheck : Checks Unit)
    (location : String) : Checks Unit := do
  requireStr fields.transport (location ++ ".transport") maxTransportChars false
  failAt (∃ character ∈ fields.transport.toList,
    character ∉ transportAlphabet) .badValue (location ++ ".transport")
  kindCheck
  requireStr fields.principalRef (location ++ ".principal_ref") maxPrincipalRefChars false
  requireOptionalStr fields.configuredSubject (location ++ ".configured_subject") maxSubjectChars

/-- `AuthenticatedContext.validate`: any kind but the operator-attested one. -/
def validateAuthenticatedFields (fields : ContextFields) (location : String) : Checks Unit :=
  validateContextFields fields (failAt (fields.principalKind = .operatorAttested) .provenance
      (location ++ ".principal_kind")) location

/-- `OperatorAttestedContext.validate`: the operator-attested kind only. -/
def validateAttestedFields (fields : ContextFields) (location : String) : Checks Unit :=
  validateContextFields fields (failAt (fields.principalKind ≠ .operatorAttested) .attestedApproval
      (location ++ ".principal_kind")) location

def requireOperatorAttestedContext (value : Context) (location : String) : Checks Unit :=
  match value with
  | .operatorAttested fields => validateAttestedFields fields location
  | .authenticated _ => .error ⟨.attestedApproval, location⟩

def requireContext (value : Context) (location : String) : Checks Unit :=
  match value with
  | .authenticated fields => validateAuthenticatedFields fields location
  | .operatorAttested _ => .error ⟨.provenance, location⟩

/-- The context a stored dictionary stands for, validated. -/
def contextFromDict (value : ContextFields) (location : String) : Checks Context :=
  if value.principalKind = .operatorAttested then do
    validateAttestedFields value location
    pure (.operatorAttested value)
  else do
    validateAuthenticatedFields value location
    pure (.authenticated value)

def refuseUnauthenticated (kind : PrincipalKind) (location : String) : Checks Unit :=
  failAt (kind.isAuthenticated = false) .unauthenticatedPrincipal location

def requireAuthenticatedContext (value : Context) (location : String) :
    Checks Unit := do
  requireContext value location
  refuseUnauthenticated value.principalKind location

/-- `approve` holds where the operator-attested kind is admitted. -/
def requireDecisionKind (kind : PrincipalKind) (approve : Bool) (location : String) : Checks Unit :=
  if kind.isAuthenticated then .ok ()
  else if kind.approveOnly then
    failAt (approve = false) .attestedApproval location
  else refuseUnauthenticated kind location

/-- The context a decision may carry. -/
def requireDecisionContext (value : Context) (approve : Bool) (location : String) : Checks Unit :=
  match value with
  | .operatorAttested fields => do
      requireOperatorAttestedContext (.operatorAttested fields) location
      failAt (approve = false) .attestedApproval location
  | .authenticated fields =>
      requireAuthenticatedContext (.authenticated fields) location

def requireDecisionReservationContext (value : Context) (location : String) : Checks Unit :=
  match value with
  | .operatorAttested fields =>
      requireOperatorAttestedContext (.operatorAttested fields) location
  | .authenticated fields =>
      requireAuthenticatedContext (.authenticated fields) location

def requireAnyContext (value : Context) (location : String) : Checks Unit :=
  match value with
  | .operatorAttested fields =>
      requireOperatorAttestedContext (.operatorAttested fields) location
  | .authenticated fields => requireContext (.authenticated fields) location

/-- The characters `str.strip` removes. -/
def isSpace (character : Char) : Bool :=
  let code := character.toNat
  (0x09 ≤ code ∧ code ≤ 0x0D) ∨ (0x1C ≤ code ∧ code ≤ 0x20) ∨ code = 0x85 ∨
    code = 0xA0 ∨ code = 0x1680 ∨ (0x2000 ≤ code ∧ code ≤ 0x200A) ∨
    code = 0x2028 ∨ code = 0x2029 ∨ code = 0x202F ∨ code = 0x205F ∨ code = 0x3000

/-- A control character other than newline and tab. -/
def isControl (character : Char) : Bool :=
  (character.toNat < 32 ∧ character ≠ '\n' ∧ character ≠ '\t') ∨ character.toNat = 127

/-- A readable reason, recorded exactly as given. -/
def requireChangeRequestReason (value : Option String) (location : String) : Checks Unit :=
  match value with
  | none => .error ⟨.changeRequestReason, location⟩
  | some reason => do
      failAt (reason.toList.length > maxChangeRequestReasonChars) .changeRequestReason location
      failAt (∀ character ∈ reason.toList, isSpace character) .changeRequestReason location
      failAt (∃ character ∈ reason.toList, isControl character) .changeRequestReason location

/-- The digest recorded for a withdrawal key; anything but a non-empty string
has none. -/
def withdrawalKeyDigest [JsonDigest] (key : Option String) : Option String :=
  match key with
  | none => none
  | some text =>
      if text.toList = [] then none
      else some (jsonDigest (.object [("withdrawal_key", .text text)]))

inductive ReferenceKind where
  | request
  | decision
  | stateOperation
  deriving DecidableEq

def ReferenceKind.idPrefix : ReferenceKind → IdPrefix
  | .request => .request
  | .decision => .decision
  | .stateOperation => .stateOperation

def ReferenceKind.text : ReferenceKind → String
  | .request => "request"
  | .decision => "decision"
  | .stateOperation => "state_operation"

/-- The closed provenance block: only what is known, nothing more. -/
structure Provenance where
  context : ContextFields
  receivedAt : Nat
  referenceKind : ReferenceKind
  referenceId : String
  missionId : String
  revision : Nat
  humanIdentityProof : Option String
  proof : ProvenanceProof
  deriving DecidableEq

def provenanceRecord (context : Context) (receivedAt : Nat)
    (referenceKind : ReferenceKind) (referenceId missionId : String)
    (revision : Nat) : Checks Provenance := do
  requireAnyContext context "context"
  requireId referenceId referenceKind.idPrefix "reference_id"
  requireId missionId .mission "mission_id"
  requireAtLeast revision 1 "revision"
  pure {
    context := context.asDict
    receivedAt := receivedAt
    referenceKind := referenceKind
    referenceId := referenceId
    missionId := missionId
    revision := revision
    humanIdentityProof := none
    proof := proofByPrincipalKind context.principalKind
  }

def validateProvenance (value : Provenance) (location : String) :
    Checks Unit := do
  let _ ← contextFromDict value.context location
  requireId value.referenceId value.referenceKind.idPrefix (location ++ ".reference_id")
  requireId value.missionId .mission (location ++ ".mission_id")
  requireAtLeast value.revision 1 (location ++ ".revision")
  failAt (value.humanIdentityProof ≠ none) .provenance (location ++ ".human_identity_proof")
  failAt (value.proof ≠ proofByPrincipalKind value.context.principalKind)
    .provenance (location ++ ".proof")

/-- The context recorded in a provenance block. -/
def provenanceContext (value : Provenance) : Checks Context :=
  contextFromDict value.context "context"

def requireDecisionProvenance (value : Provenance) (approve : Bool)
    (location : String) : Checks Unit := do
  validateProvenance value location
  requireDecisionKind value.context.principalKind approve location

def requireAuthenticatedProvenance (value : Provenance) (location : String) :
    Checks Unit := do
  validateProvenance value location
  refuseUnauthenticated value.context.principalKind location

end DodgingInfinity.MissionCore
