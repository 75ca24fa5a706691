import DodgingInfinity.Library.Dict
import DodgingInfinity.MissionCore.Manifest

/-!
# Reported sources and reconciliation records

What a reconciliation pass is told by its four sources, and what it records.
A source's standing and value are one value here: only a reported source
carries one.
-/

namespace DodgingInfinity.MissionCore

inductive TaskReport where
  | active
  | blocked
  | complete
  | failed
  | notStarted
  deriving DecidableEq

def TaskReport.text : TaskReport → String
  | .active => "ACTIVE"
  | .blocked => "BLOCKED"
  | .complete => "COMPLETE"
  | .failed => "FAILED"
  | .notStarted => "NOT_STARTED"

inductive ReviewReport where
  | approve
  | none
  | pending
  | reject
  deriving DecidableEq

def ReviewReport.text : ReviewReport → String
  | .approve => "APPROVE"
  | .none => "NONE"
  | .pending => "PENDING"
  | .reject => "REJECT"

inductive DeliveryJudgement where
  | ambiguous
  | invalid
  | valid
  deriving DecidableEq

def DeliveryJudgement.text : DeliveryJudgement → String
  | .ambiguous => "AMBIGUOUS"
  | .invalid => "INVALID"
  | .valid => "VALID"

/-- A delivery report: an absent one names no receipt, any other names the
receipt it judged. -/
inductive DeliveryReport where
  | absent
  | judged (status : DeliveryJudgement)
      (receiptArtifactId locator receiptDigestSha256 : String)
  deriving DecidableEq

structure CandidateReport where
  baselineDigestSha256 : Option String
  artifactDigests : Dict String String
  deriving DecidableEq

/-- The standing of a source, with its value when it reported one. -/
inductive Source (α : Type) where
  | reported (value : α)
  | unknown
  | unavailable
  deriving DecidableEq

structure Sources where
  candidate : Source CandidateReport
  delivery : Source DeliveryReport
  review : Source ReviewReport
  task : Source TaskReport
  deriving DecidableEq

/-- The time each source itself reported. -/
structure SourceProvenance where
  candidate : Option Nat
  delivery : Option Nat
  review : Option Nat
  task : Option Nat
  deriving DecidableEq

inductive FindingKind where
  | baselineDrift
  | baselineUnobserved
  | candidateDrift
  | candidateUnobserved
  | deliveryAbsent
  | deliveryAmbiguous
  | deliveryAttested
  | deliveryInvalid
  | deliveryStale
  | deliveryUnattested
  | deliveryUnbound
  | deliveryValid
  | hardBlocker
  | proofContradicted
  | proofMissing
  | reportedCompleteUnverified
  | reviewChanged
  | reviewNotApproved
  | revisionDrift
  | sourceUnavailable
  | sourceUnknown
  | taskChanged
  deriving DecidableEq

structure Finding where
  kind : FindingKind
  subject : Option String
  detail : String
  deriving DecidableEq

def maxReconciliationRecords : Nat := 256

namespace DeliveryReport

def toJson : DeliveryReport → Json
  | absent => .object [
      ("status", .text "ABSENT"), ("receipt_artifact_id", .null), ("locator", .null),
      ("receipt_digest_sha256", .null)]
  | judged status artifactId locator digest => .object [
      ("status", .text status.text), ("receipt_artifact_id", .text artifactId),
      ("locator", .text locator), ("receipt_digest_sha256", .text digest)]

end DeliveryReport

def CandidateReport.toJson (value : CandidateReport) : Json := .object [
  ("baseline_digest_sha256", .optional .text value.baselineDigestSha256),
  ("artifact_digests", .object
    (value.artifactDigests.entries.map fun entry => (entry.1, .text entry.2)))]

def Source.toJson {α : Type} (encode : α → Json) : Source α → Json
  | .reported value => .object [
      ("standing", .text "reported"), ("value", encode value)]
  | .unknown => .object [("standing", .text "unknown"), ("value", .null)]
  | .unavailable => .object [
      ("standing", .text "unavailable"), ("value", .null)]

def Sources.toJson (value : Sources) : Json := .object [
  ("candidate", value.candidate.toJson CandidateReport.toJson),
  ("delivery", value.delivery.toJson DeliveryReport.toJson),
  ("review", value.review.toJson fun report => .text report.text),
  ("task", value.task.toJson fun report => .text report.text)]

def SourceProvenance.toJson (value : SourceProvenance) : Json :=
  let observed (time : Option Nat) : Json :=
    .object [("observed_at", .optional .ofNat time)]
  .object [("candidate", observed value.candidate), ("delivery", observed value.delivery),
    ("review", observed value.review), ("task", observed value.task)]

end DodgingInfinity.MissionCore

/-!
## Mission State records

The durable state of one Mission's work: contract activations, claims,
artifacts, evidence, blockers, dependencies, readiness observations,
checkpoints, continuations, the closure, and the ledger of the operations that
produced them.  Every sub-record carries the stamp of its operation.
-/

namespace DodgingInfinity.MissionCore

/-! ## Progress -/

inductive Progress where
  | notStarted
  | inProgress
  | blocked
  | completed
  | closedUnsuccessful
  | abandoned
  deriving DecidableEq

namespace Progress

def text : Progress → String
  | notStarted => "NOT_STARTED"
  | inProgress => "IN_PROGRESS"
  | blocked => "BLOCKED"
  | completed => "COMPLETED"
  | closedUnsuccessful => "CLOSED_UNSUCCESSFUL"
  | abandoned => "ABANDONED"

def terminal : List Progress := [completed, closedUnsuccessful, abandoned]

def transitions : Progress → List Progress
  | notStarted => [inProgress, closedUnsuccessful, abandoned]
  | inProgress => [inProgress, blocked, completed, closedUnsuccessful, abandoned]
  | blocked => [inProgress, closedUnsuccessful, abandoned]
  | completed => []
  | closedUnsuccessful => []
  | abandoned => []

end Progress

/-- A terminal progress refuses with its own code. -/
def validateProgressTransition (current target : Progress) : Checks Unit := do
  failIf (current ∈ Progress.terminal) .progressTerminal
  failIf (target ∉ current.transitions) .progressTransition

/-! ## Vocabularies -/

inductive BlockerSeverity where
  | hard
  | degraded
  deriving DecidableEq

def BlockerSeverity.text : BlockerSeverity → String
  | .hard => "HARD"
  | .degraded => "DEGRADED"

inductive ReadinessStatus where
  | ready
  | notReady
  | unknown
  deriving DecidableEq

def ReadinessStatus.text : ReadinessStatus → String
  | .ready => "READY"
  | .notReady => "NOT_READY"
  | .unknown => "UNKNOWN"

inductive LocatorKind where
  | opaqueReference
  | repositoryPath
  | contentAddress
  | deliveryReceiptReference
  deriving DecidableEq

def LocatorKind.text : LocatorKind → String
  | .opaqueReference => "OPAQUE_REFERENCE"
  | .repositoryPath => "REPOSITORY_PATH"
  | .contentAddress => "CONTENT_ADDRESS"
  | .deliveryReceiptReference => "DELIVERY_RECEIPT_REFERENCE"

inductive ClosureReason where
  | proofComplete
  | budgetExhausted
  | hardBlocker
  | callerClosed
  | callerAbandoned
  deriving DecidableEq

namespace ClosureReason

def text : ClosureReason → String
  | proofComplete => "proof_complete"
  | budgetExhausted => "budget_exhausted"
  | hardBlocker => "hard_blocker_unresolvable"
  | callerClosed => "closed_by_caller"
  | callerAbandoned => "abandoned_by_caller"

/-- The reasons each terminal progress admits. -/
def admittedBy : Progress → List ClosureReason
  | .completed => [proofComplete]
  | .closedUnsuccessful => [budgetExhausted, hardBlocker, callerClosed]
  | .abandoned => [callerAbandoned]
  | _ => []

/-- The unsuccessful reasons that assert a fact about the contract. -/
def asserting : ClosureReason → Bool
  | budgetExhausted => true
  | hardBlocker => true
  | _ => false

end ClosureReason

inductive OperationKind where
  | abandon
  | acceptEvidence
  | activateContract
  | attestDeliveryReceipt
  | bindDependency
  | closeUnsuccessful
  | complete
  | invalidateEvidence
  | observeResourceReadiness
  | openBlocker
  | reconcile
  | recordArtifact
  | recordCheckpoint
  | recordClaim
  | recordContinuation
  | resolveBlocker
  | resolveDependency
  | submitEvidence
  deriving DecidableEq

def OperationKind.text : OperationKind → String
  | .abandon => "abandon"
  | .acceptEvidence => "accept_evidence"
  | .activateContract => "activate_proof_contract"
  | .attestDeliveryReceipt => "attest_delivery_receipt"
  | .bindDependency => "bind_dependency"
  | .closeUnsuccessful => "close_unsuccessful"
  | .complete => "complete"
  | .invalidateEvidence => "invalidate_evidence"
  | .observeResourceReadiness => "observe_resource_readiness"
  | .openBlocker => "open_blocker"
  | .reconcile => "reconcile"
  | .recordArtifact => "record_artifact"
  | .recordCheckpoint => "record_checkpoint"
  | .recordClaim => "record_claim"
  | .recordContinuation => "record_continuation"
  | .resolveBlocker => "resolve_blocker"
  | .resolveDependency => "resolve_dependency"
  | .submitEvidence => "submit_evidence"

/-- The next step a checkpoint may name; derived, never chosen. -/
inductive NextStep where
  | resolveBlockers
  | resolveDependencies
  | observeResourceReadiness
  | submitEvidence
  | acceptEvidence
  | closeCompleted
  | confirmPrerequisitesAndClose
  deriving DecidableEq

def NextStep.text : NextStep → String
  | .resolveBlockers => "RESOLVE_BLOCKERS"
  | .resolveDependencies => "RESOLVE_DEPENDENCIES"
  | .observeResourceReadiness => "OBSERVE_RESOURCE_READINESS"
  | .submitEvidence => "SUBMIT_EVIDENCE"
  | .acceptEvidence => "ACCEPT_EVIDENCE"
  | .closeCompleted => "CLOSE_COMPLETED"
  | .confirmPrerequisitesAndClose => "CONFIRM_PREREQUISITES_AND_CLOSE"

inductive RequirementStatus where
  | satisfied
  | missing
  | submittedNotAccepted
  | stale
  | mismatched
  | invalidated
  | contradicted
  deriving DecidableEq

def RequirementStatus.text : RequirementStatus → String
  | .satisfied => "SATISFIED"
  | .missing => "MISSING"
  | .submittedNotAccepted => "SUBMITTED_NOT_ACCEPTED"
  | .stale => "STALE"
  | .mismatched => "MISMATCHED"
  | .invalidated => "INVALIDATED"
  | .contradicted => "CONTRADICTED"

inductive SlotStatus where
  | unbound
  | boundUnresolved
  | resolved
  deriving DecidableEq

def SlotStatus.text : SlotStatus → String
  | .unbound => "UNBOUND"
  | .boundUnresolved => "BOUND_UNRESOLVED"
  | .resolved => "RESOLVED"

/-! ## Sub-records -/

/-- What every sub-record carries of the operation that produced it. -/
structure Stamp where
  provenance : Provenance
  operationId : String
  sequence : Nat
  deriving DecidableEq

structure Activation where
  activationId : String
  revision : Nat
  proposalDigestSha256 : String
  authorizationId : String
  authorizationDigestSha256 : String
  contractDigestSha256 : String
  activatedAt : Nat
  stamp : Stamp
  deriving DecidableEq

structure Claim where
  claimId : String
  activationId : String
  requirementKey : String
  statement : String
  claimedAt : Nat
  stamp : Stamp
  deriving DecidableEq

/-- The closed marker of an attested delivery receipt. -/
structure ReceiptAttestation where
  deliveryId : String
  step : String
  receiptState : String
  stepState : String
  parentAuthorityDigestSha256 : String
  authorizationId : String
  authorizationDigestSha256 : String
  deriving DecidableEq

structure Artifact where
  artifactId : String
  key : Option String
  role : ArtifactRole
  locatorKind : LocatorKind
  locator : String
  contentDigestSha256 : Option String
  available : Bool
  derivedFrom : List String
  recordedAt : Nat
  /-- Present on exactly the artifacts an attestation produced. -/
  receiptAttestation : Option ReceiptAttestation
  stamp : Stamp
  deriving DecidableEq

structure Acceptance where
  acceptedAt : Nat
  contentDigestSha256 : String
  activationId : String
  stamp : Stamp
  deriving DecidableEq

structure Invalidation where
  invalidatedAt : Nat
  reason : String
  stamp : Stamp
  deriving DecidableEq

structure Evidence where
  evidenceId : String
  activationId : String
  requirementKey : String
  kind : EvidenceKind
  contentDigestSha256 : String
  artifactIds : List String
  submittedAt : Nat
  acceptance : Option Acceptance
  invalidation : Option Invalidation
  stamp : Stamp
  deriving DecidableEq

structure Resolution where
  resolvedAt : Nat
  evidenceId : String
  stamp : Stamp
  deriving DecidableEq

structure Blocker where
  blockerId : String
  activationId : String
  key : String
  severity : BlockerSeverity
  description : String
  openedAt : Nat
  resolution : Option Resolution
  stamp : Stamp
  deriving DecidableEq

structure Dependency where
  dependencyId : String
  activationId : String
  key : Option String
  kind : DependencyKind
  reference : String
  declaredAt : Nat
  resolution : Option Resolution
  stamp : Stamp
  deriving DecidableEq

structure ReadinessObservation where
  resourceKey : String
  status : ReadinessStatus
  observedAt : Nat
  stamp : Stamp
  deriving DecidableEq

structure ContractRefs where
  revision : Nat
  proposalDigestSha256 : String
  contractDigestSha256 : String
  deriving DecidableEq

structure CheckpointBudget where
  attemptsConsumed : Nat
  attemptsRemaining : Nat
  checkpointsConsumed : Nat
  checkpointsRemaining : Nat
  deriving DecidableEq

structure CheckpointRefusal where
  problem : Problem
  detail : String
  deriving DecidableEq

/-- The half of a checkpoint that is derived, never supplied. -/
structure DerivedFields where
  activeBlockerIds : List String
  outstandingDependencyIds : List String
  budget : CheckpointBudget
  nextPermittedStep : Option NextStep
  refusal : Option CheckpointRefusal
  deriving DecidableEq

structure Checkpoint where
  checkpointId : String
  activationId : String
  recordedAt : Nat
  completedWork : List String
  outstandingWork : List String
  refs : ContractRefs
  derived : DerivedFields
  retryCondition : String
  stopCondition : String
  stamp : Stamp
  deriving DecidableEq

structure Continuation where
  attempt : Nat
  reason : String
  recordedAt : Nat
  stamp : Stamp
  deriving DecidableEq

structure Closure where
  progress : Progress
  reason : ClosureReason
  detail : String
  closedAt : Nat
  activationId : Option String
  stamp : Stamp
  deriving DecidableEq

/-- The part of an operation's outcome that its kind decides. -/
inductive OutcomeBody where
  | activated (activationId : String) (refs : ContractRefs)
      (authorizationId : String)
  | claimed (claimId requirementKey : String)
  | artifactRecorded (artifactId : String) (key : Option String)
      (role : ArtifactRole)
  | receiptAttested (artifactId deliveryId step receiptState stepState
      authorizationId : String)
  | evidenceSubmitted (evidenceId requirementKey : String)
      (kind : EvidenceKind)
  | evidenceAccepted (evidenceId : String)
  | evidenceInvalidated (evidenceId : String)
  | blockerOpened (blockerId key : String) (severity : BlockerSeverity)
  | blockerResolved (blockerId evidenceId : String)
  | dependencyBound (dependencyId : String) (slotKey : Option String)
      (reference : String) (newBinding : Bool)
  | dependencyResolved (dependencyId evidenceId : String)
  | readinessObserved (resourceKey : String) (status : ReadinessStatus)
  | continued (attempt attemptsRemaining : Nat)
  | checkpointed (checkpointId : String) (derived : DerivedFields)
  | closed (reason : ClosureReason) (detail : String)
  | reconciled (observedPosition observedRevision findingCount : Nat)
  deriving DecidableEq

structure OperationOutcome where
  body : OutcomeBody
  missionId : String
  operationId : String
  sequence : Nat
  progress : Progress
  deriving DecidableEq

/-- One entry of the operation ledger.  Its outcome is empty while the effect
of its own operation is being computed, and set before anything is saved. -/
structure AppliedOperation where
  operationId : String
  kind : OperationKind
  contentDigestSha256 : String
  appliedAt : Nat
  provenance : Provenance
  outcome : Option OperationOutcome
  sequence : Nat
  deriving DecidableEq

structure ReconciliationRecord where
  reconciledAt : Nat
  observedPosition : Nat
  observedJournalDigestSha256 : String
  observedRevision : Nat
  sources : Sources
  sourceProvenance : SourceProvenance
  findings : List Finding
  stamp : Stamp
  deriving DecidableEq

/-! ## Snapshots -/

structure ProofEvaluation where
  satisfied : Bool
  requirements : Dict String RequirementStatus
  deriving DecidableEq

structure ReadinessEvaluation where
  satisfied : Bool
  resources : Dict String ReadinessStatus
  deriving DecidableEq

structure DependencyEvaluation where
  satisfied : Bool
  slots : Dict String SlotStatus
  deriving DecidableEq

/-- What a supported state says about the contract in force. -/
structure ContractView where
  activationId : String
  contract : ContractRefs
  proof : ProofEvaluation
  readiness : ReadinessEvaluation
  dependencies : DependencyEvaluation
  budget : CheckpointBudget
  deriving DecidableEq

/-- The supported state at a journal position; without an activation it holds
no contract view. -/
structure SupportedState where
  progress : Progress
  closureReason : Option ClosureReason
  view : Option ContractView
  activeBlockerIds : List String
  outstandingDependencyIds : List String
  acceptedEvidenceIds : List String
  deriving DecidableEq

structure Snapshot where
  schemaVersion : Nat
  missionId : String
  revision : Nat
  position : Nat
  journalDigestSha256 : String
  supportedState : SupportedState
  deriving DecidableEq

/-! ## The record -/

structure StateRecord where
  schemaVersion : Nat
  missionId : String
  sequence : Nat
  createdAt : Nat
  updatedAt : Nat
  progress : Progress
  contractActivations : List Activation
  claims : List Claim
  artifacts : List Artifact
  evidence : List Evidence
  blockers : List Blocker
  dependencies : List Dependency
  resourceReadiness : List ReadinessObservation
  checkpoints : List Checkpoint
  continuations : List Continuation
  closure : Option Closure
  appliedOperations : List AppliedOperation
  snapshot : Option Snapshot
  reconciliations : List ReconciliationRecord
  deriving DecidableEq

def stateSchemaVersion : Nat := 1

def maxAppliedOperations : Nat := 4096

def maxResourceReferenceChars : Nat := 512

def maxReceiptAttestationFieldChars : Nat := 128

def newStateRecord (missionId : String) (createdAt : Nat) : StateRecord where
  schemaVersion := stateSchemaVersion
  missionId := missionId
  sequence := 0
  createdAt := createdAt
  updatedAt := createdAt
  progress := .notStarted
  contractActivations := []
  claims := []
  artifacts := []
  evidence := []
  blockers := []
  dependencies := []
  resourceReadiness := []
  checkpoints := []
  continuations := []
  closure := none
  appliedOperations := []
  snapshot := none
  reconciliations := []

/-- Append the ledger entry of one accepted operation and advance the
sequence by one. -/
def appendAppliedOperation (state : StateRecord) (operationId : String)
    (kind : OperationKind) (contentDigestSha256 : String) (appliedAt : Nat)
    (provenance : Provenance) : Checks StateRecord := do
  failIf (state.appliedOperations.length ≥ maxAppliedOperations) .stateFull
  pure { state with
    appliedOperations := state.appliedOperations ++ [{
      operationId := operationId
      kind := kind
      contentDigestSha256 := contentDigestSha256
      appliedAt := appliedAt
      provenance := provenance
      outcome := none
      sequence := state.sequence + 1 }]
    sequence := state.sequence + 1
    updatedAt := appliedAt }

def newArtifact (artifactId : String) (key : Option String)
    (role : ArtifactRole) (locatorKind : LocatorKind) (locator : String)
    (contentDigestSha256 : Option String) (available : Bool)
    (derivedFrom : List String) (recordedAt : Nat) (stamp : Stamp) :
    Artifact where
  artifactId := artifactId
  key := key
  role := role
  locatorKind := locatorKind
  locator := locator
  contentDigestSha256 := contentDigestSha256
  available := available
  derivedFrom := sortedBy id derivedFrom
  recordedAt := recordedAt
  receiptAttestation := none
  stamp := stamp

/-- The attesting operation's input. -/
structure AttestationInput where
  receiptId : String
  receiptDigestSha256 : String
  deliveryId : String
  step : String
  receiptState : String
  stepState : String
  parentAuthorityDigestSha256 : String
  authorizationDigestSha256 : String
  deriving DecidableEq

/-- The receipt reference and the four texts, then the three digests. -/
def validateAttestationFields (value : AttestationInput) : Checks Unit := do
  requireStr value.receiptId "attestation.receipt_id" maxReceiptAttestationFieldChars false
  requireStr value.deliveryId "attestation.delivery_id" maxReceiptAttestationFieldChars false
  requireStr value.step "attestation.step" maxReceiptAttestationFieldChars false
  requireStr value.receiptState "attestation.receipt_state" maxReceiptAttestationFieldChars false
  requireStr value.stepState "attestation.step_state" maxReceiptAttestationFieldChars false
  requireHex value.receiptDigestSha256 "attestation.receipt_digest_sha256" 64
  requireHex value.parentAuthorityDigestSha256 "attestation.parent_authority_digest_sha256" 64
  requireHex value.authorizationDigestSha256 "attestation.authorization_digest_sha256" 64

/-- Every refusal of an attestation input reads as one problem. -/
def validateReceiptAttestationInput (value : AttestationInput) : Checks Unit :=
  match validateAttestationFields value with
  | .ok _ => .ok ()
  | .error refusal => .error ⟨.receiptAttestation, refusal.location⟩

/-- The artifact an attestation records; every field is derived. -/
def newAttestedArtifact (artifactId : String) (attestation : AttestationInput)
    (authorizationId : String) (recordedAt : Nat) (stamp : Stamp) : Artifact :=
  { newArtifact artifactId none .verification .deliveryReceiptReference
      attestation.receiptId (some attestation.receiptDigestSha256) true []
      recordedAt stamp with
    receiptAttestation := some {
      deliveryId := attestation.deliveryId
      step := attestation.step
      receiptState := attestation.receiptState
      stepState := attestation.stepState
      parentAuthorityDigestSha256 := attestation.parentAuthorityDigestSha256
      authorizationId := authorizationId
      authorizationDigestSha256 := attestation.authorizationDigestSha256 } }

def newEvidence (evidenceId activationId requirementKey : String)
    (kind : EvidenceKind) (contentDigestSha256 : String)
    (artifactIds : List String) (submittedAt : Nat) (stamp : Stamp) :
    Evidence where
  evidenceId := evidenceId
  activationId := activationId
  requirementKey := requirementKey
  kind := kind
  contentDigestSha256 := contentDigestSha256
  artifactIds := sortedBy id artifactIds
  submittedAt := submittedAt
  acceptance := none
  invalidation := none
  stamp := stamp

/-! ## Projections -/

def activeBlockers (state : StateRecord) : List Blocker :=
  state.blockers.filter fun blocker => blocker.resolution = none

def activeHardBlockers (state : StateRecord) : List Blocker :=
  (activeBlockers state).filter fun blocker => blocker.severity = .hard

def latestActivation (state : StateRecord) : Option Activation :=
  state.contractActivations.getLast?

def evidenceById (state : StateRecord) (evidenceId : String) : Option Evidence :=
  state.evidence.find? fun evidence => evidence.evidenceId = evidenceId

def artifactById (state : StateRecord) (artifactId : String) : Option Artifact :=
  state.artifacts.find? fun artifact => artifact.artifactId = artifactId

/-- Accepted and not invalidated. -/
def isAccepted (evidence : Evidence) : Bool :=
  evidence.acceptance.isSome ∧ evidence.invalidation = none

end DodgingInfinity.MissionCore
