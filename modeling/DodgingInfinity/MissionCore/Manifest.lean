import DodgingInfinity.MissionCore.Decision

/-!
# The canonical Mission record

One record per Mission: its exact revisions, its decision history, its
authorization references, and the run that may follow an approval.  The
validators below decide which records are well formed.
-/

namespace DodgingInfinity.MissionCore

open Checked

def schemaVersion : Nat := 1

structure RevisionEntry where
  revision : Nat
  proposal : Proposal
  proposalDigestSha256 : String
  createdAt : Nat
  provenance : Provenance
  deriving DecidableEq

/-- The durable marker of a proposer's own withdrawal. -/
structure Withdrawal where
  withdrawnAt : Nat
  revision : Nat
  proposalDigestSha256 : String
  provenance : Provenance
  deriving DecidableEq

structure RunIntent where
  recordedAt : Nat
  authorizationId : String
  revision : Nat
  proposalDigestSha256 : String
  targetRepositoryUrl : String
  workspaceRealpath : String
  observedBaselineCommitSha : String
  requestDigestSha256 : String
  handoffDigestSha256 : String
  surfaceBaselineDigestSha256 : String
  approvedActionScope : List ActionScope
  approvedDeliveryTargets : List DeliveryTarget
  deriving DecidableEq

structure RunReceipt where
  recordedAt : Nat
  taskId : Option String
  identitySource : RunIdentitySource
  ownedProcessGroup : Option Int
  deriving DecidableEq

structure RunPause where
  pausedAt : Nat
  resumedAt : Option Nat
  deriving DecidableEq

structure RunCancel where
  requestedAt : Nat
  achieved : CancelAchieved
  control : Option CancelControl
  quiescence : Option CancelQuiescence
  completedAt : Option Nat
  deriving DecidableEq

inductive RawCompleteness where
  | complete
  | partialOnly
  deriving DecidableEq

structure ConjunctDecision where
  name : VerifyConjunct
  holds : Bool
  deriving DecidableEq

structure RunVerification where
  decidedAt : Nat
  verified : Bool
  failedConjunct : Option VerifyConjunct
  conjuncts : List ConjunctDecision
  rawGlobalCompleteness : Option RawCompleteness
  supportsVerification : Option Bool
  reportedResultDigestSha256 : Option String
  resultEvidenceId : Option String
  observedTaskStatus : String
  deriving DecidableEq

/-- One blocker of an unsatisfied contract; its text may be reclaimed. -/
structure PendingBlocker where
  code : Problem
  detail : Option String
  deriving DecidableEq

structure PendingProof where
  decidedAt : Nat
  attempts : Nat
  targetTaskId : Option String
  observedTaskStatus : String
  rawGlobalCompleteness : Option RawCompleteness
  supportsVerification : Option Bool
  resultEvidenceId : Option String
  blockers : List PendingBlocker
  deriving DecidableEq

structure ReconcileUnobserved where
  attempts : Nat
  lastAttemptedAt : Nat
  deriving DecidableEq

structure LateResolution where
  recordedAt : Nat
  taskId : String
  observedTaskStatus : String
  deriving DecidableEq

/-- What a workspace binding names; the digest covers all of it. -/
structure BoundWorkspace where
  pathRealpath : String
  repositoryRealpath : String
  targetRepositoryUrl : String
  revision : Nat
  proposalDigestSha256 : String
  baselineCommitSha : String
  bindingDigestSha256 : String
  deriving DecidableEq

structure WorkspaceBinding where
  bound : BoundWorkspace
  state : WorkspaceState
  recordedAt : Nat
  preparedAt : Option Nat
  deriving DecidableEq

structure WorkspaceRefusal where
  problem : String
  detail : Option String
  recordedAt : Nat
  refusals : Nat
  deriving DecidableEq

inductive ReclaimOutcome where
  | reclaimed
  | deleted
  deriving DecidableEq

structure ReclaimMarker where
  reclaimedAt : Nat
  outcome : ReclaimOutcome
  deriving DecidableEq

/-- What happened after approval, as distinct durable facts. -/
structure Run where
  intent : Option RunIntent
  receipt : Option RunReceipt
  pauses : List RunPause
  cancel : Option RunCancel
  verification : Option RunVerification
  pendingProof : Option PendingProof
  reconcileUnobserved : Option ReconcileUnobserved
  lateResolution : Option LateResolution
  workspace : Option WorkspaceBinding
  workspaceRefusal : Option WorkspaceRefusal
  reclaimed : Option ReclaimMarker
  deriving DecidableEq

structure LifecycleEvent where
  fromState : MissionState
  toState : MissionState
  reason : RunReason
  recordedAt : Nat
  deriving DecidableEq

structure Mission where
  schemaVersion : Nat
  missionId : String
  requestId : String
  createdAt : Nat
  updatedAt : Nat
  state : MissionState
  currentRevision : Nat
  revisions : List RevisionEntry
  decisions : List DecisionRecord
  authorizationIds : List String
  withdrawal : Option Withdrawal
  withdrawalKeyDigestSha256 : Option String
  withdrawalKeyExpiresAt : Option Nat
  run : Option Run
  lifecycle : Option (List LifecycleEvent)
  deriving DecidableEq

def maxLifecycleEvents : Nat := 2

def maxRunTaskIdChars : Nat := 128

def maxMissionRevisions : Nat := 64

def maxMissionDecisions : Nat := 256

namespace Mission

/-- The intent of the Mission's run, if it has one. -/
def runIntent (mission : Mission) : Option RunIntent :=
  mission.run.bind Run.intent

def runWorkspace (mission : Mission) : Option WorkspaceBinding :=
  mission.run.bind Run.workspace

def lifecycleEvents (mission : Mission) : List LifecycleEvent :=
  mission.lifecycle.getD []

def firstRevision (mission : Mission) : Checks RevisionEntry :=
  orFail mission.revisions.head? .uncaught

def currentRevisionEntry (mission : Mission) : Checks RevisionEntry :=
  orFail mission.revisions.getLast? .uncaught

/-- The stored entry of a revision, if the record holds it. -/
def revisionEntry (mission : Mission) (revision : Int) : Option RevisionEntry :=
  if 1 ≤ revision ∧ revision ≤ mission.revisions.length then
    mission.revisions[(revision - 1).toNat]?.filter fun entry => (entry.revision : Int) = revision
  else none

theorem revisionEntry_natCast {mission : Mission} {entry : RevisionEntry}
    {number : Nat} (h : mission.revisionEntry number = some entry) :
    mission.revisions[number - 1]? = some entry := by
  unfold Mission.revisionEntry at h
  split at h
  · obtain ⟨hentry, -⟩ := Option.filter_eq_some_iff.mp h
    have hindex : ((number : Int) - 1).toNat = number - 1 := by omega
    rwa [hindex] at hentry
  · cases h

end Mission

def newRevisionEntry [JsonDigest] (revision : Nat) (proposal : Proposal)
    (createdAt : Nat) (provenance : Provenance) : Checks RevisionEntry := do
  let clean ← validateProposal proposal "proposal"
  let digest ← proposalDigest clean
  pure {
    revision := revision
    proposal := clean
    proposalDigestSha256 := digest
    createdAt := createdAt
    provenance := provenance
  }

/-- The refused decision of a full history. -/
def appendDecision (mission : Mission) (entry : DecisionRecord) :
    Checks Mission := do
  failIf (mission.decisions.length ≥ maxMissionDecisions) .decisionsFull
  pure { mission with decisions := mission.decisions ++ [entry] }

/-- Append the next revision: created when the service applied the edit,
received when the transport did. -/
def appendRevision [JsonDigest] (mission : Mission) (proposal : Proposal)
    (createdAt : Nat) (decisionId : String) (context : Context)
    (receivedAt : Nat) : Checks (Mission × RevisionEntry) := do
  failIf (mission.revisions.length ≥ maxMissionRevisions) .revisionsFull
  let revision := mission.currentRevision + 1
  let provenance ← provenanceRecord context receivedAt .decision decisionId
    mission.missionId revision
  let entry ← newRevisionEntry revision proposal createdAt provenance
  pure ({ mission with
    revisions := mission.revisions ++ [entry]
    currentRevision := revision
    updatedAt := createdAt }, entry)

/-- The withdrawal block of the revision-1 proposal. -/
def newWithdrawal (mission : Mission) (context : Context) (withdrawnAt : Nat) :
    Checks Withdrawal := do
  let first ← mission.firstRevision
  let provenance ← provenanceRecord context withdrawnAt .request
    mission.requestId mission.missionId 1
  pure {
    withdrawnAt := withdrawnAt
    revision := 1
    proposalDigestSha256 := first.proposalDigestSha256
    provenance := provenance
  }

/-! ## The run record -/

def newRunBlock : Run where
  intent := none
  receipt := none
  pauses := []
  cancel := none
  verification := none
  pendingProof := none
  reconcileUnobserved := none
  lateResolution := none
  workspace := none
  workspaceRefusal := none
  reclaimed := none

/-- The reduced form of a terminal run: its two diagnostic texts removed,
every fact kept. -/
def reclaimedRun (run : Run) (reclaimedAt : Nat) (outcome : ReclaimOutcome) : Run :=
  { run with
    workspaceRefusal := run.workspaceRefusal.map fun refusal =>
      { refusal with detail := none }
    pendingProof := run.pendingProof.map fun pending =>
      { pending with blockers := pending.blockers.map fun blocker =>
          { blocker with detail := none } }
    reclaimed := some { reclaimedAt := reclaimedAt, outcome := outcome } }

def runIsPaused (run : Option Run) : Bool :=
  match run with
  | none => false
  | some held =>
      match held.pauses.getLast? with
      | none => false
      | some pause => pause.resumedAt = none

def requireAbsolute (value location : String) : Checks Unit := do
  requireStr value location maxRunPathChars false
  failAt (value.toList.head? ≠ some '/') .badValue location

/-- The workspace binding of a Mission at its current revision, with its
digest. -/
def workspaceBinding [JsonDigest] (mission : Mission)
    (pathRealpath repositoryRealpath baselineCommitSha : String) :
    Checks BoundWorkspace := do
  let entry ← mission.currentRevisionEntry
  requireAbsolute pathRealpath "workspace binding.path_realpath"
  requireAbsolute repositoryRealpath "workspace binding.repository_realpath"
  let url ← orFailAt entry.proposal.repositoryUrl .repositoryIdentity
    "workspace binding"
  requireHex baselineCommitSha "workspace binding.baseline_commit_sha" 40
  pure {
    pathRealpath := pathRealpath
    repositoryRealpath := repositoryRealpath
    targetRepositoryUrl := url
    revision := entry.revision
    proposalDigestSha256 := entry.proposalDigestSha256
    baselineCommitSha := baselineCommitSha
    bindingDigestSha256 := workspaceBindingDigest mission.missionId
      pathRealpath repositoryRealpath url entry.revision
      entry.proposalDigestSha256 baselineCommitSha
  }

/-! ## Validation -/

/-- Revision 1 records the proposer, every later one an authenticated
principal. -/
def requireRevisionPrincipal (provenance : Provenance) (index : Nat)
    (location : String) : Checks Unit :=
  if index = 0 then validateProvenance provenance location
  else requireAuthenticatedProvenance provenance location

def validateRevisionProvenance (mission : Mission) (entry : RevisionEntry)
    (index : Nat) (location : String) : Checks Unit := do
  requireRevisionPrincipal entry.provenance index location
  failAt (entry.provenance.missionId ≠ mission.missionId ∨
    entry.provenance.revision ≠ index + 1) .provenance location
  failAt (entry.provenance.referenceKind ≠
    if index = 0 then .request else .decision) .provenance
    (location ++ ".reference_kind")
  failAt (index = 0 ∧ entry.provenance.referenceId ≠ mission.requestId)
    .provenance (location ++ ".reference_id")

def validateRevisionEntry [JsonDigest] (mission : Mission)
    (entry : RevisionEntry) (index : Nat) (location : String) :
    Checks Unit := do
  failAt (entry.revision ≠ index + 1) .badValue (location ++ ".revision")
  let clean ← validateProposal entry.proposal (location ++ ".proposal")
  failAt (clean ≠ entry.proposal) .badValue (location ++ ".proposal")
  requireHex entry.proposalDigestSha256 (location ++ ".proposal_digest_sha256") 64
  let digest ← proposalDigest clean
  failAt (entry.proposalDigestSha256 ≠ digest) .badValue (location ++ ".proposal_digest_sha256")
  validateRevisionProvenance mission entry index (location ++ ".provenance")

def validateRevisions [JsonDigest] (mission : Mission) (location : String)
    (index : Nat) : List RevisionEntry → Checks Unit
  | [] => .ok ()
  | entry :: rest => do
      validateRevisionEntry mission entry index (elementAt (location ++ ".revisions") index)
      validateRevisions mission location (index + 1) rest

def validateMissionDecision [JsonDigest] (mission : Mission)
    (entry : DecisionRecord) (location : String) : Checks Unit := do
  validateDecisionRecord entry location
  failAt (entry.missionId ≠ mission.missionId) .badValue location
  failAt (entry.revision > mission.currentRevision) .badValue location
  failAt (entry.outcome.resultingRevision > mission.currentRevision ∨
    mission.revisions[entry.outcome.resultingRevision - 1]?.map RevisionEntry.proposalDigestSha256 ≠
      some entry.outcome.proposalDigestSha256) .badValue (location ++ ".outcome")

/-- The withdrawal key and its expiry are recorded together, by the proposer
that no transport authenticated. -/
def validateWithdrawalKey (mission : Mission) (location : String) : Checks Unit :=
  match mission.withdrawalKeyDigestSha256, mission.withdrawalKeyExpiresAt with
  | none, none => .ok ()
  | some digest, some expires => do
      requireHex digest (location ++ ".withdrawal_key_digest_sha256") 64
      failAt (expires > mission.createdAt + withdrawalKeyValiditySeconds)
        .badValue (location ++ ".withdrawal_key_expires_at")
      let first ← mission.firstRevision
      failAt (first.provenance.context.principalKind ≠
        .unauthenticatedLocalCaller) .provenance location
  | _, _ => .error ⟨.badValue, location⟩

def validateWithdrawal (mission : Mission) (withdrawal : Withdrawal)
    (location : String) : Checks Unit := do
  failAt (mission.state ≠ .awaitingDecision ∨ mission.currentRevision ≠ 1 ∨
    mission.decisions ≠ [] ∨ mission.authorizationIds ≠ []) .badValue location
  let first ← mission.firstRevision
  failAt (first.provenance.context.principalKind ≠ .unauthenticatedLocalCaller) .provenance location
  failAt (withdrawal.revision ≠ 1 ∨ withdrawal.proposalDigestSha256 ≠ first.proposalDigestSha256)
    .badValue location
  failAt (withdrawal.withdrawnAt < mission.createdAt ∨
    mission.updatedAt ≠ withdrawal.withdrawnAt) .badValue location
  let expires ← orFail mission.withdrawalKeyExpiresAt .uncaught
  failAt (withdrawal.withdrawnAt ≥ expires) .badValue location
  validateProvenance withdrawal.provenance (location ++ ".provenance")
  let recorded ← provenanceContext withdrawal.provenance
  let proposer ← provenanceContext first.provenance
  failAt (recorded ≠ proposer ∨ withdrawal.provenance.referenceKind ≠ .request ∨
    withdrawal.provenance.referenceId ≠ mission.requestId ∨
    withdrawal.provenance.missionId ≠ mission.missionId ∨
    withdrawal.provenance.revision ≠ 1 ∨
    withdrawal.provenance.receivedAt ≠ withdrawal.withdrawnAt) .provenance
    (location ++ ".provenance")

def validateWithdrawalMarker (mission : Mission) (location : String) : Checks Unit :=
  match mission.withdrawal with
  | none => .ok ()
  | some withdrawal => do
      failAt (mission.withdrawalKeyDigestSha256 = none) .badValue (location ++ ".withdrawal")
      validateWithdrawal mission withdrawal (location ++ ".withdrawal")

/-- Walk the lifecycle chain from a state and a time; returns its end. -/
def validateLifecycleEvents (location : String) (previousState : MissionState)
    (previousAt index : Nat) : List LifecycleEvent → Checks (MissionState × Nat)
  | [] => .ok (previousState, previousAt)
  | event :: rest => do
      let path := elementAt location index
      failAt (event.fromState ≠ previousState ∨
        (event.fromState, event.toState) ∉ MissionState.runTransitions)
        .invalidTransition path
      failAt (event.reason.admittedBy event.toState = false) .badValue (path ++ ".reason")
      failAt (event.recordedAt < previousAt) .badValue (path ++ ".recorded_at")
      validateLifecycleEvents location event.toState event.recordedAt (index + 1) rest

def validateLifecycle (mission : Mission) (events : List LifecycleEvent)
    (location : String) : Checks Unit := do
  failAt (events = [] ∨ events.length > maxLifecycleEvents) .badValue location
  let (finalState, finalAt) ← validateLifecycleEvents location .authorized
    mission.createdAt 0 events
  failAt (finalState ≠ mission.state ∨ mission.updatedAt < finalAt) .badValue location

def validateIntent (mission : Mission) (intent : RunIntent)
    (location : String) : Checks Unit := do
  requireId intent.authorizationId .authorization (location ++ ".authorization_id")
  failAt (intent.authorizationId ∉ mission.authorizationIds) .badValue location
  failAt (intent.revision ≠ mission.currentRevision) .badValue location
  let entry ← mission.currentRevisionEntry
  failAt (intent.proposalDigestSha256 ≠ entry.proposalDigestSha256) .badValue location
  failAt (entry.proposal.repositoryUrl ≠ some intent.targetRepositoryUrl)
    .repositoryIdentity location
  requireAbsolute intent.workspaceRealpath (location ++ ".workspace_realpath")
  requireHex intent.observedBaselineCommitSha (location ++ ".observed_baseline_commit_sha") 40
  requireHex intent.requestDigestSha256 (location ++ ".request_digest_sha256") 64
  requireHex intent.handoffDigestSha256 (location ++ ".handoff_digest_sha256") 64
  requireHex intent.surfaceBaselineDigestSha256 (location ++ ".surface_baseline_digest_sha256") 64
  requireSorted ActionScope.text intent.approvedActionScope
    (location ++ ".approved_action_scope") .actionScope false
  failAt (∃ scope ∈ runRequiredActionScope, scope ∉ intent.approvedActionScope)
    .actionScope location
  requireSorted DeliveryTarget.text intent.approvedDeliveryTargets
    (location ++ ".approved_delivery_targets") .deliveryTarget true
  failAt (∃ decision ∈ mission.decisions, decision.decidedAt > intent.recordedAt) .badValue location

/-- What an intent requires of the binding prepared before it. -/
def validateIntentWorkspace (binding : WorkspaceBinding)
    (intent : Option RunIntent) (location : String) : Checks Unit :=
  match intent with
  | none => .ok ()
  | some held =>
      failAt (binding.state ≠ .prepared ∨ held.workspaceRealpath ≠ binding.bound.pathRealpath ∨
        held.observedBaselineCommitSha ≠ binding.bound.baselineCommitSha ∨
        ∃ prepared ∈ binding.preparedAt, prepared > held.recordedAt)
        .badValue location

def validateWorkspace [JsonDigest] (mission : Mission)
    (binding : WorkspaceBinding) (intent : Option RunIntent)
    (location : String) : Checks Unit := do
  let expected ← workspaceBinding mission binding.bound.pathRealpath
    binding.bound.repositoryRealpath binding.bound.baselineCommitSha
  failAt (binding.bound ≠ expected) .badValue location
  failAt (¬ (binding.state = .prepared ↔ binding.preparedAt ≠ none) ∨
    ∃ prepared ∈ binding.preparedAt, prepared < binding.recordedAt)
    .badValue (location ++ ".state")
  validateIntentWorkspace binding intent location

def validateReclaimMarker (mission : Mission) (location : String) : Checks Unit :=
  failAt (mission.state ∉ [MissionState.blocked, .completed, .cancelled]) .badValue location

/-- A diagnostic text is there until it is reclaimed, and only until then. -/
def validateDiagnostic (detail : Option String) (location : String)
    (maxChars : Nat) (reclaimed : Bool) : Checks Unit :=
  match detail, reclaimed with
  | none, true => .ok ()
  | some _, true => .error ⟨.badValue, location⟩
  | none, false => .error ⟨.badType, location⟩
  | some text, false => requireStr text location maxChars false

def validateWorkspaceRefusal (refusal : WorkspaceRefusal) (location : String)
    (reclaimed : Bool) : Checks Unit := do
  requireStr refusal.problem (location ++ ".problem") maxWorkspaceProblemChars false
  validateDiagnostic refusal.detail (location ++ ".detail") maxWorkspaceDetailChars reclaimed
  requireAtLeast refusal.refusals 1 (location ++ ".refusals")

def validateReceipt (receipt : RunReceipt) (intent : RunIntent)
    (location : String) : Checks Unit := do
  failAt (receipt.recordedAt < intent.recordedAt) .badValue (location ++ ".recorded_at")
  requireOptionalStr receipt.taskId (location ++ ".task_id") maxRunTaskIdChars
  failAt (∃ group ∈ receipt.ownedProcessGroup, group ≤ 1) .badValue
    (location ++ ".owned_process_group")

def validatePauses (location : String) (previous index : Nat) : List RunPause → Checks Unit
  | [] => .ok ()
  | pause :: rest => do
      failAt (pause.pausedAt < previous ∨ (∃ resumed ∈ pause.resumedAt, resumed < pause.pausedAt) ∨
        (pause.resumedAt = none ∧ rest ≠ [])) .badValue
        (elementAt location index)
      validatePauses location (pause.resumedAt.getD pause.pausedAt) (index + 1) rest

def validateVerification (verification : RunVerification)
    (location : String) : Checks Unit := do
  failAt (verification.conjuncts.map ConjunctDecision.name ≠ VerifyConjunct.all)
    .badValue (location ++ ".conjuncts")
  let failed := (verification.conjuncts.find? fun conjunct =>
    conjunct.holds = false).map ConjunctDecision.name
  failAt (¬ (verification.verified = true ↔ failed = none) ∨
    verification.failedConjunct ≠ failed) .badValue location
  requireOptionalHex verification.reportedResultDigestSha256
    (location ++ ".reported_result_digest_sha256") 64
  requireStr verification.observedTaskStatus
    (location ++ ".observed_task_status") maxObservedStatusChars false
  requireOptionalId verification.resultEvidenceId .evidence (location ++ ".result_evidence_id")
  failAt (verification.resultEvidenceId = none ∧ verification.verified) .badValue location

def validateReconcileUnobserved (unobserved : ReconcileUnobserved)
    (intent : Option RunIntent) (exhausted : Bool) (location : String) :
    Checks Unit := do
  let held ← orFailAt intent .badValue location
  requireAtLeast unobserved.attempts 1 (location ++ ".attempts")
  failAt (unobserved.attempts > maxReconcileAttempts) .badValue (location ++ ".attempts")
  failAt (¬ (unobserved.attempts = maxReconcileAttempts ↔ exhausted = true)) .badValue location
  failAt (unobserved.lastAttemptedAt < held.recordedAt) .badValue (location ++ ".last_attempted_at")

/-- The one lifecycle event of a run stopped because nothing was observable. -/
def lateResolutionStop (mission : Mission) : Option LifecycleEvent :=
  match mission.lifecycleEvents with
  | [event] => if event.reason.lateResolutionStop then some event else none
  | _ => none

/-- A receipt that names its target. -/
def boundTask (receipt : Option RunReceipt) : Option String :=
  receipt.bind RunReceipt.taskId

def validateLateResolution (mission : Mission) (run : Run)
    (resolution : LateResolution) (location : String) : Checks Unit := do
  failAt (mission.state ≠ .blocked ∨ boundTask run.receipt ≠ none) .badValue location
  let stop ← orFailAt (lateResolutionStop mission) .badValue location
  failAt (resolution.recordedAt < stop.recordedAt ∨
    mission.updatedAt < resolution.recordedAt) .badValue
    (location ++ ".recorded_at")
  requireStr resolution.taskId (location ++ ".task_id") maxRunTaskIdChars false
  requireStr resolution.observedTaskStatus
    (location ++ ".observed_task_status") maxObservedStatusChars false

def validatePendingBlocker (reclaimed : Bool) (blocker : PendingBlocker)
    (location : String) : Checks Unit := do
  requireStr blocker.code.code (location ++ ".code") maxContractKeyChars false
  failAt (blocker.code.code.toList.take "mission_state_".toList.length ≠
    "mission_state_".toList) .badValue (location ++ ".code")
  validateDiagnostic blocker.detail (location ++ ".detail") maxBlockerDetailChars reclaimed

def validatePendingProof (pending : PendingProof)
    (receipt : Option RunReceipt) (location : String) (reclaimed : Bool) :
    Checks Unit := do
  requireAtLeast pending.attempts 1 (location ++ ".attempts")
  failAt (pending.attempts > maxVerificationAttempts) .badValue (location ++ ".attempts")
  let held ← orFailAt receipt .badValue location
  failAt (pending.targetTaskId ≠ held.taskId) .badValue location
  requireStr pending.observedTaskStatus
    (location ++ ".observed_task_status") maxObservedStatusChars false
  let evidenceId ← orFailAt pending.resultEvidenceId .idGrammar
    (location ++ ".result_evidence_id")
  requireId evidenceId .evidence (location ++ ".result_evidence_id")
  failAt (pending.blockers = [] ∨ pending.blockers.length > maxPendingProofBlockers) .badValue
    (location ++ ".blockers")
  checkElements (validatePendingBlocker reclaimed) (location ++ ".blockers") 0 pending.blockers

/-- The quiescence each achieved cancel can claim. -/
def quiescenceAllowed : CancelAchieved → List CancelQuiescence
  | .beforeIntent => [.nothingStarted]
  | .afterIntentTargetUnknown => [.ownedGroupReaped, .unproven]
  | .afterObservedRunning => [.ownedGroupReaped, .unproven]
  | .afterTargetTerminated =>
      [.taskObservedStopped, .ownedGroupReaped, .unproven]

def validateCancelCompletion (cancel : RunCancel) (run : Run) (location : String) : Checks Unit :=
  match cancel.completedAt with
  | none =>
      failAt (cancel.control ≠ none ∨ cancel.quiescence ≠ none) .badValue location
  | some _ => do
      let control ← orFailAt cancel.control .badValue
        (location ++ ".control")
      let quiescence ← orFailAt cancel.quiescence .badValue
        (location ++ ".quiescence")
      failAt (quiescence ∉ quiescenceAllowed cancel.achieved) .badValue (location ++ ".quiescence")
      let reaped : Bool :=
        control = .ownedGroupReaped ∨ control = .ownedGroupAlreadyGone
      failAt (¬ (quiescence = .ownedGroupReaped ↔ reaped = true) ∨
        (reaped ∧ run.receipt.bind RunReceipt.ownedProcessGroup = none) ∨
        (cancel.achieved = .beforeIntent ∧ control ≠ .notApplicable))
        .badValue location

def validateCancel (cancel : RunCancel) (run : Run)
    (events : List LifecycleEvent) (location : String) : Checks Unit := do
  let first ← orFail events.head? .uncaught
  let last ← orFail events.getLast? .uncaught
  failAt (last.reason ≠ .cancelled cancel.achieved) .badValue (location ++ ".achieved")
  failAt (¬ (cancel.achieved = .beforeIntent ↔ run.intent = none) ∨ ¬ (first.toState = .running ↔
      (cancel.achieved = .afterObservedRunning ∨
        cancel.achieved = .afterTargetTerminated))) .badValue
    (location ++ ".achieved")
  validateCancelCompletion cancel run location

/-- Check an optional block, when it is there. -/
def checkPresent {α : Type} (value : Option α) (check : α → Checks Unit) : Checks Unit :=
  match value with
  | none => .ok ()
  | some held => check held

@[simp] theorem checkPresent_eq_ok {α : Type} (value : Option α)
    (check : α → Checks Unit) (passed : Unit) :
    checkPresent value check = .ok passed ↔
      ∀ held, value = some held → check held = .ok () := by
  cases value <;> simp [checkPresent]

/-- The verification block and the lifecycle chain agree. -/
def validateVerificationOutcome (mission : Mission) (run : Run) (location : String) : Checks Unit :=
  match run.verification with
  | some verification => do
      validateVerification verification (location ++ ".verification")
      failAt (mission.lifecycleEvents.length ≠ 2 ∨
        mission.lifecycleEvents.getLast?.map LifecycleEvent.reason ≠
          (if verification.verified then some RunReason.verified
            else verification.failedConjunct.map .conjunctFailed)) .badValue
        (location ++ ".verification")
  | none =>
      failAt (mission.state = .completed ∨
        ∃ event ∈ mission.lifecycleEvents, ∃ conjunct ∈ VerifyConjunct.all,
          event.reason = .conjunctFailed conjunct) .badValue location

/-- The count of unobserved attempts is there exactly when it must be. -/
def validateUnobserved (run : Run) (exhausted : Bool) (location : String) : Checks Unit :=
  match run.reconcileUnobserved with
  | some unobserved => validateReconcileUnobserved unobserved run.intent
      exhausted (location ++ ".reconcile_unobserved")
  | none => failAt (exhausted = true) .badValue location

def runStates : List MissionState := [.running, .blocked, .completed, .cancelled]

/-- A run state needs a run and its chain; only AUTHORIZED may carry a run
without one. -/
def validateRunPresence (mission : Mission) (location : String) : Checks Unit :=
  if mission.state ∈ runStates then
    failAt (mission.run = none ∨ mission.lifecycle = none) .badValue location
  else
    failAt (mission.lifecycle ≠ none ∨
      (mission.run ≠ none ∧ mission.state ≠ .authorized)) .badValue location

def validateRun [JsonDigest] (mission : Mission) (run : Run)
    (location : String) : Checks Unit := do
  let events := mission.lifecycleEvents
  let lastReason := events.getLast?.map LifecycleEvent.reason
  failAt (mission.withdrawal ≠ none) .badValue location
  checkPresent mission.lifecycle fun held =>
    validateLifecycle mission held (location ++ ".lifecycle")
  checkPresent run.intent fun intent =>
    validateIntent mission intent (location ++ ".intent")
  checkPresent run.workspace fun binding =>
    validateWorkspace mission binding run.intent (location ++ ".workspace")
  checkPresent run.reclaimed fun _ =>
    validateReclaimMarker mission (location ++ ".reclaimed")
  checkPresent run.workspaceRefusal fun refusal =>
    validateWorkspaceRefusal refusal (location ++ ".workspace_refusal") run.reclaimed.isSome
  checkPresent run.receipt fun receipt => do
    let intent ← orFailAt run.intent .badValue (location ++ ".receipt")
    validateReceipt receipt intent (location ++ ".receipt")
  failAt (run.pauses.length > maxRunPauses) .badValue (location ++ ".pauses")
  validatePauses (location ++ ".pauses") 0 0 run.pauses
  failAt (events.head?.map LifecycleEvent.toState = some .running ∧
    boundTask run.receipt = none) .badValue location
  validateVerificationOutcome mission run location
  checkPresent run.pendingProof fun pending => do
    failAt (events.head?.map LifecycleEvent.toState ≠ some .running) .badValue
      (location ++ ".pending_proof")
    validatePendingProof pending run.receipt (location ++ ".pending_proof") run.reclaimed.isSome
  failAt (¬ (run.cancel ≠ none ↔ mission.state = .cancelled)) .badValue (location ++ ".cancel")
  checkPresent run.cancel fun cancel =>
    validateCancel cancel run events (location ++ ".cancel")
  validateUnobserved run (lastReason = some (.reconciled .notObservable)) location
  failAt (lastReason = some (.reconciled .lateChildAborted) ∧ (boundTask run.receipt = none ∨
      run.receipt.map RunReceipt.identitySource ≠ some .reconciliation))
    .badValue location
  checkPresent run.lateResolution fun resolution =>
    validateLateResolution mission run resolution (location ++ ".late_resolution")
  failAt (run.intent = none ∧ (mission.state = .running ∨
    mission.state = .completed ∨ mission.state = .blocked)) .badValue location

def validateRunAndLifecycle [JsonDigest] (mission : Mission)
    (location : String) : Checks Unit := do
  validateRunPresence mission location
  checkPresent mission.run fun run =>
    validateRun mission run (location ++ ".run")

def validateMissionBody [JsonDigest] (mission : Mission) (location : String) :
    Checks Unit := do
  failAt (mission.schemaVersion ≠ schemaVersion) .badValue (location ++ ".schema_version")
  requireId mission.missionId .mission (location ++ ".mission_id")
  requireId mission.requestId .request (location ++ ".request_id")
  failAt (mission.updatedAt < mission.createdAt) .badValue (location ++ ".updated_at")
  failAt (mission.state ∉ MissionState.reachable) .unknownState (location ++ ".state")
  requireAtLeast mission.currentRevision 1 (location ++ ".current_revision")
  failAt (mission.revisions = []) .badType (location ++ ".revisions")
  failAt (mission.revisions.length > maxMissionRevisions) .revisionsFull (location ++ ".revisions")
  failAt (mission.revisions.length ≠ mission.currentRevision) .badValue
    (location ++ ".current_revision")
  validateRevisions mission location 0 mission.revisions
  failAt (mission.decisions.length > maxMissionDecisions) .decisionsFull (location ++ ".decisions")
  checkElements (validateMissionDecision mission) (location ++ ".decisions") 0 mission.decisions
  failAt (¬ (mission.decisions.map DecisionRecord.decisionId).Nodup) .badValue
    (location ++ ".decisions")
  checkElements (fun item path => requireId item .authorization path)
    (location ++ ".authorization_ids") 0 mission.authorizationIds
  failAt (¬ mission.authorizationIds.Nodup) .badValue (location ++ ".authorization_ids")
  validateWithdrawalKey mission location
  validateWithdrawalMarker mission location
  validateRunAndLifecycle mission location

/-- Every refusal of a Mission record reads as a malformed state, except the
two hard bounds. -/
def validateMissionRecord [JsonDigest] (mission : Mission) (location : String) : Checks Unit :=
  match validateMissionBody mission location with
  | .ok _ => .ok ()
  | .error refusal =>
      if refusal.problem = .revisionsFull ∨ refusal.problem = .decisionsFull then
        .error refusal
      else .error ⟨.malformedState, refusal.location⟩

@[simp] theorem validateMissionRecord_eq_ok [JsonDigest] (mission : Mission)
    (location : String) (passed : Unit) :
    validateMissionRecord mission location = .ok passed ↔
      validateMissionBody mission location = .ok () := by
  unfold validateMissionRecord
  split
  · simp [*]
  · split <;> simp [*]

/-- Revision 1 of a new Mission: awaiting a decision, with no authority. -/
def newMissionRecord [JsonDigest] (missionId requestId : String)
    (proposal : Proposal) (createdAt : Nat) (context : Context)
    (withdrawalKeyDigestSha256 : Option String)
    (withdrawalKeyExpiresAt : Option Nat) : Checks Mission := do
  requireId missionId .mission "mission_id"
  requireId requestId .request "request_id"
  let provenance ← provenanceRecord context createdAt .request requestId
    missionId 1
  let entry ← newRevisionEntry 1 proposal createdAt provenance
  let document : Mission := {
    schemaVersion := schemaVersion
    missionId := missionId
    requestId := requestId
    createdAt := createdAt
    updatedAt := createdAt
    state := .awaitingDecision
    currentRevision := 1
    revisions := [entry]
    decisions := []
    authorizationIds := []
    withdrawal := none
    withdrawalKeyDigestSha256 := withdrawalKeyDigestSha256
    withdrawalKeyExpiresAt := withdrawalKeyExpiresAt
    run := none
    lifecycle := none
  }
  validateMissionRecord document "mission"
  pure document

end DodgingInfinity.MissionCore
