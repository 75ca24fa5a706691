import DodgingInfinity.MissionCore.Service.Runs
import DodgingInfinity.MissionCore.Service.States

/-!
# The verification of a run

The decision is recomputed from the conjunct values: a failed conjunct stops
the Mission, a contract not satisfied yet leaves a pending proof, and only
both holding completes it.
-/

namespace DodgingInfinity.MissionCore

open Checked

structure VerificationCall where
  conjunctHolds : VerifyConjunct → Bool
  rawGlobalCompleteness : Option RawCompleteness
  supportsVerification : Option Bool
  reportedResultDigestSha256 : Option String
  resultEvidenceId : Option String
  observedTaskStatus : String

inductive VerificationOutcome where
  | decided (verification : RunVerification)
  | pending (state : MissionState) (proof : PendingProof)
  deriving DecidableEq

/-- Accepted verification evidence under the run-result requirement. -/
def isAcceptedResult (evidenceId : Option String) (evidence : Evidence) : Bool :=
  some evidence.evidenceId = evidenceId ∧ evidence.kind = .verificationRecord ∧
    evidence.requirementKey = runResultRequirementKey ∧
    evidence.acceptance ≠ none ∧ evidence.invalidation = none

def stateEvidence (document : Document) (missionId : String) : List Evidence :=
  match document.missionState.get? missionId with
  | none => []
  | some state => state.evidence

def requireAcceptedResult (document : Document) (missionId : String)
    (evidenceId : Option String) : Checks Evidence :=
  orFail ((stateEvidence document missionId).find? (isAcceptedResult evidenceId)) .run

/-- The failures of the whole approved contract, against the contract
re-derived for the run. -/
def contractFailures [JsonDigest] (document : Document) (mission : Mission)
    (now : Nat) : Checks (List ClosureFailure) := do
  let state ← orFail (document.missionState.get? mission.missionId) .run
  let (activation, contract) ← boundContract document mission state now false
  pure (closureFailures contract state activation.activationId now (registryView document))

def pendingBlockers (failures : List ClosureFailure) : List PendingBlocker :=
  (failures.take maxPendingProofBlockers).map fun failure => {
    code := failure.problem
    detail := some (String.ofList (failure.detail.toList.take maxBlockerDetailChars)) }

/-- The durable, non-terminal outcome of a verification the contract
blocks. -/
def recordPendingProof (mission : Mission) (run : Run) (now : Nat)
    (failures : List ClosureFailure) (call : VerificationCall) :
    Checks (Mission × VerificationOutcome) := do
  let attempts := (run.pendingProof.map PendingProof.attempts).getD 0 + 1
  failIf (attempts > maxVerificationAttempts) .run
  let receipt ← orFail run.receipt .uncaught
  let pending : PendingProof := {
    decidedAt := now
    attempts := attempts
    targetTaskId := receipt.taskId
    observedTaskStatus := call.observedTaskStatus
    rawGlobalCompleteness := call.rawGlobalCompleteness
    supportsVerification := call.supportsVerification
    resultEvidenceId := call.resultEvidenceId
    blockers := pendingBlockers failures }
  pure (setRun mission { run with pendingProof := some pending } now,
    .pending mission.state pending)

def newVerification (call : VerificationCall) (decidedAt : Nat)
    (failed : Option VerifyConjunct) : RunVerification where
  decidedAt := decidedAt
  verified := failed = none
  failedConjunct := failed
  conjuncts := VerifyConjunct.all.map fun conjunct =>
    { name := conjunct, holds := call.conjunctHolds conjunct }
  rawGlobalCompleteness := call.rawGlobalCompleteness
  supportsVerification := call.supportsVerification
  reportedResultDigestSha256 := call.reportedResultDigestSha256
  resultEvidenceId := if failed = none then call.resultEvidenceId else none
  observedTaskStatus := call.observedTaskStatus

/-- Record the decision and end the run with it. -/
def decideVerification (mission : Mission) (run : Run) (now : Nat)
    (failed : Option VerifyConjunct) (call : VerificationCall) :
    Checks (Mission × VerificationOutcome) := do
  let verification := newVerification call now failed
  let decided := { mission with
    run := some { run with verification := some verification } }
  let moved ← match failed with
    | none => runTransition decided .completed .verified now
    | some conjunct =>
        runTransition decided .blocked (.conjunctFailed conjunct) now
  pure (moved, .decided verification)

/-- Every conjunct holds: the result must be accepted, and the contract decides
between completion and a pending proof. -/
def verifyContract [JsonDigest] (env : Env) (document : Document)
    (missionId : String) (mission : Mission) (run : Run)
    (call : VerificationCall) : Checks (Mission × VerificationOutcome) := do
  let _ ← requireAcceptedResult document missionId call.resultEvidenceId
  let failures ← contractFailures document mission env.now
  if failures ≠ [] then recordPendingProof mission run env.now failures call
  else decideVerification mission run env.now none call

/-- The verification decision of a RUNNING Mission. -/
def recordVerification [JsonDigest] (env : Env) (document : Document)
    (missionId : String) (call : VerificationCall) (context : Context) :
    Checks (Document × VerificationOutcome) :=
  runWrite document missionId context true fun mission => do
    refusePaused mission
    failIf (mission.state ≠ .running) .run
    let run ← orFail mission.run .uncaught
    match verificationOutcome call.conjunctHolds with
    | none => verifyContract env document missionId mission run call
    | some failed => decideVerification mission run env.now (some failed) call

end DodgingInfinity.MissionCore
