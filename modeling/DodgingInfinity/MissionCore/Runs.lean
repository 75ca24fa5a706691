import DodgingInfinity.MissionCore.Change

/-!
# Runs as lists of calls

A run is what a list of calls leaves of the empty document, one call after
another, a refused call leaving what it found.
-/

namespace DodgingInfinity.MissionCore

open Checked Relation

section

variable [JsonDigest] [ReconciliationPlanner] {document : Document}

/-- What one call leaves, refused or not. -/
def attempt (document : Document) (call : Env × ServiceCall) : Document :=
  match perform call.1 document call.2 with
  | .ok next => next
  | .error _ => document

def attemptAll (document : Document) (calls : List (Env × ServiceCall)) : Document :=
  calls.foldl attempt document

theorem attempt_runs (call : Env × ServiceCall) :
    Runs document (attempt document call) := by
  unfold attempt
  cases hcall : perform call.1 document call.2 with
  | error refusal => exact ReflTransGen.refl
  | ok next => exact ReflTransGen.single ⟨call.1, call.2, hcall⟩

theorem attemptAll_runs (calls : List (Env × ServiceCall)) :
    Runs document (attemptAll document calls) := by
  induction calls generalizing document with
  | nil => exact ReflTransGen.refl
  | cons call rest ih =>
      exact ReflTransGen.trans (attempt_runs call) ih

theorem attemptAll_append (first second : List (Env × ServiceCall)) :
    attemptAll document (first ++ second) = attemptAll (attemptAll document first) second :=
  List.foldl_append

theorem attemptAll_reachable (calls : List (Env × ServiceCall)) :
    Reachable (attemptAll defaultDocument calls) :=
  attemptAll_runs calls

end

/-! ## One Mission, proposed, proved and verified -/

def sampleId (kind : IdPrefix) (number : Nat) : String :=
  kind.text ++ "-" ++ String.ofList (List.replicate 31 '0' ++ [Nat.digitChar number])

/-- The clock and the minter of one sample call. -/
def sampleEnv (now : Nat) : Env where
  receivedAt := now
  checkedAt := now
  now := now
  answeredAt := now
  mintId := fun kind taken _ => sampleId kind taken

/-- The digest of the content the sample artifact and evidence carry. -/
def sampleContent : String :=
  "2c26b46b68ffc68ff99b453c1d30413413422d706483bfa0f98a5e886266e7ae"

def sampleContract : ProofContract where
  requirements := [{
    key := "run_result"
    description := "the run is verified"
    evidenceKinds := [.verificationRecord]
    requiredArtifactKeys := ["report"]
    maxEvidenceAgeSeconds := 86400 }]
  requiredArtifacts := [{
    key := "report"
    role := .produced
    expectedContentDigestSha256 := sampleContent }]
  requiredDependencies := [{
    key := "toolchain"
    kind := .resource
    target := .exactResource "toolchain" }]
  requiredResourceReadiness := [{ resourceKey := "host", maxAgeSeconds := 600 }]
  permittedBlockerKeys := []
  continuationBudget := { maxAttempts := 1, maxCheckpoints := 2 }

def sampleProposal : Proposal where
  objective := "fix the parser"
  targetContext := ""
  repositoryUrl := some "https://github.com/o/r"
  requestedScope := "one change"
  requestedActionScope := [.engineeringChange]
  requestedDeliveryTarget := none
  proofContract := some sampleContract

def sampleCaller : Context := .authenticated sampleContext

def sampleMissionId : String := sampleId .mission 0

def sampleState (now number : Nat) (operation : StateOperation) : Env × ServiceCall :=
  (sampleEnv now, .state {
    missionId := sampleMissionId
    operationId := sampleId .stateOperation (number + 2)
    expectedSequence := number
    operation := operation
    context := sampleCaller })

def sampleCommit : String := "da39a3ee5e6b4b0d3255bfef95601890afd80709"

def sampleProposalDigest : String :=
  "05f7ee83330c3361993589857ae31b2ea7be97c797399dd3cc730e1d9943c25a"

def sampleBindingDigest : String :=
  "06e04887d690430491083b8bc002c0d2e0274db6a024a6c213c9f908ecc8868f"

def sampleIntent : IntentCall where
  authorizationId := sampleId .authorization 0
  revision := 1
  proposalDigestSha256 := sampleProposalDigest
  targetRepositoryUrl := "https://github.com/o/r"
  workspaceRealpath := "/work/one"
  observedBaselineCommitSha := sampleCommit
  requestDigestSha256 := sampleContent
  handoffDigestSha256 := sampleContent
  surfaceBaselineDigestSha256 := sampleContent
  approvedActionScope := [.engineeringChange]
  approvedDeliveryTargets := []

/-- One Mission from its proposal to a proved completion and a verified run. -/
def sampleCalls : List (Env × ServiceCall) :=
  [(sampleEnv 1, .mint .request sampleCaller), (sampleEnv 1, .propose {
      requestId := sampleId .request 0
      proposal := sampleProposal
      context := sampleCaller
      withdrawalKeyDigestSha256 := none
      withdrawalKeyExpiresAt := none }), (sampleEnv 2, .mint .decision sampleCaller),
    (sampleEnv 2, .decide {
      context := sampleCaller
      decisionId := sampleId .decision 1
      missionId := sampleMissionId
      revision := 1
      decision := .approve
      receivedAt := 2
      approvedActionScope := some [.engineeringChange]
      approvedDeliveryTargets := some []
      proposal := none
      expiresAt := none
      expectedProposalDigestSha256 := some sampleProposalDigest })] ++
  List.replicate 10 (sampleEnv 2, .mint .stateOperation sampleCaller) ++
  [(sampleEnv 3, .workspaceBinding sampleMissionId "/work/one" "/work/main"
      "https://github.com/o/r" sampleCommit sampleCaller),
    (sampleEnv 3, .workspacePrepared sampleMissionId sampleBindingDigest
      sampleCaller), sampleState 3 0 .activateProofContract,
    (sampleEnv 4, .runIntent sampleMissionId sampleIntent sampleCaller),
    (sampleEnv 4, .runReceipt sampleMissionId (some "task-1") .startResult none
      sampleCaller), (sampleEnv 5, .observedRunning sampleMissionId "task-1" false sampleCaller),
    sampleState 6 1 (.recordArtifact {
      key := some "report"
      role := .produced
      locatorKind := .opaqueReference
      locator := "report"
      contentDigestSha256 := some sampleContent
      available := true
      derivedFrom := [] }),
    sampleState 6 2 (.submitEvidence "run_result" .verificationRecord sampleContent
      [sampleId .artifact 0]),
    sampleState 6 3 (.acceptEvidence (sampleId .evidence 0) sampleContent),
    sampleState 7 4 (.bindDependency "toolchain" "toolchain"),
    sampleState 7 5 (.resolveDependency (sampleId .dependency 0)
      (sampleId .evidence 0)), sampleState 8 6 (.observeResourceReadiness "host" .ready 8),
    sampleState 8 7 (.recordContinuation "the run went on"), sampleState 8 8 (.recordCheckpoint {
      completedWork := ["parser"]
      outstandingWork := []
      retryCondition := "never"
      stopCondition := "done" }), sampleState 9 9 (.completeSuccessfully "proved"),
    (sampleEnv 9, .verification sampleMissionId {
      conjunctHolds := fun _ => true
      rawGlobalCompleteness := none
      supportsVerification := none
      reportedResultDigestSha256 := none
      resultEvidenceId := some (sampleId .evidence 0)
      observedTaskStatus := "stopped" } sampleCaller)]

/-- The digests of the invocations, by the sequence each expects. -/
def sampleInvocationDigests : List String := [
  "6288e04e9fe93672fa0d49ae077997b1d3d047614f9208b888c9a8e9f625caa2",
  "d5d6e84f86f2e385a06273c77e9042fd3ce1c3f0f8ca34a1aa322a70eac55bc4",
  "c307c757e2a80a0a973d1dba5b6e5a8381572c38ba702d3e373d191684192673",
  "dd2f74a1b51e6484a83feffc7dabfa740eccda052e18fc144ae492fbbb2773f8",
  "424fcda0efe398492691f997aeb4613871a8d5ae3f72863a43cd3c63f40aa0a7",
  "a47517577434b81d7a41e9f678db8345ff99763c37f9fb44e39ca99e7279928c",
  "c74e9f1017ef0e15514e727c9d0f84699740b96cd251ff700dc30ba09801c190",
  "b54b4330d97d64b795f862b4c16e2ba18cac63c44bcd37475d2d42ec12f7de80",
  "c402dd371375e016ab1f0bdbbf6e81f9d7a0e84c78d5e19f69c683f2d572110f",
  "e9950b72baaf9c7d3b51afd9398b4b9b7c869f9b85049993e86652c0f9ebfa69"]

/-- The journal chain of the run, from its genesis. -/
def sampleChain : List String := [
  "ff3b75671149a9170406dbd1834cbecc7a37f1821b284de2b7dd2d675d97c837",
  "354225d7c5de4bf79f659a81d33e1b063206eb000755924a4caa26ff06b1ed62",
  "13f0963e50d4241e14573482ff0ce19cd8a3ab35df2ba2a7c13cc54be2563bef",
  "4c63460cf5ef11a3fdcc3017eaba6f1bdbd8c27c503275e739f5bca623a63bf0",
  "4bce6cb53dbc26bb7c96ae716d7a67cdb50fcbefe182285d093ec10a2c64854c",
  "e7076645a1d97784651585a86640f9fde7c9e9e4e092f4764bbb32cb836cd21d",
  "472cce808e7c681349d2d29b8d8be6911a854341547ea0b10fb299de55a37432",
  "54a8e5d78f03013166834c6132f0509d943eeb0fde19bea2ef3bd35766d5d85f",
  "26a8155233a3a8ea3a0159716f96cd557df2800972d06f0af58d5f4e56d973c2",
  "bec7aa7372ac04c8e3d3442c40ad87fed705fd6ed805d0de032567f48b9c34e8",
  "45ec06095f2d953fc528a6c417b00a1cb401a1bf5fc88ea266dc4c1db1e228f7"]

/-- The SHA-256 of every value the run below digests: the link digests follow
one another, and an invocation is told by the sequence it expects. -/
@[reducible]
def sampleRunDigest : JsonDigest where
  jsonDigest
    | .object (("objective", _) :: _) =>
        "05f7ee83330c3361993589857ae31b2ea7be97c797399dd3cc730e1d9943c25a"
    | .object (("requirements", _) :: _) =>
        "d39203cb54c7eb53f8dc100d4f9c8e52df713f85407eec1540302d98f75a1430"
    | .object (("mission_id", _) :: ("path_realpath", _) :: _) =>
        "06e04887d690430491083b8bc002c0d2e0274db6a024a6c213c9f908ecc8868f"
    | .object (("mission_id", _) :: _) =>
        "fa828b2cdaa8fce53d71723a3014cbaf5e97dfbb5da3b70d5765b37323734a64"
    | .object (("authorization_id", _) :: _) =>
        "8cf4b2b119d14aa073d7b41f9881eaddfd8b23f21b1881eb4a2a642bff390ef4"
    | .object [("kind", _), _, ("expected_sequence", .number (.ofNat sequence)),
        _] => sampleInvocationDigests.getD sequence ""
    | .object [("previous", .text previous), _] =>
        sampleChain.getD (sampleChain.idxOf previous + 1) ""
    | .object (("journal_genesis", _) :: _) => sampleChain.headD ""
    | _ => ""

/-- No call of the run below asks it. -/
@[reducible]
def samplePlanner : ReconciliationPlanner where
  plan _ _ _ _ _ _ _ := refuse .uncaught

/-- What the calls leave. -/
def sampleRun : Document :=
  @attemptAll sampleRunDigest samplePlanner defaultDocument sampleCalls

theorem sampleRun_reachable : @Reachable sampleRunDigest samplePlanner sampleRun :=
  @attemptAll_reachable sampleRunDigest samplePlanner sampleCalls

/-- The document midway, before the run is observed to be under way. -/
def sampleMidway : Document :=
  @attemptAll sampleRunDigest samplePlanner defaultDocument (sampleCalls.take 19)

theorem sampleMidway_reachable : @Reachable sampleRunDigest samplePlanner sampleMidway :=
  @attemptAll_reachable sampleRunDigest samplePlanner _

theorem sampleMidway_runs :
    @Runs sampleRunDigest samplePlanner sampleMidway sampleRun := by
  rw [sampleRun, ← List.take_append_drop 19 sampleCalls,
    @attemptAll_append sampleRunDigest samplePlanner]
  exact @attemptAll_runs sampleRunDigest samplePlanner _ _

theorem sampleRun_completed : ∃ mission, sampleRun.missions.get? sampleMissionId = some mission ∧
      mission.state = .completed := by
  have hcompleted : (sampleRun.missions.get? sampleMissionId).any
      (fun mission => mission.state = .completed) = true := by
    decide +kernel
  simpa [Option.any_eq_true] using hcompleted

end DodgingInfinity.MissionCore
