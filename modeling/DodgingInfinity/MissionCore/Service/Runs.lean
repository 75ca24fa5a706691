import DodgingInfinity.MissionCore.Service.Common

/-!
# The run record

Each write below records a fact another component established: nothing here
starts, observes or stops anything.  A terminal Mission takes exactly two of
them, the completion of its cancel and one late resolution.
-/

namespace DodgingInfinity.MissionCore

open Checked

/-! ## The shared pipeline -/

/-- One run transition, appended to the lifecycle chain. -/
def runTransition (mission : Mission) (target : MissionState)
    (reason : RunReason) (now : Nat) : Checks Mission := do
  validateTransition mission.state target
  failIf ((mission.state, target) ∉ MissionState.runTransitions) .invalidTransition
  pure { mission with
    lifecycle := some (mission.lifecycleEvents ++ [{
      fromState := mission.state
      toState := target
      reason := reason
      recordedAt := now }])
    state := target
    updatedAt := now }

/-- A run write: the Mission it leaves, and the block it returns. -/
def runWrite {α : Type} (document : Document) (missionId : String)
    (context : Context) (guardTerminal : Bool)
    (mutate : Mission → Checks (Mission × α)) : Checks (Document × α) := do
  requireAuthenticatedContext context "context"
  requireId missionId .mission "mission_id"
  let mission ← lookupMission document missionId
  failIf (guardTerminal ∧ mission.state ∈ MissionState.terminal) .missionTerminal
  let (changed, outcome) ← mutate mission
  pure (document.setMission missionId changed, outcome)

/-- The run of a Mission, or the empty one a write creates. -/
def runOf (mission : Mission) : Run := mission.run.getD newRunBlock

/-- The Mission with its run stored, touched now. -/
def setRun (mission : Mission) (run : Run) (now : Nat) : Mission :=
  { mission with run := some run, updatedAt := now }

def refusePaused (mission : Mission) : Checks Unit :=
  failIf (runIsPaused mission.run) .runPaused

/-- The authorization a run is bound to: its intent's, or the latest issued
one before any intent. -/
def boundAuthorization (mission : Mission) : Option String :=
  match mission.runIntent with
  | some intent => some intent.authorizationId
  | none => mission.authorizationIds.getLast?

def requireBoundAuthorization (mission : Mission) (authorizationId : String) : Checks Unit :=
  failIf (boundAuthorization mission ≠ some authorizationId) .run

/-! ## The workspace -/

/-- The path is the workspace of the run, by its binding or by its intent. -/
def holdsWorkspace (mission : Mission) (pathRealpath : String) : Bool :=
  mission.runWorkspace.map (fun binding => binding.bound.pathRealpath) = some pathRealpath ∨
    mission.runIntent.map RunIntent.workspaceRealpath = some pathRealpath

def requireBeforeIntent (mission : Mission) : Checks Unit := do
  failIf (mission.state ≠ .authorized) .run
  failIf (mission.runIntent ≠ none) .runAlreadyRecorded

/-- The first other Mission that holds the path decides the refusal. -/
def requireUnheldWorkspace (document : Document) (missionId pathRealpath : String) : Checks Unit :=
  match document.missions.entries.find? fun entry =>
      entry.1 ≠ missionId ∧ holdsWorkspace entry.2 pathRealpath with
  | none => .ok ()
  | some entry =>
      if entry.2.state ∈ MissionState.terminal then
        refuse .runWorkspacePreserved
      else refuse .runWorkspaceBound

/-- The same binding again is the one held; any other is never recorded. -/
def bindWorkspace (mission : Mission) (bound : BoundWorkspace) (now : Nat) :
    Checks (Mission × WorkspaceBinding) :=
  match (runOf mission).workspace with
  | some existing => do
      failIf (existing.bound ≠ bound) .runWorkspaceConflict
      pure ({ mission with run := some (runOf mission) }, existing)
  | none =>
      let binding : WorkspaceBinding := {
        bound := bound
        state := .preparing
        recordedAt := now
        preparedAt := none }
      .ok (setRun mission { runOf mission with workspace := some binding } now, binding)

/-- Bind the workspace of a run before anything is created at its path. -/
def recordWorkspaceBinding [JsonDigest] (env : Env) (document : Document)
    (missionId pathRealpath repositoryRealpath targetRepositoryUrl
      baselineCommitSha : String) (context : Context) : Checks (Document × WorkspaceBinding) :=
  runWrite document missionId context true fun mission => do
    requireBeforeIntent mission
    refusePaused mission
    let bound ← workspaceBinding mission pathRealpath repositoryRealpath
      baselineCommitSha
    failIf (targetRepositoryUrl ≠ bound.targetRepositoryUrl) .repositoryIdentity
    requireUnheldWorkspace document missionId pathRealpath
    bindWorkspace mission bound env.now

/-- PREPARING to PREPARED, for exactly the binding its digest names. -/
def recordWorkspacePrepared (env : Env) (document : Document)
    (missionId bindingDigestSha256 : String) (context : Context) :
    Checks (Document × WorkspaceBinding) :=
  runWrite document missionId context true fun mission => do
    requireBeforeIntent mission
    refusePaused mission
    let binding ← orFail mission.runWorkspace .runWorkspaceConflict
    failIf (binding.bound.bindingDigestSha256 ≠ bindingDigestSha256) .runWorkspaceConflict
    if binding.state = .prepared then pure (mission, binding)
    else
      let prepared := { binding with
        state := .prepared, preparedAt := some env.now }
      pure (setRun mission { runOf mission with workspace := some prepared } env.now, prepared)

/-- The latest refused preparation, counted. -/
def recordWorkspaceRefusal (env : Env) (document : Document)
    (missionId problem detail : String) (context : Context) :
    Checks (Document × WorkspaceRefusal) :=
  runWrite document missionId context true fun mission => do
    requireBeforeIntent mission
    requireStr problem "problem" maxWorkspaceProblemChars false
    requireStr detail "detail" maxWorkspaceDetailChars false
    let previous := (runOf mission).workspaceRefusal
    let refusal : WorkspaceRefusal := {
      problem := problem
      detail := some detail
      recordedAt := env.now
      refusals := (previous.map WorkspaceRefusal.refusals).getD 0 + 1 }
    pure (setRun mission { runOf mission with workspaceRefusal := some refusal } env.now, refusal)

/-! ## Intent and receipt -/

structure IntentCall where
  authorizationId : String
  revision : Nat
  proposalDigestSha256 : String
  targetRepositoryUrl : String
  workspaceRealpath : String
  observedBaselineCommitSha : String
  requestDigestSha256 : String
  handoffDigestSha256 : String
  surfaceBaselineDigestSha256 : String
  approvedActionScope : List ActionScope
  approvedDeliveryTargets : List DeliveryTarget
  deriving DecidableEq

def newIntent (call : IntentCall) (recordedAt : Nat) : RunIntent where
  recordedAt := recordedAt
  authorizationId := call.authorizationId
  revision := call.revision
  proposalDigestSha256 := call.proposalDigestSha256
  targetRepositoryUrl := call.targetRepositoryUrl
  workspaceRealpath := call.workspaceRealpath
  observedBaselineCommitSha := call.observedBaselineCommitSha
  requestDigestSha256 := call.requestDigestSha256
  handoffDigestSha256 := call.handoffDigestSha256
  surfaceBaselineDigestSha256 := call.surfaceBaselineDigestSha256
  approvedActionScope := call.approvedActionScope
  approvedDeliveryTargets := call.approvedDeliveryTargets

/-- The central check of the run's authority, under its own problem. -/
def requireRunAuthority [JsonDigest] (env : Env) (document : Document)
    (missionId : String) (call : IntentCall) : Checks Authorization := do
  let check := validateAuthorizationUse document call.authorizationId missionId
    call.revision env.now (runRequiredActionScope.map ActionScope.text) none
    (some call.proposalDigestSha256)
  failIf (check.valid = false) (check.problem.getD .uncaught)
  orFail (document.authorizations.get? call.authorizationId) .uncaught

/-- Another Mission's live run already has an intent on the path. -/
def intentHeldElsewhere (document : Document) (missionId path : String) : Bool :=
  document.missions.entries.any fun entry =>
    entry.1 ≠ missionId ∧ entry.2.runIntent.map RunIntent.workspaceRealpath = some path ∧
      entry.2.state ∉ MissionState.terminal

/-- A prepared binding at exactly the path and baseline. -/
def preparedAt (mission : Mission) (path baseline : String) : Bool :=
  match mission.runWorkspace with
  | none => false
  | some binding => binding.state = .prepared ∧
      binding.bound.pathRealpath = path ∧ binding.bound.baselineCommitSha = baseline

/-- Record the intent before any effect: one per Mission, with exactly the
scope and targets its live authorization carries. -/
def recordRunIntent [JsonDigest] (env : Env) (document : Document)
    (missionId : String) (call : IntentCall) (context : Context) : Checks (Document × RunIntent) :=
  runWrite document missionId context true fun mission => do
    requireBeforeIntent mission
    refusePaused mission
    let authorization ← requireRunAuthority env document missionId call
    failIf (call.approvedActionScope ≠ authorization.authorizedActionScope) .actionScope
    failIf (call.approvedDeliveryTargets ≠ authorization.authorizedDeliveryTargets) .deliveryTarget
    failIf (intentHeldElsewhere document missionId call.workspaceRealpath) .runWorkspaceBound
    let entry ← mission.currentRevisionEntry
    failIf (entry.proposal.repositoryUrl ≠ some call.targetRepositoryUrl) .repositoryIdentity
    failIf (preparedAt mission call.workspaceRealpath
      call.observedBaselineCommitSha = false) .runWorkspaceUnprepared
    let intent := newIntent call env.now
    pure (setRun mission { runOf mission with intent := some intent } env.now, intent)

/-- The run of a recorded intent. -/
def requireIntent (mission : Mission) : Checks Run := do
  let run ← orFail mission.run .run
  failIf (run.intent = none) .run
  pure run

/-- A reconciliation binds an identity or nothing, and never while paused. -/
def requireReceiptSource (mission : Mission) (taskId : Option String)
    (source : RunIdentitySource) : Checks Unit :=
  if source = .reconciliation then do
    refusePaused mission
    failIf (taskId = none) .run
  else .ok ()

/-- The receipt a write leaves: the first one, or the identity a
reconciliation binds to one that has none. -/
def boundReceipt (existing : Option RunReceipt) (taskId : Option String)
    (source : RunIdentitySource) (group : Option Int) (now : Nat) : Checks RunReceipt :=
  match existing with
  | none => .ok {
      recordedAt := now
      taskId := taskId
      identitySource := source
      ownedProcessGroup := group }
  | some receipt =>
      if receipt.taskId = none ∧ source = .reconciliation then
        .ok { receipt with taskId := taskId, identitySource := source }
      else refuse .runAlreadyRecorded

/-- Record that an effect returned, and the target it named, if any. -/
def recordRunReceipt (env : Env) (document : Document) (missionId : String)
    (taskId : Option String) (source : RunIdentitySource)
    (ownedProcessGroup : Option Int) (context : Context) : Checks (Document × RunReceipt) :=
  runWrite document missionId context true fun mission => do
    let run ← requireIntent mission
    failIf (mission.state ≠ .authorized) .run
    requireReceiptSource mission taskId source
    let receipt ← boundReceipt run.receipt taskId source ownedProcessGroup
      env.now
    pure (setRun mission { run with receipt := some receipt } env.now, receipt)

/-! ## Observation and stops -/

structure RunMoved where
  state : MissionState
  reason : RunReason
  deriving DecidableEq

def observedReason (alreadyStopped : Bool) : RunReason :=
  if alreadyStopped then .observedAfterStop else .observedRunning

/-- AUTHORIZED to RUNNING, only for the target the receipt names. -/
def recordObservedRunning (env : Env) (document : Document)
    (missionId taskId : String) (alreadyStopped : Bool) (context : Context) :
    Checks (Document × RunMoved) :=
  runWrite document missionId context true fun mission => do
    refusePaused mission
    failIf (boundTask (runOf mission).receipt ≠ some taskId) .run
    let moved ← runTransition mission .running (observedReason alreadyStopped)
      env.now
    pure (moved, ⟨.running, observedReason alreadyStopped⟩)

/-- The child a stop names is bound in the same write, to a receipt without an
identity. -/
def bindLateChild (run : Run) (taskId : Option String) (now : Nat) : Checks Run :=
  match taskId with
  | none => .ok run
  | some task => do
      failIf (boundTask run.receipt ≠ none) .runAlreadyRecorded
      requireStr task "task_id" maxRunTaskIdChars false
      let receipt : RunReceipt := match run.receipt with
        | none => {
            recordedAt := now
            taskId := some task
            identitySource := .reconciliation
            ownedProcessGroup := none }
        | some held => { held with
            taskId := some task, identitySource := .reconciliation }
      pure { run with receipt := some receipt }

/-- A durable reconciliation stop; exactly the stop of a late child names
one. -/
def recordRunStop (env : Env) (document : Document) (missionId : String)
    (stop : ReconcileStop) (taskId : Option String) (context : Context) :
    Checks (Document × RunMoved) :=
  runWrite document missionId context true fun mission => do
    refusePaused mission
    let run ← requireIntent mission
    failIf (¬ (taskId ≠ none ↔ stop = .lateChildAborted)) .run
    let bound ← bindLateChild run taskId env.now
    let moved ← runTransition { mission with run := some bound } .blocked
      (.reconciled stop) env.now
    pure (moved, ⟨.blocked, .reconciled stop⟩)

structure UnobservedOutcome where
  state : MissionState
  attempts : Nat
  remaining : Nat
  deriving DecidableEq

/-- The attempt that reaches the bound stops the run in the same write. -/
def stopWhenExhausted (mission : Mission) (attempts now : Nat) : Checks Mission :=
  if attempts ≥ maxReconcileAttempts then
    runTransition mission .blocked (.reconciled .notObservable) now
  else .ok mission

/-- A reconcile of a held run saw no task identity yet. -/
def recordReconcileUnobserved (env : Env) (document : Document)
    (missionId : String) (context : Context) : Checks (Document × UnobservedOutcome) :=
  runWrite document missionId context true fun mission => do
    refusePaused mission
    failIf (mission.state ≠ .authorized) .run
    let run ← requireIntent mission
    failIf (boundTask run.receipt ≠ none) .run
    let attempts := (run.reconcileUnobserved.map
      ReconcileUnobserved.attempts).getD 0 + 1
    let counted := setRun mission { run with
      reconcileUnobserved := some {
        attempts := attempts, lastAttemptedAt := env.now } } env.now
    let moved ← stopWhenExhausted counted attempts env.now
    pure (moved, {
      state := moved.state
      attempts := attempts
      remaining := maxReconcileAttempts - attempts })

/-- The stop a late resolution may follow: the only lifecycle event, of a
BLOCKED run that bound no target. -/
def lateResolvable (mission : Mission) : Bool :=
  mission.state = .blocked ∧ mission.run ≠ none ∧ lateResolutionStop mission ≠ none ∧
    boundTask (runOf mission).receipt = none

/-- Every other terminal Mission refuses as terminal. -/
def requireLateResolvable (mission : Mission) : Checks Unit :=
  if lateResolvable mission then .ok ()
  else do
    refuseTerminal mission
    refuse .run

/-- One evidence-only record on a run stopped because nothing was observable
yet; the Mission stays BLOCKED. -/
def recordLateResolution (env : Env) (document : Document)
    (missionId taskId observedTaskStatus : String) (context : Context) :
    Checks (Document × LateResolution) :=
  runWrite document missionId context false fun mission => do
    requireLateResolvable mission
    failIf ((runOf mission).lateResolution ≠ none) .runAlreadyRecorded
    requireStr taskId "task_id" maxRunTaskIdChars false
    requireStr observedTaskStatus "observed_task_status" maxObservedStatusChars false
    let resolution : LateResolution := {
      recordedAt := env.now
      taskId := taskId
      observedTaskStatus := observedTaskStatus }
    pure (setRun mission { runOf mission with
      lateResolution := some resolution } env.now, resolution)

/-! ## Pause, resume, cancel -/

def recordPause (env : Env) (document : Document)
    (missionId authorizationId : String) (context : Context) : Checks (Document × RunPause) :=
  runWrite document missionId context true fun mission => do
    failIf (mission.state ≠ .authorized ∧ mission.state ≠ .running) .run
    requireBoundAuthorization mission authorizationId
    refusePaused mission
    failIf ((runOf mission).pauses.length ≥ maxRunPauses) .run
    let pause : RunPause := { pausedAt := env.now, resumedAt := none }
    pure (setRun mission { runOf mission with
      pauses := (runOf mission).pauses ++ [pause] } env.now, pause)

def recordResume (env : Env) (document : Document)
    (missionId authorizationId : String) (context : Context) : Checks (Document × RunPause) :=
  runWrite document missionId context true fun mission => do
    requireBoundAuthorization mission authorizationId
    failIf (runIsPaused mission.run = false) .run
    let last ← orFail (runOf mission).pauses.getLast? .uncaught
    let resumed := { last with resumedAt := some env.now }
    pure (setRun mission { runOf mission with
      pauses := (runOf mission).pauses.dropLast ++ [resumed] } env.now, resumed)

/-- What a cancel may claim to have achieved, by the durable facts. -/
def cancelAdmits (mission : Mission) : List CancelAchieved :=
  match mission.state with
  | .authorized =>
      if mission.runIntent = none then [.beforeIntent]
      else [.afterIntentTargetUnknown]
  | .running => [.afterObservedRunning, .afterTargetTerminated]
  | _ => []

/-- The durable cancel: the Mission is CANCELLED by this write. -/
def recordCancel (env : Env) (document : Document) (missionId : String)
    (achieved : CancelAchieved) (authorizationId : String)
    (context : Context) : Checks (Document × RunCancel) :=
  runWrite document missionId context true fun mission => do
    requireBoundAuthorization mission authorizationId
    failIf (achieved ∉ cancelAdmits mission) .run
    let cancel : RunCancel := {
      requestedAt := env.now
      achieved := achieved
      control := none
      quiescence := none
      completedAt := none }
    let moved ← runTransition { mission with
      run := some { runOf mission with cancel := some cancel } } .cancelled
      (.cancelled achieved) env.now
    pure (moved, cancel)

/-- Complete the cancel record, once. -/
def completeCancel (env : Env) (document : Document) (missionId : String)
    (control : Option CancelControl) (quiescence : Option CancelQuiescence)
    (authorizationId : String) (context : Context) : Checks (Document × RunCancel) :=
  runWrite document missionId context false fun mission => do
    requireBoundAuthorization mission authorizationId
    let run ← orFail mission.run .run
    let cancel ← orFail run.cancel .run
    failIf (mission.state ≠ .cancelled) .run
    failIf (cancel.completedAt ≠ none) .runAlreadyRecorded
    let completed := { cancel with
      control := control
      quiescence := quiescence
      completedAt := some env.now }
    pure (setRun mission { run with cancel := some completed } env.now, completed)

/-! ## Retention -/

def hasDiagnostics (run : Run) : Bool :=
  run.workspaceRefusal ≠ none ∨ run.pendingProof ≠ none

def reclaimableStates : List MissionState := [.blocked, .completed, .cancelled]

/-- A marker already there wins over a repeated outcome and over a mere
reclaim. -/
def markerStands (marker : Option ReclaimMarker) (outcome : ReclaimOutcome) : Bool :=
  match marker with
  | none => false
  | some held => held.outcome = outcome ∨ outcome = .reclaimed

/-- Reduce the two diagnostic texts of one terminal run; a Mission with none
is left as it is. -/
def reclaimMission (reclaimedAt : Nat) (outcome : ReclaimOutcome)
    (document : Document) (missionId : String) : Document :=
  match document.missions.get? missionId with
  | none => document
  | some mission =>
      match mission.run with
      | none => document
      | some run =>
          if mission.state ∉ reclaimableStates ∨ hasDiagnostics run = false ∨
              markerStands run.reclaimed outcome then document
          else document.setMission missionId { mission with
            run := some (reclaimedRun run reclaimedAt outcome) }

def reclaimRunDiagnostics (document : Document) (missionIds : List String)
    (reclaimedAt : Nat) (outcome : ReclaimOutcome) : Document :=
  missionIds.foldl (reclaimMission reclaimedAt outcome) document

end DodgingInfinity.MissionCore
