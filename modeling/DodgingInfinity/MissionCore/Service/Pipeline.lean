import DodgingInfinity.MissionCore.Service.States

/-!
# The pipeline of the state operations

The operations as one closed set, each with its kind, the arguments its
invocation digest covers and its effect, and the pipeline that applies one of
them to the document.  The planner of a reconciliation pass is a parameter:
nothing here depends on what it finds.
-/

namespace DodgingInfinity.MissionCore

open Checked

/-! ## Reconciliation passes -/

/-- What planning a reconciliation pass answers. -/
structure ReconciliationPlan where
  findings : List Finding
  previousSequence : Option Nat
  changed : Bool
  deriving DecidableEq

/-- `reconciliation.plan`: a function of the Mission, its record, the contract
in force, a position, the sources and the time. -/
class ReconciliationPlanner where
  plan : Mission → StateRecord → Option ProofContract → Nat → Sources →
    SourceProvenance → Nat → Checks ReconciliationPlan

structure ReconcileCall where
  collectedAt : Cursor
  sources : Sources
  sourceProvenance : SourceProvenance
  deriving DecidableEq

/-- The head, as it stood at a position under the current revision, is exactly
the cursor the reports were collected at. -/
def requireAtCursor [JsonDigest] (mission : Mission) (state : StateRecord)
    (position : Nat) (collectedAt : Cursor) : Checks Unit := do
  let head ← cursorAt state position
  failIf (collectedAt ≠
    { head with revision := some mission.currentRevision }) .reconciliationMoved

/-- The contract of the latest activation, historical: a later edit does not
change it. -/
def latestContract [JsonDigest] (mission : Mission) (state : StateRecord) :
    Checks (Option ProofContract) :=
  match latestActivation state with
  | none => .ok none
  | some activation =>
      some <$> activationContract mission activation "activation"

def recordReconciliation [JsonDigest] [ReconciliationPlanner]
    (reconcile : ReconcileCall) (call : StateCall) : StateEffect := do
  let position := call.stamp.sequence - 1
  requireAtCursor call.mission call.state position reconcile.collectedAt
  let contract ← latestContract call.mission call.state
  let planned ← ReconciliationPlanner.plan call.mission call.state contract
    position reconcile.sources reconcile.sourceProvenance call.now
  failIf (planned.changed = false) .reconciliationUnchanged
  failIf (call.state.reconciliations.length ≥ maxReconciliationRecords) .reconciliationFull
  let digest ← journalDigestAt call.state position
  pure ({ call.state with
    reconciliations := call.state.reconciliations ++ [{
      reconciledAt := call.now
      observedPosition := position
      observedJournalDigestSha256 := digest
      observedRevision := call.mission.currentRevision
      sources := reconcile.sources
      sourceProvenance := reconcile.sourceProvenance
      findings := planned.findings
      stamp := call.stamp }] },
    .reconciled position call.mission.currentRevision planned.findings.length)

/-! ## The closed set of operations -/

inductive StateOperation where
  | activateProofContract
  | recordClaim (requirementKey statement : String)
  | recordArtifact (artifact : ArtifactCall)
  | attestDeliveryReceipt (attestation : AttestationInput)
  | submitEvidence (requirementKey : String) (kind : EvidenceKind)
      (contentDigestSha256 : String) (artifactIds : List String)
  | acceptEvidence (evidenceId contentDigestSha256 : String)
  | invalidateEvidence (evidenceId reason : String)
  | openBlocker (key description : String)
  | resolveBlocker (blockerId evidenceId : String)
  | bindDependency (slotKey reference : String)
  | declareDependency (kind : DependencyKind) (reference : String)
  | resolveDependency (dependencyId evidenceId : String)
  | observeResourceReadiness (resourceKey : String) (status : ReadinessStatus)
      (observedAt : Nat)
  | recordContinuation (reason : String)
  | recordCheckpoint (checkpoint : CheckpointCall)
  | completeSuccessfully (detail : String)
  | closeUnsuccessful (reason : ClosureReason) (detail : String)
  | abandon (detail : String)
  | reconcile (call : ReconcileCall)
  deriving DecidableEq

namespace StateOperation

def kind : StateOperation → OperationKind
  | activateProofContract => .activateContract
  | recordClaim .. => .recordClaim
  | recordArtifact _ => .recordArtifact
  | attestDeliveryReceipt _ => .attestDeliveryReceipt
  | submitEvidence .. => .submitEvidence
  | acceptEvidence .. => .acceptEvidence
  | invalidateEvidence .. => .invalidateEvidence
  | openBlocker .. => .openBlocker
  | resolveBlocker .. => .resolveBlocker
  | bindDependency .. => .bindDependency
  | declareDependency .. => .bindDependency
  | resolveDependency .. => .resolveDependency
  | observeResourceReadiness .. => .observeResourceReadiness
  | recordContinuation _ => .recordContinuation
  | recordCheckpoint _ => .recordCheckpoint
  | completeSuccessfully _ => .complete
  | closeUnsuccessful .. => .closeUnsuccessful
  | abandon _ => .abandon
  | reconcile _ => .reconcile

/-- The arguments the invocation digest covers, each list in its normal
form. -/
def arguments : StateOperation → List (String × Json)
  | activateProofContract => []
  | recordClaim requirementKey statement => [
      ("requirement_key", .text requirementKey), ("statement", .text statement)]
  | recordArtifact artifact => [
      ("key", .optional .text artifact.key), ("role", .text artifact.role.text),
      ("locator_kind", .text artifact.locatorKind.text), ("locator", .text artifact.locator),
      ("content_digest_sha256", .optional .text artifact.contentDigestSha256),
      ("available", .bool artifact.available),
      ("derived_from", .listOf .text (normalizedIds artifact.derivedFrom))]
  | attestDeliveryReceipt attestation => [
      ("attestation", .object [("receipt_id", .text attestation.receiptId),
        ("receipt_digest_sha256", .text attestation.receiptDigestSha256),
        ("delivery_id", .text attestation.deliveryId), ("step", .text attestation.step),
        ("receipt_state", .text attestation.receiptState),
        ("step_state", .text attestation.stepState), ("parent_authority_digest_sha256",
          .text attestation.parentAuthorityDigestSha256), ("authorization_digest_sha256",
          .text attestation.authorizationDigestSha256)])]
  | submitEvidence requirementKey kind contentDigestSha256 artifactIds => [
      ("requirement_key", .text requirementKey), ("kind", .text kind.text),
      ("content_digest_sha256", .text contentDigestSha256),
      ("artifact_ids", .listOf .text (normalizedIds artifactIds))]
  | acceptEvidence evidenceId contentDigestSha256 => [
      ("evidence_id", .text evidenceId), ("content_digest_sha256", .text contentDigestSha256)]
  | invalidateEvidence evidenceId reason => [
      ("evidence_id", .text evidenceId), ("reason", .text reason)]
  | openBlocker key description => [
      ("key", .text key), ("description", .text description)]
  | resolveBlocker blockerId evidenceId => [
      ("blocker_id", .text blockerId), ("evidence_id", .text evidenceId)]
  | bindDependency slotKey reference => [
      ("slot_key", .text slotKey), ("reference", .text reference)]
  | declareDependency kind reference => [
      ("kind", .text kind.text), ("reference", .text reference)]
  | resolveDependency dependencyId evidenceId => [
      ("dependency_id", .text dependencyId), ("evidence_id", .text evidenceId)]
  | observeResourceReadiness resourceKey status observedAt => [
      ("resource_key", .text resourceKey), ("status", .text status.text),
      ("observed_at", .ofNat observedAt)]
  | recordContinuation reason => [("reason", .text reason)]
  | recordCheckpoint checkpoint => [
      ("completed_work", .listOf .text checkpoint.completedWork),
      ("outstanding_work", .listOf .text checkpoint.outstandingWork),
      ("retry_condition", .text checkpoint.retryCondition),
      ("stop_condition", .text checkpoint.stopCondition)]
  | completeSuccessfully detail => [("detail", .text detail)]
  | closeUnsuccessful reason detail => [
      ("reason", .text reason.text), ("detail", .text detail)]
  | abandon detail => [("detail", .text detail)]
  | reconcile call => [
      ("sources", call.sources.toJson), ("source_provenance", call.sourceProvenance.toJson)]

/-- Whether the operation runs under the active contract. -/
def needsContract : StateOperation → Bool
  | activateProofContract => false
  | closeUnsuccessful reason _ => reason.asserting
  | abandon _ => false
  | reconcile _ => false
  | _ => true

/-- The one operation a COMPLETED Mission still takes. -/
def isDeliveryReceipt : StateOperation → Bool
  | attestDeliveryReceipt _ => true
  | _ => false

def effect [JsonDigest] [ReconciliationPlanner] (env : Env)
    (operation : StateOperation) (call : StateCall) : StateEffect :=
  match operation with
  | activateProofContract => MissionCore.activateProofContract env call
  | recordClaim requirementKey statement =>
      MissionCore.recordClaim env requirementKey statement call
  | recordArtifact artifact => MissionCore.recordArtifact env artifact call
  | attestDeliveryReceipt attestation =>
      MissionCore.attestDeliveryReceipt env attestation call
  | submitEvidence requirementKey kind contentDigestSha256 artifactIds =>
      MissionCore.submitEvidence env requirementKey kind contentDigestSha256 artifactIds call
  | acceptEvidence evidenceId contentDigestSha256 =>
      MissionCore.acceptEvidence evidenceId contentDigestSha256 call
  | invalidateEvidence evidenceId reason =>
      MissionCore.invalidateEvidence evidenceId reason call
  | openBlocker key description =>
      MissionCore.openBlocker env key description call
  | resolveBlocker blockerId evidenceId =>
      MissionCore.resolveBlocker blockerId evidenceId call
  | bindDependency slotKey reference =>
      MissionCore.bindDependency env slotKey reference call
  | declareDependency kind reference =>
      MissionCore.declareDependency env kind reference call
  | resolveDependency dependencyId evidenceId =>
      MissionCore.resolveDependency dependencyId evidenceId call
  | observeResourceReadiness resourceKey status observedAt =>
      MissionCore.observeResourceReadiness resourceKey status observedAt call
  | recordContinuation reason => MissionCore.recordContinuation reason call
  | recordCheckpoint checkpoint =>
      MissionCore.recordCheckpoint env checkpoint call
  | completeSuccessfully detail =>
      MissionCore.completeSuccessfully detail call
  | closeUnsuccessful reason detail =>
      MissionCore.closeUnsuccessful reason detail call
  | abandon detail => MissionCore.abandon detail call
  | reconcile reconcileCall => recordReconciliation reconcileCall call

end StateOperation

/-! ## The pipeline -/

/-- One state operation as a client invokes it. -/
structure StateInvocation where
  missionId : String
  operationId : String
  expectedSequence : Nat
  operation : StateOperation
  context : Context
  deriving DecidableEq

/-- The content digest of one invocation, the one the ledger stores. -/
def invocationDigest [JsonDigest] (invocation : StateInvocation) : String :=
  jsonDigest (.object [("kind", .text invocation.operation.kind.text),
    ("mission_id", .text invocation.missionId),
    ("expected_sequence", .ofNat invocation.expectedSequence),
    ("arguments", .object invocation.operation.arguments)])

/-- The Mission and ledger entry an operation id was applied to. -/
def appliedOperation (document : Document) (operationId : String) :
    Option (String × AppliedOperation) :=
  (document.missionState.entries.flatMap fun entry =>
    entry.2.appliedOperations.map fun applied => (entry.1, applied)).find?
    fun found => found.2.operationId = operationId

/-- The recorded outcome, with whether this call only repeated it. -/
structure StateAnswer where
  outcome : OperationOutcome
  idempotent : Bool
  deriving DecidableEq

/-- A consumed operation id answers with its recorded outcome, when it
presents the same content. -/
def replayOperation [JsonDigest] (document : Document)
    (invocation : StateInvocation) : Checks (Document × StateAnswer) := do
  let (missionId, applied) ← orFail
    (appliedOperation document invocation.operationId) .stateOperationConflict
  failIf (missionId ≠ invocation.missionId ∨
    applied.contentDigestSha256 ≠ invocationDigest invocation)
    .stateOperationConflict
  let outcome ← orFail applied.outcome .uncaught
  pure (document, { outcome := outcome, idempotent := true })

/-- The Mission-level guard: only a delivery receipt is still recorded on a
COMPLETED Mission. -/
def refuseTerminalUnless (mission : Mission) (operation : StateOperation) : Checks Unit :=
  if operation.isDeliveryReceipt ∧ mission.state = .completed then .ok ()
  else refuseTerminal mission

/-- The active contract, for the operations that run under it. -/
def contractFor [JsonDigest] (document : Document) (mission : Mission)
    (state : StateRecord) (now : Nat) (operation : StateOperation) :
    Checks (Option BoundContract) :=
  if operation.needsContract then do
    let (activation, contract) ← boundContract document mission state now
      operation.isDeliveryReceipt
    pure (some { activation := activation, contract := contract })
  else .ok none

/-- A full ledger refuses as a full store. -/
def appendOperation (state : StateRecord) (operationId : String)
    (kind : OperationKind) (digest : String) (now : Nat)
    (provenance : Provenance) : Checks StateRecord :=
  match appendAppliedOperation state operationId kind digest now provenance with
  | .ok appended => .ok appended
  | .error refusal =>
      if refusal.problem = .stateFull then refuse .storeFull
      else .error refusal

/-- Set the outcome of the ledger entry just appended. -/
def setLastOutcome (operations : List AppliedOperation)
    (outcome : OperationOutcome) : List AppliedOperation :=
  match operations.getLast? with
  | none => []
  | some last => operations.dropLast ++ [{ last with outcome := some outcome }]

/-- What must hold of the record before an operation touches it. -/
def requireOpen (state : StateRecord) (expectedSequence : Nat) :
    Checks Unit := do
  failIf (expectedSequence ≠ state.sequence) .staleSequence
  failIf (state.progress ∈ Progress.terminal) .progressTerminal

/-- The record an operation leaves, with its outcome and a snapshot of the new
head. -/
def finishOperation [JsonDigest] (mission : Mission) (state : StateRecord)
    (outcome : OperationOutcome) : Checks StateRecord := do
  let recorded := { state with
    appliedOperations := setLastOutcome state.appliedOperations outcome
    snapshot := none }
  let contract ← latestContract mission recorded
  let snapshot ← newSnapshot recorded contract
  pure { recorded with snapshot := some snapshot }

/-- Apply an operation to its record: append, effect, outcome, snapshot. -/
def applyToRecord [JsonDigest] [ReconciliationPlanner] (env : Env)
    (document : Document) (mission : Mission) (state : StateRecord) (invocation : StateInvocation) :
    Checks (StateRecord × OperationOutcome) := do
  requireOpen state invocation.expectedSequence
  let bound ← contractFor document mission state env.now invocation.operation
  let provenance ← provenanceRecord invocation.context env.now .stateOperation
    invocation.operationId invocation.missionId mission.currentRevision
  let appended ← appendOperation state invocation.operationId
    invocation.operation.kind (invocationDigest invocation) env.now provenance
  let (effected, body) ← invocation.operation.effect env {
    document := document
    mission := mission
    state := appended
    now := env.now
    stamp := {
      provenance := provenance
      operationId := invocation.operationId
      sequence := appended.sequence }
    bound := bound }
  let outcome : OperationOutcome := {
    body := body
    missionId := mission.missionId
    operationId := invocation.operationId
    sequence := appended.sequence
    progress := effected.progress }
  let finished ← finishOperation mission effected outcome
  pure (finished, outcome)

def applyNew [JsonDigest] [ReconciliationPlanner] (env : Env)
    (document : Document) (mission : Mission) (reservation : Reservation)
    (invocation : StateInvocation) : Checks (Document × StateAnswer) := do
  refuseTerminalUnless mission invocation.operation
  let state := stateOrNew (document.missionState.get? invocation.missionId)
    invocation.missionId env.now
  let (finished, outcome) ← applyToRecord env document mission state invocation
  pure ((document.setState invocation.missionId finished).consume
    invocation.operationId reservation invocation.operationId,
    { outcome := outcome, idempotent := false })

/-- One locked load, apply and save of a state operation. -/
def applyStateOperation [JsonDigest] [ReconciliationPlanner] (env : Env)
    (document : Document) (invocation : StateInvocation) :
    Checks (Document × StateAnswer) := do
  requireAuthenticatedContext invocation.context "context"
  requireId invocation.missionId .mission "mission_id"
  requireId invocation.operationId .stateOperation "operation_id"
  let reservation ← lookupReservation document invocation.operationId
    .stateOperation invocation.context .unknownStateOperationId
    .stateOperationContextConflict
  let mission ← lookupMission document invocation.missionId
  if reservation.consumedBy ≠ none then replayOperation document invocation
  else applyNew env document mission reservation invocation

/-! ## The entry points with checks of their own -/

def maxMissionIdChars : Nat := 64

def maxContextFieldChars : Nat := 256

def requireExactStr (value location : String) (maxChars : Nat) : Checks Unit :=
  failAt (value.toList.length > maxChars) .observationInput location

def requireExactInt (value : Nat) (location : String) : Checks Unit :=
  failAt (value ≥ 2 ^ 63) .observationInput location

/-- The transport adapter's own context, with bounded fields. -/
def requireExactContext (value : Context) : Checks Unit :=
  match value with
  | .operatorAttested _ => .error ⟨.observationInput, "context"⟩
  | .authenticated fields => do
      requireExactStr fields.transport "context.transport" maxContextFieldChars
      requireExactStr fields.principalKind.text "context.principal_kind" maxContextFieldChars
      requireExactStr fields.principalRef "context.principal_ref" maxContextFieldChars
      checkPresent fields.configuredSubject fun subject =>
        requireExactStr subject "context.configured_subject" maxContextFieldChars

/-- The bounds the entry points of caller-observed input check first. -/
def requireExactInvocation (invocation : StateInvocation) : Checks Unit := do
  requireExactStr invocation.missionId "mission_id" maxMissionIdChars
  requireExactStr invocation.operationId "operation_id" maxMissionIdChars
  requireExactInt invocation.expectedSequence "expected_sequence"
  requireExactContext invocation.context

/-- The attesting entry point: bounds and the attestation input before
anything is loaded. -/
def attestReceipt [JsonDigest] [ReconciliationPlanner] (env : Env)
    (document : Document) (missionId operationId : String)
    (expectedSequence : Nat) (attestation : AttestationInput)
    (context : Context) : Checks (Document × StateAnswer) := do
  let invocation : StateInvocation := {
    missionId := missionId
    operationId := operationId
    expectedSequence := expectedSequence
    operation := .attestDeliveryReceipt attestation
    context := context }
  requireExactInvocation invocation
  validateReceiptAttestationInput attestation
  applyStateOperation env document invocation

/-- What a pass that changes nothing answers. -/
structure UnchangedPass where
  sequence : Nat
  progress : Progress
  findings : List Finding
  previousSequence : Option Nat
  deriving DecidableEq

inductive ReconcileAnswer where
  | unchanged (pass : UnchangedPass)
  | recorded (answer : StateAnswer)
  deriving DecidableEq

/-- The read-only plan of an unconsumed pass; a plan without a change ends it
there. -/
def planPass [JsonDigest] [ReconciliationPlanner] (env : Env)
    (document : Document) (mission : Mission) (missionId : String)
    (expectedSequence : Nat) (call : ReconcileCall) :
    Checks (Option UnchangedPass) := do
  let probe := stateOrNew (document.missionState.get? missionId) missionId 0
  failIf (expectedSequence ≠ probe.sequence) .staleSequence
  requireAtCursor mission probe probe.sequence call.collectedAt
  let contract ← latestContract mission probe
  let planned ← ReconciliationPlanner.plan mission probe contract
    probe.sequence call.sources call.sourceProvenance env.checkedAt
  pure (if planned.changed then none else some {
    sequence := probe.sequence
    progress := probe.progress
    findings := planned.findings
    previousSequence := planned.previousSequence })

/-- The plan an unconsumed id is answered with before the lock is taken. -/
def planUnlessConsumed [JsonDigest] [ReconciliationPlanner] (env : Env)
    (observed : Document) (mission : Mission) (reservation : Reservation)
    (missionId : String) (expectedSequence : Nat) (call : ReconcileCall) :
    Checks (Option UnchangedPass) :=
  if reservation.consumedBy ≠ none then .ok none
  else planPass env observed mission missionId expectedSequence call

/-- One reconciliation pass: planned on the document it observed without the
lock, then applied to the document the lock gives it. -/
def reconcile [JsonDigest] [ReconciliationPlanner] (env : Env)
    (observed document : Document) (missionId operationId : String)
    (expectedSequence : Nat) (call : ReconcileCall) (context : Context) :
    Checks (Document × ReconcileAnswer) := do
  let invocation : StateInvocation := {
    missionId := missionId
    operationId := operationId
    expectedSequence := expectedSequence
    operation := .reconcile call
    context := context }
  requireExactInvocation invocation
  requireAuthenticatedContext context "context"
  requireId missionId .mission "mission_id"
  requireId operationId .stateOperation "operation_id"
  let mission ← lookupMission observed missionId
  let reservation ← lookupReservation observed operationId .stateOperation
    context .unknownStateOperationId .stateOperationContextConflict
  let plan ← planUnlessConsumed env observed mission reservation missionId
    expectedSequence call
  match plan with
  | some pass => pure (document, .unchanged pass)
  | none => do
      let (applied, answer) ← applyStateOperation env document invocation
      pure (applied, .recorded answer)

end DodgingInfinity.MissionCore
