import DodgingInfinity.MissionCore.Authorization
import DodgingInfinity.MissionCore.Progress

/-!
# The event journal of a Mission

The operation ledger is the journal.  Every event is chained to the one
before it by a digest, a cursor names a position on that chain, and a snapshot
caches the supported state at one.
-/

namespace DodgingInfinity.MissionCore

open Checked

/-! ## Events as the chain digests them -/

def ContractRefs.fields (value : ContractRefs) : List (String × Json) := [
  ("revision", .ofNat value.revision), ("proposal_digest_sha256", .text value.proposalDigestSha256),
  ("contract_digest_sha256", .text value.contractDigestSha256)]

def CheckpointBudget.toJson (value : CheckpointBudget) : Json := .object [
  ("attempts_consumed", .ofNat value.attemptsConsumed),
  ("attempts_remaining", .ofNat value.attemptsRemaining),
  ("checkpoints_consumed", .ofNat value.checkpointsConsumed),
  ("checkpoints_remaining", .ofNat value.checkpointsRemaining)]

def CheckpointRefusal.toJson (value : CheckpointRefusal) : Json := .object [
  ("problem", .text value.problem.code), ("detail", .text value.detail)]

def DerivedFields.fields (value : DerivedFields) : List (String × Json) := [
  ("active_blocker_ids", .listOf .text value.activeBlockerIds),
  ("outstanding_dependency_ids", .listOf .text value.outstandingDependencyIds),
  ("budget", value.budget.toJson), ("next_permitted_step",
    .optional (fun step => .text step.text) value.nextPermittedStep),
  ("refusal", .optional CheckpointRefusal.toJson value.refusal)]

/-- The fields each kind of operation adds to its outcome. -/
def OutcomeBody.fields : OutcomeBody → List (String × Json)
  | activated activationId refs authorizationId =>
      ("activation_id", .text activationId) ::
        (refs.fields ++ [("authorization_id", .text authorizationId)])
  | claimed claimId requirementKey => [
      ("claim_id", .text claimId), ("requirement_key", .text requirementKey)]
  | artifactRecorded artifactId key role => [
      ("artifact_id", .text artifactId), ("key", .optional .text key), ("role", .text role.text)]
  | receiptAttested artifactId deliveryId step receiptState stepState
      authorizationId => [("artifact_id", .text artifactId), ("delivery_id", .text deliveryId),
      ("step", .text step), ("receipt_state", .text receiptState), ("step_state", .text stepState),
      ("authorization_id", .text authorizationId)]
  | evidenceSubmitted evidenceId requirementKey kind => [
      ("evidence_id", .text evidenceId), ("requirement_key", .text requirementKey),
      ("kind", .text kind.text), ("accepted", .bool false)]
  | evidenceAccepted evidenceId => [
      ("evidence_id", .text evidenceId), ("accepted", .bool true)]
  | evidenceInvalidated evidenceId => [
      ("evidence_id", .text evidenceId), ("invalidated", .bool true)]
  | blockerOpened blockerId key severity => [
      ("blocker_id", .text blockerId), ("key", .text key), ("severity", .text severity.text)]
  | blockerResolved blockerId evidenceId => [
      ("blocker_id", .text blockerId), ("resolved", .bool true), ("evidence_id", .text evidenceId)]
  | dependencyBound dependencyId slotKey reference newBinding => [
      ("dependency_id", .text dependencyId), ("slot_key", .optional .text slotKey),
      ("reference", .text reference), ("new_binding", .bool newBinding)]
  | dependencyResolved dependencyId evidenceId => [
      ("dependency_id", .text dependencyId), ("resolved", .bool true),
      ("evidence_id", .text evidenceId)]
  | readinessObserved resourceKey status => [
      ("resource_key", .text resourceKey), ("status", .text status.text)]
  | continued attempt attemptsRemaining => [
      ("attempt", .ofNat attempt), ("attempts_remaining", .ofNat attemptsRemaining)]
  | checkpointed checkpointId derived =>
      ("checkpoint_id", .text checkpointId) :: derived.fields
  | closed reason detail => [
      ("reason", .text reason.text), ("detail", .text detail)]
  | reconciled observedPosition observedRevision findingCount => [
      ("observed_position", .ofNat observedPosition),
      ("observed_revision", .ofNat observedRevision), ("finding_count", .ofNat findingCount)]

def OperationOutcome.toJson (value : OperationOutcome) : Json :=
  .object (value.body.fields ++ [("mission_id", .text value.missionId),
    ("sequence", .ofNat value.sequence), ("progress", .text value.progress.text),
    ("operation_id", .text value.operationId)])

/-- An entry whose outcome is not set yet carries an empty one. -/
def AppliedOperation.toJson (value : AppliedOperation) : Json := .object [
  ("operation_id", .text value.operationId), ("kind", .text value.kind.text),
  ("content_digest_sha256", .text value.contentDigestSha256),
  ("applied_at", .ofNat value.appliedAt), ("provenance", value.provenance.toJson),
  ("outcome", match value.outcome with
    | none => .object []
    | some outcome => outcome.toJson),
  ("sequence", .ofNat value.sequence)]

/-! ## The chain -/

/-- The digest at position 0 of one Mission's journal. -/
def genesisDigest [JsonDigest] (missionId : String) : Checks String := do
  requireId missionId .mission "mission_id"
  pure (jsonDigest (.object [("journal_genesis", .text missionId),
    ("schema_version", .ofNat stateSchemaVersion)]))

def linkDigest [JsonDigest] (previous : String) (entry : AppliedOperation) : String :=
  jsonDigest (.object [("previous", .text previous), ("event", entry.toJson)])

/-- The digests of a ledger after `previous`, in order. -/
def chainFrom [JsonDigest] (previous : String) : List AppliedOperation → List String
  | [] => [previous]
  | entry :: rest => previous :: chainFrom (linkDigest previous entry) rest

/-- The digest at every position, from 0 to the sequence. -/
def chain [JsonDigest] (state : StateRecord) : Checks (List String) := do
  let genesis ← genesisDigest state.missionId
  pure (chainFrom genesis state.appliedOperations)

def requirePosition (value : Nat) (location : String) (sequence : Nat) : Checks Unit :=
  failAt (value > sequence) .journalPosition location

def journalDigestAt [JsonDigest] (state : StateRecord) (position : Nat) :
    Checks String := do
  requirePosition position "position" state.sequence
  let digests ← chain state
  orFail digests[position]? .uncaught

/-! ## Cursors -/

structure Cursor where
  missionId : String
  schemaVersion : Nat
  revision : Option Nat
  position : Nat
  eventId : Option String
  journalDigestSha256 : String
  deriving DecidableEq

/-- The event that led to a position; the origin has none. -/
def eventAt (state : StateRecord) (position : Nat) : Checks (Option AppliedOperation) :=
  if position = 0 then .ok none
  else some <$> orFail state.appliedOperations[position - 1]? .uncaught

def cursorWith [JsonDigest] (state : StateRecord) (position : Nat)
    (revision : Option Nat) : Checks Cursor := do
  let digests ← chain state
  let event ← eventAt state position
  let digest ← orFail digests[position]? .uncaught
  pure {
    missionId := state.missionId
    schemaVersion := stateSchemaVersion
    revision := revision
    position := position
    eventId := event.map AppliedOperation.operationId
    journalDigestSha256 := digest
  }

/-- A historical cursor: the revision in force when its event was recorded. -/
def cursorAt [JsonDigest] (state : StateRecord) (position : Nat) :
    Checks Cursor := do
  requirePosition position "position" state.sequence
  let event ← eventAt state position
  cursorWith state position (event.map fun entry => entry.provenance.revision)

/-- The state record a Mission without one is read as. -/
def stateOrNew (state : Option StateRecord) (missionId : String) (now : Nat) : StateRecord :=
  state.getD (newStateRecord missionId now)

/-! ## Replay -/

def acceptedEvidenceIds (state : StateRecord) : List String :=
  sortedBy id ((state.evidence.filter isAccepted).map Evidence.evidenceId)

/-- What a record says about the contract of one activation at a clock. -/
def contractView (contract : ProofContract) (state : StateRecord)
    (activation : Activation) (clock : Nat) : ContractView where
  activationId := activation.activationId
  contract := {
    revision := activation.revision
    proposalDigestSha256 := activation.proposalDigestSha256
    contractDigestSha256 := activation.contractDigestSha256 }
  proof := evaluateProof contract state activation.activationId clock
  readiness := readiness contract state clock
  dependencies := dependencyStatus contract state activation.activationId
  budget := budget contract state

/-- The contract half of the supported state of a projected record; its clock
is the recorded time of the last event. -/
def supportedView (contract : Option ProofContract) (asOf : StateRecord) :
    Checks (Option ContractView) :=
  match latestActivation asOf with
  | none => .ok none
  | some activation => do
      let held ← orFail contract .activationBinding
      let last ← orFail asOf.appliedOperations.getLast? .uncaught
      pure (some (contractView held asOf activation last.appliedAt))

/-- The supported state as of a position, from stored data alone. -/
def supportedState (state : StateRecord) (contract : Option ProofContract)
    (position : Nat) : Checks SupportedState := do
  requirePosition position "position" state.sequence
  let asOf := stateAsOf state position
  let view ← supportedView contract asOf
  pure {
    progress := asOf.progress
    closureReason := asOf.closure.map Closure.reason
    view := view
    activeBlockerIds := activeBlockerIds asOf
    outstandingDependencyIds := outstandingDependencyIds asOf
    acceptedEvidenceIds := acceptedEvidenceIds asOf
  }

/-! ## Snapshots -/

/-- A snapshot at the head, bound to the chain. -/
def newSnapshot [JsonDigest] (state : StateRecord)
    (contract : Option ProofContract) : Checks Snapshot := do
  let cursor ← cursorAt state state.sequence
  let revision ← orFail cursor.revision .journalPosition
  let supported ← supportedState state contract state.sequence
  pure {
    schemaVersion := stateSchemaVersion
    missionId := state.missionId
    revision := revision
    position := state.sequence
    journalDigestSha256 := cursor.journalDigestSha256
    supportedState := supported
  }

end DodgingInfinity.MissionCore
