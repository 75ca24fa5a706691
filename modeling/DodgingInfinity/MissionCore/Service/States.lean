import DodgingInfinity.MissionCore.Service.Common

/-!
# Mission state operations

Every operation goes through one pipeline: the reserved id, the calling
context and the expected sequence are checked, the ledger entry is appended,
the effect is applied, and the snapshot is re-bound to the new head.  What an
operation adds is its effect on the record and its outcome.
-/

namespace DodgingInfinity.MissionCore

open Checked

/-! ## The contract in force -/

/-- The authorization the one validation path accepts right now. -/
def liveAuthorization [JsonDigest] (document : Document) (mission : Mission)
    (now : Nat) : Option Authorization :=
  (mission.authorizationIds.find? fun authorizationId =>
    (validateAuthorizationUse document authorizationId mission.missionId
      mission.currentRevision now [] none none).valid).bind
    document.authorizations.get?

/-- The states in which a consumed authorization still binds proof writes. -/
def runHoldingStates (deliveryReceipt : Bool) : List MissionState :=
  if deliveryReceipt then [.running, .completed] else [.running]

/-- A run intent consumed the authorization of the activation, and nothing but
the Mission's state speaks against it. -/
def runHoldsAuthorization (document : Document) (mission : Mission)
    (activation : Activation) (check : AuthorityCheck) (deliveryReceipt : Bool) : Bool :=
  match mission.runIntent, document.authorizations.get?
      activation.authorizationId with
  | some intent, some authorization =>
      check.problem = some .notAuthorized ∧ mission.state ∈ runHoldingStates deliveryReceipt ∧
        intent.authorizationId = activation.authorizationId ∧
        intent.revision = activation.revision ∧ activation.revision = mission.currentRevision ∧
        authorization.revocation = none
  | _, _ => false

/-- A contract that no longer derives is stale, whatever the reason. -/
def requireDerivable [JsonDigest] (mission : Mission)
    (activation : Activation) : Checks ProofContract :=
  match activationContract mission activation "activation" with
  | .ok contract => .ok contract
  | .error _ => refuse .contractStale

/-- The active contract, re-derived and re-validated for liveness. -/
def boundContract [JsonDigest] (document : Document) (mission : Mission)
    (state : StateRecord) (now : Nat) (deliveryReceipt : Bool) :
    Checks (Activation × ProofContract) := do
  let activation ← orFail (latestActivation state) .noActiveContract
  failIf (activation.revision ≠ mission.currentRevision) .contractStale
  let contract ← requireDerivable mission activation
  let check := validateAuthorizationUse document activation.authorizationId
    mission.missionId activation.revision now [] none none
  failIf (check.valid = false ∧ runHoldsAuthorization document mission
    activation check deliveryReceipt = false) .contractStale
  pure (activation, contract)

/-! ## The call an effect works against -/

/-- The contract an operation runs under. -/
structure BoundContract where
  activation : Activation
  contract : ProofContract
  deriving DecidableEq

/-- Everything one accepted operation works against; the record already
carries its ledger entry. -/
structure StateCall where
  document : Document
  mission : Mission
  state : StateRecord
  now : Nat
  stamp : Stamp
  bound : Option BoundContract

/-- An effect: the record it leaves and the outcome it reports. -/
abbrev StateEffect := Checks (StateRecord × OutcomeBody)

namespace StateCall

def requireBound (call : StateCall) : Checks BoundContract :=
  orFail call.bound .uncaught

def requirement (contract : ProofContract) (key : String) : Checks Requirement :=
  orFail (contract.requirements.find? fun requirement =>
    requirement.key = key) .unknownRequirement

def evidence (call : StateCall) (evidenceId : String) : Checks Evidence := do
  requireId evidenceId .evidence "evidence_id"
  orFail (evidenceById call.state evidenceId) .unknownEvidence

/-- Evidence that may resolve something. -/
def acceptedEvidence (call : StateCall) (evidenceId : String) :
    Checks Evidence := do
  let evidence ← call.evidence evidenceId
  failIf (evidence.invalidation ≠ none) .evidenceInvalidated
  failIf (evidence.acceptance = none) .evidenceNotAccepted
  pure evidence

/-- The sorted, duplicate-free list of known artifacts. -/
def artifactsExist (call : StateCall) (artifactIds : List String)
    (location : String) : Checks (List String) := do
  checkAll (fun artifactId => do
    requireId artifactId .artifact location
    failIf (artifactById call.state artifactId = none) .unknownArtifact)
    artifactIds
  pure (sortedBy id artifactIds.dedup)

end StateCall

/-- Move the progress; staying is a transition only for IN_PROGRESS. -/
def progressTransition (state : StateRecord) (target : Progress) : Checks StateRecord :=
  if state.progress ≠ target ∨ target = .inProgress then do
    validateProgressTransition state.progress target
    pure { state with progress := target }
  else .ok { state with progress := target }

/-! ## Contract, claims, artifacts -/

/-- Entering the first activation starts the progress. -/
def startProgress (state : StateRecord) : Checks StateRecord :=
  if state.progress = .notStarted then progressTransition state .inProgress
  else .ok state

def activateProofContract [JsonDigest] (env : Env) (call : StateCall) :
    StateEffect := do
  let entry ← call.mission.currentRevisionEntry
  let contract ← orFail entry.proposal.proofContract .noProofContract
  let authorization ← orFail
    (liveAuthorization call.document call.mission call.now) .stateNotAuthorized
  failIf ((latestActivation call.state).map Activation.revision =
    some entry.revision) .contractAlreadyActive
  let activationId ← freshId env .proofContract
    (call.state.contractActivations.map Activation.activationId)
  let digest ← proofContractDigest contract
  let activation : Activation := {
    activationId := activationId
    revision := entry.revision
    proposalDigestSha256 := entry.proposalDigestSha256
    authorizationId := authorization.authorizationId
    authorizationDigestSha256 := authorization.authorizationDigestSha256
    contractDigestSha256 := digest
    activatedAt := call.now
    stamp := call.stamp }
  let started ← startProgress { call.state with
    contractActivations := call.state.contractActivations ++ [activation] }
  pure (started, .activated activationId {
    revision := entry.revision
    proposalDigestSha256 := entry.proposalDigestSha256
    contractDigestSha256 := digest } authorization.authorizationId)

def recordClaim (env : Env) (requirementKey statement : String)
    (call : StateCall) : StateEffect := do
  let bound ← call.requireBound
  let _ ← StateCall.requirement bound.contract requirementKey
  let claimId ← freshId env .claim (call.state.claims.map Claim.claimId)
  pure ({ call.state with
    claims := call.state.claims ++ [{
      claimId := claimId
      activationId := bound.activation.activationId
      requirementKey := requirementKey
      statement := statement
      claimedAt := call.now
      stamp := call.stamp }] }, .claimed claimId requirementKey)

structure ArtifactCall where
  key : Option String
  role : ArtifactRole
  locatorKind : LocatorKind
  locator : String
  contentDigestSha256 : Option String
  available : Bool
  derivedFrom : List String
  deriving DecidableEq

/-- `_normalized_ids`: sorted and duplicate-free. -/
def normalizedIds (ids : List String) : List String := sortedBy id ids.dedup

/-- The role the contract declares for a required key is the only one. -/
def requireDeclaredRole (contract : ProofContract) (key : Option String)
    (role : ArtifactRole) : Checks Unit :=
  failIf (∃ declared ∈ contract.requiredArtifacts,
    some declared.key = key ∧ declared.role ≠ role) .artifactRoleMismatch

def recordArtifact (env : Env) (artifact : ArtifactCall) (call : StateCall) :
    StateEffect := do
  let bound ← call.requireBound
  requireDeclaredRole bound.contract artifact.key artifact.role
  let links ← call.artifactsExist (normalizedIds artifact.derivedFrom)
    "derived_from"
  let artifactId ← freshId env .artifact
    (call.state.artifacts.map Artifact.artifactId)
  pure ({ call.state with
    artifacts := call.state.artifacts ++ [newArtifact artifactId artifact.key
      artifact.role artifact.locatorKind artifact.locator
      artifact.contentDigestSha256 artifact.available links call.now
      call.stamp] },
    .artifactRecorded artifactId artifact.key artifact.role)

/-- One artifact already attested for the same receipt reference: another
digest conflicts, the same pair of states repeats. -/
def requireNewAttestation (attestation : AttestationInput) (artifact : Artifact) : Checks Unit :=
  match artifact.receiptAttestation with
  | none => .ok ()
  | some marker =>
      if artifact.locator ≠ attestation.receiptId then .ok ()
      else do
        failIf (artifact.contentDigestSha256 ≠
          some attestation.receiptDigestSha256) .receiptAttestationConflict
        failIf (marker.receiptState = attestation.receiptState ∧
          marker.stepState = attestation.stepState) .receiptAlreadyAttested

def attestDeliveryReceipt [JsonDigest] (env : Env)
    (attestation : AttestationInput) (call : StateCall) : StateEffect := do
  let authorization ← orFail (findAuthorizationByDigest call.document
    attestation.authorizationDigestSha256) .receiptAttestationAuthority
  failIf (authorization.missionId ≠ call.mission.missionId) .receiptAttestationAuthority
  failIf ((validateDeliveryParentUse call.document
    authorization.authorizationId call.mission.missionId
    authorization.revision call.now DeliveryTarget.githubPr.text).valid = false)
    .receiptAttestationAuthority
  checkAll (requireNewAttestation attestation) call.state.artifacts
  let artifactId ← freshId env .artifact
    (call.state.artifacts.map Artifact.artifactId)
  pure ({ call.state with
    artifacts := call.state.artifacts ++ [newAttestedArtifact artifactId
      attestation authorization.authorizationId call.now call.stamp] },
    .receiptAttested artifactId attestation.deliveryId attestation.step
      attestation.receiptState attestation.stepState
      authorization.authorizationId)

/-! ## Evidence -/

def submitEvidence (env : Env) (requirementKey : String) (kind : EvidenceKind)
    (contentDigestSha256 : String) (artifactIds : List String)
    (call : StateCall) : StateEffect := do
  let bound ← call.requireBound
  let _ ← StateCall.requirement bound.contract requirementKey
  let links ← call.artifactsExist (normalizedIds artifactIds) "artifact_ids"
  let evidenceId ← freshId env .evidence
    (call.state.evidence.map Evidence.evidenceId)
  pure ({ call.state with
    evidence := call.state.evidence ++ [newEvidence evidenceId
      bound.activation.activationId requirementKey kind contentDigestSha256
      links call.now call.stamp] },
    .evidenceSubmitted evidenceId requirementKey kind)

/-- Change the evidence of an id, of which a record holds one. -/
def updateEvidence (state : StateRecord) (evidenceId : String)
    (change : Evidence → Evidence) : StateRecord :=
  { state with
    evidence := state.evidence.map fun evidence =>
      if evidence.evidenceId = evidenceId then change evidence else evidence }

def acceptEvidence (evidenceId contentDigestSha256 : String)
    (call : StateCall) : StateEffect := do
  let bound ← call.requireBound
  let evidence ← call.evidence evidenceId
  failIf (evidence.activationId ≠ bound.activation.activationId) .contractStale
  failIf (evidence.invalidation ≠ none) .evidenceInvalidated
  failIf (evidence.acceptance ≠ none) .evidenceAlreadyAccepted
  failIf (evidence.kind.satisfying = false) .evidenceKindNotSatisfying
  let requirement ← StateCall.requirement bound.contract evidence.requirementKey
  failIf (evidence.kind ∉ requirement.evidenceKinds) .evidenceKindNotDeclared
  requireHex contentDigestSha256 "content_digest_sha256" 64
  failIf (contentDigestSha256 ≠ evidence.contentDigestSha256) .evidenceDigest
  pure (updateEvidence call.state evidenceId fun held => { held with
    acceptance := some {
      acceptedAt := call.now
      contentDigestSha256 := contentDigestSha256
      activationId := bound.activation.activationId
      stamp := call.stamp } }, .evidenceAccepted evidenceId)

def invalidateEvidence (evidenceId reason : String) (call : StateCall) :
    StateEffect := do
  let evidence ← call.evidence evidenceId
  failIf (evidence.invalidation ≠ none) .evidenceInvalidated
  pure (updateEvidence call.state evidenceId fun held => { held with
    invalidation := some {
      invalidatedAt := call.now
      reason := reason
      stamp := call.stamp } }, .evidenceInvalidated evidenceId)

/-! ## Blockers -/

/-- A HARD blocker holds up progress that is under way. -/
def blockProgress (state : StateRecord) (severity : BlockerSeverity) : Checks StateRecord :=
  if severity = .hard ∧ state.progress = .inProgress then
    progressTransition state .blocked
  else .ok state

def blockerSeverity (contract : ProofContract) (key : String) : BlockerSeverity :=
  if key ∈ contract.permittedBlockerKeys then .degraded else .hard

def openBlocker (env : Env) (key description : String) (call : StateCall) :
    StateEffect := do
  let bound ← call.requireBound
  requireContractKey key "key"
  let severity := blockerSeverity bound.contract key
  let blockerId ← freshId env .blocker
    (call.state.blockers.map Blocker.blockerId)
  let held ← blockProgress { call.state with
    blockers := call.state.blockers ++ [{
      blockerId := blockerId
      activationId := bound.activation.activationId
      key := key
      severity := severity
      description := description
      openedAt := call.now
      resolution := none
      stamp := call.stamp }] } severity
  pure (held, .blockerOpened blockerId key severity)

/-- The last HARD blocker resolved lets progress go on. -/
def unblockProgress (state : StateRecord) : Checks StateRecord :=
  if state.progress = .blocked ∧ activeHardBlockers state = [] then
    progressTransition state .inProgress
  else .ok state

def newResolution (call : StateCall) (evidenceId : String) : Resolution where
  resolvedAt := call.now
  evidenceId := evidenceId
  stamp := call.stamp

def resolveBlocker (blockerId evidenceId : String) (call : StateCall) :
    StateEffect := do
  requireId blockerId .blocker "blocker_id"
  let blocker ← orFail (call.state.blockers.find? fun blocker =>
    blocker.blockerId = blockerId) .unknownBlocker
  failIf (blocker.resolution ≠ none) .blockerAlreadyResolved
  let _ ← call.acceptedEvidence evidenceId
  let unblocked ← unblockProgress { call.state with
    blockers := call.state.blockers.map fun held =>
      if held.blockerId = blockerId then
        { held with resolution := some (newResolution call evidenceId) }
      else held }
  pure (unblocked, .blockerResolved blockerId evidenceId)

/-! ## Dependencies -/

def checkMissionReference (call : StateCall) (reference : String) :
    Checks Unit := do
  requireId reference .mission "reference"
  failIf (reference = call.state.missionId) .dependencySelf
  failIf (call.document.missions.contains reference = false) .dependencyUnknownMission

/-- What a dependency of each kind may name. -/
def checkReference (call : StateCall) (kind : DependencyKind) (reference : String) : Checks Unit :=
  if kind = .mission then checkMissionReference call reference
  else requireStr reference "reference" maxResourceReferenceChars false

/-- A Mission dependency keeps the graph over every record acyclic. -/
def requireAcyclic (call : StateCall) (kind : DependencyKind) (state : StateRecord) : Checks Unit :=
  if kind = .mission then
    match dependencyGraphProblem
        (call.document.missionState.set state.missionId state) with
    | none => .ok ()
    | some problem => refuse problem
  else .ok ()

/-- Append a dependency; the new record and the id it minted. -/
def appendDependency (env : Env) (call : StateCall) (key : Option String)
    (kind : DependencyKind) (reference : String) :
    Checks (StateRecord × String) := do
  let bound ← call.requireBound
  let dependencyId ← freshId env .dependency
    (call.state.dependencies.map Dependency.dependencyId)
  let state := { call.state with
    dependencies := call.state.dependencies ++ [{
      dependencyId := dependencyId
      activationId := bound.activation.activationId
      key := key
      kind := kind
      reference := reference
      declaredAt := call.now
      resolution := none
      stamp := call.stamp }] }
  requireAcyclic call kind state
  pure (state, dependencyId)

/-- An identical rebind is accepted with no effect, any other is refused. -/
def rebindDependency (call : StateCall) (existing : Dependency)
    (slotKey reference : String) : StateEffect := do
  failIf (existing.reference ≠ reference) .dependencyRebind
  pure (call.state, .dependencyBound existing.dependencyId (some slotKey) reference false)

def bindSlot (env : Env) (call : StateCall) (slot : RequiredDependency)
    (reference : String) : StateEffect := do
  failIf (targetMatches slot.target reference (registryView call.document) =
    false) .dependencyTargetMismatch
  let (state, dependencyId) ← appendDependency env call (some slot.key)
    slot.kind reference
  pure (state, .dependencyBound dependencyId (some slot.key) reference true)

def bindDependency (env : Env) (slotKey reference : String)
    (call : StateCall) : StateEffect := do
  let bound ← call.requireBound
  let slot ← orFail (bound.contract.requiredDependencies.find? fun slot =>
    slot.key = slotKey) .unknownDependencySlot
  checkReference call slot.kind reference
  match boundDependency call.state bound.activation.activationId slotKey with
  | some existing => rebindDependency call existing slotKey reference
  | none => bindSlot env call slot reference

/-- An extra dependency, which satisfies no slot. -/
def declareDependency (env : Env) (kind : DependencyKind) (reference : String)
    (call : StateCall) : StateEffect := do
  checkReference call kind reference
  let (state, dependencyId) ← appendDependency env call none kind reference
  pure (state, .dependencyBound dependencyId none reference true)

/-- The prerequisite checks of the one slot a dependency is bound to. -/
def requireSlotPrerequisite (call : StateCall) (bound : BoundContract)
    (dependency : Dependency) : Checks Unit :=
  match dependency.key with
  | none => .ok ()
  | some key =>
      if dependency.activationId ≠ bound.activation.activationId then .ok ()
      else
        match prerequisiteProblems { bound.contract with
            requiredDependencies := bound.contract.requiredDependencies.filter
              fun slot => slot.key = key } call.state
            bound.activation.activationId (registryView call.document) with
        | [] => .ok ()
        | failure :: _ => refuse failure.problem

def resolveDependency (dependencyId evidenceId : String) (call : StateCall) :
    StateEffect := do
  let bound ← call.requireBound
  requireId dependencyId .dependency "dependency_id"
  let dependency ← orFail (call.state.dependencies.find? fun dependency =>
    dependency.dependencyId = dependencyId) .unknownDependency
  failIf (dependency.resolution ≠ none) .dependencyAlreadyResolved
  let _ ← call.acceptedEvidence evidenceId
  requireSlotPrerequisite call bound dependency
  pure ({ call.state with
    dependencies := call.state.dependencies.map fun held =>
      if held.dependencyId = dependencyId then
        { held with resolution := some (newResolution call evidenceId) }
      else held }, .dependencyResolved dependencyId evidenceId)

/-! ## Readiness, continuation, checkpoints -/

def observeResourceReadiness (resourceKey : String) (status : ReadinessStatus)
    (observedAt : Nat) (call : StateCall) : StateEffect := do
  requireContractKey resourceKey "resource_key"
  failIf (observedAt > call.now) .timeInconsistent
  pure ({ call.state with
    resourceReadiness := call.state.resourceReadiness ++ [{
      resourceKey := resourceKey
      status := status
      observedAt := observedAt
      stamp := call.stamp }] }, .readinessObserved resourceKey status)

/-- The ledger already carries this attempt, so the attempts before it are one
fewer. -/
def recordContinuation (reason : String) (call : StateCall) :
    StateEffect := do
  let bound ← call.requireBound
  failIf (call.state.progress ≠ .inProgress) .progressTransition
  let continued ← progressTransition call.state .inProgress
  let consumedBefore := countOperations call.state .recordContinuation - 1
  let declared := bound.contract.continuationBudget.maxAttempts
  failIf (consumedBefore ≥ declared) .budgetExhausted
  let attempt := consumedBefore + 1
  pure ({ continued with
    continuations := continued.continuations ++ [{
      attempt := attempt
      reason := reason
      recordedAt := call.now
      stamp := call.stamp }] }, .continued attempt (declared - attempt))

structure CheckpointCall where
  completedWork : List String
  outstandingWork : List String
  retryCondition : String
  stopCondition : String
  deriving DecidableEq

def recordCheckpoint (env : Env) (checkpoint : CheckpointCall)
    (call : StateCall) : StateEffect := do
  let bound ← call.requireBound
  failIf (call.state.checkpoints.length ≥
    bound.contract.continuationBudget.maxCheckpoints) .checkpointBudgetExhausted
  let checkpointId ← freshId env .checkpoint
    (call.state.checkpoints.map Checkpoint.checkpointId)
  -- the derivation reads no checkpoint record, so it is made before the append
  let derived := deriveCheckpointFields bound.contract call.state
    bound.activation.activationId call.now
  pure ({ call.state with
    checkpoints := call.state.checkpoints ++ [{
      checkpointId := checkpointId
      activationId := bound.activation.activationId
      recordedAt := call.now
      completedWork := checkpoint.completedWork
      outstandingWork := checkpoint.outstandingWork
      refs := {
        revision := bound.activation.revision
        proposalDigestSha256 := bound.activation.proposalDigestSha256
        contractDigestSha256 := bound.activation.contractDigestSha256 }
      derived := derived
      retryCondition := checkpoint.retryCondition
      stopCondition := checkpoint.stopCondition
      stamp := call.stamp }] }, .checkpointed checkpointId derived)

/-! ## Closure -/

/-- Close the record under the activation current at closure. -/
def close (call : StateCall) (progress : Progress) (reason : ClosureReason)
    (detail : String) : StateEffect := do
  let moved ← progressTransition call.state progress
  pure ({ moved with
    closure := some {
      progress := progress
      reason := reason
      detail := detail
      closedAt := call.now
      activationId := (latestActivation call.state).map Activation.activationId
      stamp := call.stamp } }, .closed reason detail)

def completeSuccessfully (detail : String) (call : StateCall) :
    StateEffect := do
  let bound ← call.requireBound
  match closureFailures bound.contract call.state
      bound.activation.activationId call.now (registryView call.document) with
  | failure :: _ => refuse failure.problem
  | [] => close call .completed .proofComplete detail

/-- The fact an asserting reason asserts, re-proved as the store will. -/
def requireProvableClosure (reason : ClosureReason) (call : StateCall) : Checks Unit :=
  if reason.asserting then do
    let bound ← call.requireBound
    failIf (closureProofProblem bound.contract call.state {
        progress := .closedUnsuccessful
        reason := reason
        detail := ""
        closedAt := call.now
        activationId := some bound.activation.activationId
        stamp := { call.stamp with sequence := call.state.sequence } } ≠ none)
      .closureNotProvable
  else .ok ()

def closeUnsuccessful (reason : ClosureReason) (detail : String)
    (call : StateCall) : StateEffect := do
  failIf (reason ∉ ClosureReason.admittedBy .closedUnsuccessful) .closure
  requireProvableClosure reason call
  close call .closedUnsuccessful reason detail

def abandon (detail : String) (call : StateCall) : StateEffect :=
  close call .abandoned .callerAbandoned detail

end DodgingInfinity.MissionCore
