import DodgingInfinity.MissionCore.Service.Common

/-!
# Proposing, withdrawing and deciding

The operations on a Mission before any run: minting the ids they consume,
proposing, the proposer's withdrawal, the decisions of a human and the
outcomes an operator attests.
-/

namespace DodgingInfinity.MissionCore

open Checked

/-! ## Propose -/

/-- The response of a proposal: the stable Mission id and one coherent triple
of its current revision. -/
structure ProposeOutcome where
  missionId : String
  revision : Nat
  state : MissionState
  requestId : String
  idempotent : Bool
  proposal : Proposal
  proposalDigestSha256 : String
  deriving DecidableEq

def proposeOutcome (mission : Mission) (requestId : String)
    (idempotent : Bool) : Checks ProposeOutcome := do
  let entry ← mission.currentRevisionEntry
  pure {
    missionId := mission.missionId
    revision := entry.revision
    state := mission.state
    requestId := requestId
    idempotent := idempotent
    proposal := entry.proposal
    proposalDigestSha256 := entry.proposalDigestSha256
  }

structure ProposeCall where
  requestId : String
  proposal : Proposal
  context : Context
  withdrawalKeyDigestSha256 : Option String
  withdrawalKeyExpiresAt : Option Nat
  deriving DecidableEq

/-- A withdrawal key is bound only with its original expiry. -/
def requireWithdrawalKeyPair (call : ProposeCall) : Checks Unit := do
  failIf (call.withdrawalKeyDigestSha256.isNone ≠ call.withdrawalKeyExpiresAt.isNone) .badValue
  requireOptionalHex call.withdrawalKeyDigestSha256 "withdrawal_key_digest_sha256" 64

/-- A consumed request id answers for the Mission it created, when it presents
the content it was bound to. -/
def replayPropose (document : Document) (call : ProposeCall) (digest : String)
    (consumedBy : String) : Checks (Document × ProposeOutcome) := do
  let mission ← orFail (document.missions.get? consumedBy) .uncaught
  let first ← mission.firstRevision
  failIf (first.proposalDigestSha256 ≠ digest ∨
    mission.withdrawalKeyDigestSha256 ≠ call.withdrawalKeyDigestSha256 ∨
    mission.withdrawalKeyExpiresAt ≠ call.withdrawalKeyExpiresAt)
    .requestIdConflict
  let outcome ← proposeOutcome mission call.requestId true
  pure (document, outcome)

def createMission [JsonDigest] (env : Env) (document : Document)
    (call : ProposeCall) (clean : Proposal) (reservation : Reservation) :
    Checks (Document × ProposeOutcome) := do
  failIf (document.missions.entries.length ≥ maxMissionRecords) .storeFull
  let missionId ← freshId env .mission document.missions.keys
  let mission ← newMissionRecord missionId call.requestId clean env.now
    call.context call.withdrawalKeyDigestSha256 call.withdrawalKeyExpiresAt
  let outcome ← proposeOutcome mission call.requestId false
  pure ((document.setMission missionId mission).consume call.requestId
    reservation missionId, outcome)

def propose [JsonDigest] (env : Env) (document : Document)
    (call : ProposeCall) : Checks (Document × ProposeOutcome) := do
  requireContext call.context "context"
  requireId call.requestId .request "request_id"
  let clean ← validateProposal call.proposal "proposal"
  let digest ← proposalDigest clean
  requireWithdrawalKeyPair call
  let reservation ← lookupReservation document call.requestId .request
    call.context .unknownRequestId .requestContextConflict
  match reservation.consumedBy with
  | some consumedBy => replayPropose document call digest consumedBy
  | none => createMission env document call clean reservation

/-! ## Withdrawal -/

structure WithdrawOutcome where
  missionId : String
  state : MissionState
  withdrawal : Option Withdrawal
  idempotent : Bool
  deriving DecidableEq

/-- The proposer of an unauthenticated proposal, presenting its request id. -/
def requireProposer (mission : Mission) (requestId : String)
    (context : Context) : Checks Unit := do
  let first ← mission.firstRevision
  let recorded ← provenanceContext first.provenance
  failIf (mission.requestId ≠ requestId ∨ recorded.asDict ≠ context.asDict ∨
    context.principalKind ≠ .unauthenticatedLocalCaller)
    .withdrawalContextConflict

/-- The key only the creator got. -/
def requireWithdrawalKeyMatch [JsonDigest] (mission : Mission)
    (withdrawalKey : Option String) : Checks Unit :=
  failIf (mission.withdrawalKeyDigestSha256 = none ∨ withdrawalKeyDigest withdrawalKey = none ∨
    withdrawalKeyDigest withdrawalKey ≠ mission.withdrawalKeyDigestSha256)
    .withdrawalKey

/-- The first withdrawal lands before the key expires and before any
decision. -/
def firstWithdrawal (env : Env) (document : Document) (missionId : String)
    (mission : Mission) (context : Context) :
    Checks (Document × WithdrawOutcome) := do
  let expires ← orFail mission.withdrawalKeyExpiresAt .uncaught
  failIf (env.now ≥ expires) .withdrawalKeyExpired
  failIf (mission.state ≠ .awaitingDecision ∨ mission.currentRevision ≠ 1 ∨
    mission.decisions ≠ [] ∨ mission.authorizationIds ≠ []) .notWithdrawable
  let withdrawal ← newWithdrawal mission context env.now
  pure (document.setMission missionId { mission with
      withdrawal := some withdrawal
      updatedAt := env.now },
    { missionId := missionId
      state := mission.state
      withdrawal := some withdrawal
      idempotent := false })

def withdrawProposal [JsonDigest] (env : Env) (document : Document)
    (missionId requestId : String) (withdrawalKey : Option String)
    (context : Context) : Checks (Document × WithdrawOutcome) := do
  requireContext context "context"
  requireId requestId .request "request_id"
  let mission ← lookupMission document missionId
  requireProposer mission requestId context
  requireWithdrawalKeyMatch mission withdrawalKey
  if mission.withdrawal ≠ none then
    pure (document, {
      missionId := missionId
      state := mission.state
      withdrawal := mission.withdrawal
      idempotent := true })
  else firstWithdrawal env document missionId mission context

/-! ## The projection of a decision -/

/-- The historical fields come from the recorded decision, the present ones
from the Mission and from the one validation path. -/
structure DecisionOutcome where
  decision : DecisionKind
  decisionId : String
  missionId : String
  revision : Nat
  state : MissionState
  proposalDigestSha256 : String
  authorizationId : Option String
  authorizationDigestSha256 : Option String
  authorizedActionScope : Option (List ActionScope)
  authorizedDeliveryTargets : Option (List DeliveryTarget)
  expiresAt : Option Nat
  invalidatedAuthorizationIds : List String
  idempotent : Bool
  currentRevision : Nat
  currentState : MissionState
  authorizationLive : Option Bool
  authorizationProblem : Option Problem
  deriving DecidableEq

/-- The answer of the one validation path about a recorded authorization. -/
def recordedAuthority [JsonDigest] (env : Env) (document : Document) (decision : DecisionRecord) :
    Checks (Option (AuthorityCheck × String)) :=
  match decision.outcome.authorizationId with
  | none => .ok none
  | some authorizationId => do
      let authorization ← orFail (document.authorizations.get? authorizationId)
        .uncaught
      pure (some (validateAuthorizationUse document authorizationId
        decision.missionId decision.revision env.answeredAt [] none none,
        authorization.authorizationDigestSha256))

def decisionOutcome [JsonDigest] (env : Env) (document : Document)
    (decision : DecisionRecord) (idempotent : Bool) :
    Checks DecisionOutcome := do
  let mission ← orFail (document.missions.get? decision.missionId) .uncaught
  let authority ← recordedAuthority env document decision
  let approved : Bool := decision.decision = .approve
  pure {
    decision := decision.decision
    decisionId := decision.decisionId
    missionId := decision.missionId
    revision := decision.outcome.resultingRevision
    state := decision.outcome.resultingState
    proposalDigestSha256 := decision.outcome.proposalDigestSha256
    authorizationId := decision.outcome.authorizationId
    authorizationDigestSha256 := authority.map Prod.snd
    authorizedActionScope :=
      if approved then decision.approvedActionScope else none
    authorizedDeliveryTargets :=
      if approved then decision.approvedDeliveryTargets else none
    expiresAt := if approved then decision.expiresAt else none
    invalidatedAuthorizationIds := decision.outcome.invalidatedAuthorizationIds
    idempotent := idempotent
    currentRevision := mission.currentRevision
    currentState := mission.state
    authorizationLive := authority.map fun answer => answer.1.valid
    authorizationProblem := authority.bind fun answer => answer.1.problem
  }

def recordedDecision (document : Document) (decisionId : String) : Option DecisionRecord :=
  (document.missions.values.flatMap Mission.decisions).find? fun entry =>
    entry.decisionId = decisionId

/-! ## The effects of a decision -/

/-- The effect of a decision: the document with its ledger and authorizations,
the Mission, and the outcome to record. -/
abbrev DecisionEffect := Document × Mission × RecordedOutcome

/-- What is approved was requested by the current revision. -/
def requireWithinRequest (entry : RevisionEntry) (actions : List ActionScope)
    (targets : List DeliveryTarget) : Checks Unit := do
  failIf (¬ ∀ action ∈ actions, action ∈ entry.proposal.requestedActionScope) .actionOutsideScope
  failIf (¬ ∀ target ∈ targets,
    entry.proposal.requestedDeliveryTarget = some target) .targetOutsideScope

/-- The authority half an approval issues. -/
def approvedHalf (mission : Mission) (entry : RevisionEntry)
    (authorizationId : String) (principal : Provenance)
    (actions : List ActionScope) (targets : List DeliveryTarget)
    (issuedAt : Nat) (expiresAt : Option Nat) : AuthorityHalf where
  authorizationId := authorizationId
  missionId := mission.missionId
  revision := entry.revision
  proposalDigestSha256 := entry.proposalDigestSha256
  humanPrincipal := principal
  authorizedActionScope := actions
  authorizedDeliveryTargets := targets
  issuedAt := issuedAt
  expiresAt := expiresAt

/-- The APPROVE effect: the only issuer of Mission authorizations. -/
def approve [JsonDigest] (env : Env) (document : Document) (mission : Mission)
    (envelope : HumanDecisionEnvelope) : Checks DecisionEffect := do
  validateTransition mission.state .authorized
  let entry ← mission.currentRevisionEntry
  let actions ← orFail envelope.normalizedActions .uncaught
  let targets ← orFail envelope.normalizedTargets .uncaught
  requireWithinRequest entry actions targets
  failIf (∃ expires ∈ envelope.expiresAt, expires ≤ env.now) .badValue
  failIf (document.authorizations.entries.length ≥ maxAuthorizationRecords) .storeFull
  let authorizationId ← freshId env .authorization document.authorizations.keys
  let principal ← provenanceRecord envelope.context envelope.receivedAt
    .decision envelope.decisionId mission.missionId entry.revision
  let authorization ← issueMissionAuthorization (approvedHalf mission entry
    authorizationId principal actions targets env.now envelope.expiresAt)
  let recorded ← appendLedger env { document with
      authorizations := document.authorizations.set authorizationId
        authorization } mission.missionId {
      kind := .issued
      revision := entry.revision
      authorizationId := some authorizationId
      decisionId := some envelope.decisionId
      reason := issuanceReason }
  pure (recorded, { mission with
      authorizationIds := mission.authorizationIds ++ [authorizationId]
      state := .authorized },
    { resultingState := .authorized
      resultingRevision := entry.revision
      proposalDigestSha256 := entry.proposalDigestSha256
      authorizationId := some authorizationId
      invalidatedAuthorizationIds := [] })

/-- The one DENY effect, for a human decision and for an attested decline. -/
def deny (env : Env) (document : Document) (mission : Mission)
    (decisionId : String) : Checks DecisionEffect := do
  validateTransition mission.state .denied
  let recorded ← appendLedger env document mission.missionId {
    kind := .denied
    revision := mission.currentRevision
    authorizationId := none
    decisionId := some decisionId
    reason := denialReason }
  let entry ← mission.currentRevisionEntry
  pure (recorded, { mission with state := .denied },
    { resultingState := .denied
      resultingRevision := mission.currentRevision
      proposalDigestSha256 := entry.proposalDigestSha256
      authorizationId := none
      invalidatedAuthorizationIds := [] })

/-- Whether an authorization of the superseded revision is still unrevoked. -/
def liveUnder (superseded : Nat) (authorization : Authorization) : Bool :=
  authorization.revision = superseded ∧ authorization.revocation = none

/-- Revoke one authorization of the superseded revision, with its ledger
entry; collect its id. -/
def revokeSuperseded (env : Env) (mission : Mission) (decisionId : String)
    (progress : Document × List String) (authorizationId : String) :
    Checks (Document × List String) := do
  let (document, invalidated) := progress
  let authorization ← orFail (document.authorizations.get? authorizationId)
    .uncaught
  if liveUnder mission.currentRevision authorization then do
    let recorded ← appendLedger env { document with
        authorizations := document.authorizations.set authorizationId
          (revoke authorization env.now .supersededByEdit) }
      mission.missionId {
        kind := .invalidatedByEdit
        revision := mission.currentRevision
        authorizationId := some authorizationId
        decisionId := some decisionId
        reason := supersededReason }
    pure (recorded, invalidated ++ [authorizationId])
  else pure (document, invalidated)

/-- An EDIT is a transition from every state but the awaiting one, which it
leaves as it is. -/
def requireEditable (mission : Mission) : Checks Unit :=
  if mission.state ≠ .awaitingDecision then
    validateTransition mission.state .awaitingDecision
  else .ok ()

/-- The EDIT effect: revoke what the superseded revision authorized and append
the next exact revision. -/
def edit [JsonDigest] (env : Env) (document : Document) (mission : Mission)
    (envelope : HumanDecisionEnvelope) : Checks DecisionEffect := do
  requireEditable mission
  let (revoked, invalidated) ← foldChecked
    (revokeSuperseded env mission envelope.decisionId) (document, [])
    mission.authorizationIds
  let proposal ← orFail envelope.proposal .uncaught
  let (revised, entry) ← appendRevision mission proposal env.now
    envelope.decisionId envelope.context envelope.receivedAt
  pure (revoked, { revised with state := .awaitingDecision },
    { resultingState := .awaitingDecision
      resultingRevision := entry.revision
      proposalDigestSha256 := entry.proposalDigestSha256
      authorizationId := none
      invalidatedAuthorizationIds := invalidated })

/-! ## Human decisions -/

/-- The rules of an operator-attested approval: a local proposal, exactly what
it requested, for a bounded time. -/
def requireAttestedApproval (env : Env) (mission : Mission)
    (entry : RevisionEntry) (envelope : HumanDecisionEnvelope) :
    Checks Unit := do
  let first ← mission.firstRevision
  failIf (first.provenance.context.principalKind ≠ .unauthenticatedLocalCaller) .attestedApproval
  let actions ← orFail envelope.approvedActionScope .uncaught
  let targets ← orFail envelope.approvedDeliveryTargets .uncaught
  failIf (sortedBy ActionScope.text actions ≠
      sortedBy ActionScope.text entry.proposal.requestedActionScope ∨
    sortedBy DeliveryTarget.text targets ≠
      entry.proposal.requestedDeliveryTarget.toList) .attestedApproval
  let expires ← orFail envelope.expiresAt .uncaught
  failIf (expires > env.checkedAt + maxAttestedApprovalValiditySeconds) .attestedApproval

/-- The content of a decision on the current revision. -/
def requireExactContent (env : Env) (mission : Mission)
    (envelope : HumanDecisionEnvelope) : Checks Unit := do
  let entry ← mission.currentRevisionEntry
  failIf (∃ expected ∈ envelope.expectedProposalDigestSha256,
    expected ≠ entry.proposalDigestSha256) .proposalDigestMismatch
  if envelope.context.principalKind.approveOnly then
    requireAttestedApproval env mission entry envelope
  else pure ()

/-- What no decision applies to: a terminal Mission, one with a recorded run,
and a withdrawn proposal. -/
def requireDecidable (mission : Mission) : Checks Unit := do
  refuseTerminal mission
  failIf (mission.run ≠ none) .runRecorded
  failIf (mission.withdrawal ≠ none) .proposalWithdrawn

def decisionEffect [JsonDigest] (env : Env) (document : Document)
    (mission : Mission) (envelope : HumanDecisionEnvelope) : Checks DecisionEffect :=
  match envelope.decision with
  | .approve => approve env document mission envelope
  | .deny => deny env document mission envelope.decisionId
  | _ => edit env document mission envelope

/-- A consumed decision id answers for the decision it applied, when it
presents the same content and, for an approval, no other digest. -/
def replayHumanDecision [JsonDigest] (env : Env) (document : Document)
    (envelope : HumanDecisionEnvelope) (digest : String) :
    Checks (Document × DecisionOutcome) := do
  let recorded ← orFail (recordedDecision document envelope.decisionId)
    .decisionIdConflict
  failIf (recorded.missionId ≠ envelope.missionId ∨
    recorded.decisionDigestSha256 ≠ digest) .decisionIdConflict
  failIf (envelope.decision = .approve ∧ ∃ expected ∈ envelope.expectedProposalDigestSha256,
      recorded.outcome.proposalDigestSha256 ≠ expected) .decisionIdConflict
  let outcome ← decisionOutcome env document recorded true
  pure (document, outcome)

/-- Record a decision on its Mission and consume its id. -/
def recordDecision (env : Env) (document : Document) (missionId : String)
    (mission : Mission) (decision : DecisionRecord) (reservation : Reservation) :
    Checks Document := do
  let decided ← appendDecision mission decision
  pure ((document.setMission missionId
    { decided with updatedAt := env.now }).consume decision.decisionId
      reservation decision.decisionId)

def decideHuman [JsonDigest] (env : Env) (document : Document)
    (envelope : HumanDecisionEnvelope) (mission : Mission)
    (reservation : Reservation) : Checks (Document × DecisionOutcome) := do
  requireDecidable mission
  if envelope.revision ≠ mission.currentRevision then refuse .staleRevision
  else do
    requireExactContent env mission envelope
    let noted ← noteExpirations env document mission
    let (effected, changed, outcome) ← decisionEffect env noted mission envelope
    let decision ← newDecisionRecord envelope env.now outcome
    let decided ← recordDecision env effected envelope.missionId changed
      decision reservation
    let answer ← decisionOutcome env decided decision false
    pure (decided, answer)

/-- Apply one human decision; the only issuer of Mission authorizations. -/
def applyHumanDecision [JsonDigest] (env : Env) (document : Document)
    (envelope : HumanDecisionEnvelope) : Checks (Document × DecisionOutcome) := do
  envelope.validate
  let digest ← envelope.digest
  let reservation ← lookupReservation document envelope.decisionId .decision
    envelope.context .unknownDecisionId .decisionContextConflict
  let mission ← lookupMission document envelope.missionId
  if reservation.consumedBy ≠ none then
    replayHumanDecision env document envelope digest
  else decideHuman env document envelope mission reservation

/-- The EDIT entry point, which stamps its own receive time. -/
def editMission [JsonDigest] (env : Env) (document : Document)
    (missionId : String) (expectedRevision : Nat) (proposal : Proposal)
    (decisionId : String) (context : Context) : Checks (Document × DecisionOutcome) :=
  applyHumanDecision env document {
    context := context
    decisionId := decisionId
    missionId := missionId
    revision := expectedRevision
    decision := .edit
    receivedAt := env.receivedAt
    approvedActionScope := none
    approvedDeliveryTargets := none
    proposal := some proposal
    expiresAt := none
    expectedProposalDigestSha256 := none }

/-- The one entry point of an operator-attested APPROVE. -/
def applyOperatorAttestedApproval [JsonDigest] (env : Env)
    (document : Document) (context : Context) (decisionId missionId : String)
    (revision : Nat) (proposalDigestSha256 : Option String) (approvedActionScope : List ActionScope)
    (approvedDeliveryTargets : List DeliveryTarget) (expiresAt : Option Nat) :
    Checks (Document × DecisionOutcome) := do
  requireOperatorAttestedContext context "attestation"
  applyHumanDecision env document {
    context := context
    decisionId := decisionId
    missionId := missionId
    revision := revision
    decision := .approve
    receivedAt := env.receivedAt
    approvedActionScope := some (sortedBy ActionScope.text approvedActionScope)
    approvedDeliveryTargets :=
      some (sortedBy DeliveryTarget.text approvedDeliveryTargets)
    proposal := none
    expiresAt := expiresAt
    expectedProposalDigestSha256 := proposalDigestSha256 }

/-! ## Attested outcomes -/

/-- The outcomes an attestation records without authority. -/
inductive AttestedOutcome where
  | decline
  | reject
  | requestChanges
  deriving DecidableEq

namespace AttestedOutcome

def kind : AttestedOutcome → DecisionKind
  | decline => .deny
  | reject => .reject
  | requestChanges => .requestChanges

def target : AttestedOutcome → MissionState
  | decline => .denied
  | reject => .rejected
  | requestChanges => .changesRequested

end AttestedOutcome

structure AttestedCall where
  context : Context
  decisionId : String
  missionId : String
  revision : Nat
  proposalDigestSha256 : String
  outcome : AttestedOutcome
  reason : Option String
  deriving DecidableEq

def requireAttestedReason (call : AttestedCall) : Checks Unit :=
  if call.outcome = .requestChanges then
    requireChangeRequestReason call.reason "reason"
  else .ok ()

/-- The effect of an attested outcome: a decline is the one DENY effect, the
other two only move the state. -/
def attestedEffect (env : Env) (document : Document) (mission : Mission)
    (call : AttestedCall) : Checks (Document × Mission) :=
  if call.outcome = .decline then do
    let (denied, changed, _) ← deny env document mission call.decisionId
    pure (denied, changed)
  else .ok (document, { mission with state := call.outcome.target })

def replayAttestedOutcome [JsonDigest] (env : Env) (document : Document)
    (call : AttestedCall) (digest : String) :
    Checks (Document × DecisionOutcome) := do
  let recorded ← orFail (recordedDecision document call.decisionId)
    .decisionIdConflict
  failIf (recorded.missionId ≠ call.missionId ∨ recorded.decisionDigestSha256 ≠ digest ∨
    recorded.outcome.proposalDigestSha256 ≠ call.proposalDigestSha256)
    .decisionIdConflict
  let outcome ← decisionOutcome env document recorded true
  pure (document, outcome)

def decideAttested [JsonDigest] (env : Env) (document : Document)
    (call : AttestedCall) (mission : Mission) (reservation : Reservation) :
    Checks (Document × DecisionOutcome) := do
  requireDecidable mission
  failIf (call.revision ≠ mission.currentRevision) .staleRevision
  let entry ← mission.currentRevisionEntry
  failIf (call.proposalDigestSha256 ≠ entry.proposalDigestSha256) .proposalDigestMismatch
  let first ← mission.firstRevision
  failIf (first.provenance.context.principalKind ≠ .unauthenticatedLocalCaller) .attestedOutcome
  validateTransition mission.state call.outcome.target
  let noted ← noteExpirations env document mission
  let (effected, changed) ← attestedEffect env noted mission call
  let decision ← newAttestedOutcomeRecord call.context call.decisionId
    call.missionId entry.revision call.outcome.kind env.now env.now
    { resultingState := call.outcome.target
      resultingRevision := entry.revision
      proposalDigestSha256 := entry.proposalDigestSha256
      authorizationId := none
      invalidatedAuthorizationIds := [] } call.reason
  let decided ← recordDecision env effected call.missionId changed decision
    reservation
  let answer ← decisionOutcome env decided decision false
  pure (decided, answer)

def applyAttestedOutcome [JsonDigest] (env : Env) (document : Document)
    (call : AttestedCall) : Checks (Document × DecisionOutcome) := do
  requireOperatorAttestedContext call.context "attestation"
  requireAttestedReason call
  requireId call.decisionId .decision "decision_id"
  requireId call.missionId .mission "mission_id"
  requireAtLeast call.revision 1 "revision"
  requireHex call.proposalDigestSha256 "proposal_digest_sha256" 64
  let digest := decisionDigest call.missionId call.revision call.outcome.kind
    none none none none call.reason
  let reservation ← lookupReservation document call.decisionId .decision
    call.context .unknownDecisionId .decisionContextConflict
  let mission ← lookupMission document call.missionId
  if reservation.consumedBy ≠ none then
    replayAttestedOutcome env document call digest
  else decideAttested env document call mission reservation

end DodgingInfinity.MissionCore
