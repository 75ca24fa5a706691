import DodgingInfinity.MissionCore.Record

/-!
# Human decisions

The envelope a decision travels in, the content its digest covers, and the
durable record a decision leaves.
-/

namespace DodgingInfinity.MissionCore

inductive DecisionKind where
  | approve
  | edit
  | deny
  | reject
  | requestChanges
  deriving DecidableEq

namespace DecisionKind

def text : DecisionKind → String
  | approve => "APPROVE"
  | edit => "EDIT"
  | deny => "DENY"
  | reject => "REJECT"
  | requestChanges => "REQUEST_CHANGES"

/-- The kinds an envelope may carry. -/
def inEnvelope : DecisionKind → Bool
  | approve => true
  | edit => true
  | deny => true
  | reject => false
  | requestChanges => false

/-- The kinds an attestation records through its own entry points. -/
def attestedOutcome : DecisionKind → Bool
  | approve => false
  | edit => false
  | deny => true
  | reject => true
  | requestChanges => true

/-- The recorded kinds that may carry an operator-attested provenance. -/
def attestedRecord (kind : DecisionKind) : Bool :=
  kind = approve ∨ kind.attestedOutcome

end DecisionKind

/-- One human decision as the transport adapter received it. -/
structure HumanDecisionEnvelope where
  context : Context
  decisionId : String
  missionId : String
  revision : Nat
  decision : DecisionKind
  receivedAt : Nat
  approvedActionScope : Option (List ActionScope)
  approvedDeliveryTargets : Option (List DeliveryTarget)
  proposal : Option Proposal
  expiresAt : Option Nat
  expectedProposalDigestSha256 : Option String
  deriving DecidableEq

/-- A scope list that must be present; a null one has the wrong type. -/
def requireScope {α : Type} [DecidableEq α] (text : α → String)
    (value : Option (List α)) (location : String) (problem : Problem)
    (allowEmpty : Bool) : Checks (List α) :=
  match value with
  | none => .error ⟨.badType, location⟩
  | some items => requireSortedSubset text items location problem allowEmpty

namespace HumanDecisionEnvelope

/-- The replacement proposal an EDIT must carry. -/
def validateReplacement (proposal : Option Proposal) : Checks Unit :=
  match proposal with
  | none => .error ⟨.badType, "envelope.proposal"⟩
  | some proposal => do
      let _ ← validateProposal proposal "envelope.proposal"
      pure ()

/-- The content each kind of decision must and must not carry. -/
def validateContent (envelope : HumanDecisionEnvelope) : Checks Unit :=
  if envelope.decision = .approve then do
    let _ ← requireScope ActionScope.text envelope.approvedActionScope
      "envelope.approved_action_scope" .actionScope false
    let _ ← requireScope DeliveryTarget.text envelope.approvedDeliveryTargets
      "envelope.approved_delivery_targets" .deliveryTarget true
    failAt (envelope.proposal ≠ none) .decision "envelope.proposal"
  else do
    failAt (envelope.approvedActionScope ≠ none) .decision "envelope.approved_action_scope"
    failAt (envelope.approvedDeliveryTargets ≠ none) .decision "envelope.approved_delivery_targets"
    failAt (envelope.expiresAt ≠ none) .decision "envelope.expires_at"
    if envelope.decision = .edit then validateReplacement envelope.proposal
    else failAt (envelope.proposal ≠ none) .decision "envelope.proposal"

def validate (envelope : HumanDecisionEnvelope) : Checks Unit := do
  requireDecisionContext envelope.context (envelope.decision = .approve) "envelope.context"
  requireOptionalHex envelope.expectedProposalDigestSha256
    "envelope.expected_proposal_digest_sha256" 64
  failIf (envelope.context.principalKind.approveOnly ∧
    (envelope.expectedProposalDigestSha256 = none ∨ envelope.expiresAt = none))
    .attestedApproval
  requireId envelope.decisionId .decision "envelope.decision_id"
  requireId envelope.missionId .mission "envelope.mission_id"
  requireAtLeast envelope.revision 1 "envelope.revision"
  failAt (envelope.decision.inEnvelope = false) .decision "envelope.decision"
  envelope.validateContent

def normalizedActions (envelope : HumanDecisionEnvelope) : Option (List ActionScope) :=
  if envelope.decision = .approve then
    envelope.approvedActionScope.map (sortedBy ActionScope.text)
  else none

def normalizedTargets (envelope : HumanDecisionEnvelope) : Option (List DeliveryTarget) :=
  if envelope.decision = .approve then
    envelope.approvedDeliveryTargets.map (sortedBy DeliveryTarget.text)
  else none

def replacementDigest [JsonDigest] (envelope : HumanDecisionEnvelope) : Checks (Option String) :=
  if envelope.decision = .edit then
    match envelope.proposal with
    | none => .error ⟨.badType, "proposal"⟩
    | some proposal => some <$> proposalDigest proposal
  else .ok none

end HumanDecisionEnvelope

/-- The content a decision digest covers: no time and no minted id. -/
def decisionContent (missionId : String) (revision : Nat)
    (decision : DecisionKind) (approvedActionScope : Option (List ActionScope))
    (approvedDeliveryTargets : Option (List DeliveryTarget))
    (expiresAt : Option Nat) (proposalDigestSha256 reason : Option String) : Json :=
  .object ([("mission_id", .text missionId), ("revision", .ofNat revision),
    ("decision", .text decision.text), ("approved_action_scope",
      .optional (.listOf fun scope => .text scope.text) approvedActionScope),
    ("approved_delivery_targets",
      .optional (.listOf fun target => .text target.text)
        approvedDeliveryTargets), ("expires_at", .optional .ofNat expiresAt),
    ("proposal_digest_sha256", .optional .text proposalDigestSha256)] ++
    match reason with
    | none => []
    | some text => [("reason", .text text)])

def decisionDigest [JsonDigest] (missionId : String) (revision : Nat)
    (decision : DecisionKind) (approvedActionScope : Option (List ActionScope))
    (approvedDeliveryTargets : Option (List DeliveryTarget))
    (expiresAt : Option Nat) (proposalDigestSha256 reason : Option String) : String :=
  jsonDigest (decisionContent missionId revision decision approvedActionScope
    approvedDeliveryTargets expiresAt proposalDigestSha256 reason)

def HumanDecisionEnvelope.digest [JsonDigest]
    (envelope : HumanDecisionEnvelope) : Checks String := do
  let replacement ← envelope.replacementDigest
  pure (decisionDigest envelope.missionId envelope.revision envelope.decision
    envelope.normalizedActions envelope.normalizedTargets envelope.expiresAt
    replacement none)

/-- The historical result of applying a decision; never rewritten. -/
structure RecordedOutcome where
  resultingState : MissionState
  resultingRevision : Nat
  proposalDigestSha256 : String
  authorizationId : Option String
  invalidatedAuthorizationIds : List String
  deriving DecidableEq

structure DecisionRecord where
  decisionId : String
  missionId : String
  revision : Nat
  decision : DecisionKind
  approvedActionScope : Option (List ActionScope)
  approvedDeliveryTargets : Option (List DeliveryTarget)
  expiresAt : Option Nat
  proposalDigestSha256 : Option String
  provenance : Provenance
  receivedAt : Nat
  decidedAt : Nat
  decisionDigestSha256 : String
  outcome : RecordedOutcome
  /-- Present on a change request only. -/
  reason : Option String
  deriving DecidableEq

/-- The stored form of a scope list: present and sorted. -/
def requireStoredScope {α : Type} [DecidableEq α] (text : α → String)
    (value : Option (List α)) (location : String) (problem : Problem)
    (allowEmpty : Bool) : Checks Unit :=
  match value with
  | none => .error ⟨.badType, location⟩
  | some items => requireSorted text items location problem allowEmpty

def validateDecisionOutcome (value : RecordedOutcome) (location : String) :
    Checks Unit := do
  requireAtLeast value.resultingRevision 1 (location ++ ".resulting_revision")
  requireHex value.proposalDigestSha256 (location ++ ".proposal_digest_sha256") 64
  requireOptionalId value.authorizationId .authorization (location ++ ".authorization_id")
  checkElements (fun item path => requireId item .authorization path)
    (location ++ ".invalidated_authorization_ids") 0
    value.invalidatedAuthorizationIds

/-- The reason belongs to a change request alone. -/
def validateDecisionReason (value : DecisionRecord) (location : String) : Checks Unit :=
  if value.decision = .requestChanges then
    requireChangeRequestReason value.reason (location ++ ".reason")
  else failAt (value.reason ≠ none) .unknownKey location

/-- The scope, expiry and replacement each kind of decision records. -/
def validateDecisionScope (value : DecisionRecord) (location : String) : Checks Unit :=
  if value.decision = .approve then do
    requireStoredScope ActionScope.text value.approvedActionScope
      (location ++ ".approved_action_scope") .actionScope false
    requireStoredScope DeliveryTarget.text value.approvedDeliveryTargets
      (location ++ ".approved_delivery_targets") .deliveryTarget true
    failAt (value.proposalDigestSha256 ≠ none) .decision (location ++ ".proposal_digest_sha256")
  else do
    failAt (value.approvedActionScope ≠ none ∨
      value.approvedDeliveryTargets ≠ none ∨ value.expiresAt ≠ none)
      .decision location
    if value.decision = .edit then
      requirePresentHex value.proposalDigestSha256 (location ++ ".proposal_digest_sha256") 64
    else
      failAt (value.proposalDigestSha256 ≠ none) .decision (location ++ ".proposal_digest_sha256")

def validateDecisionRecord [JsonDigest] (value : DecisionRecord)
    (location : String) : Checks Unit := do
  requireId value.decisionId .decision (location ++ ".decision_id")
  requireId value.missionId .mission (location ++ ".mission_id")
  requireAtLeast value.revision 1 (location ++ ".revision")
  validateDecisionReason value location
  validateDecisionScope value location
  requireDecisionProvenance value.provenance value.decision.attestedRecord
    (location ++ ".provenance")
  failAt (value.provenance.referenceKind ≠ .decision) .provenance (location ++ ".provenance")
  failAt (value.provenance.referenceId ≠ value.decisionId ∨
    value.provenance.missionId ≠ value.missionId ∨
    value.provenance.revision ≠ value.revision) .provenance
    (location ++ ".provenance")
  failAt (value.provenance.receivedAt ≠ value.receivedAt) .provenance (location ++ ".received_at")
  requireHex value.decisionDigestSha256 (location ++ ".decision_digest_sha256") 64
  failAt (value.decisionDigestSha256 ≠ decisionDigest value.missionId
    value.revision value.decision value.approvedActionScope
    value.approvedDeliveryTargets value.expiresAt value.proposalDigestSha256
    value.reason) .decision (location ++ ".decision_digest_sha256")
  validateDecisionOutcome value.outcome (location ++ ".outcome")

/-- The durable record of an attested outcome that is not an approval. -/
def newAttestedOutcomeRecord [JsonDigest] (context : Context)
    (decisionId missionId : String) (revision : Nat) (decision : DecisionKind)
    (receivedAt decidedAt : Nat) (outcome : RecordedOutcome)
    (reason : Option String) : Checks DecisionRecord := do
  requireOperatorAttestedContext context "attestation"
  failAt (decision.attestedOutcome = false) .decision "decision"
  let provenance ← provenanceRecord context receivedAt .decision decisionId
    missionId revision
  let document : DecisionRecord := {
    decisionId := decisionId
    missionId := missionId
    revision := revision
    decision := decision
    approvedActionScope := none
    approvedDeliveryTargets := none
    expiresAt := none
    proposalDigestSha256 := none
    provenance := provenance
    receivedAt := receivedAt
    decidedAt := decidedAt
    decisionDigestSha256 := decisionDigest missionId revision decision none none none none reason
    outcome := outcome
    reason := if decision = .requestChanges then reason else none
  }
  validateDecisionRecord document "decision"
  pure document

/-- The durable record of an applied envelope. -/
def newDecisionRecord [JsonDigest] (envelope : HumanDecisionEnvelope)
    (decidedAt : Nat) (outcome : RecordedOutcome) : Checks DecisionRecord := do
  envelope.validate
  let provenance ← provenanceRecord envelope.context envelope.receivedAt
    .decision envelope.decisionId envelope.missionId envelope.revision
  let replacement ← envelope.replacementDigest
  let digest ← envelope.digest
  let document : DecisionRecord := {
    decisionId := envelope.decisionId
    missionId := envelope.missionId
    revision := envelope.revision
    decision := envelope.decision
    approvedActionScope := envelope.normalizedActions
    approvedDeliveryTargets := envelope.normalizedTargets
    expiresAt := envelope.expiresAt
    proposalDigestSha256 := replacement
    provenance := provenance
    receivedAt := envelope.receivedAt
    decidedAt := decidedAt
    decisionDigestSha256 := digest
    outcome := outcome
    reason := none
  }
  validateDecisionRecord document "decision"
  pure document

end DodgingInfinity.MissionCore
