import DodgingInfinity.MissionCore.State

/-!
# Mission authorizations and the one validation path

An authorization has an immutable authority half, bound by its digest, and a
revocation.  The ledger keeps what happened to it.  The decision history is
the authority of record: everything else must be what replaying it gives.
-/

namespace DodgingInfinity.MissionCore

open Checked

inductive RevocationReason where
  | supersededByEdit
  deriving DecidableEq

structure Revocation where
  revokedAt : Nat
  reason : RevocationReason
  deriving DecidableEq

/-- The half of an authorization that never changes after issuance. -/
structure AuthorityHalf where
  authorizationId : String
  missionId : String
  revision : Nat
  proposalDigestSha256 : String
  humanPrincipal : Provenance
  authorizedActionScope : List ActionScope
  authorizedDeliveryTargets : List DeliveryTarget
  issuedAt : Nat
  expiresAt : Option Nat
  deriving DecidableEq

/-- An authorization record; revocation data is there only when revoked. -/
structure Authorization extends AuthorityHalf where
  revocation : Option Revocation
  authorizationDigestSha256 : String
  deriving DecidableEq

inductive LedgerKind where
  | issued
  | revoked
  | invalidatedByEdit
  | denied
  | expired
  deriving DecidableEq

structure LedgerEntry where
  entryId : String
  kind : LedgerKind
  recordedAt : Nat
  missionId : String
  revision : Nat
  authorizationId : Option String
  decisionId : Option String
  reason : String
  deriving DecidableEq

/-- A minted identifier, the context that asked for it, and what consumed it.
The kinds of reservations are the kinds of references. -/
structure Reservation where
  reservedAt : Nat
  kind : ReferenceKind
  context : ContextFields
  consumedBy : Option String
  deriving DecidableEq

/-- The store document. -/
structure Document where
  missions : Dict String Mission
  authorizations : Dict String Authorization
  authorityLedger : List LedgerEntry
  reservations : Dict String Reservation
  missionState : Dict String StateRecord
  deriving DecidableEq

def defaultDocument : Document where
  missions := .empty
  authorizations := .empty
  authorityLedger := []
  reservations := .empty
  missionState := .empty

def maxLedgerReasonChars : Nat := 256

/-! ## Authorization records -/

def Provenance.toJson (value : Provenance) : Json := .object [
  ("transport", .text value.context.transport),
  ("principal_kind", .text value.context.principalKind.text),
  ("principal_ref", .text value.context.principalRef),
  ("configured_subject", .optional .text value.context.configuredSubject),
  ("received_at", .ofNat value.receivedAt), ("reference_kind", .text value.referenceKind.text),
  ("reference_id", .text value.referenceId), ("mission_id", .text value.missionId),
  ("revision", .ofNat value.revision),
  ("human_identity_proof", .optional .text value.humanIdentityProof),
  ("proof", .text (match value.proof with
    | .transportCredentialOnly => "transport_credential_only"
    | .noneUnauthenticated => "none_unauthenticated"
    | .operatorAttested => "operator_attested_not_independently_verified"))]

/-- The digest over the immutable authority half. -/
def authorizationDigest [JsonDigest] (value : AuthorityHalf) : String :=
  jsonDigest (.object [("authorization_id", .text value.authorizationId),
    ("mission_id", .text value.missionId), ("revision", .ofNat value.revision),
    ("proposal_digest_sha256", .text value.proposalDigestSha256),
    ("human_principal", value.humanPrincipal.toJson), ("authorized_action_scope",
      .listOf (fun scope => .text scope.text) value.authorizedActionScope),
    ("authorized_delivery_targets",
      .listOf (fun target => .text target.text)
        value.authorizedDeliveryTargets), ("issued_at", .ofNat value.issuedAt),
    ("expires_at", .optional .ofNat value.expiresAt)])

def validateAuthorizationRecord [JsonDigest] (value : Authorization)
    (location : String) : Checks Unit := do
  requireId value.authorizationId .authorization (location ++ ".authorization_id")
  requireId value.missionId .mission (location ++ ".mission_id")
  requireAtLeast value.revision 1 (location ++ ".revision")
  requireHex value.proposalDigestSha256 (location ++ ".proposal_digest_sha256") 64
  requireDecisionProvenance value.humanPrincipal true (location ++ ".human_principal")
  failAt (value.humanPrincipal.referenceKind ≠ .decision ∨
    value.humanPrincipal.missionId ≠ value.missionId ∨
    value.humanPrincipal.revision ≠ value.revision) .provenance
    (location ++ ".human_principal")
  requireSorted ActionScope.text value.authorizedActionScope
    (location ++ ".authorized_action_scope") .actionScope false
  requireSorted DeliveryTarget.text value.authorizedDeliveryTargets
    (location ++ ".authorized_delivery_targets") .deliveryTarget true
  failAt (∃ expires ∈ value.expiresAt, expires ≤ value.issuedAt) .badValue
    (location ++ ".expires_at")
  requireHex value.authorizationDigestSha256 (location ++ ".authorization_digest_sha256") 64
  failAt (value.authorizationDigestSha256 ≠
    authorizationDigest value.toAuthorityHalf) .authorizationTampered
    (location ++ ".authorization_digest_sha256")

/-- The one constructor of an authorization: complete, digested, unrevoked. -/
def issueMissionAuthorization [JsonDigest] (half : AuthorityHalf) :
    Checks Authorization := do
  let document : Authorization := {
    half with
    revocation := none
    authorizationDigestSha256 := authorizationDigest half }
  validateAuthorizationRecord document "authorization"
  pure document

/-- Mark the state half revoked; the authority half is untouched. -/
def revoke (authorization : Authorization) (revokedAt : Nat)
    (reason : RevocationReason) : Authorization :=
  { authorization with
    revocation := some { revokedAt := revokedAt, reason := reason } }

/-! ## Ledger entries -/

/-- A DENIED entry names no authorization, every other one names its own. -/
def validateLedgerAuthorization (value : LedgerEntry) (location : String) : Checks Unit :=
  if value.kind = .denied then
    failAt (value.authorizationId ≠ none) .ledger location
  else do
    let authorizationId ← orFailAt value.authorizationId .idGrammar location
    requireId authorizationId .authorization (location ++ ".authorization_id")

/-- Only a revocation and an expiry come without a decision. -/
def validateLedgerDecision (value : LedgerEntry) (location : String) : Checks Unit :=
  match value.decisionId with
  | some decisionId => requireId decisionId .decision (location ++ ".decision_id")
  | none =>
      failAt (value.kind ∈ [LedgerKind.issued, .denied, .invalidatedByEdit]) .ledger location

def validateLedgerEntry (value : LedgerEntry) (location : String) :
    Checks Unit := do
  requireId value.entryId .ledgerEntry (location ++ ".entry_id")
  requireId value.missionId .mission (location ++ ".mission_id")
  requireAtLeast value.revision 1 (location ++ ".revision")
  validateLedgerAuthorization value location
  validateLedgerDecision value location
  requireStr value.reason (location ++ ".reason") maxLedgerReasonChars false

def newLedgerEntry (entry : LedgerEntry) : Checks LedgerEntry := do
  validateLedgerEntry entry "ledger entry"
  pure entry

/-! ## Replay of the decision history -/

def reservationAgrees (document : Document) (reservedId : String)
    (kind : ReferenceKind) (consumedBy : String) (provenance : Provenance) :
    Checks Unit := do
  let reservation ← orFail (document.reservations.get? reservedId)
    .historyInconsistent
  failIf (reservation.kind ≠ kind) .historyInconsistent
  failIf (reservation.consumedBy ≠ some consumedBy) .historyInconsistent
  failIf (reservation.context ≠ provenance.context) .historyInconsistent

/-- The part of a ledger entry that the decision history determines. -/
structure LedgerFact where
  kind : LedgerKind
  authorizationId : Option String
  decisionId : Option String
  revision : Nat
  recordedAt : Nat
  deriving DecidableEq

def LedgerEntry.fact (entry : LedgerEntry) : LedgerFact where
  kind := entry.kind
  authorizationId := entry.authorizationId
  decisionId := entry.decisionId
  revision := entry.revision
  recordedAt := entry.recordedAt

/-- The ledger of one Mission, in order. -/
def missionLedger (ledger : List LedgerEntry) (missionId : String) : List LedgerEntry :=
  ledger.filter fun entry => entry.missionId = missionId

/-- Where a replay of the decision history stands. -/
structure Replay where
  state : MissionState
  revision : Nat
  issuedIds : List String
  /-- The unrevoked authorizations, each with the revision it binds. -/
  live : Dict String Nat
  /-- The edit that revoked each revoked authorization. -/
  revokedBy : Dict String DecisionRecord
  /-- The authorizations already recorded as expired. -/
  expired : List String
  expectedLedger : List LedgerFact

def initialReplay : Replay where
  state := .awaitingDecision
  revision := 1
  issuedIds := []
  live := .empty
  revokedBy := .empty
  expired := []
  expectedLedger := []

/-- Expiry is noted at a decision, once, for an authorization still live. -/
def noteExpired (authorizations : Dict String Authorization) (decidedAt : Nat)
    (replay : Replay) (authorizationId : String) : Checks Replay := do
  let authorization ← orFail (authorizations.get? authorizationId) .uncaught
  if (∃ expires ∈ authorization.expiresAt, expires ≤ decidedAt) ∧
      authorizationId ∉ replay.expired then
    pure { replay with
      expired := replay.expired ++ [authorizationId]
      expectedLedger := replay.expectedLedger ++ [{
        kind := .expired
        authorizationId := some authorizationId
        decisionId := none
        revision := authorization.revision
        recordedAt := decidedAt }] }
  else pure replay

/-- Field-for-field agreement of an authorization with its approving decision
and the revision it approved. -/
def authorizationAgrees (authorization : AuthorityHalf)
    (decision : DecisionRecord) (entry : RevisionEntry) (missionId : String) :
    Checks Unit := do
  failIf (authorization.missionId ≠ missionId) .decisionMismatch
  failIf (authorization.revision ≠ decision.revision) .decisionMismatch
  failIf (authorization.proposalDigestSha256 ≠ entry.proposalDigestSha256) .decisionMismatch
  failIf (some authorization.authorizedActionScope ≠ decision.approvedActionScope) .decisionMismatch
  failIf (some authorization.authorizedDeliveryTargets ≠
    decision.approvedDeliveryTargets) .decisionMismatch
  failIf (authorization.expiresAt ≠ decision.expiresAt) .decisionMismatch
  failIf (authorization.humanPrincipal ≠ decision.provenance) .decisionMismatch
  failIf (authorization.issuedAt ≠ decision.decidedAt) .decisionMismatch

/-- The approved scope is inside what the revision requested. -/
def requireRequested (decision : DecisionRecord) (requested : Proposal) :
    Checks Unit := do
  let actions ← orFail decision.approvedActionScope .uncaught
  let targets ← orFail decision.approvedDeliveryTargets .uncaught
  failIf (¬ actions ⊆ requested.requestedActionScope ∨
    ¬ targets ⊆ requested.requestedDeliveryTarget.toList) .historyInconsistent

def replayApprove (document : Document) (mission : Mission) (replay : Replay)
    (decision : DecisionRecord) : Checks Replay := do
  failIf (replay.state ≠ .awaitingDecision) .historyInconsistent
  let authorizationId ← orFail decision.outcome.authorizationId
    .historyInconsistent
  let authorization ← orFail (document.authorizations.get? authorizationId)
    .historyInconsistent
  failIf (authorizationId ∈ replay.issuedIds) .historyInconsistent
  let entry ← orFail mission.revisions[replay.revision - 1]? .uncaught
  requireRequested decision entry.proposal
  authorizationAgrees authorization.toAuthorityHalf decision entry mission.missionId
  pure { replay with
    state := .authorized
    issuedIds := replay.issuedIds ++ [authorizationId]
    live := replay.live.set authorizationId replay.revision
    expectedLedger := replay.expectedLedger ++ [{
      kind := .issued
      authorizationId := some authorizationId
      decisionId := some decision.decisionId
      revision := replay.revision
      recordedAt := decision.decidedAt }] }

def replayDeny (replay : Replay) (decision : DecisionRecord) :
    Checks Replay := do
  failIf (replay.state ≠ .awaitingDecision) .historyInconsistent
  failIf (decision.outcome.authorizationId ≠ none) .historyInconsistent
  pure { replay with
    state := .denied
    expectedLedger := replay.expectedLedger ++ [{
      kind := .denied
      authorizationId := none
      decisionId := some decision.decisionId
      revision := replay.revision
      recordedAt := decision.decidedAt }] }

/-- A rejection or a change request: neither records authority. -/
def replayAttested (replay : Replay) (decision : DecisionRecord)
    (target : MissionState) : Checks Replay := do
  failIf (replay.state ≠ .awaitingDecision) .historyInconsistent
  failIf (decision.outcome.authorizationId ≠ none) .historyInconsistent
  pure { replay with state := target }

/-- Revoke one authorization of the superseded revision. -/
def replayInvalidation (decision : DecisionRecord) (superseded : Nat)
    (replay : Replay) (authorizationId : String) : Replay :=
  { replay with
    live := replay.live.erase authorizationId
    revokedBy := replay.revokedBy.set authorizationId decision
    expectedLedger := replay.expectedLedger ++ [{
      kind := .invalidatedByEdit
      authorizationId := some authorizationId
      decisionId := some decision.decisionId
      revision := superseded
      recordedAt := decision.decidedAt }] }

/-- The live authorizations of a revision, sorted. -/
def liveAt (replay : Replay) (revision : Nat) : List String :=
  sortedBy id ((replay.live.entries.filter fun entry =>
    entry.2 = revision).map Prod.fst)

def replayEdit (mission : Mission) (replay : Replay)
    (decision : DecisionRecord) : Checks Replay := do
  let superseded := replay.revision
  let revoked := (liveAt replay superseded).foldl
    (replayInvalidation decision superseded) replay
  let revision := superseded + 1
  let entry ← orFail mission.revisions[revision - 1]? .historyInconsistent
  failIf (entry.provenance.referenceId ≠ decision.decisionId) .historyInconsistent
  let context ← provenanceContext decision.provenance
  let expected ← provenanceRecord context decision.receivedAt .decision
    decision.decisionId mission.missionId revision
  failIf (entry.provenance ≠ expected) .historyInconsistent
  failIf (some entry.proposalDigestSha256 ≠ decision.proposalDigestSha256) .historyInconsistent
  failIf (entry.createdAt ≠ decision.decidedAt) .historyInconsistent
  failIf (decision.outcome.authorizationId ≠ none) .historyInconsistent
  pure { revoked with state := .awaitingDecision, revision := revision }

/-- One kind of decision, with the authorizations it invalidates. -/
def replayKind (document : Document) (mission : Mission) (replay : Replay)
    (decision : DecisionRecord) : Checks (Replay × List String) :=
  match decision.decision with
  | .approve => do
      let next ← replayApprove document mission replay decision
      pure (next, [])
  | .deny => do
      let next ← replayDeny replay decision
      pure (next, [])
  | .reject => do
      let next ← replayAttested replay decision .rejected
      pure (next, [])
  | .requestChanges => do
      let next ← replayAttested replay decision .changesRequested
      pure (next, [])
  | .edit => do
      let next ← replayEdit mission replay decision
      pure (next, liveAt replay replay.revision)

def replayDecision (document : Document) (mission : Mission) (replay : Replay)
    (decision : DecisionRecord) : Checks Replay := do
  reservationAgrees document decision.decisionId .decision decision.decisionId decision.provenance
  failIf (replay.state = .rejected) .historyInconsistent
  failIf (decision.revision ≠ replay.revision) .historyInconsistent
  let noted ← foldChecked (noteExpired document.authorizations
    decision.decidedAt) replay (sortedBy id replay.live.keys)
  let (next, invalidated) ← replayKind document mission noted decision
  failIf (decision.outcome.resultingState ≠ next.state ∨
    decision.outcome.resultingRevision ≠ next.revision ∨
    sortedBy id decision.outcome.invalidatedAuthorizationIds ≠ invalidated)
    .historyInconsistent
  let entry ← orFail mission.revisions[next.revision - 1]? .uncaught
  failIf (decision.outcome.proposalDigestSha256 ≠ entry.proposalDigestSha256) .historyInconsistent
  pure next

def replayHistory (document : Document) (mission : Mission) : Checks Replay :=
  foldChecked (replayDecision document mission) initialReplay mission.decisions

/-- A run binds the authorization issued last, unrevoked, with its scope. -/
def requireIntentBinding (document : Document) (replay : Replay)
    (intent : RunIntent) : Checks Unit := do
  failIf (replay.issuedIds.getLast? ≠ some intent.authorizationId) .historyInconsistent
  failIf (intent.revision ≠ replay.revision) .historyInconsistent
  failIf (replay.revokedBy.contains intent.authorizationId) .historyInconsistent
  let authorization ← orFail (document.authorizations.get?
    intent.authorizationId) .uncaught
  failIf (intent.approvedActionScope ≠ authorization.authorizedActionScope) .historyInconsistent
  failIf (intent.approvedDeliveryTargets ≠
    authorization.authorizedDeliveryTargets) .historyInconsistent

/-- The state the history and then the run's chain leave. -/
def replayedState (mission : Mission) (replay : Replay) : MissionState :=
  match mission.lifecycleEvents.getLast? with
  | some event => event.toState
  | none => replay.state

/-- The revocation an issued authorization must carry. -/
def requireRevocation (document : Document) (replay : Replay)
    (authorizationId : String) : Checks Unit := do
  let authorization ← orFail (document.authorizations.get? authorizationId)
    .uncaught
  failIf (authorization.revocation ≠ (replay.revokedBy.get? authorizationId).map fun editor =>
      { revokedAt := editor.decidedAt, reason := .supersededByEdit })
    .ledgerInconsistent

def requireLedger (document : Document) (mission : Mission) (replay : Replay) :
    Checks Unit := do
  let entries := missionLedger document.authorityLedger mission.missionId
  failIf (∃ entry ∈ entries, entry.kind = .revoked) .ledgerInconsistent
  failIf (entries.map LedgerEntry.fact ≠ replay.expectedLedger) .ledgerInconsistent

/-- Everything the stored Mission must agree with the replay on. -/
def requireReplayed (document : Document) (mission : Mission)
    (replay : Replay) : Checks Unit := do
  failIf (mission.run ≠ none ∧ replay.state ≠ .authorized) .historyInconsistent
  checkPresent mission.runIntent (requireIntentBinding document replay)
  failIf (replayedState mission replay ≠ mission.state) .historyInconsistent
  failIf (replay.revision ≠ mission.currentRevision ∨
    replay.revision ≠ mission.revisions.length) .historyInconsistent
  failIf (mission.authorizationIds ≠ replay.issuedIds) .historyInconsistent
  checkAll (requireRevocation document replay) replay.issuedIds
  requireLedger document mission replay

/-- Replay one Mission's decisions and require that everything stored is what
they produce.  Success is the source's `None`. -/
def reconcileMissionHistory (document : Document) (mission : Mission) :
    Checks Unit := do
  let first ← mission.firstRevision
  reservationAgrees document mission.requestId .request mission.missionId first.provenance
  let replay ← replayHistory document mission
  requireReplayed document mission replay

/-- A consumed reservation names what consumed it. -/
def reservationConsumed (document : Document) (entry : String × Reservation) : Checks Unit :=
  match entry.2.consumedBy with
  | none => .ok ()
  | some consumedBy =>
      match entry.2.kind with
      | .request =>
          failIf ((document.missions.entries.find? fun held =>
            held.2.requestId = entry.1).map Prod.fst ≠ some consumedBy)
            .historyInconsistent
      | .stateOperation =>
          failIf (consumedBy ≠ entry.1 ∨ (document.missionState.values.flatMap fun state =>
              state.appliedOperations.map AppliedOperation.operationId).count
              entry.1 ≠ 1) .historyInconsistent
      | .decision =>
          failIf (consumedBy ≠ entry.1 ∨ entry.1 ∉ document.missions.values.flatMap fun mission =>
              mission.decisions.map DecisionRecord.decisionId)
            .historyInconsistent

/-- Registry-wide identity: every request and decision id names one record,
and every consumed reservation names what consumed it. -/
def reconcileRegistry (document : Document) : Checks Unit := do
  failIf (¬ (document.missions.values.map Mission.requestId).Nodup) .historyInconsistent
  failIf (¬ (document.missions.values.flatMap fun mission =>
    mission.decisions.map DecisionRecord.decisionId).Nodup)
    .historyInconsistent
  checkAll (reservationConsumed document) document.reservations.entries

/-! ## The one validation path -/

/-- What a check projects of the authorization it resolved. -/
structure AuthorityProjection where
  authorizationId : String
  missionId : String
  revision : Nat
  proposalDigestSha256 : String
  authorizedActionScope : List ActionScope
  authorizedDeliveryTargets : List DeliveryTarget
  deriving DecidableEq

structure AuthorityCheck where
  valid : Bool
  problem : Option Problem
  projection : Option AuthorityProjection
  deriving DecidableEq

def projectAuthority (value : AuthorityHalf) : AuthorityProjection where
  authorizationId := value.authorizationId
  missionId := value.missionId
  revision := value.revision
  proposalDigestSha256 := value.proposalDigestSha256
  authorizedActionScope := value.authorizedActionScope
  authorizedDeliveryTargets := value.authorizedDeliveryTargets

/-- A refused check: its problem, and the record it resolved, if any. -/
abbrev AuthorityRefusal := Problem × Option Authorization

/-- Read the refusal of a record check as one of the validation path. -/
def refuseAs {α : Type} (checks : Checks α)
    (translate : Problem → AuthorityRefusal) : Except AuthorityRefusal α :=
  match checks with
  | .ok value => .ok value
  | .error refusal => .error (translate refusal.problem)

@[simp] theorem refuseAs_eq_ok {α : Type} (checks : Checks α)
    (translate : Problem → AuthorityRefusal) (value : α) :
    refuseAs checks translate = .ok value ↔ checks = .ok value := by
  cases checks <;> simp [refuseAs]

/-- A tampered digest and an unauthenticated principal keep their own codes. -/
def recordRefusal (problem : Problem) : AuthorityRefusal :=
  if problem = .authorizationTampered ∨ problem = .unauthenticatedPrincipal then
    (problem, none)
  else (.malformedState, none)

/-- Resolve the Mission and the authorization a use names. -/
def resolveAuthority [JsonDigest] (document : Document) (authorizationId missionId : String) :
    Except AuthorityRefusal (Mission × Authorization) := do
  Checked.failIf (idProblem missionId .mission ≠ none) (.unknownMission, none)
  let mission ← Checked.orFail (document.missions.get? missionId)
    (.unknownMission, none)
  refuseAs (validateMissionRecord mission "mission") fun _ => (.malformedState, none)
  Checked.failIf (idProblem authorizationId .authorization ≠ none) (.unknownAuthorization, none)
  let authorization ← Checked.orFail
    (document.authorizations.get? authorizationId)
    (.unknownAuthorization, none)
  refuseAs (validateAuthorizationRecord authorization "authorization") recordRefusal
  pure (mission, authorization)

/-- The checks of a use against the resolved records, in the source's order. -/
def checkAuthorizationUse [JsonDigest] (document : Document)
    (authorizationId missionId : String) (revision now : Int)
    (requiredActions : List String) (requiredDeliveryTarget : Option String)
    (expectedProposalDigest : Option String) :
    Except AuthorityRefusal Authorization := do
  let (mission, authorization) ← resolveAuthority document authorizationId
    missionId
  let refusal (problem : Problem) : AuthorityRefusal :=
    (problem, some authorization)
  Checked.failIf (authorization.missionId ≠ missionId) (refusal .wrongMission)
  Checked.failIf (authorizationId ∉ mission.authorizationIds) (refusal .ledgerInconsistent)
  refuseAs (reconcileRegistry document) refusal
  refuseAs (reconcileMissionHistory document mission) refusal
  Checked.failIf (authorization.revocation ≠ none) (refusal .revoked)
  Checked.failIf ((authorization.revision : Int) ≠ revision) (refusal .wrongRevision)
  Checked.failIf ((mission.currentRevision : Int) ≠ revision) (refusal .wrongRevision)
  Checked.failIf ((mission.revisionEntry revision).map RevisionEntry.proposalDigestSha256 ≠
    some authorization.proposalDigestSha256) (refusal .wrongManifestDigest)
  Checked.failIf (∃ expected ∈ expectedProposalDigest,
    expected ≠ authorization.proposalDigestSha256)
    (refusal .wrongManifestDigest)
  Checked.failIf (mission.state = .denied) (refusal .denied)
  Checked.failIf (mission.state ≠ .authorized) (refusal .notAuthorized)
  Checked.failIf (∃ expires ∈ authorization.expiresAt, now ≥ (expires : Int)) (refusal .expired)
  Checked.failIf (∃ action ∈ requiredActions,
    action ∉ authorization.authorizedActionScope.map ActionScope.text)
    (refusal .actionOutsideScope)
  Checked.failIf (∃ target ∈ requiredDeliveryTarget,
    target ∉ authorization.authorizedDeliveryTargets.map DeliveryTarget.text)
    (refusal .targetOutsideScope)
  pure authorization

/-- Does the authorization permit the named use of the Mission right now?
Fails closed. -/
def validateAuthorizationUse [JsonDigest] (document : Document)
    (authorizationId missionId : String) (revision now : Int)
    (requiredActions : List String) (requiredDeliveryTarget : Option String)
    (expectedProposalDigest : Option String) : AuthorityCheck :=
  match checkAuthorizationUse document authorizationId missionId revision now
    requiredActions requiredDeliveryTarget expectedProposalDigest with
  | .ok authorization =>
      { valid := true
        problem := none
        projection := some (projectAuthority authorization.toAuthorityHalf) }
  | .error (problem, authorization) =>
      { valid := false
        problem := some problem
        projection := authorization.map fun held =>
          projectAuthority held.toAuthorityHalf }

/-- The narrowly scoped answer of the delivery parent: a run that consumed
exactly this authorization still answers whether its scope names the target. -/
def validateDeliveryParentUse [JsonDigest] (document : Document)
    (authorizationId missionId : String) (revision now : Int)
    (deliveryTarget : String) : AuthorityCheck :=
  let check := validateAuthorizationUse document authorizationId missionId
    revision now [] (some deliveryTarget) none
  if check.problem ≠ some .notAuthorized then check
  else
    match document.missions.get? missionId,
        document.authorizations.get? authorizationId with
    | some mission, some authorization =>
        if (mission.state ≠ .running ∧ mission.state ≠ .completed) ∨
            ¬ (∃ intent ∈ mission.runIntent, intent.authorizationId = authorizationId ∧
              (intent.revision : Int) = revision) then check
        else if deliveryTarget ∉
            authorization.authorizedDeliveryTargets.map DeliveryTarget.text then
          { valid := false
            problem := some .targetOutsideScope
            projection := some (projectAuthority authorization.toAuthorityHalf) }
        else
          { valid := true
            problem := none
            projection := some (projectAuthority authorization.toAuthorityHalf) }
    | _, _ => check

/-- The authorization whose authority digest is the presented 64 characters. -/
def findAuthorizationByDigest (document : Document) (digest : String) : Option Authorization :=
  if digest.toList.length ≠ 64 then none
  else document.authorizations.values.find? fun authorization =>
    authorization.authorizationDigestSha256 = digest

end DodgingInfinity.MissionCore
