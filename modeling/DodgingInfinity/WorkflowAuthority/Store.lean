import DodgingInfinity.Library.Dict
import DodgingInfinity.WorkflowAuthority.Authority

/-!
# Workflow records

The durable record of one workflow: the authority that was approved, and the
mutable state of its lifecycle.  The last check renders the authorization again
from the record's own fields and requires the stored text, so that no rendered
field can be altered apart from it.
-/

namespace DodgingInfinity.WorkflowAuthority

open Checked

/-! ## Lifecycle -/

inductive Phase where
  | planned
  | authorized
  | workspaceReady
  | prepared
  | validated
  | dispatched
  | verified
  | completed
  | blocked
  | needsReauthorization
  deriving DecidableEq

/-- A terminal phase has no way out. -/
def terminalPhases : List Phase := [.completed, .blocked]

inductive Decision where
  | approve
  | reject
  deriving DecidableEq

structure Approval where
  nonce : String
  createdAt : Nat
  expiresAt : Nat
  consumedAt : Option Nat
  consumedByUpdateId : Option Nat
  decision : Option Decision
  superseded : Bool
  deriving DecidableEq

structure WorkspaceLease where
  leaseId : String
  pathRealpath : String
  acquiredAt : Nat
  releasedAt : Option Nat
  deriving DecidableEq

inductive ReceiptKind where
  | preparation
  | evidence
  deriving DecidableEq

structure Receipt where
  kind : ReceiptKind
  turnId : String
  recordedAt : Nat
  digest : String
  boundedSummary : String
  deriving DecidableEq

inductive TurnRole where
  | planning
  | prepare
  | handoffValidation
  | statusRecovery
  | verification
  | followUp
  deriving DecidableEq

structure CodexTurn where
  turnId : String
  role : TurnRole
  processId : Nat
  recordedAt : Nat
  deriving DecidableEq

inductive AmbiguityState where
  | none
  | crashUncertain
  deriving DecidableEq

structure Ambiguity where
  state : AmbiguityState
  detail : Option String
  deriving DecidableEq

structure TargetEngine where
  aliasName : String
  taskId : String
  repo : String
  dispatchedAt : Nat
  deriving DecidableEq

structure VerifiedResult where
  summary : String
  digest : String
  recordedAt : Nat
  deriving DecidableEq

structure LastObservation where
  taskStatus : Option String
  completeness : Option String
  observedAt : Nat
  deriving DecidableEq

inductive PlaceholderState where
  | required
  | sending
  | bound
  | failedUnsent
  | indefinite
  | unbindable
  deriving DecidableEq

structure ResultPlaceholder where
  state : PlaceholderState
  chatId : Nat
  messageId : Option Nat
  requestedAt : Nat
  sentAt : Option Nat
  boundAt : Option Nat
  textDigest : Option String
  deriving DecidableEq

inductive DeliveryState where
  | reserved
  | delivered
  | partialDelivery
  | editPending
  | deliveredByEdit
  | degradedUnbindable
  | degradedUnrenderable
  | editIndefinite
  deriving DecidableEq

def deliveryEditStates : List DeliveryState :=
  [.editPending, .deliveredByEdit, .degradedUnbindable, .degradedUnrenderable, .editIndefinite]

structure ResultDelivery where
  state : DeliveryState
  reservedAt : Nat
  telegramMessageId : Option Nat
  verifiedResultDigest : Option String
  renderedDigest : Option String
  editedMessageId : Option Nat
  attemptedAt : Option Nat
  settledAt : Option Nat
  problem : Option String
  deriving DecidableEq

structure WorkflowRecord where
  workflowId : String
  humanIntent : String
  controlIdentity : ControlIdentity
  target : Target
  approvedBaseline : ApprovedBaseline
  missionAuthorization : MissionAuthorization
  origin : Option Origin
  telegram : Option Telegram
  approval : Approval
  handoff : Handoff
  phase : Phase
  workspaceLease : Option WorkspaceLease
  receipts : List Receipt
  codexTurns : List CodexTurn
  ambiguity : Ambiguity
  targetEngine : Option TargetEngine
  verifiedResult : Option VerifiedResult
  resultPlaceholder : Option ResultPlaceholder
  resultDelivery : Option ResultDelivery
  lastObservation : Option LastObservation
  deliveryAuthority : String
  deriving DecidableEq

/-! ## Checks of the state -/

/-- A relay-origin record has no Telegram binding, and a Telegram one has one. -/
def validateTransportBinding (document : WorkflowRecord) (location : String) :
    Checks Unit := do
  failAt (document.origin = none ∧ document.telegram = none) .telegramRequired location
  failAt (document.origin ≠ none ∧ document.telegram ≠ none) .originTelegramConflict location

/-- A relay-origin record carries no Telegram identity anywhere. -/
def validateRelayOriginNulls (document : WorkflowRecord) (location : String) :
    Checks Unit := do
  failAt (document.approval.consumedByUpdateId ≠ none) .originUpdateId
    (location ++ ".approval.consumed_by_update_id")
  failAt (document.resultPlaceholder ≠ none) .originPlaceholder (location ++ ".result_placeholder")
  failAt (document.resultDelivery ≠ none) .originResultDelivery (location ++ ".result_delivery")

def validateApproval (value : Approval) (location : String) : Checks Unit :=
  requireText value.nonce (location ++ ".nonce") maxIdChars

def validateWorkspaceLease (value : WorkspaceLease) (location : String) :
    Checks Unit := do
  requireText value.leaseId (location ++ ".lease_id") maxIdChars
  requireRealpath value.pathRealpath (location ++ ".path_realpath")

def validateReceipt (value : Receipt) (location : String) : Checks Unit := do
  requireText value.turnId (location ++ ".turn_id") maxIdChars
  requireHex value.digest (location ++ ".digest") 64
  requireBounded value.boundedSummary (location ++ ".bounded_summary") maxBoundedSummaryChars

def validateReceipts (value : List Receipt) (location : String) : Checks Unit := do
  failAt (value.length > maxReceipts) .tooLarge location
  checkEach validateReceipt value location

def validateCodexTurn (value : CodexTurn) (location : String) : Checks Unit := do
  requireText value.turnId (location ++ ".turn_id") maxIdChars
  requireAtLeastOne value.processId (location ++ ".process_id")

def validateCodexTurns (value : List CodexTurn) (location : String) :
    Checks Unit := do
  failAt (value.length > maxCodexTurns) .tooLarge location
  checkEach validateCodexTurn value location

def validateAmbiguity (value : Ambiguity) (location : String) : Checks Unit :=
  checkOptional (requireText · (location ++ ".detail") maxAmbiguityDetailChars) value.detail

def validateTargetEngine (value : TargetEngine) (location : String) :
    Checks Unit := do
  requireText value.aliasName (location ++ ".alias") maxIdChars
  requireText value.taskId (location ++ ".task_id") maxIdChars
  requireText value.repo (location ++ ".repo") maxIdChars

def validateLastObservation (value : LastObservation) (location : String) :
    Checks Unit := do
  checkOptional (requireText · (location ++ ".task_status") maxIdChars) value.taskStatus
  checkOptional (requireText · (location ++ ".completeness") maxIdChars) value.completeness

/-! ## The placeholder and the delivery -/

/-- The fields of a placeholder that its state has: the message and the time it was
bound, and the time and the digest of what was sent. -/
def placeholderBindsMessage : PlaceholderState → Bool
  | .bound | .unbindable => true
  | .required | .sending | .failedUnsent | .indefinite => false

def placeholderWasSent : PlaceholderState → Bool
  | .required => false
  | .sending | .bound | .failedUnsent | .indefinite | .unbindable => true

/-- A field is present exactly as its state has it, and then passes its check. -/
def requirePresence {α : Type} (value : Option α) (expected : Bool)
    (problem : Problem) (location : String) (check : α → String → Checks Unit) :
    Checks Unit := do
  failAt (value.isSome ≠ expected) problem location
  checkOptional (check · location) value

/-- A time carries no further check. -/
def anyTime (_ : Nat) (_ : String) : Checks Unit := .ok ()

def validateResultPlaceholder (value : ResultPlaceholder) (location : String)
    (telegramChatId : Option Nat) : Checks Unit := do
  requireAtLeastOne value.chatId (location ++ ".chat_id")
  failAt (some value.chatId ≠ telegramChatId) .placeholderChatMismatch (location ++ ".chat_id")
  requirePresence value.messageId (placeholderBindsMessage value.state)
    .placeholderMessageId (location ++ ".message_id") requireAtLeastOne
  requirePresence value.sentAt (placeholderWasSent value.state) .placeholderSentAt
    (location ++ ".sent_at") anyTime
  requirePresence value.boundAt (placeholderBindsMessage value.state)
    .placeholderBoundAt (location ++ ".bound_at") anyTime
  requirePresence value.textDigest (placeholderWasSent value.state)
    .placeholderTextDigest (location ++ ".text_digest") (requireHex · · 64)

/-- A receipt of the edit lane has its settling time but while it is pending. -/
def deliverySettled (state : DeliveryState) : Bool :=
  state ∈ deliveryEditStates && state ≠ .editPending

def deliveryDegraded (state : DeliveryState) : Bool :=
  deliverySettled state && state ≠ .deliveredByEdit

def validateDeliveryFields (value : ResultDelivery) (location : String) :
    Checks Unit := do
  requirePresence value.verifiedResultDigest (value.state ∈ deliveryEditStates)
    .deliveryStateFields (location ++ ".verified_result_digest") (requireHex · · 64)
  requirePresence value.renderedDigest (value.state ∈ deliveryEditStates)
    .deliveryStateFields (location ++ ".rendered_digest") (requireHex · · 64)
  requirePresence value.editedMessageId (value.state = .deliveredByEdit)
    .deliveryStateFields (location ++ ".edited_message_id") requireAtLeastOne
  requirePresence value.attemptedAt (value.state ∈ deliveryEditStates)
    .deliveryStateFields (location ++ ".attempted_at") anyTime
  requirePresence value.settledAt (deliverySettled value.state)
    .deliveryStateFields (location ++ ".settled_at") anyTime
  requirePresence value.problem (deliveryDegraded value.state)
    .deliveryStateFields (location ++ ".problem")
    (requireText · · maxBoundedSummaryChars)

/-- A delivered marker carries its message id, and no other one does. -/
def requireDeliveredMessage (value : ResultDelivery) (location : String) : Checks Unit :=
  if value.state = .delivered then do
    let messageId ← orFail value.telegramMessageId ⟨.badType, location⟩
    requireAtLeastOne messageId location
  else failAt (value.telegramMessageId ≠ none) .badValue location

def validateResultDelivery (value : ResultDelivery) (location : String) :
    Checks Unit := do
  requireDeliveredMessage value (location ++ ".telegram_message_id")
  validateDeliveryFields value location

/-- A receipt of the edit lane is true of the record it sits in. -/
def validateEditRelations (document : WorkflowRecord) (location : String)
    (delivery : ResultDelivery) : Checks Unit := do
  failAt (document.phase ≠ .completed) .deliveryBinding location
  failAt (document.verifiedResult = none) .deliveryBinding location
  failAt (document.resultPlaceholder.map ResultPlaceholder.state ≠ some .bound)
    .deliveryBinding location
  failAt (delivery.state = .deliveredByEdit ∧ delivery.editedMessageId ≠
    document.resultPlaceholder.bind ResultPlaceholder.messageId) .deliveryBinding
    (location ++ ".result_delivery.edited_message_id")

def validateDeliveryRelations (document : WorkflowRecord) (location : String) : Checks Unit :=
  checkOptional (fun delivery : ResultDelivery =>
    if delivery.state ∈ deliveryEditStates then
      validateEditRelations document location delivery
    else .ok ()) document.resultDelivery

/-! ## The record -/

def deliveryAuthorityNone : String := "none"

/-- The values that a record's authorization renders. -/
def WorkflowRecord.rendered (document : WorkflowRecord) : Rendered where
  workflowId := document.workflowId
  revision := document.missionAuthorization.revision
  controlRealpath := document.controlIdentity.repositoryRealpath
  policyDigest := document.controlIdentity.policyDigestSha256
  canonicalUrl := document.target.canonicalUrl
  issueOrPr := document.target.issueOrPr
  baselineRef := document.approvedBaseline.ref
  baselineSha := document.approvedBaseline.commitSha
  origin := document.origin
  telegram := document.telegram
  humanIntent := document.humanIntent
  authorityContent := document.missionAuthorization.content
  handoffRevision := document.handoff.revision
  handoffText := document.handoff.text

section

variable [TextDigest]

def validateVerifiedResult (value : VerifiedResult) (location : String) :
    Checks Unit := do
  requireBounded value.summary (location ++ ".summary") maxVerifiedSummaryChars
  requireHex value.digest (location ++ ".digest") 64
  failAt (textDigest value.summary ≠ value.digest) .digestMismatch (location ++ ".digest")

/-- The fields that the authorization binds, and who approved it. -/
def validateAuthority (document : WorkflowRecord) (location : String) :
    Checks Unit := do
  requireWorkflowId document.workflowId (location ++ ".workflow_id")
  requireText document.humanIntent (location ++ ".human_intent") maxHumanIntentChars
  validateControlIdentity document.controlIdentity (location ++ ".control_identity")
  validateTarget document.target (location ++ ".target")
  validateApprovedBaseline document.approvedBaseline (location ++ ".approved_baseline")
  validateMissionAuthorization document.missionAuthorization (location ++ ".mission_authorization")
  checkOptional (validateOrigin · (location ++ ".origin")) document.origin
  validateTransportBinding document location
  checkOptional (validateTelegram · (location ++ ".telegram")) document.telegram
  validateApproval document.approval (location ++ ".approval")
  checkOptional (fun _ : Origin => validateRelayOriginNulls document location) document.origin
  validateHandoff document.handoff (location ++ ".handoff")

/-- The state that the authorization does not bind. -/
def validateState (document : WorkflowRecord) (location : String) :
    Checks Unit := do
  checkOptional (validateWorkspaceLease · (location ++ ".workspace_lease")) document.workspaceLease
  validateReceipts document.receipts (location ++ ".receipts")
  validateCodexTurns document.codexTurns (location ++ ".codex_turns")
  validateAmbiguity document.ambiguity (location ++ ".ambiguity")
  checkOptional (validateTargetEngine · (location ++ ".target_engine")) document.targetEngine
  checkOptional (validateVerifiedResult · (location ++ ".verified_result")) document.verifiedResult
  checkOptional (validateResultPlaceholder · (location ++ ".result_placeholder")
    (document.telegram.map Telegram.chatId)) document.resultPlaceholder
  checkOptional (validateResultDelivery · (location ++ ".result_delivery")) document.resultDelivery
  validateDeliveryRelations document location
  checkOptional (validateLastObservation · (location ++ ".last_observation"))
    document.lastObservation

def validateRecord (document : WorkflowRecord) (location : String) :
    Checks Unit := do
  validateAuthority document location
  validateState document location
  failAt (document.deliveryAuthority ≠ deliveryAuthorityNone) .deliveryAuthority
    (location ++ ".delivery_authority")
  failAt (document.rendered.renderAuthorizationText ≠
    some document.missionAuthorization.renderedText) .renderBinding
    (location ++ ".mission_authorization.rendered_text")

end

end DodgingInfinity.WorkflowAuthority

/-!
## The workflow store

One document holds the records of all workflows.  Every record is checked on every
load and on every save, so a document that cannot be saved leaves the one on file
as it was.
-/

namespace DodgingInfinity.WorkflowAuthority

open Checked

/-- The records of the store, by workflow id. -/
abbrev Workflows := Dict String WorkflowRecord

def maxWorkflowRecords : Nat := 64

inductive StoreProblem where
  | unreadable
  | tooManyRecords
  | record (refusal : Refusal)
  | keyMismatch (workflowId : String)
  deriving DecidableEq

section

variable [TextDigest]

/-- The check of one entry: its record, and the key it is held under. -/
def validateEntry (entry : String × WorkflowRecord) : Except StoreProblem Unit :=
  match validateRecord entry.2 ("workflow store record " ++ entry.1) with
  | .error refusal => .error (.record refusal)
  | .ok () => failIf (entry.2.workflowId ≠ entry.1) (.keyMismatch entry.1)

def validateDocument (document : Workflows) : Except StoreProblem Unit := do
  failIf (document.entries.length > maxWorkflowRecords) .tooManyRecords
  checkAll validateEntry document.entries

/-! ## Documents that pass -/

/-- A record that passes under its key. -/
def Sound (workflowId : String) (record : WorkflowRecord) : Prop :=
  validateEntry (workflowId, record) = .ok ()

theorem sound_iff {workflowId : String} {record : WorkflowRecord} : Sound workflowId record ↔
      validateRecord record ("workflow store record " ++ workflowId) = .ok () ∧
        record.workflowId = workflowId := by
  unfold Sound validateEntry
  split
  · rename_i refusal hrefused
    constructor
    · intro h
      cases h
    · rintro ⟨hrecord, -⟩
      rw [hrefused] at hrecord
      cases hrecord
  · rename_i hrecord
    simp only [failIf_eq_ok, not_not, ne_eq]
    exact ⟨fun h => ⟨hrecord, h⟩, fun h => h.2⟩

theorem validateDocument_eq_ok {document : Workflows} {passed : Unit} :
    validateDocument document = .ok passed ↔ document.entries.length ≤ maxWorkflowRecords ∧
        ∀ workflowId record, document.get? workflowId = some record →
          Sound workflowId record := by
  simp only [validateDocument, bind_eq_ok, exists_passed, failIf_eq_ok, checkAll_eq_ok,
    Nat.not_lt, gt_iff_lt]
  constructor
  · rintro ⟨hbound, hentries⟩
    refine ⟨hbound, fun workflowId record hheld => ?_⟩
    exact hentries _ ((Dict.mem_entries_iff ..).mpr hheld)
  · rintro ⟨hbound, hheld⟩
    refine ⟨hbound, fun entry hentry => ?_⟩
    exact hheld _ _ ((Dict.mem_entries_iff ..).mp hentry)

end

end DodgingInfinity.WorkflowAuthority
