import DodgingInfinity.TelegramOperator.Placeholders

/-!
# Deliveries of results

A record with a bound placeholder has its result shown by an edit, as often as needed; a
record without a placeholder has it sent as messages of its own, at most once.
-/

namespace DodgingInfinity.TelegramOperator

open WorkflowAuthority

/-! ## Edits -/

/-- Why a delivery is degraded or left ambiguous. -/
inductive DeliveryProblem where
  | unrenderable (chars : Nat)
  | bindingChanged
  | unproven
  | targetGone
  | ambiguous (problem : Option CallProblem)
  deriving DecidableEq

/-- The wording of the problems. -/
class Wording where
  problemText : DeliveryProblem → String

export Wording (problemText)

structure EditClaim where
  chatId : Nat
  messageId : Option Nat
  text : String
  renderedDigest : String
  verifiedResultDigest : String
  deriving DecidableEq

/-- A complete delivery marker; the time it was first reserved is kept. -/
def deliveryMarker (existing : Option ResultDelivery) (state : DeliveryState)
    (verifiedResultDigest renderedDigest : String) (attemptedAt : Nat)
    (settledAt : Option Nat) (problem : Option String) (editedMessageId : Option Nat) :
    ResultDelivery where
  state := state
  reservedAt := (existing.map ResultDelivery.reservedAt).getD attemptedAt
  telegramMessageId := none
  verifiedResultDigest := some verifiedResultDigest
  renderedDigest := some renderedDigest
  editedMessageId := editedMessageId
  attemptedAt := some attemptedAt
  settledAt := settledAt
  problem := problem

def isBound (entry : WorkflowRecord) : Bool :=
  entry.resultPlaceholder.any fun placeholder => placeholder.state = .bound

section

variable [TextDigest]

/-- Whether the delivery recorded still leaves the current result to be shown.  A receipt
is trusted only where the record itself bears it out. -/
def deliveryClaimable (text verifiedDigest : String) (delivery : ResultDelivery) : Bool :=
  if delivery.state = .degradedUnbindable then false
  else if delivery.state ∈ [.reserved, .delivered, .partialDelivery] then false
  else if delivery.verifiedResultDigest ≠ some verifiedDigest then true
  else if delivery.state = .deliveredByEdit then
    delivery.renderedDigest ≠ some (textDigest text)
  else if delivery.state = .degradedUnrenderable then
    ¬ (delivery.renderedDigest = some (textDigest text) ∧ text.length > maxMessageChars)
  else true

/-- The result an edit may show of a record: completed, verified and bound. -/
def editDeliveryClaimable (entry : WorkflowRecord) : Bool :=
  match entry.verifiedResult with
  | none => false
  | some verified =>
      entry.phase = .completed && isBound entry && entry.resultDelivery.all
          (deliveryClaimable (renderResultText entry verified) verified.digest)

def editDeliveryWorkflowIds : Act (List String) := do
  let found ← cycle .listEdits fun _ workflows =>
    ⟨none, chosenIds editDeliveryClaimable workflows⟩
  pure (found.getD [])

variable [Wording]

/-- The edit intent of one record; a text that does not fit one message is refused. -/
def claimEdit (now : Nat) (entry : WorkflowRecord) : Option (WorkflowRecord × Option EditClaim) :=
  match entry.verifiedResult, entry.resultPlaceholder with
  | some verified, some placeholder =>
      let text := renderResultText entry verified
      if editDeliveryClaimable entry = false then none
      else if text.length > maxMessageChars then
        some ({ entry with
          resultDelivery := some (deliveryMarker entry.resultDelivery
            .degradedUnrenderable verified.digest (textDigest text) now (some now)
            (some (problemText (.unrenderable text.length))) none) }, none)
      else
        some ({ entry with
            resultDelivery := some (deliveryMarker entry.resultDelivery .editPending
              verified.digest (textDigest text) now none none none) },
          some ⟨placeholder.chatId, placeholder.messageId, text, textDigest text, verified.digest⟩)
  | none, _ | some _, none => none

def claimOneEdit (workflowId : String) : Act (Option EditClaim) := do
  let claimed ← cycle (.claimEdit workflowId) fun now =>
    changeOne workflowId none (claimEdit now)
  pure claimed.join

/-- Whether a record still names the message that was edited. -/
def bindingMatches (entry : WorkflowRecord) (claim : EditClaim) : Bool :=
  entry.resultPlaceholder.any fun placeholder =>
    decide (placeholder.state = .bound ∧ placeholder.chatId = claim.chatId ∧
      placeholder.messageId = claim.messageId)

/-- What one edit attempt came to, with its problem and the message it edited. -/
def classifyEditOutcome (entry : WorkflowRecord) (claim : EditClaim)
    (outcome : EditOutcome) : DeliveryState × Option DeliveryProblem × Option Nat :=
  if bindingMatches entry claim = false then
    (.degradedUnbindable, some .bindingChanged, none)
  else if outcome.ok then (.deliveredByEdit, none, claim.messageId)
  else if outcome.alreadyApplied then
    if entry.verifiedResult.map VerifiedResult.digest = some claim.verifiedResultDigest ∧
        claim.renderedDigest = textDigest claim.text then
      (.deliveredByEdit, none, claim.messageId)
    else (.editIndefinite, some .unproven, none)
  else if outcome.targetMissing then (.degradedUnbindable, some .targetGone, none)
  else (.editIndefinite, some (.ambiguous outcome.problem), none)

/-- Only the intent this pass wrote is resolved. -/
def recordEdit (claim : EditClaim) (outcome : EditOutcome) (now : Nat)
    (entry : WorkflowRecord) : Option (WorkflowRecord × Unit) :=
  match entry.resultDelivery with
  | none => none
  | some delivery =>
      if delivery.state ≠ .editPending then none
      else if delivery.renderedDigest ≠ some claim.renderedDigest then none
      else
        let classified := classifyEditOutcome entry claim outcome
        some ({ entry with
          resultDelivery := some (deliveryMarker entry.resultDelivery classified.1
            claim.verifiedResultDigest claim.renderedDigest
            ((delivery.attemptedAt.filter (· ≠ 0)).getD now) (some now)
            (classified.2.1.map problemText) classified.2.2) }, ())

variable [Casefolding]

/-- Edit the bound message, then record what came of it. -/
def performOneEdit (token workflowId : String) (claim : EditClaim) : Act Unit := do
  let outcome ← editMessageText token (.edit workflowId) claim.chatId claim.messageId
    claim.text
  let _ ← cycle (.recordEdit workflowId) fun now =>
    changeOne workflowId () (recordEdit claim outcome now)
  pure ()

def deliverEdit (token workflowId : String) : Act Bool := do
  let claim ← claimOneEdit workflowId
  match claim with
  | none => pure true
  | some claim => do
      performOneEdit token workflowId claim
      pure true

def deliverResultEdits (token : String) : Act Unit := do
  let claimable ← editDeliveryWorkflowIds
  forEachWorkflow (deliverEdit token) claimable

end

/-! ## Results of messages of their own -/

/-- Only a completed record of the Telegram lane that never asked for a placeholder. -/
def isPendingResult (entry : WorkflowRecord) : Bool :=
  entry.phase = .completed && entry.verifiedResult.isSome && entry.resultDelivery = none &&
    entry.resultPlaceholder = none && entry.origin = none

/-- The three fields a delivery of this lane has. -/
def legacyMarker (state : DeliveryState) (reservedAt : Nat)
    (telegramMessageId : Option Nat) : ResultDelivery where
  state := state
  reservedAt := reservedAt
  telegramMessageId := telegramMessageId
  verifiedResultDigest := none
  renderedDigest := none
  editedMessageId := none
  attemptedAt := none
  settledAt := none
  problem := none

def reserveResult (now : Nat) (entry : WorkflowRecord) : WorkflowRecord :=
  if isPendingResult entry then
    { entry with resultDelivery := some (legacyMarker .reserved now none) }
  else entry

/-- The records reserved, each under its id, in order. -/
def reserveResults : Act (List (String × WorkflowRecord)) := do
  let reserved ← cycle .reserveResults fun now workflows =>
    let pending := (sortedBy Prod.fst workflows.entries).filter fun entry =>
      isPendingResult entry.2
    { saved := if pending = [] then none
        else some (workflows.mapValues fun _ => reserveResult now)
      value := pending.map fun entry => (entry.1, reserveResult now entry.2) }
  pure (reserved.getD [])

/-- The delivery after a send: delivered, shown in part, or cleared to be sent again. -/
def deliveryAfter (now : Nat) (outcome : SendOutcome) (delivery : Option ResultDelivery) :
    Option ResultDelivery :=
  let reservedAt := (delivery.map ResultDelivery.reservedAt).getD now
  match (if outcome.ok then outcome.messageIds.getLast? else none) with
  | some identifier => some (legacyMarker .delivered reservedAt (some identifier.toNat))
  | none =>
      if outcome.chunksSent > 0 then some (legacyMarker .partialDelivery reservedAt none)
      else none

def recordResult (outcome : SendOutcome) (now : Nat) (entry : WorkflowRecord) :
    Option (WorkflowRecord × Unit) :=
  some ({ entry with resultDelivery := deliveryAfter now outcome entry.resultDelivery }, ())

def deliverOneResult (token workflowId : String) (entry : WorkflowRecord) : Act Unit := do
  match entry.telegram, entry.verifiedResult with
  | some telegram, some verified => do
      let outcome ← sendMessage token workflowId telegram.chatId
        (renderResultText entry verified)
      let _ ← cycle (.recordResult workflowId) fun now =>
        changeOne workflowId () (recordResult outcome now)
      pure ()
  | none, _ | some _, none => Procedure.stop .noTelegram

def deliverEach (token : String) : List (String × WorkflowRecord) → Act Unit
  | [] => pure ()
  | (workflowId, entry) :: rest => do
      deliverOneResult token workflowId entry
      deliverEach token rest

def deliverPendingResults (token : String) : Act Unit := do
  let reserved ← reserveResults
  deliverEach token reserved

/-! ## The run loop -/

variable [TextDigest] [Wording] [Casefolding]

/-- One round of the loop, less the poll. -/
def runPass (token : String) : Act Unit := do
  ensureResultPlaceholders token
  deliverResultEdits token
  deliverPendingResults token

def runPasses (token : String) : Nat → Act Unit
  | 0 => pure ()
  | more + 1 => do
      runPass token
      runPasses token more

/-- One process: the sweep, and as many rounds as it lives for. -/
def run (token : String) (rounds : Nat) : Act Unit := do
  reconcileSendingPlaceholders
  runPasses token rounds

end DodgingInfinity.TelegramOperator
