import DodgingInfinity.Library.Calls
import Mathlib.Algebra.GroupWithZero.Nat
import DodgingInfinity.WorkflowAuthority.Store

/-!
# The outbound client of the bot

One round trip of the Bot API, what it proves about its effect, and the calls made of
round trips: a single attempt for a placeholder, a bounded retry for an edit, and a
chunked send with a bounded retry for each chunk.
-/

namespace DodgingInfinity.TelegramOperator

open WorkflowAuthority

/-! ## One round trip -/

def maxMessageChars : Nat := 4096
def maxMessageChunks : Nat := 5
def maxSendAttempts : Nat := 3
def truncationNoticeReserve : Nat := 64
def maxProblemChars : Nat := 500
def redactedToken : String := "<bot-token-redacted>"

/-- A JSON object of the Bot API.  Its result counts only where it is an object with an
integer message id. -/
structure ResponseDocument where
  ok : Option Bool
  description : Option String
  errorCode : Option Int
  messageId : Option Int
  deriving DecidableEq

inductive ResponseBody where
  | overBound
  | undecodable
  | notObject
  | object (document : ResponseDocument)
  deriving DecidableEq

/-- What the transport returns or raises. -/
inductive TransportAnswer where
  | replied (status : Nat) (body : ResponseBody)
  | httpError (status : Nat) (deadline : Bool) (body : ResponseBody)
  | osError (deadline : Bool)
  | unexpected
  deriving DecidableEq

inductive CallOutcome where
  | ok
  | telegramRefused
  | noTelegramBody
  | deadline
  | osError
  | undecodableBody
  | responseOverBound
  | requestNotSent
  deriving DecidableEq

/-- What one round trip is known to have been. -/
structure CallDetail where
  outcome : CallOutcome
  httpStatus : Option Nat := none
  bodyParsed : Bool := false
  telegramOk : Option Bool := none
  description : Option String := none
  errorCode : Option Int := none
  deriving DecidableEq

inductive CallProblem where
  | failed (status : Option Nat)
  | failedUnexpectedly
  | overBound
  | undecodable
  | notOk (status : Nat)
  | clientDeadline
  | noUsableMessageId
  | tooLong (chars : Nat)
  deriving DecidableEq

structure CallResult where
  result : Option Int
  problem : Option CallProblem
  deadlineFired : Bool
  retryable : Bool
  detail : CallDetail
  deriving DecidableEq

def redact (text token : String) : String :=
  if token = "" then text else text.replace token redactedToken

def bounded (text : String) : String :=
  if text.length > maxProblemChars then
    String.ofList (text.toList.take maxProblemChars) ++ " [problem text capped]"
  else text

/-- The detail of a genuine refusal: a parsed object whose `ok` is exactly false. -/
def refusalDetail (token : String) (status : Nat) : ResponseBody → Option CallDetail
  | .object document =>
      if document.ok = some false then
        some {
          outcome := .telegramRefused
          httpStatus := some status
          bodyParsed := true
          telegramOk := some false
          description := document.description.map fun text => bounded (redact text token)
          errorCode := document.errorCode }
      else none
  | .overBound | .undecodable | .notObject => none

/-- The detail of a response that is no success. -/
def responseDetail (token : String) (status : Nat) (body : ResponseBody) : CallDetail :=
  (refusalDetail token status body).getD
    { outcome := .noTelegramBody, httpStatus := some status }

def callFailed (problem : CallProblem) (retryable : Bool) (detail : CallDetail) : CallResult :=
  ⟨none, some problem, false, retryable, detail⟩

/-- A fired client deadline: neither a result nor a problem. -/
def callExpired : CallResult :=
  ⟨none, none, true, false, { outcome := .deadline }⟩

def isRateLimitOrServerError (status : Nat) : Bool :=
  status = 429 || (500 ≤ status && status ≤ 599)

def callStructured (token : String) : TransportAnswer → CallResult
  | .httpError status deadline body =>
      if deadline then callExpired
      else callFailed (.failed (some status)) (isRateLimitOrServerError status)
        (responseDetail token status body)
  | .osError deadline =>
      if deadline then callExpired
      else callFailed (.failed none) true { outcome := .osError }
  | .unexpected => callFailed .failedUnexpectedly false { outcome := .requestNotSent }
  | .replied status .overBound =>
      callFailed .overBound false
        { outcome := .responseOverBound, httpStatus := some status }
  | .replied status .undecodable =>
      callFailed .undecodable true
        { outcome := .undecodableBody, httpStatus := some status }
  | .replied status .notObject =>
      callFailed (.notOk status) false (responseDetail token status .notObject)
  | .replied status (.object document) =>
      if document.ok ≠ some true then
        callFailed (.notOk status) false (responseDetail token status (.object document))
      else
        ⟨document.messageId, none, false, false, {
          outcome := .ok
          httpStatus := some status
          bodyParsed := true
          telegramOk := some true }⟩

/-! ## What a send proves -/

inductive SendClassification where
  | applied
  | definiteZero
  | indefinite
  deriving DecidableEq

/-- Definite zero needs positive proof of no effect; all that is ambiguous is
indefinite. -/
def classifySendOnce (detail : CallDetail) (result : Option Int) : SendClassification :=
  match detail.outcome with
  | .ok => if result = none then .indefinite else .applied
  | .telegramRefused =>
      if detail.httpStatus.any isRateLimitOrServerError then .indefinite
      else .definiteZero
  | .requestNotSent => .definiteZero
  | .noTelegramBody | .deadline | .osError | .undecodableBody | .responseOverBound =>
      .indefinite

/-- The interpreter's full case folding. -/
class Casefolding where
  casefold : String → String

export Casefolding (casefold)

def messageNotModifiedForms : List String :=
  ["message is not modified", "message is not modified: specified new message content and reply" ++
    " markup are exactly the same as a current content and reply markup" ++ " of the message"]

def messageToEditNotFoundForms : List String :=
  ["message to edit not found"]

def descriptionPrefix : String := "bad request: "

/-- The words of a text, as `str.split` gives them. -/
def words (text : String) : List String :=
  ((text.toList.splitOnP fun character => decide (character ∈ whitespace)).filter
    fun word => !word.isEmpty).map String.ofList

section

variable [Casefolding]

def normalizeDescription (description : Option String) : Option String :=
  description.map fun text =>
    let normalized := casefold (" ".intercalate (words text))
    if normalized.startsWith descriptionPrefix then
      String.ofList (normalized.toList.drop descriptionPrefix.length)
    else normalized

/-- A description counts only when it came from a genuine refusal. -/
def matchesForms (detail : CallDetail) (forms : List String) : Bool :=
  if detail.outcome ≠ .telegramRefused then false
  else if detail.bodyParsed = false ∨ detail.telegramOk ≠ some false then false
  else (normalizeDescription detail.description).any fun text => decide (text ∈ forms)

def isMessageNotModified (detail : CallDetail) : Bool :=
  matchesForms detail messageNotModifiedForms

def isMessageToEditNotFound (detail : CallDetail) : Bool :=
  matchesForms detail messageToEditNotFoundForms

end

/-! ## Calls -/

/-- A request of the client; an edit may name no message. -/
inductive Request where
  | sendMessage (chatId : Nat) (text : String)
  | editMessageText (chatId : Nat) (messageId : Option Nat) (text : String)
  deriving DecidableEq

/-- What a request is for: the placeholder of a workflow, an edit of it, or one chunk of
a result sent as messages of its own. -/
inductive Purpose where
  | placeholder (workflowId : String)
  | edit (workflowId : String)
  | result (workflowId : String) (chunk : Nat)
  deriving DecidableEq

/-- What a locked cycle over the workflow store is for. -/
inductive CycleTask where
  | sweep
  | listPlaceholders
  | claimPlaceholder (workflowId : String)
  | recordPlaceholder (workflowId : String)
  | listEdits
  | claimEdit (workflowId : String)
  | recordEdit (workflowId : String)
  | reserveResults
  | recordResult (workflowId : String)
  deriving DecidableEq

/-- A question of the adapter: one cycle under the store's lock, which reads the store
and replaces it when the change is some, or one round trip. -/
inductive ResultQuestion where
  | cycle (task : CycleTask) (change : Nat → Workflows → Option Workflows)
  | call (purpose : Purpose) (request : Request)

/-- A cycle answers with the clock and what it read, or with none when the store could
not be read or refused what was saved. -/
def ResultAnswer : ResultQuestion → Type
  | .cycle _ _ => Option (Nat × Workflows)
  | .call _ _ => TransportAnswer

/-- What the adapter does not catch. -/
inductive Raised where
  | noTelegram
  deriving DecidableEq

abbrev Act (α : Type) : Type :=
  Procedure ResultQuestion ResultAnswer Unit Raised α

/-- One round trip. -/
def call (token : String) (purpose : Purpose) (request : Request) : Act CallResult := do
  let answer ← Procedure.put (ResultQuestion.call purpose request)
  pure (callStructured token answer)

/-- The text a call carries: never the empty one. -/
def fullText (text : String) : String :=
  if text = "" then "(empty message)" else text

structure SendOnceOutcome where
  classification : SendClassification
  messageId : Option Int
  deriving DecidableEq

def sendOnceOutcome (result : CallResult) : SendOnceOutcome :=
  let classification := classifySendOnce result.detail result.result
  ⟨classification, if classification = .applied then result.result else none⟩

/-- One attempt, never repeated and never chunked. -/
def sendMessageOnce (token : String) (purpose : Purpose) (chatId : Nat) (text : String) :
    Act SendOnceOutcome :=
  if (fullText text).length > maxMessageChars then pure ⟨.definiteZero, none⟩
  else do
    let result ← call token purpose (.sendMessage chatId (fullText text))
    pure (sendOnceOutcome result)

/-- Whether a failed attempt may be made again; a fired deadline may. -/
def CallResult.repeats (result : CallResult) : Bool :=
  result.deadlineFired || result.retryable

/-- What is left of the last attempt: its result, or its problem. -/
def CallResult.settled (result : CallResult) : CallResult :=
  if result.deadlineFired then
    { result with problem := some .clientDeadline, retryable := true }
  else result

/-- Attempts, at most one more than the number given. -/
def sendWithRetry (token : String) (purpose : Purpose) (request : Request) : Nat → Act CallResult
  | 0 => do
      let result ← call token purpose request
      pure result.settled
  | more + 1 => do
      let result ← call token purpose request
      if result.settled.problem = none ∨ result.repeats = false then pure result.settled
      else sendWithRetry token purpose request more

structure EditOutcome where
  ok : Bool
  problem : Option CallProblem
  alreadyApplied : Bool
  targetMissing : Bool
  deriving DecidableEq

section

variable [Casefolding]

def editOutcome (result : CallResult) : EditOutcome where
  ok := result.problem = none
  problem := result.problem
  alreadyApplied := isMessageNotModified result.detail
  targetMissing := isMessageToEditNotFound result.detail

/-- A bounded edit of one message, never chunked. -/
def editMessageText (token : String) (purpose : Purpose) (chatId : Nat)
    (messageId : Option Nat) (text : String) : Act EditOutcome :=
  if (fullText text).length > maxMessageChars then 
    pure ⟨false, some (.tooLong (fullText text).length), false, false⟩
  else do
    let result ← sendWithRetry token purpose
      (.editMessageText chatId messageId (fullText text)) (maxSendAttempts - 1)
    pure (editOutcome result)

end

/-! ## Chunked sends -/

/-- The chunks of a text, before the cap. -/
def chunksOf (text : String) : List String :=
  (List.range ((text.length + maxMessageChars - 1) / maxMessageChars)).map fun index =>
    String.ofList ((text.toList.drop (index * maxMessageChars)).take maxMessageChars)

/-- The chunks kept: beyond the cap the last one is cut with a notice. -/
def keptChunks (chunks : List String) : List String :=
  if chunks.length > maxMessageChunks then
    let dropped := ((chunks.drop maxMessageChunks).map String.length).sum
    let last := (chunks.take maxMessageChunks).getLastD ""
    let visible := last.toList.take (maxMessageChars - truncationNoticeReserve)
    let truncatedChars := dropped + (last.length - visible.length)
    (chunks.take (maxMessageChunks - 1)) ++ [String.ofList visible ++
      "\n[message cut here: " ++ toString truncatedChars ++ " further characters omitted]"]
  else chunks

structure SendOutcome where
  ok : Bool
  messageIds : List Int
  chunksSent : Nat
  deriving DecidableEq

/-- The chunks from one on, each with its bounded retry, after those whose messages are
known. -/
def sendChunks (token : String) (workflowId : String) (chatId : Nat)
    (messageIds : List Int) : List (String × Nat) → Act SendOutcome
  | [] => pure ⟨true, messageIds, messageIds.length⟩
  | (chunk, index) :: rest => do
      let result ← sendWithRetry token (.result workflowId index)
        (.sendMessage chatId chunk) (maxSendAttempts - 1)
      match result.problem, result.result with
      | some _, _ => pure ⟨false, messageIds, index⟩
      | none, none => pure ⟨false, messageIds, index + 1⟩
      | none, some identifier =>
          sendChunks token workflowId chatId (messageIds ++ [identifier]) rest

/-- A text sent as messages of its own. -/
def sendMessage (token : String) (workflowId : String) (chatId : Nat) (text : String) :
    Act SendOutcome :=
  sendChunks token workflowId chatId [] (keptChunks (chunksOf (fullText text))).zipIdx

end DodgingInfinity.TelegramOperator
