import DodgingInfinity.MissionCore.Authorization
import DodgingInfinity.Retention.Record

/-!
# Retention eligibility

A Mission's local data may go when its own record proves that its execution
ended, or that nothing of it was ever dispatched, and when nothing can change
it again.  Every answer is a basis with its source field, or a reason.
-/

namespace DodgingInfinity.Retention

open MissionCore

/-- Why a Mission is not eligible. -/
inductive Reason where
  | notTerminal
  | running
  | noPositiveBasis
  | dispatchPossible
  deriving DecidableEq

/-- The positive basis, the source field it is read from, and the source time
that dates it. -/
structure Basis where
  basis : String
  basisSource : String
  terminalAt : Option Nat
  terminalAtSource : Option String
  deriving DecidableEq

abbrev Eligibility := Except Reason Basis

inductive Standing where
  | active
  | inactive
  | terminal
  deriving DecidableEq

def missionCoreStanding : MissionState → Standing
  | .awaitingDecision | .denied | .changesRequested => .inactive
  | .authorized | .running => .active
  | .blocked | .completed | .cancelled | .closed | .rejected => .terminal

/-- The name a Mission state is stored under. -/
def stateText : MissionState → String
  | .awaitingDecision => "AWAITING_DECISION"
  | .authorized => "AUTHORIZED"
  | .denied => "DENIED"
  | .running => "RUNNING"
  | .blocked => "BLOCKED"
  | .completed => "COMPLETED"
  | .closed => "CLOSED"
  | .cancelled => "CANCELLED"
  | .rejected => "REJECTED"
  | .changesRequested => "CHANGES_REQUESTED"

def quiescenceText : CancelQuiescence → String
  | .nothingStarted => "nothing_started"
  | .ownedGroupReaped => "owned_group_reaped"
  | .taskObservedStopped => "task_observed_stopped"
  | .unproven => "unproven"

/-- The quiescence values that establish that the target stopped or never
started. -/
def quiescentCancels : List CancelQuiescence :=
  [.nothingStarted, .ownedGroupReaped, .taskObservedStopped]

def noStartRecorded (terminalAt : Option (Nat × String)) : Basis where
  basis := "no_start_recorded"
  basisSource := "run.intent = null"
  terminalAt := terminalAt.map Prod.fst
  terminalAtSource := terminalAt.map Prod.snd

/-- When the Mission entered its current terminal state: its latest lifecycle
event into it, or the latest decision that produced it. -/
def terminalEventAt (mission : Mission) : Option (Nat × String) :=
  match mission.lifecycleEvents.reverse.find? fun event =>
    event.toState = mission.state with
  | some event => some (event.recordedAt,
      "lifecycle[to_state = " ++ stateText mission.state ++ "].recorded_at")
  | none =>
      match mission.decisions.reverse.find? fun decision =>
        decision.outcome.resultingState = mission.state with
      | some decision => some (decision.decidedAt,
          "decisions[resulting_state = " ++ stateText mission.state ++ "].decided_at")
      | none => none

/-- The terminal progress of a Mission State record, with its closure time. -/
def progressClosure (stateRecord : Option StateRecord) : Option (Progress × Option Nat) :=
  stateRecord.bind fun state =>
    if state.progress ∈ Progress.terminal then
      some (state.progress, (state.closure.filter fun closure =>
        closure.progress = state.progress).map Closure.closedAt)
    else none

/-- The proof contract is active at the Mission's current revision, so a
dispatch would skip the activation that terminal progress refuses. -/
def activeAtCurrentRevision (mission : Mission) (stateRecord : Option StateRecord) : Bool :=
  (stateRecord.bind latestActivation).any fun activation =>
    activation.revision = mission.currentRevision

/-- A withdrawn proposal: every later decision on it is refused. -/
def withdrawnEligibility (mission : Mission) (withdrawal : Withdrawal) : Eligibility :=
  if mission.runIntent.isSome then .error .noPositiveBasis
  else .ok (noStartRecorded
    (some (withdrawal.withdrawnAt, "withdrawal.withdrawn_at")))

/-- A state that is not terminal: only closed progress makes it final. -/
def openEligibility (mission : Mission) (stateRecord : Option StateRecord) : Eligibility :=
  if mission.state = .running then .error .running
  else
    match progressClosure stateRecord with
    | none => .error .notTerminal
    | some (_, closedAt) =>
        if activeAtCurrentRevision mission stateRecord then
          .error .dispatchPossible
        else if mission.runIntent.isSome then .error .noPositiveBasis
        else .ok (noStartRecorded
          (closedAt.map fun time => (time, "mission_state.closure.closed_at")))

/-- The proven end of a cancelled run, dated by the observation of it. -/
def cancelQuiescent (mission : Mission) : Option Basis :=
  if mission.state = .cancelled then
    (mission.run.bind Run.cancel).bind fun cancel =>
      match cancel.quiescence, cancel.completedAt with
      | some quiescence, some completedAt =>
          if quiescence ∈ quiescentCancels then
            some {
              basis := "cancel_quiescent"
              basisSource := "run.cancel.quiescence = \"" ++ quiescenceText quiescence ++ "\""
              terminalAt := some completedAt
              terminalAtSource := some "run.cancel.completed_at" }
          else none
      | _, _ => none
  else none

def terminalEligibility (mission : Mission) : Eligibility :=
  let entered := terminalEventAt mission
  if mission.state = .completed then
    .ok {
      basis := "verified_target_stopped"
      basisSource := "state = \"COMPLETED\""
      terminalAt := entered.map Prod.fst
      terminalAtSource := entered.map Prod.snd }
  else
    match cancelQuiescent mission with
    | some basis => .ok basis
    | none =>
        if mission.runIntent.isNone then .ok (noStartRecorded entered)
        else .error .noPositiveBasis

/-- Eligibility of one Mission with its Mission State record. -/
def missionCore (mission : Mission) (stateRecord : Option StateRecord) : Eligibility :=
  match mission.withdrawal with
  | some withdrawal => withdrawnEligibility mission withdrawal
  | none =>
      if missionCoreStanding mission.state = .terminal then
        terminalEligibility mission
      else openEligibility mission stateRecord

/-- Whether the Mission is eligible. -/
def eligible (mission : Mission) (stateRecord : Option StateRecord) : Bool :=
  (missionCore mission stateRecord).isOk

end DodgingInfinity.Retention

/-!
## The retained summary

What stays of a reclaimed Mission: its final status, its verdict, its CI facts
and its comments, each recorded or honestly not.  The CI facts are read from
the delivery store, which is never written here.
-/

namespace DodgingInfinity.Retention

open MissionCore

/-! ## Bounded text -/

/-- The white space that splits a text into words. -/
def isSpace (character : Char) : Bool :=
  let code := character.toNat
  (9 ≤ code ∧ code ≤ 13) ∨ (28 ≤ code ∧ code ≤ 32) ∨ code = 0x85 ∨
    code = 0xA0 ∨ code = 0x1680 ∨ (0x2000 ≤ code ∧ code ≤ 0x200A) ∨
    code = 0x2028 ∨ code = 0x2029 ∨ code = 0x202F ∨ code = 0x205F ∨ code = 0x3000

/-- The words of a text, after a word begun before it. -/
def wordsAfter (current : List Char) : List Char → List (List Char)
  | [] => if current = [] then [] else [current]
  | character :: rest =>
      if isSpace character then
        if current = [] then wordsAfter [] rest
        else current :: wordsAfter [] rest
      else wordsAfter (current ++ [character]) rest

/-- The words of a text with one space between them, cut to the limit. -/
def bounded (text : String) (limit : Nat) : String :=
  let collapsed := [' '].intercalate (wordsAfter [] text.toList)
  if collapsed.length ≤ limit then String.ofList collapsed
  else String.ofList (collapsed.take (limit - 1) ++ ['…'])

/-! ## The CI facts -/

/-- What the receipt of a delivery step observed, as it is printed. -/
structure DeliveryStep where
  name : String
  baseCi : Option String
  reverificationExitStatus : Option String
  deriving DecidableEq

structure DeliveryEntry where
  deliveryId : String
  workflowIdentityId : Option String
  missionWorkflowId : Option String
  steps : List DeliveryStep
  deriving DecidableEq

/-- What a bounded read of the delivery store gave. -/
inductive DeliveryReading where
  | notConfigured
  | unreadable
  | deliveries (entries : List DeliveryEntry)
  deriving DecidableEq

def deliveryStoreFile : String := "pr_delivery.json"

def stepParts (step : DeliveryStep) : List String :=
  (step.baseCi.map fun value => "base_ci=" ++ value).toList ++
    (step.reverificationExitStatus.map fun value =>
      "reverification_exit_status=" ++ value).toList

/-- The CI facts of one delivery, one for each step that observed any. -/
def deliveryFacts (entry : DeliveryEntry) : List String :=
  (sortedBy DeliveryStep.name entry.steps).filterMap fun step =>
    if stepParts step = [] then none
    else some (entry.deliveryId ++ " " ++ step.name ++ ": " ++ ", ".intercalate (stepParts step))

def linkedTo (recordId : String) (entry : DeliveryEntry) : Bool :=
  entry.workflowIdentityId = some recordId ∨ entry.missionWorkflowId = some recordId

/-- The CI facts recorded for this Mission's deliveries, or an honest
absence. -/
def deliveryCi (reading : DeliveryReading) (recordId : String) : Fact :=
  match reading with
  | .notConfigured => {
      state := .notRead
      detail := none
      source := "no PR delivery store is configured for this process, so its " ++
        "CI results were not consulted" }
  | .unreadable => {
      state := .unreadable
      detail := none
      source := deliveryStoreFile ++ " could not be read as the delivery " ++
        "store, so any CI results it holds are not known here" }
  | .deliveries entries =>
      let facts := ((sortedBy DeliveryEntry.deliveryId entries).filter
        (linkedTo recordId)).flatMap deliveryFacts
      let source := deliveryStoreFile ++ " deliveries linked to " ++ recordId ++
        " (steps[].receipt.observed)"
      if facts = [] then {
        state := .notRecorded
        detail := none
        source := source }
      else {
        state := .recorded
        detail := some (bounded ("; ".intercalate facts) maxDetailChars)
        source := source }

/-! ## The summary of a Mission -/

def verdictFact (missionId : String) (verification : Option RunVerification) : Fact :=
  let source := "missions.json missions[" ++ missionId ++ "].run.verification"
  match verification with
  | none => { state := .notRecorded, detail := none, source := source }
  | some verification =>
      if verification.verified then {
        state := .recorded
        detail := some "verified: every verification conjunct held"
        source := source }
      else {
        state := .recorded
        detail := some ("not verified: " ++
          (verification.failedConjunct.map VerifyConjunct.name).getD "None")
        source := source }

def commentsFact : Fact where
  state := .notRecorded
  detail := none
  source := "looked in missions.json (Mission State artifacts and evidence " ++
    "carry only digests and locators), mission_panel_journal.json and " ++
    "local_requests.json: a Mission Core Mission's review findings are read " ++
    "from the target herd's own task.json (target_runtime/review_record.py), " ++
    "which DI does not own"

/-- The terminal progress a Mission is closed by while its own state is not
terminal. -/
def closedProgress (mission : Mission) (stateRecord : Option StateRecord) : Option Progress :=
  if missionCoreStanding mission.state = .terminal then none
  else (stateRecord.map StateRecord.progress).filter fun progress =>
    progress ∈ Progress.terminal

def finalState (mission : Mission) (stateRecord : Option StateRecord) : String :=
  match closedProgress mission stateRecord with
  | some progress => progress.text ++ " (Mission State progress; record state " ++
      stateText mission.state ++ ")"
  | none => stateText mission.state ++
      if mission.withdrawal.isSome then " (withdrawn)" else ""

def finalStateSource (missionId : String) (mission : Mission)
    (stateRecord : Option StateRecord) : String :=
  match closedProgress mission stateRecord with
  | some _ => "missions.json mission_state[" ++ missionId ++
      "].progress; missions[" ++ missionId ++ "].state"
  | none => "missions.json missions[" ++ missionId ++ "].state"

def missionCoreSummary (missionId : String) (mission : Mission)
    (stateRecord : Option StateRecord) (reading : DeliveryReading) : Summary where
  finalState := finalState mission stateRecord
  finalStateSource := finalStateSource missionId mission stateRecord
  verdict := verdictFact missionId (mission.run.bind Run.verification)
  ci := deliveryCi reading missionId
  comments := commentsFact

end DodgingInfinity.Retention
