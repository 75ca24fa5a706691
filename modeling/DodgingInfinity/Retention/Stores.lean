import DodgingInfinity.MissionCore.Authorization
import DodgingInfinity.Retention.Record

/-!
# The stores a Mission's payload lives in

Retention reduces three stores, each under its own lock: the turns of the panel
journal, the local requests, and the diagnostic texts of a terminal run.  A
reduction removes the words and keeps the bookkeeping, and a payload already
reduced is left as it is, except that a deletion records its outcome over an
earlier reclamation.
-/

namespace DodgingInfinity.Retention

open MissionCore Checked

/-! ## The panel journal -/

inductive TurnState where
  | reserved
  | completed
  | failed
  | refused
  | uncertain
  deriving DecidableEq

inductive SubmissionState where
  | reserved
  | submitted
  | uncertain
  | refused
  deriving DecidableEq

structure Submission where
  state : SubmissionState
  reservedAt : Nat
  finishedAt : Option Nat
  requestRef : Option String
  supersedes : Option String
  problem : Option String
  deriving DecidableEq

structure TurnOutcome where
  status : String
  errorCode : Option String
  detail : Option String
  unrecognizedEventLines : Option Nat
  deriving DecidableEq

structure Draft where
  proposal : Option Proposal
  proposalDigestSha256 : String
  deriving DecidableEq

structure Questions where
  items : List String
  problem : Option String
  deriving DecidableEq

structure Turn where
  turnId : String
  conversationId : String
  sequence : Nat
  createdAt : Nat
  finishedAt : Option Nat
  state : TurnState
  userText : Option String
  assistantText : Option String
  gatewayRequestId : Option String
  outcome : Option TurnOutcome
  draft : Option Draft
  draftProblem : Option String
  submission : Option Submission
  questions : Option Questions
  reclaimed : Option ReclaimMarker
  deriving DecidableEq

abbrev Turns := Dict String Turn

inductive JournalProblem where
  | unreadable
  | badTurn
  | conversationBusy
  | conversationChanged
  deriving DecidableEq

/-- The digest of a conversation's turns, taken to tell any two apart. -/
class SnapshotDigest where
  Digest : Type
  decidableEq : DecidableEq Digest
  digest : List Turn → Digest
  injective : Function.Injective digest

instance [SnapshotDigest] : DecidableEq SnapshotDigest.Digest :=
  SnapshotDigest.decidableEq

/-- The turns themselves, as the digest of a sample. -/
@[reducible] def sampleSnapshotDigest : SnapshotDigest where
  Digest := List Turn
  decidableEq := inferInstance
  digest := id
  injective := fun _ _ h => h

/-- Every turn of one conversation, in the order of their ids. -/
def conversationTurns (turns : Turns) (conversationId : String) : List Turn :=
  sortedBy Turn.turnId (turns.values.filter fun turn =>
    turn.conversationId = conversationId)

/-- The digest of every turn of one conversation exactly as it is held. -/
def conversationSnapshot [SnapshotDigest] (turns : Turns)
    (conversationId : String) : SnapshotDigest.Digest :=
  SnapshotDigest.digest (conversationTurns turns conversationId)

/-- With the provider, or with a submission still in flight. -/
def Turn.inFlight (turn : Turn) : Bool :=
  turn.state = .reserved ∨ turn.submission.any fun submission => submission.state = .reserved

/-- The reduced form of a settled turn: its payload removed, its bookkeeping
kept. -/
def reclaimedTurn (turn : Turn) (reclaimedAt : Nat) (outcome : ReclaimOutcome) : Turn :=
  { turn with
    questions := none
    userText := none
    assistantText := none
    draftProblem := none
    outcome := turn.outcome.map fun outcome =>
      { outcome with detail := none, unrecognizedEventLines := none }
    draft := turn.draft.map fun draft => { draft with proposal := none }
    reclaimed := some { reclaimedAt := reclaimedAt, outcome := outcome } }

/-- A marker that a new outcome does not replace. -/
def settledMarker (marker : ReclaimMarker) (outcome : ReclaimOutcome) : Bool :=
  marker.outcome = outcome ∨ outcome = .reclaimed

def reduceTurn (reclaimedAt : Nat) (outcome : ReclaimOutcome) (turn : Turn) : Turn :=
  match turn.reclaimed with
  | none => reclaimedTurn turn reclaimedAt outcome
  | some marker =>
      if settledMarker marker outcome then turn
      else { turn with
        reclaimed := some { reclaimedAt := reclaimedAt, outcome := outcome } }

/-- Whether a payload with this marker is still to be reduced. -/
def toReduce (marker : Option ReclaimMarker) (outcome : ReclaimOutcome) : Bool :=
  marker.all fun marker => ¬ settledMarker marker outcome

def chosenTurns (turns : Turns) (conversationIds : List String) : List Turn :=
  turns.values.filter fun turn => turn.conversationId ∈ conversationIds

/-- The journal refuses while a chosen turn is in flight, and when a
conversation is not what was checked. -/
def checkConversations [SnapshotDigest] (turns : Turns) (conversationIds : List String)
    (checked : Dict String SnapshotDigest.Digest) : Except JournalProblem Unit := do
  failIf (∃ turn ∈ chosenTurns turns conversationIds, turn.inFlight = true) .conversationBusy
  failIf (∃ conversationId ∈ conversationIds, checked.get? conversationId ≠
      some (conversationSnapshot turns conversationId)) .conversationChanged

/-- Reduce every turn of these conversations, if they are what was checked.
Answers the number of turns changed. -/
def reclaimConversations [SnapshotDigest] (turns : Turns)
    (conversationIds : List String) (reclaimedAt : Nat)
    (outcome : ReclaimOutcome) (checked : Dict String SnapshotDigest.Digest) :
    Except JournalProblem (Nat × Turns) := do
  checkConversations turns conversationIds checked
  pure (((chosenTurns turns conversationIds).filter fun turn =>
      toReduce turn.reclaimed outcome).length,
    turns.mapValues fun _ turn =>
      if turn.conversationId ∈ conversationIds then
        reduceTurn reclaimedAt outcome turn
      else turn)

/-! ## The local requests -/

structure AttestedOutcome where
  reason : Option String
  deriving DecidableEq

structure Request where
  requestRef : String
  missionId : Option String
  proposal : Option Proposal
  proposalDigestSha256 : String
  attestedOutcome : Option AttestedOutcome
  reclaimed : Option ReclaimMarker
  deriving DecidableEq

abbrev Requests := Dict String Request

/-- The reduced form of a request: its free text removed, every binding
kept. -/
def reclaimedRequest (request : Request) (reclaimedAt : Nat) (outcome : ReclaimOutcome) : Request :=
  { request with
    proposal := none
    attestedOutcome := request.attestedOutcome.map fun attested =>
      { attested with reason := none }
    reclaimed := some { reclaimedAt := reclaimedAt, outcome := outcome } }

def reduceRequest (reclaimedAt : Nat) (outcome : ReclaimOutcome) (request : Request) : Request :=
  match request.reclaimed with
  | none => reclaimedRequest request reclaimedAt outcome
  | some marker =>
      if settledMarker marker outcome then request
      else { request with
        reclaimed := some { reclaimedAt := reclaimedAt, outcome := outcome } }

/-- Reduce these requests.  Answers the number of requests changed. -/
def reclaimRequests (requests : Requests) (requestRefs : List String)
    (reclaimedAt : Nat) (outcome : ReclaimOutcome) : Nat × Requests :=
  ((requestRefs.filterMap requests.get?).countP fun request =>
      toReduce request.reclaimed outcome,
    requests.mapValues fun ref request =>
      if ref ∈ requestRefs then reduceRequest reclaimedAt outcome request
      else request)

/-! ## The diagnostic texts of a terminal run -/

/-- A run that can never change again. -/
def runReclaimableStates : List MissionState := [.blocked, .completed, .cancelled]

def hasDiagnostics (run : Run) : Bool :=
  run.workspaceRefusal.isSome ∨ run.pendingProof.isSome

/-- The run whose texts are still to be reduced, if the Mission has one. -/
def diagnosticRun (mission : Mission) (outcome : ReclaimOutcome) : Option Run :=
  mission.run.filter fun run =>
    mission.state ∈ runReclaimableStates ∧ hasDiagnostics run ∧ toReduce run.reclaimed outcome

def reduceDiagnostics (reclaimedAt : Nat) (outcome : ReclaimOutcome)
    (mission : Mission) : Mission :=
  match diagnosticRun mission outcome with
  | none => mission
  | some run => { mission with
      run := some (reclaimedRun run reclaimedAt outcome) }

/-- Reduce the texts of these Missions' runs.  Answers the number of Missions
changed. -/
def reclaimRunDiagnostics (document : Document) (missionIds : List String)
    (reclaimedAt : Nat) (outcome : ReclaimOutcome) : Nat × Document :=
  ((missionIds.filterMap document.missions.get?).countP fun mission =>
      (diagnosticRun mission outcome).isSome,
    { document with
      missions := document.missions.mapValues fun missionId mission =>
        if missionId ∈ missionIds then
          reduceDiagnostics reclaimedAt outcome mission
        else mission })

end DodgingInfinity.Retention
