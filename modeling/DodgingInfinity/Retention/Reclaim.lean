import DodgingInfinity.Library.Execution
import DodgingInfinity.Retention.Stores
import DodgingInfinity.Retention.Summary

/-!
# The questions of a retention pass

A pass holds the coordinator lock, so that only it writes the retention
document.  Each payload store has its own lock, taken for one question only:
between two questions other processes may change it.  A store may fail at any
question.
-/

namespace DodgingInfinity.Retention

open MissionCore

/-- How a question fails: by the error of one store, or by any other
exception. -/
inductive Fault where
  | retention (error : StoreError)
  | journal (problem : JournalProblem)
  | requests
  | other
  deriving DecidableEq

/-- The Missions are filed under Mission ids. -/
def MissionsFiled (document : Document) : Prop :=
  ∀ entry ∈ document.missions.entries, idProblem entry.1 .mission = none

instance (document : Document) : Decidable (MissionsFiled document) :=
  inferInstanceAs (Decidable (∀ entry ∈ document.missions.entries,
    idProblem entry.1 .mission = none))

/-- Every confirmed Mission of a request is named by a Mission id. -/
def RequestsLinked (requests : Requests) : Prop :=
  ∀ request ∈ requests.values, request.missionId.all
    (fun missionId => idProblem missionId .mission = none) = true

instance (requests : Requests) : Decidable (RequestsLinked requests) :=
  inferInstanceAs (Decidable (∀ request ∈ requests.values, request.missionId.all
    (fun missionId => idProblem missionId .mission = none) = true))

/-! A load answers only what its validation let pass. -/

abbrev LoadedRetention := { document : RetentionDocument // Valid document }

abbrev LoadedMissions := { document : Document // MissionsFiled document }

abbrev LoadedRequests := { requests : Requests // RequestsLinked requests }

section

variable [SnapshotDigest]

inductive Call where
  | loadRetention
  | saveRetention (document : RetentionDocument)
  | loadMissions
  | loadJournal
  | loadRequests
  | readDelivery
  | hold (missionId : String)
  | reclaimConversations (conversationIds : List String) (reclaimedAt : Nat)
      (outcome : ReclaimOutcome) (checked : Dict String SnapshotDigest.Digest)
  | reclaimRequests (requestRefs : List String) (reclaimedAt : Nat)
      (outcome : ReclaimOutcome)
  | reclaimRunDiagnostics (missionIds : List String) (reclaimedAt : Nat)
      (outcome : ReclaimOutcome)

/-- What a question is answered when it does not fail. -/
def Call.Reply : Call → Type
  | loadRetention => LoadedRetention
  | saveRetention _ => Unit
  | loadMissions => LoadedMissions
  | loadJournal => Turns
  | loadRequests => LoadedRequests
  | readDelivery => DeliveryReading
  | hold _ => Bool
  | reclaimConversations .. | reclaimRequests .. | reclaimRunDiagnostics .. => Nat

abbrev Call.Answer (call : Call) : Type := Except Fault call.Reply

end

/-- The stores in one state directory, the delivery store as it is read, and
the Missions whose run guard another pass holds. -/
structure World where
  retention : RetentionDocument
  missions : Document
  turns : Turns
  requests : Requests
  delivery : DeliveryReading
  guarded : List String

/-- Save the retention document, if it validates. -/
def World.saveRetention (world : World) (document : RetentionDocument) :
    Except Fault Unit × World :=
  match validateDocument document with
  | .ok () => (.ok (), { world with retention := document })
  | .error error => (.error (.retention error), world)

def World.loadRetention (world : World) : Except Fault LoadedRetention :=
  match h : validateDocument world.retention with
  | .ok passed => .ok ⟨world.retention,
      (validateDocument_eq_ok world.retention passed).mp h⟩
  | .error error => .error (.retention error)

def World.loadMissions (world : World) : Except Fault LoadedMissions :=
  if h : MissionsFiled world.missions then .ok ⟨world.missions, h⟩
  else .error .other

def World.loadRequests (world : World) : Except Fault LoadedRequests :=
  if h : RequestsLinked world.requests then .ok ⟨world.requests, h⟩
  else .error .requests

variable [SnapshotDigest]

/-- The snapshots name exactly the conversations to reduce. -/
def namesExactly (conversationIds : List String)
    (checked : Dict String SnapshotDigest.Digest) : Bool :=
  (∀ conversationId ∈ conversationIds, conversationId ∈ checked.keys) ∧
    ∀ conversationId ∈ checked.keys, conversationId ∈ conversationIds

def World.reclaimConversations (world : World) (conversationIds : List String)
    (reclaimedAt : Nat) (outcome : ReclaimOutcome)
    (checked : Dict String SnapshotDigest.Digest) : Except Fault Nat × World :=
  if namesExactly conversationIds checked then
    match Retention.reclaimConversations world.turns conversationIds reclaimedAt
      outcome checked with
    | .ok (changed, turns) => (.ok changed, { world with turns := turns })
    | .error problem => (.error (.journal problem), world)
  else (.error .other, world)

/-- The answer of a world whose stores do not fail, and what it becomes. -/
def perform : (call : Call) → World → call.Answer × World
  | .loadRetention, world => (world.loadRetention, world)
  | .saveRetention document, world => world.saveRetention document
  | .loadMissions, world => (world.loadMissions, world)
  | .loadJournal, world => (.ok world.turns, world)
  | .loadRequests, world => (world.loadRequests, world)
  | .readDelivery, world => (.ok world.delivery, world)
  | .hold missionId, world => (.ok (missionId ∉ world.guarded : Bool), world)
  | .reclaimConversations conversationIds reclaimedAt outcome checked, world =>
      world.reclaimConversations conversationIds reclaimedAt outcome checked
  | .reclaimRequests requestRefs reclaimedAt outcome, world =>
      let reduced := reclaimRequests world.requests requestRefs reclaimedAt outcome
      (.ok reduced.1, { world with requests := reduced.2 })
  | .reclaimRunDiagnostics missionIds reclaimedAt outcome, world =>
      let reduced := reclaimRunDiagnostics world.missions missionIds reclaimedAt
        outcome
      (.ok reduced.1, { world with missions := reduced.2 })

/-- A question is performed, or it fails and leaves the stores alone; an
exception that no store raises may also come after its effect. -/
inductive Answers (world : World) (call : Call) : call.Answer → World → Prop
  | performed : Answers world call (perform call world).1 (perform call world).2
  | failed (fault : Fault) : Answers world call (.error fault) world
  | late : Answers world call (.error .other) (perform call world).2

/-- Others never write the retention document. -/
def surroundings : Surroundings Call Call.Answer World where
  answers := Answers
  drifts world next := next.retention = world.retention

end DodgingInfinity.Retention

/-!
## The sweep and the owner's deletion

The two passes over the retention document: the sweep, which observes newly
eligible Missions and reclaims a bounded number of the due ones, and the owner's
deletion of one Mission.  The working state of a pass is its own copy of the
retention document; a fault leaves what the pass has changed of it.
-/

namespace DodgingInfinity.Retention

open MissionCore Procedure

def maxReclaimsPerPass : Nat := 8

/-! ## Which conversations a Mission has, and which Missions a conversation -/

/-- The requests of one Mission, in the order of their references. -/
def requestsFor (requests : Requests) (missionId : String) : List String :=
  sortedBy id ((requests.entries.filter fun entry =>
    entry.2.missionId = some missionId).map Prod.fst)

/-- The request a turn's submission names. -/
def Turn.requestRef (turn : Turn) : Option String :=
  turn.submission.bind Submission.requestRef

/-- The requests of the submissions that were durably submitted. -/
def submittedRefs (turns : Turns) : List (Option String) :=
  turns.values.filterMap fun turn =>
    (turn.submission.filter fun submission =>
      submission.state = .submitted).map Submission.requestRef

def conversationsFor (turns : Turns) (refs : List String) : List String :=
  sortedBy id ((turns.values.filter fun turn =>
    turn.requestRef.any fun ref => ref ∈ refs).map Turn.conversationId).dedup

/-- Every Mission one conversation produced; none among them when a submission
names a request with no confirmed Mission. -/
def conversationMissions (turns : Turns) (requests : Requests)
    (conversationId : String) : List (Option String) :=
  (turns.values.filter fun turn => turn.conversationId = conversationId).filterMap
    fun turn => turn.requestRef.map fun ref =>
      (requests.get? ref).bind Request.missionId

/-- Whether one Mission's words may go now: eligible, and its record due or
already reduced. -/
def safe (records : RetentionDocument) (missions : Document)
    (missionId : Option String) (now : Nat) : Bool :=
  match missionId with
  | none => false
  | some missionId =>
      match missions.missions.get? missionId with
      | none => false
      | some mission =>
          eligible mission (missions.missionState.get? missionId) &&
            (records.get? (retentionKey .missionCore missionId)).any fun record =>
              record.phase.reduced || isDue record now

/-- The name of a Mission in a report; an unconfirmed one has none. -/
def missionText (missionId : Option String) : String := missionId.getD "None"

/-! ## What a pass raises -/

/-- The refusals of the owner's deletion. -/
inductive Refusal where
  | sourceMismatch
  | unresolved
  | ambiguous
  | notOwned
  | stale
  | eligibility (reason : Reason)
  | shared
  | alreadyDeleted
  | busy
  | retentionFull
  | inFlight
  | changed
  deriving DecidableEq

/-- What a deletion has removed so far. -/
structure Removed where
  summary : Bool
  conversationTurns : Nat
  requests : Nat
  runDiagnostics : Nat
  deriving DecidableEq

inductive Raised where
  | store (fault : Fault)
  | deferred (keptFor : List String)
  | refused (refusal : Refusal)
  /-- A deletion that started and did not finish; no previous phase means that
  nothing of the Mission was tracked. -/
  | incomplete (removed : Removed) (previously : Option Phase)
  deriving DecidableEq

/-- What a sweep reports and goes on from. -/
def Raised.reported : Raised → Bool
  | .store (.retention _) | .store (.journal _) | .store .requests
  | .deferred _ => true
  | .store .other | .refused _ | .incomplete _ _ => false

section

variable [SnapshotDigest]

abbrev Pass := Procedure Call Call.Answer RetentionDocument Raised

/-- Ask a store, and raise the fault it answers with. -/
def consult (call : Call) : Pass call.Reply := do
  match ← put call with
  | .ok reply => pure reply
  | .error fault => stop (.store fault)

/-- Save the working document. -/
def save : Pass Unit := do
  let records ← read
  consult (.saveRetention records)

/-- Change one record of the working document, in place. -/
def amendRecord (key : String) (f : RetentionRecord → RetentionRecord)
    (records : RetentionDocument) : RetentionDocument :=
  match records.get? key with
  | none => records
  | some record => records.set key (f record)

def amend (key : String) (f : RetentionRecord → RetentionRecord) : Pass Unit :=
  change (amendRecord key f)

/-! ## Observing -/

/-- The record an eligible Mission is first observed with. -/
def observedRecord (missionId : String) (basis : Basis) (now : Nat) :
    RetentionRecord where
  key := retentionKey .missionCore missionId
  family := .missionCore
  recordId := missionId
  firstEligibleObservedAt := now
  terminalAt := basis.terminalAt
  terminalAtSource := basis.terminalAtSource
  basis := basis.basis
  basisSource := basis.basisSource
  phase := .observed
  phaseAt := now
  summary := none
  retainedFor := []

/-- The record of an eligible Mission, created at its first eligible
observation, and whether it was. -/
def observe (records : RetentionDocument) (missionId : String) (basis : Basis)
    (now : Nat) : Except StoreError (RetentionRecord × Bool × RetentionDocument) :=
  match records.get? (retentionKey .missionCore missionId) with
  | some existing => .ok (existing, false, records)
  | none => do
      let record := observedRecord missionId basis now
      let next ← putRecord records record
      pure (record, true, next)

/-- What the first half of a sweep has seen. -/
structure Observation where
  records : RetentionDocument
  observed : Nat
  problems : List (String × Raised)

def observeEligible (now : Nat) (seen : Observation) (missionId : String)
    (basis : Basis) : Observation :=
  match observe seen.records missionId basis now with
  | .error error => { seen with
      problems := seen.problems ++ [(missionId, .store (.retention error))] }
  | .ok (_, created, records) => { seen with
      records := records
      observed := seen.observed + if created then 1 else 0 }

/-- Observe one Mission, if it is eligible. -/
def observeMission (missions : Document) (now : Nat) (seen : Observation)
    (missionId : String) : Observation :=
  match missions.missions.get? missionId with
  | none => seen
  | some mission =>
      match missionCore mission (missions.missionState.get? missionId) with
      | .error _ => seen
      | .ok basis => observeEligible now seen missionId basis

def observeAll (records : RetentionDocument) (missions : Document) (now : Nat) : Observation :=
  (sortedBy id missions.missions.keys).foldl (observeMission missions now)
    { records := records, observed := 0, problems := [] }

/-! ## Reclaiming one Mission -/

/-- What the group rule makes of a Mission's conversations: the ones to release
with the snapshots judged, and the Missions the others are kept for. -/
structure Judgement where
  release : List String
  checked : Dict String SnapshotDigest.Digest
  keptFor : List String

/-- The other Missions of a conversation that still need its words. -/
def unsafeMissions (records : RetentionDocument) (missions : Document)
    (turns : Turns) (requests : Requests) (missionId : String) (now : Nat)
    (conversationId : String) : List (Option String) :=
  (conversationMissions turns requests conversationId).filter fun other =>
    other ≠ some missionId ∧ safe records missions other now = false

/-- A conversation goes once every Mission it produced is safe. -/
def judgeConversation (records : RetentionDocument) (missions : Document)
    (turns : Turns) (requests : Requests) (missionId : String) (now : Nat)
    (judgement : Judgement) (conversationId : String) : Judgement :=
  let needing := unsafeMissions records missions turns requests missionId now
    conversationId
  if needing = [] then { judgement with
    release := judgement.release ++ [conversationId]
    checked := judgement.checked.set conversationId (conversationSnapshot turns conversationId) }
  else { judgement with
    keptFor := judgement.keptFor ++ needing.map missionText }

def judge (records : RetentionDocument) (missions : Document) (turns : Turns)
    (requests : Requests) (missionId : String) (now : Nat) : Judgement :=
  (conversationsFor turns (requestsFor requests missionId)).foldl
    (judgeConversation records missions turns requests missionId now)
    { release := [], checked := .empty, keptFor := [] }

/-- The Missions a record names as those its conversation is kept for. -/
def Judgement.retainedFor (judgement : Judgement) : List String :=
  (sortedBy id judgement.keptFor.dedup).take maxRetainedFor

/-- Capture the summary while the payload is still intact. -/
def capture (key : String) (missionId : String) (mission : Mission)
    (missions : Document) (now : Nat) : Pass Unit := do
  let reading : DeliveryReading ← consult .readDelivery
  amend key fun record => { record with
    summary := some (missionCoreSummary missionId mission
      (missions.missionState.get? missionId) reading)
    phase := .reclaiming
    phaseAt := now }
  save

/-- Only a record still observed is captured; a resumed one has its summary. -/
def captureObserved (record : RetentionRecord) (mission : Mission)
    (missions : Document) (now : Nat) : Pass Unit :=
  if record.phase = .observed then
    capture record.key record.recordId mission missions now
  else pure ()

/-- A deletion waits for the Missions that share its conversation. -/
def waitForShared (deleting : Bool) (keptFor : List String) : Pass Unit :=
  if deleting ∧ keptFor ≠ [] then
    stop (.deferred (sortedBy id keptFor.dedup))
  else pure ()

/-- Reduce the released conversations, the requests and the run's texts. -/
def reduceStores (judgement : Judgement) (refs : List String)
    (missionId : String) (now : Nat) (outcome : ReclaimOutcome) : Pass Unit := do
  let _turns : Nat ← consult (.reclaimConversations judgement.release now outcome
    judgement.checked)
  let _requests : Nat ← consult (.reclaimRequests refs now outcome)
  let _runs : Nat ← consult (.reclaimRunDiagnostics [missionId] now outcome)
  pure ()

/-- The record of a finished reduction. -/
def finishedRecord (deleting : Bool) (retainedFor : List String) (now : Nat)
    (record : RetentionRecord) : RetentionRecord :=
  { record with
    phase := if deleting then .deleted else .reclaimed
    phaseAt := now
    retainedFor := retainedFor
    summary := if deleting then none else record.summary }

/-- Reduce the payload of an eligible Mission whose run guard is held. -/
def reclaimEligible (record : RetentionRecord) (mission : Mission)
    (missions : Document) (now : Nat) : Pass Bool := do
  let deleting : Bool := record.phase = .deleting
  let turns : Turns ← consult .loadJournal
  let ⟨requests, _⟩ : LoadedRequests ← consult .loadRequests
  captureObserved record mission missions now
  let records ← read
  let judgement := judge records missions turns requests record.recordId now
  waitForShared deleting judgement.keptFor
  reduceStores judgement (requestsFor requests record.recordId) record.recordId
    now (if deleting then .deleted else .reclaimed)
  amend record.key (finishedRecord deleting judgement.retainedFor now)
  save
  pure true

/-- A record that stopped being eligible is left. -/
def reclaimHeld (record : RetentionRecord) (missions : Document) (now : Nat) : Pass Bool :=
  match missions.missions.get? record.recordId with
  | none => pure false
  | some mission =>
      if eligible mission (missions.missionState.get? record.recordId) then
        reclaimEligible record mission missions now
      else pure false

def reclaimOne (record : RetentionRecord) (missions : Document) (now : Nat) :
    Pass Bool := do
  let held : Bool ← consult (.hold record.recordId)
  if held then reclaimHeld record missions now else pure false

/-! ## The sweep -/

structure Tally where
  reclaimed : Nat
  deferred : Nat
  problems : List (String × Raised)

def Tally.taken (tally : Tally) (done : Bool) : Tally :=
  if done then { tally with reclaimed := tally.reclaimed + 1 }
  else { tally with deferred := tally.deferred + 1 }

/-- A record the second half of a sweep acts on: interrupted, due, or waiting
on a shared conversation. -/
def pending (record : RetentionRecord) (now : Nat) : Bool :=
  match record.phase with
  | .observed => isDue record now
  | .reclaiming | .deleting => true
  | .reclaimed => record.retainedFor ≠ []
  | .deleted => false

/-- Report what one record raised; any other exception ends the sweep. -/
def reportProblem (tally : Tally) (recordId : String) (raised : Raised) : Pass Tally :=
  if raised.reported then
    pure { tally with problems := tally.problems ++ [(recordId, raised)] }
  else stop raised

/-- Reclaim one record, within the bound of the pass. -/
def takeRecord (missions : Document) (now : Nat) (tally : Tally)
    (record : RetentionRecord) : Pass Tally :=
  if maxReclaimsPerPass ≤ tally.reclaimed then pure (tally.taken false)
  else
    (do
      let done ← reclaimOne record missions now
      pure (tally.taken done) : Pass Tally).onFault
      (reportProblem tally record.recordId)

def visitRecord (missions : Document) (now : Nat) (tally : Tally) (key : String) :
    Pass Tally := do
  let records ← read
  match records.get? key with
  | none => pure tally
  | some record =>
      if record.family = .missionCore ∧ pending record now then
        takeRecord missions now tally record
      else pure tally

def visitAll (missions : Document) (now : Nat) : List String → Tally → Pass Tally
  | [], tally => pure tally
  | key :: rest, tally => do
      let next ← visitRecord missions now tally key
      visitAll missions now rest next

structure PassReport where
  observed : Nat
  reclaimed : Nat
  deferred : Nat
  problems : List (String × Raised)
  deriving DecidableEq

/-- Save what was observed, if anything was. -/
def saveObserved (observed : Nat) : Pass Unit :=
  if 0 < observed then save else pure ()

/-- One bounded pass, after the clock was read. -/
def sweep (now : Nat) : Pass PassReport := do
  let ⟨records, _⟩ : LoadedRetention ← consult .loadRetention
  let ⟨missions, _⟩ : LoadedMissions ← consult .loadMissions
  let seen := observeAll records missions now
  change fun _ => seen.records
  saveObserved seen.observed
  let tally ← visitAll missions now (sortedBy id seen.records.keys)
    { reclaimed := 0, deferred := 0, problems := seen.problems }
  pure {
    observed := seen.observed
    reclaimed := tally.reclaimed
    deferred := tally.deferred
    problems := tally.problems }

/-! ## The owner's deletion -/

/-- What a deletion answers with. -/
structure Tombstone where
  record : RetentionRecord
  previously : Option Phase
  removed : Removed
  deriving DecidableEq

def refuse {α : Type} (refusal : Refusal) : Pass α := stop (.refused refusal)

def refuseIf (bad : Prop) [Decidable bad] (refusal : Refusal) : Pass Unit :=
  if bad then refuse refusal else pure ()

def resolve {α : Type} (value : Option α) (refusal : Refusal) : Pass α :=
  match value with
  | none => refuse refusal
  | some held => pure held

/-- The basis of the Mission, or the refusal of its reason. -/
def requireEligible (mission : Mission) (stateRecord : Option StateRecord) : Pass Basis :=
  match missionCore mission stateRecord with
  | .ok basis => pure basis
  | .error reason => refuse (.eligibility reason)

/-- The record of a recorded intent to delete. -/
def deletingRecord (now : Nat) (record : RetentionRecord) : RetentionRecord :=
  { record with
    phase := .deleting
    phaseAt := now
    summary := none
    retainedFor := [] }

/-- The document before the deletion was recorded. -/
def withoutIntent (key : String) (prior : Option RetentionRecord)
    (records : RetentionDocument) : RetentionDocument :=
  match prior with
  | none => records.erase key
  | some record => records.set key record

/-- A withdrawal that cannot be saved is a deletion that started. -/
def unsavedWithdrawal (removed : Removed) (previously : Option Phase)
    (raised : Raised) : Pass Unit :=
  match raised with
  | .store (.retention _) | .store .other => stop (.incomplete removed previously)
  | _ => stop raised

/-- Restore the record to exactly what it was before a refused deletion. -/
def withdraw (key : String) (prior : Option RetentionRecord) (removed : Removed)
    (previously : Option Phase) : Pass Unit := do
  change (withoutIntent key prior)
  save.onFault (unsavedWithdrawal removed previously)

/-- What a journal problem refuses a deletion with. -/
def journalRefusal (problem : JournalProblem) : Raised :=
  match problem with
  | .conversationBusy => .refused .inFlight
  | .conversationChanged => .refused .changed
  | .unreadable | .badTurn => .store (.journal problem)

/-- Nothing was reduced: withdraw the intent before answering. -/
def answerJournal (key : String) (prior : Option RetentionRecord)
    (removed : Removed) (previously : Option Phase) (raised : Raised) : Pass Nat :=
  match raised with
  | .store (.journal problem) => do
      withdraw key prior removed previously
      stop (journalRefusal problem)
  | _ => stop raised

/-- Any failure after the conversations were reduced leaves a deletion in
progress. -/
def started {α : Type} (step : Pass α) (removed : Removed) (previously : Option Phase) : Pass α :=
  step.onFault fun _ => stop (.incomplete removed previously)

/-- Reduce every store, after the intent is durable. -/
def deletePayload (key missionId : String) (conversations refs : List String)
    (checked : Dict String SnapshotDigest.Digest)
    (prior : Option RetentionRecord) (hadSummary : Bool) (now : Nat) :
    Pass Removed := do
  let previously := prior.map RetentionRecord.phase
  let none : Removed := {
    summary := hadSummary
    conversationTurns := 0
    requests := 0
    runDiagnostics := 0 }
  let turns : Nat ← (consult (.reclaimConversations conversations now .deleted
    checked)).onFault (answerJournal key prior none previously)
  let reduced : Removed := { none with conversationTurns := turns }
  let requests : Nat ← started (consult (.reclaimRequests refs now .deleted))
    reduced previously
  let reduced : Removed := { reduced with requests := requests }
  let runs : Nat ← started (consult (.reclaimRunDiagnostics [missionId] now
    .deleted)) reduced previously
  pure { reduced with runDiagnostics := runs }

/-- The record of the Mission to delete, observed if it was not yet. -/
def observeForDeletion (missionId : String) (basis : Basis) (now : Nat) :
    Pass RetentionRecord := do
  let records ← read
  match observe records missionId basis now with
  | .error _ => refuse .retentionFull
  | .ok (record, _, next) => do
      change fun _ => next
      pure record

/-- The deletion of a Mission that passed every check, under its run guard. -/
def deleteHeld (missionId : String) (basis : Basis) (conversations refs : List String)
    (checked : Dict String SnapshotDigest.Digest) (now : Nat) :
    Pass Tombstone := do
  let key := retentionKey .missionCore missionId
  let records ← read
  let prior := records.get? key
  let record ← observeForDeletion missionId basis now
  amend key (deletingRecord now)
  save
  let removed ← deletePayload key missionId conversations refs checked prior
    record.summary.isSome now
  amend key fun record => { record with phase := .deleted, phaseAt := now }
  save
  pure {
    record := { deletingRecord now record with phase := .deleted }
    previously := prior.map RetentionRecord.phase
    removed := removed }

/-- The other Missions of the conversations, by the names they are refused
with. -/
def otherMissions (turns : Turns) (requests : Requests)
    (conversations : List String) (missionId : String) : List String :=
  ((conversations.flatMap (conversationMissions turns requests)).map
    missionText).filter fun other => other ≠ missionId

def snapshots (turns : Turns) (conversations : List String) : Dict String SnapshotDigest.Digest :=
  conversations.foldl (fun checked conversationId =>
    checked.set conversationId (conversationSnapshot turns conversationId)) .empty

/-- The owner's deletion: refused with a distinct reason, or the payload and
the summary are removed. -/
def delete (storeIdentity missionId displayedState : String)
    (requestedStore : Option String) (now : Nat) : Pass Tombstone := do
  refuseIf (requestedStore ≠ some storeIdentity) .sourceMismatch
  let ⟨records, _⟩ : LoadedRetention ← consult .loadRetention
  change fun _ => records
  let ⟨missions, _⟩ : LoadedMissions ← consult .loadMissions
  let mission ← resolve (missions.missions.get? missionId) .unresolved
  let turns : Turns ← consult .loadJournal
  let ⟨requests, _⟩ : LoadedRequests ← consult .loadRequests
  let refs := requestsFor requests missionId
  refuseIf (1 < refs.length) .ambiguous
  refuseIf (∀ ref ∈ refs, ∀ held ∈ submittedRefs turns, held ≠ some ref) .notOwned
  refuseIf (displayedState ≠ stateText mission.state) .stale
  let basis ← requireEligible mission (missions.missionState.get? missionId)
  let conversations := conversationsFor turns refs
  refuseIf (otherMissions turns requests conversations missionId ≠ []) .shared
  refuseIf ((records.get? (retentionKey .missionCore missionId)).any fun record =>
    record.phase = .deleted) .alreadyDeleted
  let held : Bool ← consult (.hold missionId)
  refuseIf (held = false) .busy
  deleteHeld missionId basis conversations refs (snapshots turns conversations) now

end

end DodgingInfinity.Retention
