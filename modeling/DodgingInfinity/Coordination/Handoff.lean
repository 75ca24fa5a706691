import DodgingInfinity.Coordination.Observation

/-!
# Participant rosters and bot handoffs

A handoff carries context and a request between two eligible participants of a
Mission, never ownership.  A forward binds the exact content of its parent, is
made by the parent's addressee, and never returns to anyone on its path.
-/

namespace DodgingInfinity.Coordination

open Checked

/-! ## Vocabularies -/

inductive Participant where
  | browserQa
  | coordinator
  | engineering
  | incidentRecovery
  | operations
  | release
  | research
  deriving DecidableEq

def Participant.text : Participant → String
  | .browserQa => "BROWSER_QA"
  | .coordinator => "COORDINATOR"
  | .engineering => "ENGINEERING"
  | .incidentRecovery => "INCIDENT_RECOVERY"
  | .operations => "OPERATIONS"
  | .release => "RELEASE"
  | .research => "RESEARCH"

inductive HandoffStatus where
  | accepted
  | answered
  | declined
  | opened
  | withdrawn
  deriving DecidableEq

namespace HandoffStatus

def terminal : List HandoffStatus := [answered, declined, withdrawn]

/-- Parents that may be forwarded: a live request, or an answer passed along. -/
def forwardable : List HandoffStatus := [accepted, answered, opened]

def transitions : HandoffStatus → List HandoffStatus
  | opened => [accepted, declined, withdrawn]
  | accepted => [answered, withdrawn]
  | answered => []
  | declined => []
  | withdrawn => []

end HandoffStatus

inductive Purpose where
  | contextTransfer
  | evidenceReview
  | question
  | recommendation
  | summary
  deriving DecidableEq

def Purpose.text : Purpose → String
  | .contextTransfer => "CONTEXT_TRANSFER"
  | .evidenceReview => "EVIDENCE_REVIEW"
  | .question => "QUESTION"
  | .recommendation => "RECOMMENDATION"
  | .summary => "SUMMARY"

def maxParticipantsPerMission : Nat := 16
def maxHandoffForwardDepth : Nat := 4
def maxHandoffTransitions : Nat := 8

/-! ## Records -/

structure Roster where
  missionId : String
  participants : List Participant
  revision : Nat
  registeredAt : Nat
  registeredBy : AuthenticatedContext
  observationPoint : ObservationPoint
  authority : String
  deriving DecidableEq

/-- A cited reference, with the level that the citation claims. -/
structure Citation where
  referenceId : String
  level : ReferenceLevel
  deriving DecidableEq

structure TransitionEntry where
  status : HandoffStatus
  enteredAt : Nat
  actor : Participant
  enteredBy : AuthenticatedContext
  observationPoint : ObservationPoint
  deriving DecidableEq

/-- What a caller asks a handoff to carry. -/
structure HandoffRequest where
  missionId : String
  source : Participant
  destination : Participant
  purpose : Purpose
  requestText : String
  evidenceRefs : List Citation
  artifactRefs : List Citation
  idempotencyKey : String
  parentHandoffId : Option String
  deriving DecidableEq

structure Handoff where
  handoffId : String
  request : HandoffRequest
  revision : Nat
  proposalDigestSha256 : String
  contentDigestSha256 : String
  parentContentDigestSha256 : Option String
  forwardDepth : Nat
  status : HandoffStatus
  transitions : List TransitionEntry
  createdAt : Nat
  updatedAt : Nat
  observationPoint : ObservationPoint
  provenance : Provenance
  transfers : String
  authority : String
  deriving DecidableEq

/-- The handoffs and the rosters of the coordination document. -/
structure HandoffBook where
  handoffs : Dict String Handoff
  participants : Dict String Roster
  deriving DecidableEq

namespace HandoffBook

def empty : HandoffBook := ⟨Dict.empty, Dict.empty⟩

end HandoffBook

/-! ## Freshness -/

def freshnessProblem : Freshness → Problem
  | .unavailable => .observationUnavailable
  | .stale => .observationStale
  | .inconsistent => .observationInconsistent
  | .absent => .missionNotObserved
  | .fresh => .badType

/-- The fresh observation of a Mission, or the refusal of its freshness. -/
def requireFresh (result : FreshnessResult) (missionId what : String) :
    Checks MissionObservation := do
  failAt (result.freshness ≠ .fresh) (freshnessProblem result.freshness) what
  let observed ← orFailAt result.observation .badType what
  failAt (observed.missionId ≠ missionId) .missionMismatch what
  pure observed

/-! ## Rosters -/

def validateRoster (value : Roster) (location : String) : Checks Unit := do
  requireId value.missionId .mission (location ++ ".mission_id")
  failAt (value.participants.length > maxParticipantsPerMission) .tooLarge
    (location ++ ".participants")
  requireSorted (value.participants.map Participant.text) (location ++ ".participants")
  failAt (value.participants = []) .badValue (location ++ ".participants")
  requireAtLeast value.revision 1 (location ++ ".revision")
  requireContext value.registeredBy (location ++ ".registered_by")
  validateObservationPoint value.observationPoint (location ++ ".observation_point")
  failAt (value.observationPoint.revision ≠ value.revision) .badValue (location ++ ".revision")
  requireAuthority value.authority location

def validateRosters (participants : Dict String Roster) : Checks Unit :=
  checkAll (fun entry : String × Roster => do
    validateRoster entry.2 s!"participants[{entry.1}]"
    failAt (entry.2.missionId ≠ entry.1) .badValue s!"participants[{entry.1}]")
    (byId participants)

/-- The participant is on the Mission's roster. -/
def requireEligible (book : HandoffBook) (missionId : String)
    (participant : Participant) (location : String) : Checks Unit := do
  let roster ← orFailAt (book.participants.get? missionId) .rosterMissing location
  failAt (participant ∉ roster.participants) .participantIneligible location

/-- A stored handoff keeps its participants on the roster. -/
def requireKept (roster : Roster) (entry : String × Handoff) : Checks Unit := do
  failAt (entry.2.request.missionId = roster.missionId ∧
    entry.2.request.source ∉ roster.participants) .participantIneligible
    s!"handoff {entry.1} source"
  failAt (entry.2.request.missionId = roster.missionId ∧
    entry.2.request.destination ∉ roster.participants) .participantIneligible
    s!"handoff {entry.1} destination"

/-- Register or replace the roster of a Mission under a fresh observation. -/
def setRoster [JsonDigest] (book : HandoffBook) (missionId : String)
    (participants : List Participant) (result : FreshnessResult) (now : Nat)
    (context : AuthenticatedContext) : Checks (Roster × HandoffBook) := do
  requireId missionId .mission "mission_id"
  requireContext context "context"
  let observed ← requireFresh result missionId "roster registration"
  let point ← observationPoint observed
  let roster : Roster := {
    missionId := missionId
    participants := participants
    revision := observed.currentRevision
    registeredAt := now
    registeredBy := context
    observationPoint := point
    authority := authorityNone }
  validateRoster roster "roster"
  checkAll (requireKept roster) (byId book.handoffs)
  pure (roster, { book with participants := book.participants.set missionId roster })

/-! ## Citations -/

def validateCitation (kind : IdPrefix) (allowed : List ReferenceLevel)
    (value : Citation) (location : String) : Checks Unit := do
  requireId value.referenceId kind (location ++ ".reference_id")
  failAt (value.level ∉ allowed) .badValue (location ++ ".level")

def validateCitations (kind : IdPrefix) (allowed : List ReferenceLevel)
    (value : List Citation) (location : String) : Checks Unit := do
  requireEach value location maxReferenceList (validateCitation kind allowed)
  requireSorted (value.map Citation.referenceId) location

/-- The complete proposal binding still holds: the revision and its digest. -/
def requireSameProposal (observed : MissionObservation) (value : Handoff)
    (location : String) : Checks Unit :=
  failAt (observed.currentRevision ≠ value.revision ∨
    observed.proposalDigestSha256 ≠ value.proposalDigestSha256) .handoffStale
    location

/-- Every cited reference is Mission-local and cited at a proven level. -/
def requireCitationsProven (observed : MissionObservation)
    (request : HandoffRequest) (location : String) : Checks Unit := do
  checkAll (fun entry : Citation × Nat => do
    let _ ← requireReferenceLevel observed entry.1.referenceId entry.1.level
      s!"{location}.evidence_refs[{entry.2}]") request.evidenceRefs.zipIdx
  checkAll (fun entry : Citation × Nat => do
    let _ ← requireReferenceLevel observed entry.1.referenceId entry.1.level
      s!"{location}.artifact_refs[{entry.2}]") request.artifactRefs.zipIdx

/-! ## The record -/

def Citation.asJson (value : Citation) : Json :=
  .object [("reference_id", .text value.referenceId), ("level", .text value.level.text)]

/-- Content identity of a handoff: what a forward forwards. -/
def contentDigest [JsonDigest] (request : HandoffRequest) (revision : Nat) : String :=
  jsonDigest (.object [("mission_id", .text request.missionId), ("revision", .ofNat revision),
    ("source", .text request.source.text), ("destination", .text request.destination.text),
    ("purpose", .text request.purpose.text), ("request_text", .text request.requestText),
    ("evidence_refs", Json.listOf Citation.asJson request.evidenceRefs),
    ("artifact_refs", Json.listOf Citation.asJson request.artifactRefs),
    ("parent_handoff_id", Json.optional Json.text request.parentHandoffId)])

/-- Who performs a status change: the destination, or the source for opening
and withdrawing. -/
def actorOf (request : HandoffRequest) : HandoffStatus → Participant
  | .accepted | .answered | .declined => request.destination
  | .opened | .withdrawn => request.source

/-- The entry after `previous`, or the first one. -/
def followEntry (value : Handoff) (entry : TransitionEntry) (location : String) :
    Option TransitionEntry → Checks Unit
  | none => failAt (entry.status ≠ .opened ∨ entry.enteredAt ≠ value.createdAt ∨
      entry.observationPoint ≠ value.observationPoint) .badValue location
  | some before => do
      failAt (entry.status ∉ before.status.transitions) .invalidTransition location
      failAt (entry.enteredAt < before.enteredAt) .badValue location

/-- The point that an entry may not be behind. -/
def entryFloor (value : Handoff) (previous : Option TransitionEntry) : ObservationPoint :=
  (previous.map TransitionEntry.observationPoint).getD value.observationPoint

def validateEntry (value : Handoff) (location : String)
    (previous : Option TransitionEntry) (indexed : TransitionEntry × Nat) :
    Checks (Option TransitionEntry) := do
  let entry := indexed.1
  let place := s!"{location}.transitions[{indexed.2}]"
  requireContext entry.enteredBy (place ++ ".by")
  validateObservationPoint entry.observationPoint (place ++ ".observation_point")
  failAt (previous ≠ none ∧ entry.status = .opened) .invalidTransition place
  failAt (entry.actor ≠ actorOf value.request
    (if previous = none then .opened else entry.status)) .participantIneligible
    place
  failAt (entry.observationPoint.revision ≠ value.revision ∨
    entry.observationPoint.proposalDigestSha256 ≠ value.proposalDigestSha256)
    .handoffStale place
  failAt (cursorNumber entry.observationPoint.cursor <
    cursorNumber (entryFloor value previous).cursor) .badValue place
  followEntry value entry place previous
  pure (some entry)

/-- The fields of a handoff that no status change touches. -/
def validateHandoffContent [JsonDigest] (value : Handoff) (location : String) :
    Checks Unit := do
  requireId value.handoffId .handoff (location ++ ".handoff_id")
  requireId value.request.missionId .mission (location ++ ".mission_id")
  requireAtLeast value.revision 1 (location ++ ".revision")
  requireHex value.proposalDigestSha256 (location ++ ".proposal_digest_sha256") 64
  failAt (value.request.source = value.request.destination) .participantIneligible location
  requireStr value.request.requestText (location ++ ".request_text") maxRequestTextChars
  validateCitations .evidence evidenceReferenceLevels value.request.evidenceRefs
    (location ++ ".evidence_refs")
  validateCitations .artifact artifactReferenceLevels value.request.artifactRefs
    (location ++ ".artifact_refs")
  requireKey value.request.idempotencyKey (location ++ ".idempotency_key")
  requireHex value.contentDigestSha256 (location ++ ".content_digest_sha256") 64
  failAt (value.contentDigestSha256 ≠ contentDigest value.request value.revision)
    .badValue (location ++ ".content_digest_sha256")
  checkOptional (requireId · .handoff (location ++ ".parent_handoff_id"))
    value.request.parentHandoffId
  requireOptionalHex value.parentContentDigestSha256
    (location ++ ".parent_content_digest_sha256") 64
  failAt (value.forwardDepth > maxHandoffForwardDepth) .tooLarge (location ++ ".forward_depth")
  failAt (value.request.parentHandoffId.isSome ≠ value.parentContentDigestSha256.isSome ∨
    value.request.parentHandoffId.isSome ≠ decide (0 < value.forwardDepth))
    .badValue location
  failAt (value.request.parentHandoffId = some value.handoffId) .badValue location

/-- The bounded transition history, and the status it leads to. -/
def validateTransitions (value : Handoff) (location : String) : Checks Unit := do
  failAt (value.transitions.length > maxHandoffTransitions) .tooLarge (location ++ ".transitions")
  failAt (value.transitions = []) .badValue (location ++ ".transitions")
  validateObservationPoint value.observationPoint (location ++ ".observation_point")
  let last ← foldChecked (validateEntry value location) none
    value.transitions.zipIdx
  failAt (last.map TransitionEntry.status ≠ some value.status) .badValue location
  failAt (last.map TransitionEntry.enteredAt ≠ some value.updatedAt) .badValue location

/-- What binds a handoff to the read it was created under. -/
def validateBindingOf (value : Handoff) (location : String) : Checks Unit := do
  failAt (value.observationPoint.revision ≠ value.revision ∨
    value.observationPoint.proposalDigestSha256 ≠ value.proposalDigestSha256)
    .badValue location
  validateProvenance value.provenance (location ++ ".provenance")
  failAt (value.provenance.receivedAt ≠ value.createdAt ∨
    value.provenance.observedRevision ≠ some value.revision ∨
    value.provenance.observationCursor ≠ some value.observationPoint.cursor)
    .badValue (location ++ ".provenance")
  failAt (value.transfers ≠ transfersContextAndRequestOnly) .authorityClaim
    (location ++ ".transfers")
  requireAuthority value.authority location

/-- One handoff record and its own coherence. -/
def validateHandoff [JsonDigest] (value : Handoff) (location : String) :
    Checks Unit := do
  validateHandoffContent value location
  validateTransitions value location
  validateBindingOf value location

/-! ## Chains -/

/-- The path above `path`, root first; at most `room` links are followed. -/
def chainAbove (handoffs : Dict String Handoff) :
    Nat → Option String → List String → Checks (List String)
  | _, none, path => .ok path
  | 0, some key, _ => .error ⟨.forwardingLoop, s!"handoff {key}"⟩
  | room + 1, some key, path => do
      failAt (key ∈ path) .forwardingLoop s!"handoff {key}"
      let value ← orFailAt (handoffs.get? key) .badValue s!"handoff {key}"
      chainAbove handoffs room value.request.parentHandoffId (key :: path)

/-- The handoff ids from the root to `handoffId`. -/
def chain (handoffs : Dict String Handoff) (handoffId : String) : Checks (List String) :=
  chainAbove handoffs (maxHandoffForwardDepth + 1) (some handoffId) []

/-- The root source followed by every link's destination, root first. -/
def participantsAlong (links : List HandoffRequest) : List Participant :=
  (links.head?.map HandoffRequest.source).toList ++ links.map HandoffRequest.destination

/-- The requests of the handoffs on a path. -/
def requestsOn (handoffs : Dict String Handoff) (path : List String) : List HandoffRequest :=
  path.filterMap fun key => (handoffs.get? key).map Handoff.request

def chainParticipants (handoffs : Dict String Handoff) (handoffId : String) :
    Checks (List Participant) := do
  let path ← chain handoffs handoffId
  pure (participantsAlong (requestsOn handoffs path))

/-- The rules that bind a handoff to its parent. -/
def requireLinkTo [JsonDigest] (handoffs : Dict String Handoff) (value : Handoff)
    (parentId location : String) : Checks Unit := do
  let parent ← orFailAt (handoffs.get? parentId) .badValue location
  failAt (parent.request.missionId ≠ value.request.missionId) .missionMismatch location
  failAt (value.parentContentDigestSha256 ≠ some parent.contentDigestSha256) .badValue location
  failAt (value.request.source ≠ parent.request.destination) .forwardContinuity location
  failAt (parent.revision ≠ value.revision ∨
    parent.proposalDigestSha256 ≠ value.proposalDigestSha256) .handoffStale location
  failAt (value.forwardDepth ≠ parent.forwardDepth + 1) .badValue location
  let upstream ← chainParticipants handoffs parentId
  failAt (value.request.destination ∈ upstream) .forwardingLoop location

def requireLink [JsonDigest] (handoffs : Dict String Handoff) (value : Handoff)
    (location : String) : Checks Unit :=
  checkOptional (requireLinkTo handoffs value · location) value.request.parentHandoffId

/-! ## The document -/

/-- One handoff of the document, after those that hold the given keys. -/
def validateHeldHandoff [JsonDigest] (book : HandoffBook)
    (keys : List (String × String)) (entry : String × Handoff) :
    Checks (List (String × String)) := do
  let location := s!"handoff {entry.1}"
  validateHandoff entry.2 location
  failAt (entry.2.handoffId ≠ entry.1) .badValue location
  let who := (entry.2.request.missionId, entry.2.request.idempotencyKey)
  failAt (who ∈ keys) .idempotencyConflict location
  requireEligible book entry.2.request.missionId entry.2.request.source (location ++ ".source")
  requireEligible book entry.2.request.missionId entry.2.request.destination
    (location ++ ".destination")
  pure (keys ++ [who])

def Handoff.isLive (value : Handoff) : Bool :=
  value.status ∉ HandoffStatus.terminal

/-- A live handoff, after those with the given contents. -/
def validateLive (live : List (String × String)) (entry : String × Handoff) :
    Checks (List (String × String)) := do
  let who := (entry.2.request.missionId, entry.2.contentDigestSha256)
  failAt (entry.2.isLive = true ∧ who ∈ live) .duplicateEffect s!"handoff {entry.1}"
  pure (if entry.2.isLive then live ++ [who] else live)

def validateHandoffs [JsonDigest] (book : HandoffBook) : Checks Unit := do
  validateRosters book.participants
  let _ ← foldChecked (validateHeldHandoff book) [] (byId book.handoffs)
  let _ ← foldChecked validateLive [] (byId book.handoffs)
  checkAll (fun entry : String × Handoff =>
    requireLink book.handoffs entry.2 s!"handoff {entry.1}") (byId book.handoffs)

/-! ## Creation -/

def transitionEntry (status : HandoffStatus) (now : Nat) (actor : Participant)
    (context : AuthenticatedContext) (point : ObservationPoint) :
    TransitionEntry where
  status := status
  enteredAt := now
  actor := actor
  enteredBy := context
  observationPoint := point

/-- The parent's content digest and the depth of a forward of it; the parent
must still be a live request or an answer. -/
def forwardOf (handoffs : Dict String Handoff) : Option String → Checks (Option String × Nat)
  | none => .ok (none, 0)
  | some parentId => do
      let parent ← orFailAt (handoffs.get? parentId) .badValue "parent_handoff_id"
      failAt (parent.status ∉ HandoffStatus.forwardable) .invalidTransition "parent_handoff_id"
      failAt (parent.forwardDepth + 1 > maxHandoffForwardDepth)
        .forwardDepthExceeded "parent_handoff_id"
      pure (some parent.contentDigestSha256, parent.forwardDepth + 1)

/-- The new open record of a request under an observation. -/
def newHandoff [JsonDigest] (handoffId : String) (request : HandoffRequest)
    (point : ObservationPoint) (forward : Option String × Nat) (now : Nat)
    (context : AuthenticatedContext) (provenance : Provenance) : Handoff where
  handoffId := handoffId
  request := request
  revision := point.revision
  proposalDigestSha256 := point.proposalDigestSha256
  contentDigestSha256 := contentDigest request point.revision
  parentContentDigestSha256 := forward.1
  forwardDepth := forward.2
  status := .opened
  transitions := [transitionEntry .opened now request.source context point]
  createdAt := now
  updatedAt := now
  observationPoint := point
  provenance := provenance
  transfers := transfersContextAndRequestOnly
  authority := authorityNone

/-- The stored handoff that used the request's idempotency key. -/
def keyHolder (handoffs : Dict String Handoff) (request : HandoffRequest) : Option Handoff :=
  ((byId handoffs).map Prod.snd).find? fun existing =>
    existing.request.missionId = request.missionId ∧
      existing.request.idempotencyKey = request.idempotencyKey

/-- A live handoff of the same Mission with the same content. -/
def Handoff.duplicates (candidate existing : Handoff) : Bool :=
  existing.request.missionId = candidate.request.missionId ∧ existing.isLive = true ∧
    existing.contentDigestSha256 = candidate.contentDigestSha256

/-- Return the stored record of a replay, or store the candidate. -/
def storeHandoff [JsonDigest] (book : HandoffBook) (candidate : Handoff) :
    Checks (Handoff × HandoffBook) :=
  match keyHolder book.handoffs candidate.request with
  | some existing => do
      failAt (existing.contentDigestSha256 ≠ candidate.contentDigestSha256)
        .idempotencyConflict "idempotency_key"
      pure (existing, book)
  | none => do
      failAt (book.handoffs.contains candidate.handoffId = true) .idempotencyConflict "handoff_id"
      failAt (∃ existing ∈ book.handoffs.values,
        candidate.duplicates existing = true) .duplicateEffect "handoff"
      requireLink book.handoffs candidate s!"handoff {candidate.handoffId}"
      pure (candidate, { book with
        handoffs := book.handoffs.set candidate.handoffId candidate })

/-- A new open handoff under a fresh observation, or the stored record of a
replay of its idempotency key. -/
def createHandoff [JsonDigest] (book : HandoffBook) (handoffId : String)
    (request : HandoffRequest) (result : FreshnessResult) (now : Nat)
    (context : AuthenticatedContext) : Checks (Handoff × HandoffBook) := do
  requireId handoffId .handoff "handoff_id"
  requireId request.missionId .mission "mission_id"
  requireContext context "context"
  requireKey request.idempotencyKey "idempotency_key"
  let observed ← requireFresh result request.missionId "handoff creation"
  requireEligible book request.missionId request.source "source"
  requireEligible book request.missionId request.destination "destination"
  let point ← observationPoint observed
  let provenance ← provenanceRecord context now (some observed.currentRevision)
    (some point.cursor)
  let forward ← forwardOf book.handoffs request.parentHandoffId
  let candidate := newHandoff handoffId request point forward now context provenance
  validateHandoff candidate "handoff"
  requireCitationsProven observed request "handoff"
  storeHandoff book candidate

/-! ## Transitions -/

/-- The record after one status change. -/
def Handoff.entered (value : Handoff) (entry : TransitionEntry) : Handoff :=
  { value with
    transitions := value.transitions ++ [entry]
    status := entry.status
    updatedAt := entry.enteredAt }

/-- One status change by its eligible actor, under a fresh observation that
proves the binding and every citation again. -/
def transition [JsonDigest] (book : HandoffBook) (handoffId : String)
    (status : HandoffStatus) (actor : Participant) (result : FreshnessResult)
    (now : Nat) (context : AuthenticatedContext) :
    Checks (Handoff × HandoffBook) := do
  requireId handoffId .handoff "handoff_id"
  requireContext context "context"
  let value ← orFailAt (book.handoffs.get? handoffId) .badValue "handoff"
  failAt (status ∉ value.status.transitions) .invalidTransition "handoff"
  failAt (actor ≠ actorOf value.request status) .participantIneligible "handoff"
  let observed ← requireFresh result value.request.missionId "handoff transition"
  requireSameProposal observed value s!"handoff {handoffId}"
  requireCitationsProven observed value.request s!"handoff {handoffId}"
  let last ← orFailAt value.transitions.getLast? .badType "handoff"
  let current ← cursorValue observed.stateCursor
  let before ← cursorValue last.observationPoint.cursor
  failAt (current < before) .observationStale "handoff"
  failAt (now < value.updatedAt) .badValue "handoff"
  let point ← observationPoint observed
  let updated := value.entered (transitionEntry status now actor context point)
  validateHandoff updated "handoff"
  pure (updated, { book with handoffs := book.handoffs.set handoffId updated })

end DodgingInfinity.Coordination
