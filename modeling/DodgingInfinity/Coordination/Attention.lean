import DodgingInfinity.Coordination.Observation

/-!
# Attention records

What needs a human now: each record binds one observed condition of one Mission
at one revision to one destination.  Only a fresh observation changes anything,
except that an acknowledgment is recorded whatever accompanies it.
-/

namespace DodgingInfinity.Coordination

open Checked

/-! ## Vocabularies -/

def AttentionKind.priority : AttentionKind → Nat
  | .needsHuman => 10
  | .authorizationReady => 20
  | .blocked => 30
  | .resultReady => 40

inductive Presentation where
  | acknowledged
  | obsolete
  | pending
  | resolved
  | surfaced
  deriving DecidableEq

def Presentation.isTerminal : Presentation → Bool
  | .obsolete | .resolved => true
  | .acknowledged | .pending | .surfaced => false

inductive ClosedReason where
  | authorityChanged
  | conditionChanged
  | conditionCleared
  | revisionChanged
  deriving DecidableEq

/-! ## The record -/

structure Surfacing where
  surfacedAt : Option Nat
  messageRef : Option String
  freshness : Option Freshness
  observationPoint : Option ObservationPoint
  deriving DecidableEq

structure Acknowledgment where
  acknowledgedAt : Option Nat
  acknowledgedBy : Option AuthenticatedContext
  freshness : Option Freshness
  observationCursor : Option String
  observationPoint : Option ObservationPoint
  deriving DecidableEq

structure Closure where
  closedAt : Option Nat
  reason : Option ClosedReason
  observationPoint : Option ObservationPoint
  deriving DecidableEq

structure Attention where
  attentionId : String
  missionId : String
  revision : Nat
  conditionKind : AttentionKind
  conditionKey : String
  conditionDigestSha256 : String
  authorizationDigestSha256 : Option String
  destination : Destination
  priority : Nat
  presentation : Presentation
  createdAt : Nat
  observationPoint : ObservationPoint
  surfacing : Surfacing
  acknowledgment : Acknowledgment
  closure : Closure
  supersededBy : Option String
  authority : String
  deriving DecidableEq

abbrev AttentionRecords : Type := Dict String Attention

def noSurfacing : Surfacing := ⟨none, none, none, none⟩
def noAcknowledgment : Acknowledgment := ⟨none, none, none, none, none⟩
def noClosure : Closure := ⟨none, none, none⟩

namespace Attention

def condition (value : Attention) : AttentionKind × String :=
  (value.conditionKind, value.conditionKey)

def identity (value : Attention) : String × (AttentionKind × String) × Destination :=
  (value.missionId, value.condition, value.destination)

def isTerminal (value : Attention) : Bool := value.presentation.isTerminal

/-- Every observation point that the record retains. -/
def points (value : Attention) : List ObservationPoint :=
  [value.observationPoint] ++ value.surfacing.observationPoint.toList ++
    value.acknowledgment.observationPoint.toList ++ value.closure.observationPoint.toList

end Attention

/-! ## Validation -/

/-- Some fields are present and others are not. -/
def isPartial (present : List Bool) : Bool := present.any id && !present.all id

def Surfacing.present (value : Surfacing) : List Bool :=
  [value.surfacedAt.isSome, value.messageRef.isSome, value.freshness.isSome,
    value.observationPoint.isSome]

def Acknowledgment.present (value : Acknowledgment) : List Bool :=
  [value.acknowledgedAt.isSome, value.acknowledgedBy.isSome, value.freshness.isSome]

def Closure.present (value : Closure) : List Bool :=
  [value.closedAt.isSome, value.reason.isSome, value.observationPoint.isSome]

def Surfacing.isPresent (value : Surfacing) : Bool := value.present.all id
def Acknowledgment.isPresent (value : Acknowledgment) : Bool := value.present.all id
def Closure.isPresent (value : Closure) : Bool := value.present.all id

/-- The acknowledgment was accompanied by a fresh observation. -/
def Acknowledgment.isFresh (value : Acknowledgment) : Bool :=
  value.isPresent && value.freshness = some .fresh

/-- The point shows the record's own revision and authorization. -/
def Attention.binds (value : Attention) (point : ObservationPoint) : Prop :=
  point.revision = value.revision ∧
    point.authorizationDigestSha256 = value.authorizationDigestSha256

instance (value : Attention) (point : ObservationPoint) : Decidable (value.binds point) :=
  inferInstanceAs (Decidable (_ ∧ _))

/-- The fields that bind the record to its condition and its first read. -/
def validateAttentionBinding (value : Attention) (location : String) :
    Checks Unit := do
  requireId value.attentionId .attention (location ++ ".attention_id")
  requireId value.missionId .mission (location ++ ".mission_id")
  requireAtLeast value.revision 1 (location ++ ".revision")
  requireKey value.conditionKey (location ++ ".condition_key")
  requireHex value.conditionDigestSha256 (location ++ ".condition_digest_sha256") 64
  requireOptionalHex value.authorizationDigestSha256 (location ++ ".authorization_digest_sha256") 64
  requireDestination value.destination (location ++ ".destination")
  failAt (value.priority ≠ value.conditionKind.priority) .badValue (location ++ ".priority")
  validateObservationPoint value.observationPoint (location ++ ".observation_point")
  failAt (¬ value.binds value.observationPoint) .badValue location

def validateSurfacing (value : Attention) (location : String) : Checks Unit := do
  checkOptional (requireStr · (location ++ ".surfaced_message_ref")
    maxMessageRefChars) value.surfacing.messageRef
  failAt (∃ freshness ∈ value.surfacing.freshness, freshness ≠ .fresh) .badValue
    (location ++ ".surfaced_freshness")
  checkOptional (fun point => do
    validateObservationPoint point (location ++ ".surfaced_observation_point")
    failAt (¬ value.binds point) .badValue
      (location ++ ".surfaced_observation_point")) value.surfacing.observationPoint
  failAt (isPartial value.surfacing.present = true) .badValue location
  failAt (value.surfacing.isPresent = true ∧
    ∃ surfacedAt ∈ value.surfacing.surfacedAt, surfacedAt < value.createdAt) .badValue
    location

def validateAcknowledgment (value : Attention) (location : String) :
    Checks Unit := do
  checkOptional (requireContext · (location ++ ".acknowledged_by"))
    value.acknowledgment.acknowledgedBy
  checkOptional (requireCursor · (location ++ ".acknowledged_observation_cursor"))
    value.acknowledgment.observationCursor
  failAt (isPartial value.acknowledgment.present = true) .badValue location
  failAt (value.acknowledgment.observationCursor.isSome ≠ value.acknowledgment.isFresh ∨
    value.acknowledgment.observationPoint.isSome ≠ value.acknowledgment.isFresh)
    .badValue location
  checkOptional (fun point => do
    validateObservationPoint point (location ++ ".acknowledged_observation_point")
    failAt (some point.cursor ≠ value.acknowledgment.observationCursor) .badValue
      location) value.acknowledgment.observationPoint
  failAt (value.acknowledgment.isPresent = true ∧
    ∃ acknowledgedAt ∈ value.acknowledgment.acknowledgedAt,
      acknowledgedAt < value.createdAt) .badValue location

def validateClosure (value : Attention) (location : String) : Checks Unit := do
  checkOptional (requireId · .attention (location ++ ".superseded_by")) value.supersededBy
  checkOptional (validateObservationPoint ·
    (location ++ ".closed_observation_point")) value.closure.observationPoint
  failAt (isPartial value.closure.present = true) .badValue location
  failAt (value.closure.isPresent = true ∧
    ∃ closedAt ∈ value.closure.closedAt, closedAt < value.createdAt) .badValue
    location

/-- The state agrees with what the record carries. -/
def validateState (value : Attention) (location : String) : Checks Unit := do
  failAt (value.closure.isPresent ≠ value.isTerminal) .badValue location
  failAt (value.presentation = .pending ∧ (value.surfacing.isPresent = true ∨
    value.acknowledgment.isPresent = true)) .badValue location
  failAt (value.presentation = .surfaced ∧ (value.surfacing.isPresent = false ∨
    value.acknowledgment.isPresent = true)) .badValue location
  failAt (value.presentation = .acknowledged ∧
    value.acknowledgment.isPresent = false) .badValue location
  failAt (value.presentation = .obsolete ∧ (value.closure.reason = none ∨
    value.closure.reason = some .conditionCleared ∨ value.supersededBy = none))
    .badValue location
  failAt (value.presentation = .resolved ∧
    (value.closure.reason ≠ some .conditionCleared ∨ value.supersededBy ≠ none))
    .badValue location
  failAt (value.isTerminal = false ∧ value.supersededBy ≠ none) .badValue location
  failAt (value.supersededBy = some value.attentionId) .badValue location
  requireAuthority value.authority location

def validateAttention (value : Attention) (location : String) : Checks Unit := do
  validateAttentionBinding value location
  validateSurfacing value location
  validateAcknowledgment value location
  validateClosure value location
  validateState value location

/-! ## The family -/

/-- The identities and the successors that a walk over the records has met. -/
structure Walked where
  live : List (String × (AttentionKind × String) × Destination)
  successors : List String

/-- A successor exists, has the identity, is not earlier and has no other
predecessor. -/
def validateSuccessor (records : AttentionRecords) (value : Attention)
    (location : String) (successors : List String) (successor : String) :
    Checks Unit := do
  let other ← orFailAt (records.get? successor) .badValue location
  failAt (other.identity ≠ value.identity ∨ other.createdAt < value.createdAt) .badValue location
  failAt (successor ∈ successors) .badValue location

def validateHeldAttention (records : AttentionRecords) (walked : Walked)
    (entry : String × Attention) : Checks Walked := do
  let location := s!"attention {entry.1}"
  validateAttention entry.2 location
  failAt (entry.2.attentionId ≠ entry.1) .badValue location
  failAt (entry.2.isTerminal = false ∧ entry.2.identity ∈ walked.live) .badValue location
  checkOptional (validateSuccessor records entry.2 location walked.successors) entry.2.supersededBy
  pure {
    live := if entry.2.isTerminal then walked.live
      else walked.live ++ [entry.2.identity]
    successors := walked.successors ++ entry.2.supersededBy.toList }

/-- Follow a successor chain to its end, refusing a repetition; a chain without
one is no longer than the family. -/
def followChain (records : AttentionRecords) (location : String) :
    Nat → List String → Option String → Checks Unit
  | _, _, none => .ok ()
  | 0, _, some _ => .error ⟨.badValue, location⟩
  | room + 1, seen, some current => do
      failAt (current ∈ seen) .badValue location
      let value ← orFailAt (records.get? current) .badType location
      followChain records location room (current :: seen) value.supersededBy

def validateAttentionRecords (records : AttentionRecords) : Checks Unit := do
  let _ ← foldChecked (validateHeldAttention records) ⟨[], []⟩ (byId records)
  checkAll (fun entry : String × Attention =>
    followChain records s!"attention {entry.1}" (records.entries.length + 1) []
      (some entry.1)) (byId records)

/-! ## Minting -/

/-- What the id minter answers, one after another; when nothing is left it has
raised. -/
abbrev Minted : Type := List String

def maxMintAttempts : Nat := 8

/-- The first of at most `attempts` minted ids that is not in use. -/
def freshIdWithin {α : Type} (kind : IdPrefix) (taken : Dict String α) :
    Nat → Minted → Checks (String × Minted)
  | 0, _ => .error ⟨.badValue, "minted id"⟩
  | _ + 1, [] => .error ⟨.badType, "minted id"⟩
  | attempts + 1, candidate :: rest => do
      requireId candidate kind "minted id"
      if taken.contains candidate then freshIdWithin kind taken attempts rest
      else pure (candidate, rest)

def freshId {α : Type} (kind : IdPrefix) (taken : Dict String α)
    (minted : Minted) : Checks (String × Minted) :=
  freshIdWithin kind taken maxMintAttempts minted

/-! ## Projection -/

structure ProjectionOutcome where
  freshness : Freshness
  problem : Option String
  created : List String
  suppressed : List String
  obsoleted : List String
  resolved : List String
  deriving DecidableEq

/-- Is this a fresh observation of the Mission? -/
def requireFreshOf (result : FreshnessResult) (missionId : String) :
    Checks Bool := do
  failAt (∃ observed ∈ result.observation, observed.missionId ≠ missionId)
    .missionMismatch "observation"
  pure (decide (result.freshness = .fresh))

section

variable [JsonDigest]

def newAttention (attentionId : String) (observed : MissionObservation)
    (condition : ObservedCondition) (destination : Destination) (now : Nat)
    (point : ObservationPoint) : Attention where
  attentionId := attentionId
  missionId := observed.missionId
  revision := observed.currentRevision
  conditionKind := condition.kind
  conditionKey := condition.key
  conditionDigestSha256 := conditionDigest condition
  authorizationDigestSha256 := observed.authorizationDigestSha256
  destination := destination
  priority := condition.kind.priority
  presentation := .pending
  createdAt := now
  observationPoint := point
  surfacing := noSurfacing
  acknowledgment := noAcknowledgment
  closure := noClosure
  supersededBy := none
  authority := authorityNone

def newRecord (attentionId : String) (observed : MissionObservation)
    (condition : ObservedCondition) (destination : Destination) (now : Nat) :
    Checks Attention := do
  let point ← observationPoint observed
  let value := newAttention attentionId observed condition destination now point
  validateAttention value "attention"
  pure value

/-- Why a record no longer matches the observed condition, if it does not. -/
def disagreement (value : Attention) (observed : MissionObservation)
    (condition : ObservedCondition) : Option ClosedReason :=
  if observed.currentRevision ≠ value.revision then some .revisionChanged
  else if observed.authorizationDigestSha256 ≠ value.authorizationDigestSha256 then
    some .authorityChanged
  else if conditionDigest condition ≠ value.conditionDigestSha256 then
    some .conditionChanged
  else none

/-- The record as a fresh read closes it. -/
def Attention.closed (value : Attention) (reason : ClosedReason) (now : Nat)
    (successor : Option String) (point : ObservationPoint) : Attention :=
  { value with
    presentation := if reason = .conditionCleared then .resolved else .obsolete
    closure := ⟨some now, some reason, some point⟩
    supersededBy := successor }

def close (value : Attention) (reason : ClosedReason) (now : Nat)
    (successor : Option String) (observed : MissionObservation) :
    Checks Attention := do
  let point ← observationPoint observed
  let closed := value.closed reason now successor point
  validateAttention closed "attention"
  pure closed

/-- The records and what was done to them so far. -/
structure Reconciling where
  records : AttentionRecords
  minted : Minted
  created : List String
  suppressed : List String
  obsoleted : List String
  resolved : List String
  seen : List (AttentionKind × String)

/-- A new presentation of a condition. -/
def Reconciling.present (state : Reconciling) (observed : MissionObservation)
    (condition : ObservedCondition) (destination : Destination) (now : Nat) :
    Checks (String × Reconciling) := do
  let (freshId, minted) ← freshId .attention state.records state.minted
  let value ← newRecord freshId observed condition destination now
  pure (freshId, { state with
    records := state.records.set freshId value
    minted := minted
    created := state.created ++ [freshId] })

/-- A differing record gives way to a new presentation. -/
def Reconciling.supersede (state : Reconciling) (observed : MissionObservation)
    (condition : ObservedCondition) (destination : Destination) (now : Nat)
    (current : Attention) (reason : ClosedReason) : Checks Reconciling := do
  let (freshId, next) ← state.present observed condition destination now
  let closed ← close current reason now (some freshId) observed
  pure { next with
    records := next.records.set current.attentionId closed
    obsoleted := next.obsoleted ++ [current.attentionId] }

/-- The live records of a Mission at a destination, in id order; no two of a
loaded document share a condition. -/
def liveRecords (records : AttentionRecords) (missionId : String)
    (destination : Destination) : List Attention :=
  ((byId records).map Prod.snd).filter fun value =>
    value.missionId = missionId ∧ value.isTerminal = false ∧ value.destination = destination

/-- One observed condition against the live records. -/
def reconcileCondition (observed : MissionObservation) (destination : Destination)
    (live : List Attention) (now : Nat) (state : Reconciling)
    (condition : ObservedCondition) : Checks Reconciling :=
  let next := { state with seen := state.seen ++ [condition.identity] }
  match live.find? (·.condition = condition.identity) with
  | none => (next.present observed condition destination now).map Prod.snd
  | some current =>
      match disagreement current observed condition with
      | none => .ok { next with
          suppressed := next.suppressed ++ [current.attentionId] }
      | some reason =>
          next.supersede observed condition destination now current reason

/-- A live record whose condition the observation no longer carries. -/
def resolveCleared (observed : MissionObservation) (now : Nat)
    (state : Reconciling) (current : Attention) : Checks Reconciling :=
  if current.condition ∈ state.seen then .ok state
  else do
    let closed ← close current .conditionCleared now none observed
    pure { state with
      records := state.records.set current.attentionId closed
      resolved := state.resolved ++ [current.attentionId] }

/-- Sorted by kind, and by key within a kind: the later sort is stable. -/
def sortedByCondition {α : Type} (identity : α → AttentionKind × String)
    (items : List α) : List α :=
  sortedBy (fun item => (identity item).1.text) (sortedBy (fun item => (identity item).2) items)

/-- Apply the projection rules: each observed condition, then the live records
whose condition was not observed. -/
def reconcile (records : AttentionRecords) (observed : MissionObservation)
    (destination : Destination) (live : List Attention)
    (conditions : List ObservedCondition) (now : Nat) (minted : Minted) :
    Checks Reconciling := do
  let state ← foldChecked (reconcileCondition observed destination live now)
    ⟨records, minted, [], [], [], [], []⟩ conditions
  foldChecked (resolveCleared observed now) state (sortedByCondition Attention.condition live)

/-- Project a classified observation of a Mission into the presentation records
of a destination. -/
def project (records : AttentionRecords) (missionId : String)
    (destination : Destination) (result : FreshnessResult) (now : Nat)
    (minted : Minted) : Checks (ProjectionOutcome × AttentionRecords) := do
  requireId missionId .mission "mission_id"
  requireDestination destination "destination"
  if ← requireFreshOf result missionId then
    let observed ← orFailAt result.observation .badType "observation"
    let state ← reconcile records observed destination
      (liveRecords records missionId destination)
      (sortedByCondition ObservedCondition.identity observed.conditions) now minted
    pure (⟨.fresh, none, state.created, state.suppressed, state.obsoleted,
      state.resolved⟩, state.records)
  else pure (⟨result.freshness, result.problem, [], [], [], []⟩, records)

/-! ## Surfacing -/

structure SurfaceOutcome where
  surfaced : Bool
  contradicted : Bool
  freshness : Freshness
  problem : Option String
  messageRef : Option String
  created : List String
  obsoleted : List String
  resolved : List String
  deriving DecidableEq

/-- What a presenter reports for one attempt. -/
structure PresentationReceipt where
  ok : Bool
  messageRef : Option String
  problem : Option String
  deriving DecidableEq

def PresentationReceipt.validate (receipt : PresentationReceipt)
    (location : String) : Checks Unit :=
  if receipt.ok then do
    let messageRef ← orFailAt receipt.messageRef .badType
      (location ++ ".message_ref")
    requireStr messageRef (location ++ ".message_ref") maxMessageRefChars
    failAt (receipt.problem ≠ none) .badValue location
  else do
    let problem ← orFailAt receipt.problem .badType (location ++ ".problem")
    requireStr problem (location ++ ".problem") maxDetailChars
    failAt (receipt.messageRef ≠ none) .badValue location

/-- What asking the presenter comes to. -/
inductive PresenterAnswer where
  | returned (receipt : PresentationReceipt)
  | raised (className : String)
  | foreign (typeName : String)

/-- The presenter is not trusted: what is no valid receipt is a refusal. -/
def presentSafely : PresenterAnswer → PresentationReceipt
  | .raised className => ⟨false, none, s!"presenter raised {className}"⟩
  | .foreign typeName =>
      ⟨false, none, s!"presenter returned {typeName}, not a PresentationReceipt"⟩
  | .returned receipt =>
      match receipt.validate "receipt" with
      | .ok () => receipt
      | .error refusal =>
          ⟨false, none, s!"presenter receipt malformed: {refusal.problem.code}"⟩

/-- A record that has not ended. -/
def requireLive (records : AttentionRecords) (attentionId : String) :
    Checks Attention := do
  requireId attentionId .attention "attention_id"
  let value ← orFailAt (records.get? attentionId) .badValue "attention"
  failAt (value.isTerminal = true) .attentionTerminal "attention"
  pure value

/-- The record as a presentation leaves it. -/
def Attention.surfaced (value : Attention) (now : Nat)
    (messageRef : Option String) (point : ObservationPoint) : Attention :=
  { value with
    presentation := .surfaced
    surfacing := ⟨some now, messageRef, some .fresh, some point⟩ }

/-- Ask the presenter once, and record an ok receipt. -/
def presentRecord (records : AttentionRecords) (value : Attention)
    (observed : MissionObservation) (receipt : PresentationReceipt) (now : Nat) :
    Checks (SurfaceOutcome × AttentionRecords) :=
  if receipt.ok then do
    let point ← observationPoint observed
    let surfaced := value.surfaced now receipt.messageRef point
    validateAttention surfaced "attention"
    pure (⟨true, false, .fresh, none, receipt.messageRef, [], [], []⟩,
      records.set value.attentionId surfaced)
  else .ok (⟨false, false, .fresh, receipt.problem, none, [], [], []⟩, records)

/-- Why a fresh read contradicts a record, if it does. -/
def contradiction (value : Attention) (observed : MissionObservation)
    (matching : List ObservedCondition) : Option ClosedReason :=
  match matching with
  | [] => some .conditionCleared
  | condition :: _ => disagreement value observed condition

def ClosedReason.text : ClosedReason → String
  | .authorityChanged => "AUTHORITY_CHANGED"
  | .conditionChanged => "CONDITION_CHANGED"
  | .conditionCleared => "CONDITION_CLEARED"
  | .revisionChanged => "REVISION_CHANGED"

/-- The word for what was done to a contradicted record. -/
def contradictedAs (obsoleted : List String) : String :=
  if obsoleted = [] then "resolved" else "obsoleted"

/-- A contradicted record is closed as projection would, and presents nothing. -/
def contradictRecord (records : AttentionRecords) (value : Attention)
    (observed : MissionObservation) (matching : List ObservedCondition)
    (reason : ClosedReason) (now : Nat) (minted : Minted) :
    Checks (SurfaceOutcome × AttentionRecords) := do
  let state ← reconcile records observed value.destination [value] matching now
    minted
  pure (⟨false, true, .fresh, s!"the observation contradicts the record (" ++
    s!"{reason.text}); it was " ++ s!"{contradictedAs state.obsoleted}, not presented",
    none, state.created, state.obsoleted, state.resolved⟩, state.records)

def surfaceFresh (records : AttentionRecords) (value : Attention)
    (observed : MissionObservation) (answer : PresenterAnswer) (now : Nat)
    (minted : Minted) : Checks (SurfaceOutcome × AttentionRecords) :=
  let matching := observed.conditions.filter (·.identity = value.condition)
  match contradiction value observed matching with
  | some reason =>
      contradictRecord records value observed matching reason now minted
  | none => presentRecord records value observed (presentSafely answer) now

/-- Surface a pending record, or truthfully not. -/
def surface (records : AttentionRecords) (attentionId : String)
    (result : FreshnessResult) (answer : PresenterAnswer) (now : Nat)
    (minted : Minted) : Checks (SurfaceOutcome × AttentionRecords) := do
  let value ← requireLive records attentionId
  failAt (value.presentation ≠ .pending) .invalidTransition "attention"
  if ← requireFreshOf result value.missionId then
    let observed ← orFailAt result.observation .badType "observation"
    surfaceFresh records value observed answer now minted
  else pure (⟨false, false, result.freshness, result.problem, none, [], [], []⟩, records)

/-! ## Acknowledgment -/

/-- The record as a human's acknowledgment leaves it; the observation that
accompanied the act is kept only when it was fresh. -/
def Attention.acknowledged (value : Attention) (context : AuthenticatedContext)
    (freshness : Freshness) (now : Nat) (point : Option ObservationPoint) : Attention :=
  { value with
    presentation := .acknowledged
    acknowledgment := ⟨some now, some context, some freshness,
      point.map ObservationPoint.cursor, point⟩ }

/-- The point of a fresh observation, and of no other. -/
def acknowledgedPoint (result : FreshnessResult) (fresh : Bool) :
    Checks (Option ObservationPoint) :=
  if fresh then do
    let observed ← orFailAt result.observation .badType "observation"
    let point ← observationPoint observed
    pure (some point)
  else .ok none

def acknowledge (records : AttentionRecords) (attentionId : String)
    (context : AuthenticatedContext) (result : FreshnessResult) (now : Nat) :
    Checks (Attention × AttentionRecords) := do
  requireContext context "context"
  let value ← requireLive records attentionId
  failAt (value.presentation = .acknowledged) .invalidTransition "attention"
  let fresh ← requireFreshOf result value.missionId
  let point ← acknowledgedPoint result fresh
  let acknowledged := value.acknowledged context result.freshness now point
  validateAttention acknowledged "attention"
  pure (acknowledged, records.set value.attentionId acknowledged)

end

end DodgingInfinity.Coordination
