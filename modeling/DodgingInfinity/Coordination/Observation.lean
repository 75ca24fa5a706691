import DodgingInfinity.Coordination.Record

/-!
# Observations and their freshness

The one read-only contract through which a Mission fact reaches coordination.
The source is never trusted: an observation is validated on receipt, and only
one that passes every check, is not behind the durable floor and agrees with
what was recorded at its own point is fresh.
-/

namespace DodgingInfinity.Coordination

open Checked

/-- The digest of a JSON value: 64 lowercase hex digits. -/
class HexDigest extends JsonDigest where
  length_digest : ∀ value, (jsonDigest value).toList.length = 64
  hex_digest : ∀ value, ∀ digit ∈ (jsonDigest value).toList, digit ∈ idHexAlphabet

/-- The text that a refusal is told with. -/
class Wording where
  describe : Refusal → String

export Wording (describe)

/-! ## Vocabularies -/

inductive LifecycleState where
  | awaitingDecision
  | authorized
  | denied
  | running
  | blocked
  | completed
  | closed
  | cancelled
  | rejected
  | changesRequested
  deriving DecidableEq

inductive EvidenceKind where
  | artifactDigest
  | externalAttestation
  | narrativeClaim
  | processExit
  | verificationRecord
  deriving DecidableEq

def EvidenceKind.text : EvidenceKind → String
  | .artifactDigest => "ARTIFACT_DIGEST"
  | .externalAttestation => "EXTERNAL_ATTESTATION"
  | .narrativeClaim => "NARRATIVE_CLAIM"
  | .processExit => "PROCESS_EXIT"
  | .verificationRecord => "VERIFICATION_RECORD"

/-- The kinds an acceptance can ever attach to. -/
def satisfyingEvidenceKinds : List EvidenceKind :=
  [.artifactDigest, .externalAttestation, .verificationRecord]

inductive ArtifactRole where
  | originalInput
  | produced
  | verification
  deriving DecidableEq

def ArtifactRole.text : ArtifactRole → String
  | .originalInput => "ORIGINAL_INPUT"
  | .produced => "PRODUCED"
  | .verification => "VERIFICATION"

inductive ReferenceLevel where
  | accepted
  | recorded
  | validated
  deriving DecidableEq

def ReferenceLevel.text : ReferenceLevel → String
  | .accepted => "ACCEPTED"
  | .recorded => "RECORDED"
  | .validated => "VALIDATED"

def evidenceReferenceLevels : List ReferenceLevel := [.accepted, .recorded]
def artifactReferenceLevels : List ReferenceLevel := [.recorded, .validated]

inductive AttentionKind where
  | authorizationReady
  | blocked
  | needsHuman
  | resultReady
  deriving DecidableEq

def AttentionKind.text : AttentionKind → String
  | .authorizationReady => "AUTHORIZATION_READY"
  | .blocked => "BLOCKED"
  | .needsHuman => "NEEDS_HUMAN"
  | .resultReady => "RESULT_READY"

inductive Freshness where
  | absent
  | fresh
  | inconsistent
  | stale
  | unavailable
  deriving DecidableEq

def Freshness.text : Freshness → String
  | .absent => "ABSENT"
  | .fresh => "FRESH"
  | .inconsistent => "INCONSISTENT"
  | .stale => "STALE"
  | .unavailable => "UNAVAILABLE"

def maxObservationAgeSeconds : Nat := 900
def maxObservedConditions : Nat := 64
def maxObservedReferences : Nat := 512

/-! ## References -/

/-- One Mission-local evidence record as the source proves it. -/
structure EvidenceReference where
  evidenceId : String
  kind : EvidenceKind
  accepted : Bool
  acceptanceDigestSha256 : Option String
  acceptedAt : Option Nat
  deriving DecidableEq

structure Receipt where
  available : Bool
  contentDigestSha256 : String
  validatedAt : Nat
  deriving DecidableEq

structure ArtifactReference where
  artifactId : String
  role : ArtifactRole
  receipt : Option Receipt
  deriving DecidableEq

inductive Reference where
  | evidence (held : EvidenceReference)
  | artifact (held : ArtifactReference)
  deriving DecidableEq

def EvidenceReference.validate (value : EvidenceReference) (location : String) :
    Checks Unit := do
  requireId value.evidenceId .evidence (location ++ ".evidence_id")
  requireOptionalHex value.acceptanceDigestSha256 (location ++ ".acceptance_digest_sha256") 64
  failAt (value.accepted ≠ value.acceptanceDigestSha256.isSome ∨
    value.accepted ≠ value.acceptedAt.isSome) .provenance location
  failAt (value.accepted = true ∧ value.kind ∉ satisfyingEvidenceKinds)
    .observationInconsistent location

def ArtifactReference.validate (value : ArtifactReference) (location : String) :
    Checks Unit := do
  requireId value.artifactId .artifact (location ++ ".artifact_id")
  checkOptional (fun receipt : Receipt => requireHex receipt.contentDigestSha256
    (location ++ ".receipt.content_digest_sha256") 64) value.receipt

namespace Reference

def referenceId : Reference → String
  | evidence held => held.evidenceId
  | artifact held => held.artifactId

def asJson : Reference → Json
  | evidence held => .object [
      ("evidence_id", .text held.evidenceId), ("kind", .text held.kind.text),
      ("accepted", .bool held.accepted), ("acceptance_digest_sha256",
        Json.optional Json.text held.acceptanceDigestSha256),
      ("accepted_at", Json.optional Json.ofNat held.acceptedAt)]
  | artifact held => .object [
      ("artifact_id", .text held.artifactId), ("role", .text held.role.text),
      ("receipt", Json.optional (fun receipt : Receipt => .object [
        ("available", .bool receipt.available),
        ("content_digest_sha256", .text receipt.contentDigestSha256),
        ("validated_at", .ofNat receipt.validatedAt)]) held.receipt)]

/-- The record's provenance is later than the read that reports it. -/
def isLater (observedAt : Nat) : Reference → Bool
  | evidence held => held.accepted && held.acceptedAt.any (· > observedAt)
  | artifact held => held.receipt.any (·.validatedAt > observedAt)

/-- The source positively proves `level` as of a read at `observedAt`; presence
proves that the record is recorded, and nothing more. -/
def proves (level : ReferenceLevel) (observedAt : Nat) : Reference → Bool
  | evidence held => level = .recorded ∨
      (level = .accepted ∧ held.accepted = true ∧ (evidence held).isLater observedAt = false)
  | artifact held => level = .recorded ∨
      (level = .validated ∧ held.receipt.any Receipt.available = true ∧
        (artifact held).isLater observedAt = false)

end Reference

/-- A tuple of validated references, sorted by id and without repetition. -/
def requireReferenceTuple {α : Type} (validate : α → String → Checks Unit)
    (referenceId : α → String) (items : List α) (location : String)
    (maxItems : Nat) : Checks Unit := do
  requireEach items location maxItems validate
  requireSorted (items.map referenceId) location

def requireEvidence (items : List EvidenceReference) (location : String)
    (maxItems : Nat) : Checks Unit :=
  requireReferenceTuple EvidenceReference.validate EvidenceReference.evidenceId
    items (location ++ ".evidence_refs") maxItems

def requireArtifacts (items : List ArtifactReference) (location : String)
    (maxItems : Nat) : Checks Unit :=
  requireReferenceTuple ArtifactReference.validate ArtifactReference.artifactId
    items (location ++ ".artifact_refs") maxItems

/-! ## Conditions -/

/-- One condition the Mission carries, as observed; its references are the
observation's own records. -/
structure ObservedCondition where
  kind : AttentionKind
  key : String
  revision : Nat
  detail : String
  evidenceRefs : List EvidenceReference
  artifactRefs : List ArtifactReference
  deriving DecidableEq

namespace ObservedCondition

def references (condition : ObservedCondition) : List Reference :=
  condition.evidenceRefs.map .evidence ++ condition.artifactRefs.map .artifact

def identity (condition : ObservedCondition) : AttentionKind × String :=
  (condition.kind, condition.key)

def validate (condition : ObservedCondition) (location : String) :
    Checks Unit := do
  requireKey condition.key (location ++ ".key")
  requireAtLeast condition.revision 1 (location ++ ".revision")
  requireStr condition.detail (location ++ ".detail") maxConditionDetailChars
  requireEvidence condition.evidenceRefs location maxReferenceList
  requireArtifacts condition.artifactRefs location maxReferenceList

def asJson (condition : ObservedCondition) : Json :=
  .object [("kind", .text condition.kind.text), ("key", .text condition.key),
    ("revision", .ofNat condition.revision), ("detail", .text condition.detail), ("evidence_refs",
      Json.listOf (fun held => (Reference.evidence held).asJson)
        condition.evidenceRefs), ("artifact_refs",
      Json.listOf (fun held => (Reference.artifact held).asJson) condition.artifactRefs)]

end ObservedCondition

/-- Content identity of one validated condition. -/
def conditionDigest [JsonDigest] (condition : ObservedCondition) : String :=
  jsonDigest condition.asJson

/-! ## The observation -/

structure MissionObservation where
  missionId : String
  currentRevision : Nat
  proposalDigestSha256 : String
  lifecycleState : LifecycleState
  authorizationDigestSha256 : Option String
  stateCursor : String
  repositoryUrl : Option String
  conditions : List ObservedCondition
  evidenceRefs : List EvidenceReference
  artifactRefs : List ArtifactReference
  observedAt : Nat
  source : String
  deriving DecidableEq

namespace MissionObservation

/-- The revision and the cursor number that the observation stands at. -/
def pair (observed : MissionObservation) : Nat × Nat :=
  (observed.currentRevision, cursorNumber observed.stateCursor)

def references (observed : MissionObservation) : List Reference :=
  observed.evidenceRefs.map .evidence ++ observed.artifactRefs.map .artifact

/-- The observation's own record for a reference id. -/
def reference (observed : MissionObservation) (referenceId : String) : Option Reference :=
  observed.references.find? (·.referenceId = referenceId)

/-- A condition cites the observation's own records, byte for byte. -/
def requireCited (observed : MissionObservation) (cited : Reference)
    (location : String) : Checks Unit :=
  failAt (observed.reference cited.referenceId ≠ some cited) .observationInconsistent location

instance (identity : AttentionKind × String) (identities : List (AttentionKind × String)) :
    Decidable (identity ∈ identities) := inferInstance

/-- One condition of an observation, after those with the given identities. -/
def validateObserved (observed : MissionObservation) (location : String)
    (identities : List (AttentionKind × String)) (entry : ObservedCondition × Nat) :
    Checks (List (AttentionKind × String)) := do
  let place := s!"{location}.conditions[{entry.2}]"
  entry.1.validate place
  failAt (entry.1.revision ≠ observed.currentRevision) .observationInconsistent place
  failAt (entry.1.identity ∈ identities) .observationInconsistent place
  checkAll (observed.requireCited · place) entry.1.references
  pure (identities ++ [entry.1.identity])

def validate (observed : MissionObservation) (location : String) :
    Checks Unit := do
  requireId observed.missionId .mission (location ++ ".mission_id")
  requireAtLeast observed.currentRevision 1 (location ++ ".current_revision")
  requireHex observed.proposalDigestSha256 (location ++ ".proposal_digest_sha256") 64
  requireOptionalHex observed.authorizationDigestSha256
    (location ++ ".authorization_digest_sha256") 64
  requireCursor observed.stateCursor (location ++ ".state_cursor")
  checkOptional (requireRepositoryUrl · (location ++ ".repository_url")) observed.repositoryUrl
  failAt (observed.conditions.length > maxObservedConditions) .tooLarge (location ++ ".conditions")
  requireEvidence observed.evidenceRefs location maxObservedReferences
  requireArtifacts observed.artifactRefs location maxObservedReferences
  requireStr observed.source (location ++ ".source") maxObservationSourceChars
  checkAll (fun held => failAt (held.isLater observed.observedAt = true)
    .observationInconsistent location) observed.references
  let _ ← foldChecked (observed.validateObserved location) []
    observed.conditions.zipIdx
  pure ()

end MissionObservation

/-- The durable record of one read: the point, and every content digest that a
later read at the same point must reproduce. -/
structure ObservationPoint where
  revision : Nat
  cursor : String
  proposalDigestSha256 : String
  authorizationDigestSha256 : Option String
  lifecycleState : LifecycleState
  conditionSetDigestSha256 : String
  referenceSetDigestSha256 : String
  deriving DecidableEq

section

variable [JsonDigest]

def conditionSetDigest (observed : MissionObservation) : String :=
  jsonDigest (Json.listOf Json.text (sortedBy id (observed.conditions.map conditionDigest)))

def referenceSetDigest (observed : MissionObservation) : String :=
  jsonDigest (Json.listOf Json.text
    (sortedBy id (observed.references.map fun held => jsonDigest held.asJson)))

def pointOf (observed : MissionObservation) : ObservationPoint where
  revision := observed.currentRevision
  cursor := observed.stateCursor
  proposalDigestSha256 := observed.proposalDigestSha256
  authorizationDigestSha256 := observed.authorizationDigestSha256
  lifecycleState := observed.lifecycleState
  conditionSetDigestSha256 := conditionSetDigest observed
  referenceSetDigestSha256 := referenceSetDigest observed

def observationPoint (observed : MissionObservation) :
    Checks ObservationPoint := do
  observed.validate "observation"
  pure (pointOf observed)

@[simp] theorem observationPoint_eq_ok {observed : MissionObservation}
    {point : ObservationPoint} :
    observationPoint observed = .ok point ↔
      observed.validate "observation" = .ok () ∧ pointOf observed = point := by
  simp only [observationPoint, bind_eq_ok, exists_passed, pure_eq_ok]

end

def validateObservationPoint (value : ObservationPoint) (location : String) :
    Checks Unit := do
  requireAtLeast value.revision 1 (location ++ ".revision")
  requireCursor value.cursor (location ++ ".cursor")
  requireHex value.proposalDigestSha256 (location ++ ".proposal_digest_sha256") 64
  requireOptionalHex value.authorizationDigestSha256 (location ++ ".authorization_digest_sha256") 64
  requireHex value.conditionSetDigestSha256 (location ++ ".condition_set_digest_sha256") 64
  requireHex value.referenceSetDigestSha256 (location ++ ".reference_set_digest_sha256") 64

structure PointValid (value : ObservationPoint) : Prop where
  revision : 1 ≤ value.revision
  cursor : IsCursor value.cursor
  proposal : IsHex value.proposalDigestSha256 64
  authorization : ∀ held, value.authorizationDigestSha256 = some held → IsHex held 64
  conditions : IsHex value.conditionSetDigestSha256 64
  references : IsHex value.referenceSetDigestSha256 64

variable {location : String} {passed : Unit}

@[simp] theorem validateObservationPoint_eq_ok {value : ObservationPoint} :
    validateObservationPoint value location = .ok passed ↔ PointValid value := by
  simp only [validateObservationPoint, bind_eq_ok, exists_passed,
    requireAtLeast_eq_ok, requireCursor_eq_ok, requireHex_eq_ok, requireOptionalHex_eq_ok]
  constructor
  · rintro ⟨hrevision, hcursor, hproposal, hauthorization, hconditions, hreferences⟩
    exact ⟨hrevision, hcursor, hproposal, hauthorization, hconditions, hreferences⟩
  · rintro ⟨hrevision, hcursor, hproposal, hauthorization, hconditions, hreferences⟩
    exact ⟨hrevision, hcursor, hproposal, hauthorization, hconditions, hreferences⟩

/-- The levels that a reference id admits. -/
def allowedLevels (referenceId : String) : Option (List ReferenceLevel) :=
  if isId .evidence referenceId then some evidenceReferenceLevels
  else if isId .artifact referenceId then some artifactReferenceLevels
  else none

/-- The one place where a citation is checked against what the observation
positively proves. -/
def requireReferenceLevel (observed : MissionObservation) (referenceId : String)
    (level : ReferenceLevel) (location : String) : Checks Reference := do
  observed.validate "observation"
  let allowed ← orFailAt (allowedLevels referenceId) .idGrammar location
  failAt (level ∉ allowed) .badValue location
  let own ← orFailAt (observed.reference referenceId) .referenceNotMissionLocal
    location
  failAt (own.proves level observed.observedAt = false) .referenceNotProven location
  pure own

/-! ## Outcomes and freshness -/

/-- The source's answer.  A misshapen one stands for a value that the types here
exclude, with the refusal that its validation raises. -/
inductive ObservationOutcome where
  | observed (observation : MissionObservation)
  | absent
  | unavailable (problem : String)
  | misshapen (refusal : Refusal)

/-- What asking the source comes to: it answers, raises, or returns something
else. -/
inductive Answer where
  | returned (outcome : ObservationOutcome)
  | raised (className : String)
  | foreign (typeName : String)

/-- The source is not trusted: what is no outcome is an unavailable one. -/
def observeSafely : Answer → ObservationOutcome
  | .returned outcome => outcome
  | .raised className => .unavailable s!"observation source raised {className}"
  | .foreign typeName => .unavailable
      s!"observation source returned {typeName}, not an ObservationOutcome"

/-- The durable floor of one Mission. -/
structure HighWaterMark where
  revision : Nat
  cursor : String
  point : Option ObservationPoint
  deriving DecidableEq

namespace HighWaterMark

def pair (mark : HighWaterMark) : Nat × Nat :=
  (mark.revision, cursorNumber mark.cursor)

def validate (mark : HighWaterMark) (location : String) : Checks Unit := do
  requireAtLeast mark.revision 1 (location ++ ".revision")
  requireCursor mark.cursor (location ++ ".cursor")
  checkOptional (fun point : ObservationPoint => do
    validateObservationPoint point (location ++ ".point")
    failAt (point.revision ≠ mark.revision ∨ point.cursor ≠ mark.cursor) .badValue
      location) mark.point

end HighWaterMark

structure FreshnessResult where
  freshness : Freshness
  observation : Option MissionObservation
  problem : Option String
  deriving DecidableEq

/-- One pair of revision and cursor number is behind another. -/
def isBehind (pair floor : Nat × Nat) : Bool :=
  pair.1 < floor.1 ∨ (pair.1 = floor.1 ∧ pair.2 < floor.2)

section

variable [JsonDigest] [Wording]

/-- The first content fact that a read at the floor's exact point fails to
reproduce. -/
def samePointDisagreement (observed : MissionObservation)
    (held : ObservationPoint) : Option String :=
  if observed.proposalDigestSha256 ≠ held.proposalDigestSha256 then
    some "proposal digest"
  else if observed.authorizationDigestSha256 ≠ held.authorizationDigestSha256 then
    some "authorization digest"
  else if observed.lifecycleState ≠ held.lifecycleState then
    some "lifecycle state"
  else if conditionSetDigest observed ≠ held.conditionSetDigestSha256 then
    some "condition set"
  else if referenceSetDigest observed ≠ held.referenceSetDigestSha256 then
    some "reference set or reference provenance"
  else none

/-- Why a validated observation is behind the floor or equivocates at it. -/
def floorProblem (observed : MissionObservation) (floor : HighWaterMark) :
    Option (Freshness × String) :=
  if isBehind observed.pair floor.pair then
    some (.stale, s!"observation at revision {observed.currentRevision} cursor " ++
      s!"{observed.stateCursor} is behind the durable point revision " ++
      s!"{floor.revision} cursor {floor.cursor}")
  else if observed.pair = floor.pair then
    (floor.point.bind (samePointDisagreement observed)).map fun name =>
      (.inconsistent, s!"same point revision {floor.revision} cursor " ++
        s!"{floor.cursor} but a different {name} than durably recorded; " ++
        "the source equivocates")
  else none

/-- Why a validated observation of a Mission is not fresh. -/
def notFresh (observed : MissionObservation) (now : Nat)
    (floor : Option HighWaterMark) : Option (Freshness × String) :=
  if observed.observedAt > now then
    some (.inconsistent, s!"observed_at {observed.observedAt} is later than now {now}")
  else match floor.bind (floorProblem observed) with
    | some problem => some problem
    | none =>
        if now - observed.observedAt > maxObservationAgeSeconds then
          some (.stale, s!"observation is {now - observed.observedAt} seconds old; " ++
            s!"the bound is {maxObservationAgeSeconds}")
        else none

/-- What a refused value is classified as. -/
def refusedAs (refusal : Refusal) : FreshnessResult :=
  if refusal.problem = .observationInconsistent then
    ⟨.inconsistent, none, describe refusal⟩
  else ⟨.unavailable, none, describe refusal⟩

/-- The classification of an observation, validated on receipt. -/
def classifyObserved (observed : MissionObservation) (now : Nat)
    (missionId : String) (floor : Option HighWaterMark) : FreshnessResult :=
  match observed.validate "observation" with
  | .error refusal => refusedAs refusal
  | .ok () =>
      if observed.missionId ≠ missionId then
        ⟨.inconsistent, none, s!"asked for mission {missionId} but the source " ++
          s!"answered for {observed.missionId}"⟩
      else match notFresh observed now floor with
        | some (freshness, problem) => ⟨freshness, observed, problem⟩
        | none => ⟨.fresh, observed, none⟩

def classifyOutcome (now : Nat) (missionId : String)
    (floor : Option HighWaterMark) : ObservationOutcome → FreshnessResult
  | .observed observed => classifyObserved observed now missionId floor
  | .absent =>
      ⟨.absent, none, s!"the source states mission {missionId} does not exist"⟩
  | .unavailable problem =>
      match requireStr problem "outcome.problem" maxDetailChars with
      | .error refusal => refusedAs refusal
      | .ok () => ⟨.unavailable, none, problem⟩
  | .misshapen refusal => refusedAs refusal

/-- The freshness of an outcome at `now` against the durable floor. -/
def classify (outcome : ObservationOutcome) (now : Nat) (missionId : String)
    (floor : Option HighWaterMark) : Checks FreshnessResult := do
  requireId missionId .mission "mission_id"
  checkOptional (·.validate "high_water_mark") floor
  pure (classifyOutcome now missionId floor outcome)

end

/-! ## What a validated observation carries -/

theorem isHex_digest [HexDigest] (value : Json) : IsHex (jsonDigest value) 64 := by
  have hlength := HexDigest.length_digest value
  refine ⟨⟨fun hempty => ?_, hlength.le⟩, hlength, HexDigest.hex_digest value⟩
  rw [hempty] at hlength
  cases hlength

/-- The facts of an observation that the records made from it rely on. -/
structure ObservationValid (observed : MissionObservation) : Prop where
  missionId : isId .mission observed.missionId = true
  revision : 1 ≤ observed.currentRevision
  proposal : IsHex observed.proposalDigestSha256 64
  authorization : ∀ held, observed.authorizationDigestSha256 = some held → IsHex held 64
  cursor : IsCursor observed.stateCursor
  keys : ∀ condition ∈ observed.conditions, IsKey condition.key
  distinct : (observed.conditions.map ObservedCondition.identity).Nodup

variable {observed : MissionObservation}

theorem validateObserved_fold
    {conditions : List ObservedCondition} {start : Nat}
    {identities result : List (AttentionKind × String)} (hbefore : identities.Nodup)
    (h : foldChecked (observed.validateObserved location) identities
      (conditions.zipIdx start) = .ok result) : (∀ condition ∈ conditions, IsKey condition.key) ∧
      (identities ++ conditions.map ObservedCondition.identity).Nodup := by
  induction conditions generalizing start identities with
  | nil => simpa using hbefore
  | cons condition rest ih =>
      rw [List.zipIdx_cons, foldChecked_cons_eq_ok] at h
      obtain ⟨next, hnext, hrest⟩ := h
      simp only [MissionObservation.validateObserved, ObservedCondition.validate,
        bind_eq_ok, exists_passed, requireKey_eq_ok, failAt_eq_ok, pure_eq_ok] at hnext
      obtain ⟨⟨hkey, -⟩, -, hnew, -, rfl⟩ := hnext
      have hnodup : (identities ++ [condition.identity]).Nodup := by
        rw [← List.concat_eq_append, List.nodup_concat]
        exact ⟨hnew, hbefore⟩
      obtain ⟨hkeys, hdistinct⟩ := ih hnodup hrest
      constructor
      · rintro held hheld
        rcases List.mem_cons.mp hheld with rfl | hheld
        · exact hkey
        · exact hkeys held hheld
      · simpa using hdistinct

theorem observationValid (h : observed.validate location = .ok passed) :
    ObservationValid observed := by
  simp only [MissionObservation.validate, bind_eq_ok, exists_passed,
    requireId_eq_ok, requireAtLeast_eq_ok, requireHex_eq_ok,
    requireOptionalHex_eq_ok, requireCursor_eq_ok, pure_eq_ok] at h
  obtain ⟨hid, hrevision, hproposal, hauthorization, hcursor, -, -, -, -, -, -,
    identities, hfold, -⟩ := h
  obtain ⟨hkeys, hdistinct⟩ := validateObserved_fold List.nodup_nil hfold
  exact {
    missionId := hid
    revision := hrevision
    proposal := hproposal
    authorization := hauthorization
    cursor := hcursor
    keys := hkeys
    distinct := hdistinct }

theorem pointOf_valid [HexDigest]
    (h : ObservationValid observed) : PointValid (pointOf observed) where
  revision := h.revision
  cursor := h.cursor
  proposal := h.proposal
  authorization := h.authorization
  conditions := isHex_digest _
  references := isHex_digest _

/-! ## What a classification says -/

/-- The pair of revision and cursor number that a point stands at. -/
def ObservationPoint.pair (point : ObservationPoint) : Nat × Nat :=
  (point.revision, cursorNumber point.cursor)

/-- An observation of a Mission that was found fresh against a floor. -/
structure FreshOf [JsonDigest] (observed : MissionObservation)
    (missionId : String) (now : Nat) (floor : Option HighWaterMark) : Prop where
  valid : observed.validate "observation" = .ok ()
  own : observed.missionId = missionId
  past : observed.observedAt ≤ now
  young : now - observed.observedAt ≤ maxObservationAgeSeconds
  ahead : ∀ mark, floor = some mark → isBehind observed.pair mark.pair = false
  agrees : ∀ mark point, floor = some mark → mark.point = some point →
    observed.pair = mark.pair → samePointDisagreement observed point = none

section

variable [JsonDigest]

variable {observed : MissionObservation}

theorem samePointDisagreement_eq_none
    {held : ObservationPoint} (h : samePointDisagreement observed held = none)
    (hrevision : observed.currentRevision = held.revision)
    (hcursor : observed.stateCursor = held.cursor) : pointOf observed = held := by
  unfold samePointDisagreement at h
  split at h
  · cases h
  split at h
  · cases h
  split at h
  · cases h
  split at h
  · cases h
  split at h
  · cases h
  rename_i hproposal hauthorization hlifecycle hconditions hreferences
  rw [ne_eq, not_not] at hproposal hauthorization hlifecycle hconditions hreferences
  cases held
  simp only [pointOf, ObservationPoint.mk.injEq]
  exact ⟨hrevision, hcursor, hproposal, hauthorization, hlifecycle, hconditions, hreferences⟩

variable {floor : HighWaterMark}

theorem floorProblem_eq_none (h : floorProblem observed floor = none) :
    isBehind observed.pair floor.pair = false ∧
      ∀ point, floor.point = some point → observed.pair = floor.pair →
        samePointDisagreement observed point = none := by
  unfold floorProblem at h
  split at h
  · cases h
  rename_i hahead
  refine ⟨Bool.eq_false_iff.mpr hahead, fun point hpoint hpair => ?_⟩
  rw [if_pos hpair, hpoint] at h
  simpa using h

variable {freshness : Freshness} {problem : String}

theorem floorProblem_ne_fresh (h : floorProblem observed floor = some (freshness, problem)) :
    freshness ≠ .fresh := by
  unfold floorProblem at h
  split at h
  · cases h
    simp
  split at h
  · rw [Option.map_eq_some_iff] at h
    obtain ⟨name, -, heq⟩ := h
    cases heq
    simp
  · cases h

variable {now : Nat}

theorem notFresh_ne_fresh
    {floor : Option HighWaterMark}
    (h : notFresh observed now floor = some (freshness, problem)) :
    freshness ≠ .fresh := by
  unfold notFresh at h
  split at h
  · cases h
    simp
  split at h
  · rename_i found hfound
    obtain ⟨mark, -, hproblem⟩ := Option.bind_eq_some_iff.mp hfound
    exact floorProblem_ne_fresh (hproblem.trans h)
  split at h
  · cases h
    simp
  · cases h

theorem freshOf_of_notFresh
    {floor : Option HighWaterMark} (hvalid : observed.validate "observation" = .ok ())
    (h : notFresh observed now floor = none) :
    FreshOf observed observed.missionId now floor := by
  unfold notFresh at h
  split at h
  · cases h
  rename_i hpast
  split at h
  · cases h
  rename_i hfloor
  split at h
  · cases h
  rename_i hyoung
  have hnone : ∀ mark, floor = some mark → floorProblem observed mark = none := by
    rintro mark rfl
    exact hfloor
  exact {
    valid := hvalid
    own := rfl
    past := Nat.not_lt.mp hpast
    young := Nat.not_lt.mp hyoung
    ahead := fun mark hmark => (floorProblem_eq_none (hnone mark hmark)).1
    agrees := fun mark point hmark hpoint hpair =>
      (floorProblem_eq_none (hnone mark hmark)).2 point hpoint hpair }

end

section

variable [JsonDigest] [Wording]

/-- What a classification for a Mission carries: an observation of that Mission,
if any, and a fresh one was found fresh. -/
structure Classified (missionId : String) (now : Nat)
    (floor : Option HighWaterMark) (outcome : ObservationOutcome)
    (result : FreshnessResult) : Prop where
  own : ∀ observed, result.observation = some observed →
    observed.missionId = missionId ∧ outcome = .observed observed
  fresh : result.freshness = .fresh → ∃ observed,
    result.observation = some observed ∧ FreshOf observed missionId now floor
  told : result.freshness ≠ .fresh → result.problem ≠ none

variable {missionId : String} {now : Nat} {floor : Option HighWaterMark}
  {outcome : ObservationOutcome}

theorem classified_refusedAs (refusal : Refusal) :
    Classified missionId now floor outcome (refusedAs refusal) := by
  unfold refusedAs
  split <;> constructor <;> simp

theorem classified_observed (observed : MissionObservation) (now : Nat)
    (missionId : String) (floor : Option HighWaterMark) :
    Classified missionId now floor (.observed observed)
      (classifyObserved observed now missionId floor) := by
  unfold classifyObserved
  split
  · exact classified_refusedAs _
  rename_i hvalid
  split
  · constructor <;> simp
  rename_i hown
  rw [ne_eq, not_not] at hown
  split
  · rename_i freshness problem hproblem
    have hstale := notFresh_ne_fresh hproblem
    constructor
    · rintro seen hseen
      cases hseen
      exact ⟨hown, rfl⟩
    · intro hfresh
      exact absurd hfresh hstale
    · simp
  · rename_i hnone
    constructor
    · rintro seen hseen
      cases hseen
      exact ⟨hown, rfl⟩
    · intro _
      exact ⟨observed, rfl, hown ▸ freshOf_of_notFresh hvalid hnone⟩
    · simp

theorem classified_outcome (outcome : ObservationOutcome) (now : Nat)
    (missionId : String) (floor : Option HighWaterMark) : Classified missionId now floor outcome
      (classifyOutcome now missionId floor outcome) := by
  cases outcome with
  | observed observed => exact classified_observed observed now missionId floor
  | absent => constructor <;> simp [classifyOutcome]
  | unavailable problem =>
      simp only [classifyOutcome]
      split
      · exact classified_refusedAs _
      · constructor <;> simp
  | misshapen refusal => exact classified_refusedAs refusal

theorem classify_eq_ok
    {result : FreshnessResult} (h : classify outcome now missionId floor = .ok result) :
    isId .mission missionId = true ∧
      Classified missionId now floor outcome result := by
  simp only [classify, bind_eq_ok, exists_passed, requireId_eq_ok, pure_eq_ok] at h
  obtain ⟨hid, -, rfl⟩ := h
  exact ⟨hid, classified_outcome ..⟩

end

/-! ## A sample -/

def sampleMissionId : String := "mn-00000000000000000000000000000000"

def sampleNullDigest : String :=
  "aaaaaaaaaaaaaaaaaaaaaaaaaaaaaaaaaaaaaaaaaaaaaaaaaaaaaaaaaaaaaaaa"
def sampleOtherDigest : String :=
  "bbbbbbbbbbbbbbbbbbbbbbbbbbbbbbbbbbbbbbbbbbbbbbbbbbbbbbbbbbbbbbbb"

/-- The last field of the value is null. -/
def endsInNull : Json → Bool
  | .object fields =>
      match fields.getLast? with
      | some (_, .null) => true
      | _ => false
  | _ => false

/-- A digest that tells values whose last field is null from others. -/
@[reducible] def sampleHexDigest : HexDigest where
  jsonDigest value := if endsInNull value then sampleNullDigest else sampleOtherDigest
  length_digest value := by
    split
    · decide +kernel
    · decide +kernel
  hex_digest value := by
    split
    · decide +kernel
    · decide +kernel

def sampleContext : AuthenticatedContext where
  transport := "cli"
  principalKind := .localProcessUser
  principalRef := "lead"
  configuredSubject := none

def sampleObservation : MissionObservation where
  missionId := sampleMissionId
  currentRevision := 1
  proposalDigestSha256 := sampleNullDigest
  lifecycleState := .running
  authorizationDigestSha256 := none
  stateCursor := "1"
  repositoryUrl := none
  conditions := []
  evidenceRefs := []
  artifactRefs := []
  observedAt := 0
  source := "core"

theorem sampleObservation_valid :
    sampleObservation.validate "observation" = .ok () := by
  decide +kernel

end DodgingInfinity.Coordination
