import DodgingInfinity.MissionCore.State
import Mathlib.Data.List.MinMax

/-!
# Evaluators over a Mission State record

Every function here is a function of its arguments and nothing else.  The
as-of projection undoes what later operations annotated; proof, readiness,
dependencies, budget, closure and checkpoints are judged over a record and a
clock.
-/

namespace DodgingInfinity.MissionCore

/-! ## Projection -/

/-- What had been accepted at a sequence, by the stamp of each record. -/
def keepAsOf {α : Type} (stamp : α → Stamp) (items : List α) (sequence : Nat) : List α :=
  items.filter fun item => (stamp item).sequence ≤ sequence

def eventAsOf {α : Type} (stamp : α → Stamp) (event : Option α) (sequence : Nat) : Option α :=
  event.filter fun held => (stamp held).sequence ≤ sequence

def Evidence.asOf (evidence : Evidence) (sequence : Nat) : Evidence :=
  { evidence with
    acceptance := eventAsOf Acceptance.stamp evidence.acceptance sequence
    invalidation := eventAsOf Invalidation.stamp evidence.invalidation sequence }

def Blocker.asOf (blocker : Blocker) (sequence : Nat) : Blocker :=
  { blocker with
    resolution := eventAsOf Resolution.stamp blocker.resolution sequence }

def Dependency.asOf (dependency : Dependency) (sequence : Nat) : Dependency :=
  { dependency with
    resolution := eventAsOf Resolution.stamp dependency.resolution sequence }

/-- The record with every later record and nested event dropped; its progress
still that of the later record. -/
def recordsAsOf (state : StateRecord) (sequence : Nat) : StateRecord :=
  { state with
    contractActivations :=
      keepAsOf Activation.stamp state.contractActivations sequence
    claims := keepAsOf Claim.stamp state.claims sequence
    artifacts := keepAsOf Artifact.stamp state.artifacts sequence
    evidence := (keepAsOf Evidence.stamp state.evidence sequence).map
      fun evidence => evidence.asOf sequence
    blockers := (keepAsOf Blocker.stamp state.blockers sequence).map
      fun blocker => blocker.asOf sequence
    dependencies := (keepAsOf Dependency.stamp state.dependencies sequence).map
      fun dependency => dependency.asOf sequence
    resourceReadiness :=
      keepAsOf ReadinessObservation.stamp state.resourceReadiness sequence
    checkpoints := keepAsOf Checkpoint.stamp state.checkpoints sequence
    continuations := keepAsOf Continuation.stamp state.continuations sequence
    appliedOperations := state.appliedOperations.filter fun entry => entry.sequence ≤ sequence
    closure := eventAsOf Closure.stamp state.closure sequence
    sequence := sequence }

/-- The progress a record's own events derive. -/
def derivedProgress (state : StateRecord) : Progress :=
  match state.closure with
  | some closure => closure.progress
  | none =>
      if state.contractActivations = [] then .notStarted
      else if activeHardBlockers state ≠ [] then .blocked
      else .inProgress

def lastAppliedAt (state : StateRecord) : Nat :=
  match state.appliedOperations.getLast? with
  | some entry => entry.appliedAt
  | none => state.createdAt

/-- The state holding only what had been accepted at a sequence. -/
def stateAsOf (state : StateRecord) (sequence : Nat) : StateRecord :=
  let projected := recordsAsOf state sequence
  { projected with
    updatedAt := lastAppliedAt projected
    progress := derivedProgress projected }

/-! ## Proof -/

def artifactCovers (artifact : Option Artifact) (declared : RequiredArtifact) : Bool :=
  match artifact with
  | none => false
  | some held =>
      held.key = some declared.key ∧ held.role = declared.role ∧ held.available ∧
        held.contentDigestSha256 = some declared.expectedContentDigestSha256

def requiredArtifactIndex (contract : ProofContract) : Dict String RequiredArtifact :=
  .ofEntries (contract.requiredArtifacts.map fun artifact =>
    (artifact.key, artifact))

/-- Whether the evidence references an artifact that covers a required key.
A validated contract declares every key its requirements name. -/
def referencesRequired (contract : ProofContract) (evidence : Evidence)
    (state : StateRecord) (key : String) : Bool :=
  match (requiredArtifactIndex contract).get? key with
  | none => false
  | some declared => evidence.artifactIds.any fun artifactId =>
      artifactCovers (artifactById state artifactId) declared

/-- Why an accepted record does not match its requirement. -/
inductive EvidenceMismatch where
  | kindNotDeclared
  | acceptedDigest
  | requiredArtifact (key : String)
  deriving DecidableEq

def evidenceMismatch (contract : ProofContract) (requirement : Requirement)
    (evidence : Evidence) (state : StateRecord) : Option EvidenceMismatch :=
  if evidence.kind ∉ requirement.evidenceKinds ∨
      evidence.kind.satisfying = false then some .kindNotDeclared
  else if evidence.acceptance.map Acceptance.contentDigestSha256 ≠
      some evidence.contentDigestSha256 then some .acceptedDigest
  else (requirement.requiredArtifactKeys.find? fun key =>
    referencesRequired contract evidence state key = false).map .requiredArtifact

/-- The acceptance recorded last among accepted evidence. -/
def latestAcceptance (accepted : List Evidence) : Option Acceptance :=
  (accepted.filterMap Evidence.acceptance).argmax fun acceptance =>
    acceptance.stamp.sequence

/-- Whether a recorded time is in the future of the clock or older than its
bound. -/
def outsideAge (now recordedAt maxAgeSeconds : Nat) : Bool :=
  let age : Int := (now : Int) - recordedAt
  age < 0 ∨ age > maxAgeSeconds

def requirementCandidates (requirement : Requirement) (state : StateRecord)
    (activationId : String) : List Evidence :=
  state.evidence.filter fun evidence =>
    evidence.requirementKey = requirement.key ∧ evidence.activationId = activationId

def requirementStatus (contract : ProofContract) (requirement : Requirement)
    (state : StateRecord) (activationId : String) (now : Nat) : RequirementStatus :=
  let candidates := requirementCandidates requirement state activationId
  let accepted := candidates.filter isAccepted
  if candidates = [] then .missing
  else if accepted = [] then
    if ∃ evidence ∈ candidates,
        evidence.acceptance = none ∧ evidence.invalidation = none then
      .submittedNotAccepted
    else .invalidated
  else if (accepted.map Evidence.contentDigestSha256).dedup.length > 1 then
    .contradicted
  else if ∃ evidence ∈ accepted,
      evidenceMismatch contract requirement evidence state ≠ none then
    .mismatched
  else
    match latestAcceptance accepted with
    | none => .invalidated
    | some latest =>
        if outsideAge now latest.acceptedAt requirement.maxEvidenceAgeSeconds
        then .stale
        else .satisfied

/-- The latest artifact record of a contract key. -/
def latestArtifact (state : StateRecord) (key : String) : Option Artifact :=
  state.artifacts.reverse.find? fun artifact => artifact.key = some key

def evaluateProof (contract : ProofContract) (state : StateRecord)
    (activationId : String) (now : Nat) : ProofEvaluation :=
  let statuses := Dict.ofEntries (contract.requirements.map fun requirement =>
    (requirement.key, requirementStatus contract requirement state activationId now))
  { satisfied := statuses.values.all fun status => status = .satisfied
    requirements := statuses }

/-! ## Readiness -/

/-- The latest observation of a resource, in accepted order. -/
def latestObservation (state : StateRecord) (resourceKey : String) : Option ReadinessObservation :=
  state.resourceReadiness.reverse.find? fun observation =>
    observation.resourceKey = resourceKey

def resourceReady (state : StateRecord) (required : RequiredReadiness) (now : Nat) : Bool :=
  match latestObservation state required.resourceKey with
  | none => false
  | some observation =>
      observation.status = .ready ∧
        outsideAge now observation.observedAt required.maxAgeSeconds = false

def readiness (contract : ProofContract) (state : StateRecord) (now : Nat) : ReadinessEvaluation :=
  let resources := Dict.ofEntries
    (contract.requiredResourceReadiness.map fun required =>
      (required.resourceKey,
        if resourceReady state required now then ReadinessStatus.ready
        else .notReady))
  { satisfied := resources.values.all fun status => status = .ready
    resources := resources }

/-! ## Dependencies -/

def boundDependency (state : StateRecord) (activationId key : String) : Option Dependency :=
  state.dependencies.find? fun dependency =>
    dependency.activationId = activationId ∧ dependency.key = some key

def slotStatus (state : StateRecord) (activationId key : String) : SlotStatus :=
  match boundDependency state activationId key with
  | none => .unbound
  | some dependency =>
      if dependency.resolution = none then .boundUnresolved else .resolved

def dependencyStatus (contract : ProofContract) (state : StateRecord)
    (activationId : String) : DependencyEvaluation :=
  let slots := Dict.ofEntries (contract.requiredDependencies.map fun slot =>
    (slot.key, slotStatus state activationId slot.key))
  { satisfied := slots.values.all fun status => status = .resolved
    slots := slots }

/-- What the prerequisite checks read of one Mission. -/
structure RegistryEntry where
  currentRevision : Nat
  revisionDigests : Dict Nat String
  progress : Option Progress
  closureActivationId : Option String
  closureRevision : Option Nat
  closureProposalDigestSha256 : Option String
  deriving DecidableEq

abbrev Registry := Dict String RegistryEntry

/-- Does the reference satisfy the approved target exactly? -/
def targetMatches (target : DependencyTarget) (reference : String) (registry : Registry) : Bool :=
  match target with
  | .exactResource resourceKey => reference = resourceKey
  | .exactMission missionId revision digest =>
      match registry.get? reference with
      | none => false
      | some entry => reference = missionId ∧
          entry.revisionDigests.get? revision = some digest
  | .eligibility digest =>
      match registry.get? reference with
      | none => false
      | some entry =>
          entry.revisionDigests.get? entry.currentRevision = some digest

/-- The current revision of a prerequisite, when it still is what the approved
target names. -/
def currentTargetRevision (target : DependencyTarget) (entry : RegistryEntry) : Option Nat :=
  match target with
  | .exactMission _ revision _ =>
      if entry.currentRevision ≠ revision then none
      else some entry.currentRevision
  | .eligibility digest =>
      if entry.revisionDigests.get? entry.currentRevision ≠ some digest then none
      else some entry.currentRevision
  | .exactResource _ => none

/-- Why successful closure is not eligible, with what each reason reports. -/
inductive ClosureFailure where
  | proofNotSatisfied (requirements : List (String × RequirementStatus))
  | requiredArtifactUnavailable (key : String) (recorded : Bool)
  | hardBlockerActive (blockerIds : List String)
  | dependencyUnresolved (slots : List (String × SlotStatus))
  | resourceNotReady (resourceKeys : List String)
  | dependencyTargetMismatch (key reference : String) (resource : Bool)
  | prerequisiteDrifted (reference key : String) (currentRevision : Nat)
  | prerequisiteNotComplete (reference key : String)
      (progress : Option Progress) (closureRevision : Option Nat)
      (requiredRevision : Nat)
  deriving DecidableEq

def ClosureFailure.problem : ClosureFailure → Problem
  | proofNotSatisfied _ => .proofNotSatisfied
  | requiredArtifactUnavailable .. => .requiredArtifactUnavailable
  | hardBlockerActive _ => .hardBlockerActive
  | dependencyUnresolved _ => .dependencyUnresolved
  | resourceNotReady _ => .resourceNotReady
  | dependencyTargetMismatch .. => .dependencyTargetMismatch
  | prerequisiteDrifted .. => .prerequisiteDrifted
  | prerequisiteNotComplete .. => .prerequisiteNotComplete

/-- Python's `repr` of a contract key or an id: their alphabets hold no
character it escapes. -/
def quoted (name : String) : String := "'" ++ name ++ "'"

/-- Python's `str` of an optional value. -/
def orNone {α : Type} (text : α → String) : Option α → String
  | none => "None"
  | some value => text value

def ClosureFailure.detail : ClosureFailure → String
  | proofNotSatisfied requirements =>
      "requirements not satisfied: " ++ ", ".intercalate
        (requirements.map fun entry => entry.1 ++ "=" ++ entry.2.text)
  | requiredArtifactUnavailable key recorded =>
      "required artifact " ++ quoted key ++ " is " ++
        if recorded then
          "recorded but not available with the approved role and digest"
        else "not recorded"
  | hardBlockerActive blockerIds =>
      "active HARD blockers: " ++ ", ".intercalate blockerIds
  | dependencyUnresolved slots =>
      "required dependency slots not resolved: " ++ ", ".intercalate
        (slots.map fun entry => entry.1 ++ "=" ++ entry.2.text)
  | resourceNotReady resourceKeys =>
      "required resources not ready: " ++ ", ".intercalate resourceKeys
  | dependencyTargetMismatch key reference resource =>
      "slot " ++ quoted key ++ " is bound to " ++ quoted reference ++
        if resource then ", which is not the approved resource"
        else ", which does not match its approved target"
  | prerequisiteDrifted reference key currentRevision =>
      "prerequisite mission " ++ reference ++ " for slot " ++ quoted key ++
        " is now at revision " ++ toString currentRevision ++ ", which is not the approved target"
  | prerequisiteNotComplete reference key progress closureRevision required =>
      "prerequisite mission " ++ reference ++ " for slot " ++ quoted key ++
        " is " ++ orNone Progress.text progress ++ " and its closure is bound to revision " ++
        orNone toString closureRevision ++ ", not COMPLETED at revision " ++ toString required

/-- Every declared required artifact, judged by its latest record. -/
def requiredArtifactProblems (contract : ProofContract) (state : StateRecord) :
    List ClosureFailure :=
  contract.requiredArtifacts.filterMap fun declared =>
    let artifact := latestArtifact state declared.key
    if artifactCovers artifact declared then none
    else some (.requiredArtifactUnavailable declared.key artifact.isSome)

/-- A prerequisite is completed when its closure is bound to the required
revision and to the proposal that revision carries. -/
def prerequisiteCompleted (entry : RegistryEntry) (requiredRevision : Nat) : Bool :=
  entry.progress = some .completed ∧ entry.closureActivationId ≠ none ∧
    entry.closureRevision = some requiredRevision ∧ entry.closureProposalDigestSha256 =
      entry.revisionDigests.get? requiredRevision

/-- Whether a target is the exact one of a Mission and its revision. -/
def DependencyTarget.isExactMission : DependencyTarget → Bool
  | exactMission .. => true
  | _ => false

/-- The closure-time check of one bound MISSION slot. -/
def missionPrerequisiteProblem (slot : RequiredDependency) (reference : String)
    (registry : Registry) : Option ClosureFailure :=
  match registry.get? reference with
  | none => some (.dependencyTargetMismatch slot.key reference false)
  | some entry =>
      if slot.target.isExactMission ∧
          targetMatches slot.target reference registry = false then
        some (.dependencyTargetMismatch slot.key reference false)
      else
        match currentTargetRevision slot.target entry with
        | none => some (.prerequisiteDrifted reference slot.key
            entry.currentRevision)
        | some required =>
            if prerequisiteCompleted entry required then none
            else some (.prerequisiteNotComplete reference slot.key
              entry.progress entry.closureRevision required)

/-- The closure-time check of one slot; an unbound one is checked locally. -/
def prerequisiteProblem (state : StateRecord) (activationId : String)
    (registry : Registry) (slot : RequiredDependency) : Option ClosureFailure :=
  match boundDependency state activationId slot.key with
  | none => none
  | some dependency =>
      if slot.kind ≠ .mission then
        if targetMatches slot.target dependency.reference registry then none
        else some (.dependencyTargetMismatch slot.key dependency.reference true)
      else missionPrerequisiteProblem slot dependency.reference registry

def prerequisiteProblems (contract : ProofContract) (state : StateRecord)
    (activationId : String) (registry : Registry) : List ClosureFailure :=
  contract.requiredDependencies.filterMap (prerequisiteProblem state activationId registry)

/-! ## The dependency graph -/

/-- The Missions a state record depends on, resolved or not. -/
def missionReferences (state : StateRecord) : List String :=
  (state.dependencies.filter fun dependency =>
    dependency.kind = .mission).map Dependency.reference

inductive Colour where
  | white
  | grey
  | black
  deriving DecidableEq

/-- A depth-first walk: the colours, and the open nodes with the children each
still has to visit, the innermost first. -/
structure Walk where
  colour : Dict String Colour
  stack : List (String × List String)
  deriving DecidableEq

/-- The path from the start of a walk to its innermost open node. -/
def Walk.path (walk : Walk) : List String :=
  (walk.stack.map Prod.fst).reverse

/-- Skip the children without a record and those already finished. -/
def nextChild (colour : Dict String Colour) (children : List String) : List String :=
  children.dropWhile fun child =>
    colour.get? child = none ∨ colour.get? child = some .black

/-- One turn of the walk: open a child, close the innermost node, or report
the cycle an open child closes. -/
def walkStep (edges : Dict String (List String)) (walk : Walk) : Except (List String) Walk :=
  match walk.stack with
  | [] => .ok walk
  | (node, children) :: rest =>
      match nextChild walk.colour children with
      | [] => .ok {
          colour := walk.colour.set node .black
          stack := rest }
      | child :: others =>
          if walk.colour.get? child = some .grey then
            .error (walk.path.dropWhile (fun name => name ≠ child) ++ [child])
          else .ok {
            colour := walk.colour.set child .grey
            stack := (child, (edges.get? child).getD []) :: (node, others) :: rest }

/-- Every turn of a walk opens or closes a node, so twice the number of nodes
is always enough turns. -/
def walkFrom (edges : Dict String (List String)) :
    Nat → Walk → Except (List String) (Dict String Colour)
  | 0, walk => .ok walk.colour
  | turns + 1, walk =>
      match walk.stack with
      | [] => .ok walk.colour
      | _ => do
          let next ← walkStep edges walk
          walkFrom edges turns next

/-- Walk from every node not visited yet, in order. -/
def walkAll (edges : Dict String (List String)) :
    Dict String Colour → List String → Except (List String) (Dict String Colour)
  | colour, [] => .ok colour
  | colour, start :: rest =>
      if colour.get? start ≠ some .white then walkAll edges colour rest
      else do
        let visited ← walkFrom edges (2 * edges.entries.length + 1) {
          colour := colour.set start .grey
          stack := [(start, (edges.get? start).getD [])] }
        walkAll edges visited rest

def dependencyEdges (states : Dict String StateRecord) : Dict String (List String) :=
  .ofEntries ((sortedBy Prod.fst states.entries).map fun entry =>
    (entry.1, sortedBy id (missionReferences entry.2).dedup))

/-- Self-reference or a cycle among the MISSION dependencies of every state
record. -/
def dependencyGraphProblem (states : Dict String StateRecord) : Option Problem :=
  if ∃ entry ∈ states.entries, entry.1 ∈ missionReferences entry.2 then
    some .dependencySelf
  else
    let edges := dependencyEdges states
    match walkAll edges (.ofEntries (edges.keys.map fun name =>
        (name, Colour.white))) edges.keys with
    | .ok _ => none
    | .error _ => some .dependencyCycle

/-! ## Budget, closure, checkpoints -/

def countOperations (state : StateRecord) (kind : OperationKind) : Nat :=
  (state.appliedOperations.filter fun entry => entry.kind = kind).length

/-- Derived from the operation ledger, never from the effect records. -/
def budget (contract : ProofContract) (state : StateRecord) : CheckpointBudget :=
  let attempts := countOperations state .recordContinuation
  let checkpoints := countOperations state .recordCheckpoint
  { attemptsConsumed := attempts
    attemptsRemaining := contract.continuationBudget.maxAttempts - attempts
    checkpointsConsumed := checkpoints
    checkpointsRemaining :=
      contract.continuationBudget.maxCheckpoints - checkpoints }

def attemptsExhausted (contract : ProofContract) (state : StateRecord) : Bool :=
  countOperations state .recordContinuation ≥ contract.continuationBudget.maxAttempts

/-- The entries of an evaluation that fail it, sorted by key. -/
def unmet {α : Type} [DecidableEq α] (evaluation : Dict String α) (met : α) : List (String × α) :=
  sortedBy Prod.fst (evaluation.entries.filter fun entry => entry.2 ≠ met)

/-- A failure, when its check does not hold. -/
def failureUnless (satisfied : Bool) (failure : ClosureFailure) : List ClosureFailure :=
  if satisfied then [] else [failure]

/-- The locally provable half of closure eligibility, in fixed order. -/
def localClosureFailures (contract : ProofContract) (state : StateRecord)
    (activationId : String) (now : Nat) : List ClosureFailure :=
  let proof := evaluateProof contract state activationId now
  let hard := activeHardBlockers state
  let slots := dependencyStatus contract state activationId
  let ready := readiness contract state now
  failureUnless proof.satisfied (.proofNotSatisfied (unmet proof.requirements .satisfied)) ++
    requiredArtifactProblems contract state ++ failureUnless (hard = [])
      (.hardBlockerActive (hard.map Blocker.blockerId)) ++ failureUnless slots.satisfied
      (.dependencyUnresolved (unmet slots.slots .resolved)) ++ failureUnless ready.satisfied
      (.resourceNotReady ((unmet ready.resources .ready).map Prod.fst))

/-- Every reason successful closure is not eligible: the local half, then the
foreign one. -/
def closureFailures (contract : ProofContract) (state : StateRecord)
    (activationId : String) (now : Nat) (registry : Registry) : List ClosureFailure :=
  localClosureFailures contract state activationId now ++
    prerequisiteProblems contract state activationId registry

/-- Why a persisted closure is not provable. -/
inductive ClosureDoubt where
  | notComplete (failures : List ClosureFailure)
  | budgetNotExhausted (consumed maxAttempts : Nat)
  | noHardBlocker
  deriving DecidableEq

/-- Re-prove a persisted closure from the state as of its own sequence, with
its own time as the clock. -/
def closureProofProblem (contract : ProofContract) (state : StateRecord)
    (closure : Closure) : Option ClosureDoubt :=
  let asOf := stateAsOf state closure.stamp.sequence
  if closure.progress = .completed then
    let failures := localClosureFailures contract asOf
      (closure.activationId.getD "") closure.closedAt
    if failures = [] then none else some (.notComplete failures)
  else if closure.reason = .budgetExhausted then
    if attemptsExhausted contract asOf then none
    else some (.budgetNotExhausted (countOperations asOf .recordContinuation)
      contract.continuationBudget.maxAttempts)
  else if closure.reason = .hardBlocker then
    if activeHardBlockers asOf ≠ [] then none else some .noHardBlocker
  else none

def declaresMissionPrerequisite (contract : ProofContract) : Bool :=
  contract.requiredDependencies.any fun slot => slot.kind = .mission

/-- The refusal a checkpoint records once the attempts are consumed. -/
def exhaustedRefusal (contract : ProofContract) (state : StateRecord) :
    CheckpointRefusal where
  problem := .budgetExhausted
  detail := toString (countOperations state .recordContinuation) ++ " of " ++
    toString contract.continuationBudget.maxAttempts ++
    " continuation attempts consumed and proof is not complete; no retry is" ++
    " permitted and only unsuccessful closure remains"

def checkpointComplete (contract : ProofContract) (state : StateRecord)
    (activationId : String) (now : Nat) : Bool :=
  (evaluateProof contract state activationId now).satisfied ∧
    requiredArtifactProblems contract state = [] ∧ activeHardBlockers state = [] ∧
    (dependencyStatus contract state activationId).satisfied ∧
    (readiness contract state now).satisfied

/-- Exactly one of the next permitted step and the refusal. -/
def nextPermittedStep (contract : ProofContract) (state : StateRecord)
    (activationId : String) (now : Nat) : Option NextStep × Option CheckpointRefusal :=
  let proof := evaluateProof contract state activationId now
  if checkpointComplete contract state activationId now then
    if declaresMissionPrerequisite contract then
      (some .confirmPrerequisitesAndClose, none)
    else (some .closeCompleted, none)
  else if attemptsExhausted contract state then
    (none, some (exhaustedRefusal contract state))
  else if activeHardBlockers state ≠ [] then (some .resolveBlockers, none)
  else if (dependencyStatus contract state activationId).satisfied = false then
    (some .resolveDependencies, none)
  else if (readiness contract state now).satisfied = false then
    (some .observeResourceReadiness, none)
  else if .submittedNotAccepted ∈ proof.requirements.values then
    (some .acceptEvidence, none)
  else (some .submitEvidence, none)

def outstandingDependencyIds (state : StateRecord) : List String :=
  sortedBy id ((state.dependencies.filter fun dependency =>
    dependency.resolution = none).map Dependency.dependencyId)

def activeBlockerIds (state : StateRecord) : List String :=
  sortedBy id ((activeBlockers state).map Blocker.blockerId)

/-- The derived half of a checkpoint, from the approved contract and the local
accepted state. -/
def deriveCheckpointFields (contract : ProofContract) (state : StateRecord)
    (activationId : String) (now : Nat) : DerivedFields where
  activeBlockerIds := activeBlockerIds state
  outstandingDependencyIds := outstandingDependencyIds state
  budget := budget contract state
  nextPermittedStep := (nextPermittedStep contract state activationId now).1
  refusal := (nextPermittedStep contract state activationId now).2

end DodgingInfinity.MissionCore
