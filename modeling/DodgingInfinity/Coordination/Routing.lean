import DodgingInfinity.Coordination.Observation

/-!
# Conversation bindings

In this conversation, or durably for a repository, an issue, a project or an
alias, this selector meant that Mission, as observed at this revision.  At most
one binding that is not revoked holds an identity; an expired one keeps its own.
-/

namespace DodgingInfinity.Coordination

open Checked

inductive BindingKind where
  | aliasName
  | approvalPresentation
  | conversation
  | issue
  | project
  | replyToMessage
  | repository
  | resultPresentation
  deriving DecidableEq

/-- The kinds scoped to one conversation. -/
def conversationScopedKinds : List BindingKind :=
  [.approvalPresentation, .conversation, .replyToMessage, .resultPresentation]

def maxBindingsPerMission : Nat := 64
def maxBindingsPerConversation : Nat := 256
def maxBindingValiditySeconds : Nat := 315360000

structure Binding where
  bindingId : String
  kind : BindingKind
  transport : String
  conversationRef : Option String
  selector : String
  missionId : String
  boundRevision : Nat
  boundAt : Nat
  expiresAt : Option Nat
  revoked : Bool
  revokedAt : Option Nat
  boundBy : AuthenticatedContext
  observationPoint : ObservationPoint
  authority : String
  deriving DecidableEq

abbrev Bindings : Type := Dict String Binding

/-- What is before and after the last `#`, if there is one. -/
def splitLastHash (value : String) : Option (String × List Char) :=
  let number := (value.toList.reverse.takeWhile (· ≠ '#')).reverse
  if number.length = value.toList.length then none
  else some (String.ofList (value.toList.take
    (value.toList.length - number.length - 1)), number)

/-- The canonical repository URL and the issue number of an issue selector. -/
def splitIssueSelector (value location : String) : Checks (String × Nat) := do
  requireStr value location maxSelectorChars
  let (url, number) ← orFailAt (splitLastHash value) .badValue location
  failAt (number = [] ∨ (∃ digit ∈ number, digit ∉ decimalDigits) ∨
    number.head? = some '0') .badValue location
  requireRepositoryUrl url (location ++ " repository")
  pure (url, Canonical.decimalValue number)

/-- The canonical repository URL that a repository or issue binding names. -/
def repositoryOfSelector (bound : Binding) : Checks String :=
  if bound.kind = .repository then .ok bound.selector
  else (splitIssueSelector bound.selector "selector").map Prod.fst

def validateSelector (kind : BindingKind) (selector location : String) : Checks Unit :=
  match kind with
  | .approvalPresentation | .replyToMessage | .resultPresentation =>
      requireStr selector location maxMessageRefChars
  | .conversation => failAt (selector ≠ "") .badValue location
  | .repository => do
      requireStr selector location maxSelectorChars
      requireRepositoryUrl selector location
  | .issue => (splitIssueSelector selector location).map fun _ => ()
  | .project | .aliasName => requireKey selector location

/-- A scoped kind names a conversation, a durable lookup names none. -/
def validateConversation (kind : BindingKind) (conversationRef : Option String)
    (location : String) : Checks Unit :=
  if kind ∈ conversationScopedKinds then do
    let held ← orFailAt conversationRef .badType location
    requireStr held location maxConversationRefChars
  else failAt (conversationRef ≠ none) .badValue location

def validateBinding (value : Binding) (location : String) : Checks Unit := do
  requireId value.bindingId .binding (location ++ ".binding_id")
  requireTransport value.transport (location ++ ".transport")
  validateConversation value.kind value.conversationRef (location ++ ".conversation_ref")
  validateSelector value.kind value.selector (location ++ ".selector")
  requireId value.missionId .mission (location ++ ".mission_id")
  requireAtLeast value.boundRevision 1 (location ++ ".bound_revision")
  checkOptional (fun expires => do
    failAt (expires ≤ value.boundAt) .badValue (location ++ ".expires_at")
    failAt (expires - value.boundAt > maxBindingValiditySeconds) .tooLarge location)
    value.expiresAt
  failAt (value.revoked ≠ value.revokedAt.isSome) .badValue location
  failAt (∃ revokedAt ∈ value.revokedAt, revokedAt < value.boundAt) .badValue
    (location ++ ".revoked_at")
  requireContext value.boundBy (location ++ ".bound_by")
  validateObservationPoint value.observationPoint (location ++ ".observation_point")
  failAt (value.observationPoint.revision ≠ value.boundRevision) .badValue
    (location ++ ".bound_revision")
  requireAuthority value.authority location

/-- A validated binding made under an observation, which supplies the revision
and the point. -/
def newBinding [JsonDigest] (bindingId : String) (kind : BindingKind)
    (transport : String) (conversationRef : Option String)
    (selector missionId : String) (observed : MissionObservation)
    (boundAt : Nat) (expiresAt : Option Nat) (context : AuthenticatedContext) :
    Checks Binding := do
  requireContext context "context"
  observed.validate "observation"
  requireId missionId .mission "mission_id"
  failAt (observed.missionId ≠ missionId) .missionMismatch "binding"
  let bound : Binding := {
    bindingId := bindingId
    kind := kind
    transport := transport
    conversationRef := conversationRef
    selector := selector
    missionId := missionId
    boundRevision := observed.currentRevision
    boundAt := boundAt
    expiresAt := expiresAt
    revoked := false
    revokedAt := none
    boundBy := context
    observationPoint := pointOf observed
    authority := authorityNone }
  validateBinding bound "binding"
  pure bound

namespace Binding

def identity (bound : Binding) : BindingKind × String × Option String × String :=
  (bound.kind, bound.transport, bound.conversationRef, bound.selector)

def isExpired (bound : Binding) (now : Nat) : Bool :=
  bound.expiresAt.any (now ≥ ·)

/-- Not revoked and not expired at `now`. -/
def isActive (bound : Binding) (now : Nat) : Bool :=
  !bound.revoked && !bound.isExpired now

/-- A revoked copy; revocation is explicit and final. -/
def revoke (bound : Binding) (now : Nat) : Checks Binding := do
  validateBinding bound "binding"
  failAt (bound.revoked = true) .invalidTransition "binding"
  failAt (now < bound.boundAt) .badValue "binding"
  let revoked := { bound with revoked := true, revokedAt := some now }
  validateBinding revoked "binding"
  pure revoked

/-- A binding of one conversation, scoped to it and active. -/
def inConversation (transport conversationRef : String) (now : Nat) (bound : Binding) : Bool :=
  bound.kind ∈ conversationScopedKinds ∧ bound.transport = transport ∧
    bound.conversationRef = some conversationRef ∧ bound.isActive now = true

end Binding

/-- Every binding that is not revoked and holds the identity, in id order; an
expired one is among them. -/
def findBindings (bindings : Bindings)
    (identity : BindingKind × String × Option String × String) : List Binding :=
  ((byId bindings).map Prod.snd).filter fun bound =>
    bound.revoked = false ∧ bound.identity = identity

/-- Every active binding scoped to one conversation, in id order. -/
def conversationBindings (bindings : Bindings)
    (transport conversationRef : String) (now : Nat) : List Binding :=
  ((byId bindings).map Prod.snd).filter
    (Binding.inConversation transport conversationRef now)

/-- One binding, after those whose unrevoked identities are held. -/
def validateHeldBinding
    (held : List (BindingKind × String × Option String × String)) (entry : String × Binding) :
    Checks (List (BindingKind × String × Option String × String)) := do
  validateBinding entry.2 s!"binding {entry.1}"
  failAt (entry.2.bindingId ≠ entry.1) .badValue s!"binding {entry.1}"
  failAt (entry.2.revoked = false ∧ entry.2.identity ∈ held) .bindingConflict s!"binding {entry.1}"
  pure (if entry.2.revoked then held else held ++ [entry.2.identity])

/-- Every binding record, and the rules across them. -/
def validateBindings (bindings : Bindings) : Checks Unit := do
  let _ ← foldChecked validateHeldBinding [] (byId bindings)
  checkAll (fun bound : Binding => failAt
    ((bindings.values.filter (·.missionId = bound.missionId)).length >
      maxBindingsPerMission) .tooLarge s!"mission {bound.missionId}")
    bindings.values
  checkAll (fun bound : Binding => failAt (bound.conversationRef ≠ none ∧
    (bindings.values.filter fun other => other.transport = bound.transport ∧
      other.conversationRef = bound.conversationRef).length > maxBindingsPerConversation) .tooLarge
      s!"conversation {bound.transport}") bindings.values

end DodgingInfinity.Coordination

/-!
## Route decisions

Which Mission an inbound conversation turn is about, derived from the durable
bindings and the observation lookup alone.  The first tier with context wins; a
binding that is expired or stands at another revision clarifies and is never
repaired.
-/

namespace DodgingInfinity.Coordination

open Checked

/-! ## Vocabularies -/

inductive RouteOutcome where
  | clarificationRequired
  | existingMission
  | newProposal
  deriving DecidableEq

/-- The deterministic evidence tiers, in resolution order. -/
inductive RouteTier where
  | explicitMissionId
  | replyToBinding
  | approvalBinding
  | resultBinding
  | repositoryReference
  | issueReference
  | projectBinding
  | aliasBinding
  | uniqueConversationMatch
  deriving DecidableEq

def RouteTier.text : RouteTier → String
  | .explicitMissionId => "EXPLICIT_MISSION_ID"
  | .replyToBinding => "REPLY_TO_BINDING"
  | .approvalBinding => "APPROVAL_BINDING"
  | .resultBinding => "RESULT_BINDING"
  | .repositoryReference => "REPOSITORY_REFERENCE"
  | .issueReference => "ISSUE_REFERENCE"
  | .projectBinding => "PROJECT_BINDING"
  | .aliasBinding => "ALIAS_BINDING"
  | .uniqueConversationMatch => "UNIQUE_CONVERSATION_MATCH"

inductive RouteReason where
  | ambiguousCandidates
  | bindingExpired
  | bindingStale
  | contextDisagrees
  | missionNotObserved
  | newProposalIntent
  | noContext
  | observationInconsistent
  | observationStale
  | observationUnavailable
  | resolved
  deriving DecidableEq

/-- The reasons that record a binding's revision. -/
def bindingReasons : List RouteReason := [.bindingExpired, .bindingStale]

inductive Intent where
  | followUp
  | newMission
  | unspecified
  deriving DecidableEq

def Intent.text : Intent → String
  | .followUp => "FOLLOW_UP"
  | .newMission => "NEW_MISSION"
  | .unspecified => "UNSPECIFIED"

inductive LaneOutcome where
  | notRequested
  | refused
  | selected
  deriving DecidableEq

inductive Lane where
  | engineering
  deriving DecidableEq

inductive LaneReason where
  | capabilityUnavailable
  | domainUnsupported
  | routeNotResolved
  deriving DecidableEq

/-- The supported domains, each with its lane. -/
def laneByDomain : List (String × Lane) := [("ENGINEERING", .engineering)]

def maxRouteCandidates : Nat := 16

/-! ## The inbound turn -/

/-- One inbound turn: its identity, the selectors it names, the intent and domain
that its caller supplies, and the digest of a proposal it carries. -/
structure InboundTurn where
  transport : String
  conversationRef : String
  messageRef : String
  explicitMissionId : Option String
  replyToMessageRef : Option String
  repositoryUrl : Option String
  issueRef : Option String
  projectKey : Option String
  aliasKey : Option String
  intent : Intent
  domain : Option String
  proposalDigestSha256 : Option String
  deriving DecidableEq

namespace InboundTurn

def validate (turn : InboundTurn) (location : String) : Checks Unit := do
  requireTransport turn.transport (location ++ ".transport")
  requireStr turn.conversationRef (location ++ ".conversation_ref") maxConversationRefChars
  requireStr turn.messageRef (location ++ ".message_ref") maxMessageRefChars
  checkOptional (requireId · .mission (location ++ ".explicit_mission_id")) turn.explicitMissionId
  checkOptional (requireStr · (location ++ ".reply_to_message_ref")
    maxMessageRefChars) turn.replyToMessageRef
  checkOptional (requireRepositoryUrl · (location ++ ".repository_url")) turn.repositoryUrl
  checkOptional (fun held => (splitIssueSelector held (location ++ ".issue_ref")).map
    fun _ => ()) turn.issueRef
  checkOptional (requireKey · (location ++ ".project_key")) turn.projectKey
  checkOptional (requireKey · (location ++ ".alias")) turn.aliasKey
  checkOptional (requireStr · (location ++ ".domain") maxKeyChars) turn.domain
  requireOptionalHex turn.proposalDigestSha256 (location ++ ".proposal_digest_sha256") 64

def asJson (turn : InboundTurn) : Json :=
  .object [("transport", .text turn.transport), ("conversation_ref", .text turn.conversationRef),
    ("message_ref", .text turn.messageRef),
    ("explicit_mission_id", Json.optional Json.text turn.explicitMissionId),
    ("reply_to_message_ref", Json.optional Json.text turn.replyToMessageRef),
    ("repository_url", Json.optional Json.text turn.repositoryUrl),
    ("issue_ref", Json.optional Json.text turn.issueRef),
    ("project_key", Json.optional Json.text turn.projectKey),
    ("alias", Json.optional Json.text turn.aliasKey), ("intent", .text turn.intent.text),
    ("domain", Json.optional Json.text turn.domain),
    ("proposal_digest_sha256", Json.optional Json.text turn.proposalDigestSha256)]

def identity (turn : InboundTurn) : String × String × String :=
  (turn.transport, turn.conversationRef, turn.messageRef)

/-- Content identity of a turn, its identity included. -/
def digest [JsonDigest] (turn : InboundTurn) : String := jsonDigest turn.asJson

end InboundTurn

/-! ## Derivation -/

/-- What a route decision says of the Mission, before its lane. -/
structure Identified where
  outcome : RouteOutcome
  missionId : Option String
  resolvedTier : Option RouteTier
  candidates : List String
  reason : RouteReason
  detail : String
  proposalDigestSha256 : Option String
  boundRevision : Option Nat
  observedRevision : Option Nat
  observationPoint : Option ObservationPoint
  deriving DecidableEq

structure RouteDerivation extends Identified where
  laneOutcome : LaneOutcome
  lane : Option Lane
  laneReason : Option LaneReason
  deriving DecidableEq

def clarify (reason : RouteReason) (detail : String) (candidates : List String)
    (boundRevision : Option Nat) : Identified where
  outcome := .clarificationRequired
  missionId := none
  resolvedTier := none
  candidates := sortedBy id candidates
  reason := reason
  detail := detail
  proposalDigestSha256 := none
  boundRevision := boundRevision
  observedRevision := none
  observationPoint := none

/-- A clarification that a fresh read proves: a binding stands apart from it. -/
def clarifyStale (missionId : String) (bound : Binding) (detail : String)
    (point : ObservationPoint) : Identified :=
  { clarify .bindingStale detail [missionId] (some bound.boundRevision) with
    observedRevision := some point.revision
    observationPoint := some point }

def resolvedBy (missionId : String) (tier : RouteTier) (point : ObservationPoint)
    (boundRevision : Option Nat) : Identified where
  outcome := .existingMission
  missionId := some missionId
  resolvedTier := some tier
  candidates := [missionId]
  reason := .resolved
  detail := s!"resolved by {tier.text}"
  proposalDigestSha256 := none
  boundRevision := boundRevision
  observedRevision := some point.revision
  observationPoint := some point

def proposal (digest : String) : Identified where
  outcome := .newProposal
  missionId := none
  resolvedTier := none
  candidates := []
  reason := .newProposalIntent
  detail := s!"a new proposal with digest {digest}; creating the Mission is " ++
    "Mission Core's act, not this decision's"
  proposalDigestSha256 := some digest
  boundRevision := none
  observedRevision := none
  observationPoint := none

/-- A repository as the detail shows it; a canonical URL holds nothing that a
quotation escapes. -/
def quotedUrl : Option String → String
  | none => "None"
  | some url => "'" ++ url ++ "'"

/-- The binding names another repository than the observed one. -/
def repositoryDisagreement (missionId : String) (observed : MissionObservation)
    (bound : Binding) (url : String) : Option String :=
  if some url ≠ observed.repositoryUrl then
    some (s!"binding {bound.bindingId} names repository {url} but mission " ++
      s!"{missionId} is observed at {quotedUrl observed.repositoryUrl}")
  else none

/-- Why a binding does not stand at a fresh read, if it does not. -/
def staleDetail (missionId : String) (observed : MissionObservation)
    (bound : Binding) : Checks (Option String) :=
  if bound.boundRevision ≠ observed.currentRevision then
    .ok (some (s!"binding {bound.bindingId} was bound at revision " ++
      s!"{bound.boundRevision} but mission {missionId} is at revision " ++
      s!"{observed.currentRevision}; the context is stale and routing never " ++
      "advances a binding"))
  else if bound.kind = .repository ∨ bound.kind = .issue then
    (repositoryOfSelector bound).map
      (repositoryDisagreement missionId observed bound)
  else .ok none

/-- The first binding that does not stand at a fresh read, and why. -/
def firstStale (missionId : String) (observed : MissionObservation) :
    List Binding → Checks (Option (Binding × String))
  | [] => .ok none
  | bound :: rest => do
      match ← staleDetail missionId observed bound with
      | some detail => pure (some (bound, detail))
      | none => firstStale missionId observed rest

/-- The outcome of a fresh read, given the first binding that does not stand. -/
def settled (missionId : String) (tier : RouteTier) (boundRevision : Option Nat)
    (point : ObservationPoint) : Option (Binding × String) → Identified
  | some (bound, detail) => clarifyStale missionId bound detail point
  | none => resolvedBy missionId tier point boundRevision

section

variable [JsonDigest]

def resolveFresh (missionId : String) (tier : RouteTier) (bindings : List Binding)
    (result : FreshnessResult) : Checks Identified := do
  let observed ← orFailAt result.observation .badType "observation"
  let stale ← firstStale missionId observed bindings
  let point ← observationPoint observed
  pure (settled missionId tier (bindings.head?.map Binding.boundRevision) point stale)

/-- What a read that is not fresh tells. -/
def problemText (result : FreshnessResult) : String := result.problem.getD "None"

/-- A clarification for a read that is neither fresh nor absent. -/
def unobserved (reason : RouteReason) (missionId : String)
    (bindings : List Binding) (result : FreshnessResult) : Identified :=
  clarify reason (s!"mission {missionId} could not be observed " ++
      s!"{result.freshness.text.toLower}: {problemText result}")
    [missionId] (bindings.head?.map Binding.boundRevision)

def notObserved (missionId : String) : List Binding → Identified
  | [] => clarify .missionNotObserved
      (s!"the observation source states mission {missionId} does not exist; " ++
        "ask the human rather than guess") [missionId] none
  | bound :: _ => clarify .bindingStale
      (s!"the binding names mission {missionId}, which the observation source " ++
        "states does not exist") [missionId] (some bound.boundRevision)

/-- Resolve a Mission reached through a tier and the bindings that named it, by
what was observed, or clarify truthfully. -/
def resolveAs (missionId : String) (tier : RouteTier) (bindings : List Binding)
    (result : FreshnessResult) : Checks Identified :=
  match result.freshness with
  | .absent => .ok (notObserved missionId bindings)
  | .unavailable =>
      .ok (unobserved .observationUnavailable missionId bindings result)
  | .stale => .ok (unobserved .observationStale missionId bindings result)
  | .inconsistent =>
      .ok (unobserved .observationInconsistent missionId bindings result)
  | .fresh => resolveFresh missionId tier bindings result

def resolve (missionId : String) (tier : RouteTier) (bindings : List Binding)
    (observe : String → Checks FreshnessResult) : Checks Identified := do
  let result ← observe missionId
  resolveAs missionId tier bindings result

/-- The binding tiers that the turn names, in resolution order. -/
def namedTiers (turn : InboundTurn) : List (RouteTier × BindingKind × String) :=
  [(RouteTier.replyToBinding, BindingKind.replyToMessage, turn.replyToMessageRef),
    (.approvalBinding, .approvalPresentation, turn.replyToMessageRef),
    (.resultBinding, .resultPresentation, turn.replyToMessageRef),
    (.repositoryReference, .repository, turn.repositoryUrl),
    (.issueReference, .issue, turn.issueRef), (.projectBinding, .project, turn.projectKey),
    (.aliasBinding, .aliasName, turn.aliasKey)].filterMap fun entry =>
      entry.2.2.map fun selector => (entry.1, entry.2.1, selector)

/-- The identity that a named tier looks up. -/
def lookupIdentity (turn : InboundTurn) (kind : BindingKind) (selector : String) :
    BindingKind × String × Option String × String :=
  (kind, turn.transport,
    if kind ∈ conversationScopedKinds then some turn.conversationRef else none, selector)

/-- Every binding that is not revoked and that a named tier finds, in tier
order. -/
def hitsOf (turn : InboundTurn) (bindings : Bindings) : List (RouteTier × Binding) :=
  (namedTiers turn).flatMap fun entry =>
    (findBindings bindings (lookupIdentity turn entry.2.1 entry.2.2)).map fun bound =>
      (entry.1, bound)

/-- The distinct Missions of the conversation's active bindings, sorted. -/
def conversationMissions (bindings : Bindings) (turn : InboundTurn) (now : Nat) : List String :=
  sortedBy id ((conversationBindings bindings turn.transport turn.conversationRef
    now).map Binding.missionId).dedup

/-- The Missions other than `explicit` that active named context points to. -/
def otherMissions (hits : List (RouteTier × Binding)) (explicit : String)
    (now : Nat) : List String :=
  sortedBy id ((hits.filter fun hit => hit.2.isActive now = true ∧
    hit.2.missionId ≠ explicit).map fun hit => hit.2.missionId).dedup

/-- The context that applies to an explicit Mission: the bindings that the turn's
selectors name for it, and the conversation's own bindings to it. -/
def matchingBindings (turn : InboundTurn) (bindings : Bindings)
    (explicit : String) (now : Nat) : List Binding :=
  let named := ((hitsOf turn bindings).map Prod.snd).filter (·.missionId = explicit)
  named ++ (conversationBindings bindings turn.transport turn.conversationRef
    now).filter fun bound => bound.missionId = explicit ∧
      bound.bindingId ∉ named.map Binding.bindingId ∧ bound.kind = .conversation

def joined (missionIds : List String) : String := ", ".intercalate missionIds

def expiryOf (bound : Binding) : Nat := bound.expiresAt.getD 0

/-- A turn that names a Mission. -/
def explicitOutcome (turn : InboundTurn) (bindings : Bindings) (explicit : String)
    (observe : String → Checks FreshnessResult) (now : Nat) : Checks Identified :=
  let others := otherMissions (hitsOf turn bindings) explicit now
  let matching := matchingBindings turn bindings explicit now
  if turn.intent = .newMission then
    .ok (clarify .contextDisagrees (s!"the turn names mission {explicit} and also " ++
      "asks for a new Mission; ask which was meant") [explicit] none)
  else if others ≠ [] then
    .ok (clarify .contextDisagrees (s!"the turn names mission {explicit} but its " ++
      s!"context is bound to {joined others}; ask which was meant")
      (explicit :: others) none)
  else match matching.find? (·.isExpired now) with
    | some bound => .ok (clarify .bindingExpired
        (s!"the turn names mission {explicit} through context whose binding " ++
          s!"{bound.bindingId} expired at {expiryOf bound}; ask rather than treat " ++
          "expired context as current") [explicit] (some bound.boundRevision))
    | none => resolve explicit .explicitMissionId matching observe

/-- A turn that asks for a new Mission. -/
def newMissionOutcome (turn : InboundTurn) : Identified :=
  match turn.proposalDigestSha256 with
  | some digest => proposal digest
  | none => clarify .noContext
      "the turn asks for a new Mission but carries no proposal" [] none

/-- The first named binding decides. -/
def namedOutcome (tier : RouteTier) (bound : Binding)
    (observe : String → Checks FreshnessResult) (now : Nat) : Checks Identified :=
  if bound.isExpired now then
    .ok (clarify .bindingExpired (s!"binding {bound.bindingId} for this context " ++
      s!"expired at {expiryOf bound}; it is not a resolution tier and routing " ++
      "never renews it") [bound.missionId] (some bound.boundRevision))
  else resolve bound.missionId tier [bound] observe

/-- Several Missions of one conversation. -/
def ambiguous (members : List String) : Identified :=
  if members.length > maxRouteCandidates then
    clarify .ambiguousCandidates (s!"this conversation is bound to " ++
      s!"{members.length} Missions, more than the {maxRouteCandidates} a " ++
      "clarification enumerates; ask which was meant") [] none
  else clarify .ambiguousCandidates (s!"this conversation is bound to " ++
    s!"{members.length} Missions; ask which was meant rather than guess") members
    none

/-- Nothing identifies a Mission: a proposal, unless the turn follows up. -/
def contextFree (turn : InboundTurn) : Identified :=
  match turn.proposalDigestSha256, decide (turn.intent = .followUp) with
  | some digest, false => proposal digest
  | _, _ => clarify .noContext ("no explicit id, binding or proposal identifies a " ++
      "Mission; the natural-language routing turn is not implemented") [] none

/-- The conversation tier: every active binding scoped to it. -/
def conversationOutcome (turn : InboundTurn) (bindings : Bindings)
    (observe : String → Checks FreshnessResult) (now : Nat) : Checks Identified :=
  match conversationMissions bindings turn now with
  | [] => .ok (contextFree turn)
  | [missionId] => resolve missionId .uniqueConversationMatch
      ((conversationBindings bindings turn.transport turn.conversationRef now).filter
        (·.missionId = missionId)) observe
  | members => .ok (ambiguous members)

def identityOutcome (turn : InboundTurn) (bindings : Bindings)
    (observe : String → Checks FreshnessResult) (now : Nat) : Checks Identified :=
  match turn.explicitMissionId with
  | some explicit => explicitOutcome turn bindings explicit observe now
  | none =>
      if turn.intent = .newMission then .ok (newMissionOutcome turn)
      else match hitsOf turn bindings with
        | (tier, bound) :: _ => namedOutcome tier bound observe now
        | [] => conversationOutcome turn bindings observe now

end

/-- The lane for a domain: a value, never a permission. -/
def selectLane (outcome : RouteOutcome) (domain : Option String) (availableLanes : List Lane) :
    LaneOutcome × Option Lane × Option LaneReason :=
  match domain with
  | none => (.notRequested, none, none)
  | some held =>
      match laneByDomain.lookup held with
      | none => (.refused, none, some .domainUnsupported)
      | some lane =>
          if outcome = .clarificationRequired then
            (.refused, none, some .routeNotResolved)
          else if lane ∉ availableLanes then
            (.refused, none, some .capabilityUnavailable)
          else (.selected, some lane, none)

def withLane (fields : Identified) (domain : Option String)
    (availableLanes : List Lane) : RouteDerivation :=
  let selection := selectLane fields.outcome domain availableLanes
  { fields with
    laneOutcome := selection.1
    lane := selection.2.1
    laneReason := selection.2.2 }

/-- The pure route decision for a turn, over the bindings and the observation
lookup. -/
def deriveRoute [JsonDigest] (turn : InboundTurn) (bindings : Bindings)
    (observe : String → Checks FreshnessResult) (now : Nat)
    (availableLanes : List Lane) : Checks RouteDerivation := do
  turn.validate "inbound"
  let fields ← identityOutcome turn bindings observe now
  pure (withLane fields turn.domain availableLanes)

/-! ## The route record -/

structure RouteRecord where
  routeId : String
  decidedAt : Nat
  inbound : InboundTurn
  inboundDigestSha256 : String
  derivation : RouteDerivation
  provenance : Provenance
  authority : String
  deriving DecidableEq

/-- What the outcome of a derivation goes together with. -/
def validateCoherence (value : RouteDerivation) (location : String) :
    Checks Unit := do
  failAt (value.observationPoint.isNone ≠ value.observedRevision.isNone) .badValue location
  failAt (∃ point ∈ value.observationPoint,
    some point.revision ≠ value.observedRevision) .badValue location
  failAt (value.missionId.isSome ≠ decide (value.outcome = .existingMission) ∨
    value.resolvedTier.isSome ≠ decide (value.outcome = .existingMission)) .badValue
    location
  failAt (value.outcome = .existingMission ∧ (value.reason ≠ .resolved ∨
    value.observationPoint = none ∨
    ¬ ∃ missionId ∈ value.missionId, missionId ∈ value.candidates)) .badValue location
  failAt (value.outcome ≠ .existingMission ∧ value.reason = .resolved) .badValue location
  failAt (value.proposalDigestSha256.isSome ≠ decide (value.outcome = .newProposal) ∨
    decide (value.outcome = .newProposal) ≠
      decide (value.reason = .newProposalIntent)) .badValue location
  failAt (value.outcome = .newProposal ∧ (value.candidates ≠ [] ∨
    value.observationPoint ≠ none)) .badValue location
  failAt (((value.outcome = .existingMission ∧ value.resolvedTier ≠ some .explicitMissionId) ∨
    value.reason ∈ bindingReasons) ∧ value.boundRevision = none) .badValue location
  failAt (value.boundRevision ≠ none ∧ value.candidates = [] ∧
    value.reason ∉ bindingReasons ∧ ¬ (value.outcome = .existingMission ∧
      value.resolvedTier ≠ some .explicitMissionId)) .badValue location

/-- What the lane of a derivation goes together with. -/
def validateLane (value : RouteDerivation) (domain : Option String)
    (location : String) : Checks Unit := do
  failAt (value.lane.isSome ≠ decide (value.laneOutcome = .selected)) .badValue location
  failAt (value.laneReason.isSome ≠ decide (value.laneOutcome = .refused)) .badValue location
  failAt (value.laneOutcome ≠ .notRequested ∧ domain = none) .badValue location
  failAt (value.laneOutcome = .notRequested ∧ domain ≠ none) .badValue location
  failAt (value.laneOutcome = .selected ∧ value.outcome = .clarificationRequired) .badValue location

def validateRoute [JsonDigest] (value : RouteRecord) (location : String) :
    Checks Unit := do
  requireId value.routeId .route (location ++ ".route_id")
  value.inbound.validate (location ++ ".inbound")
  requireHex value.inboundDigestSha256 (location ++ ".inbound_digest_sha256") 64
  failAt (value.inboundDigestSha256 ≠ value.inbound.digest) .badValue location
  checkOptional (requireId · .mission (location ++ ".mission_id")) value.derivation.missionId
  requireEach value.derivation.candidates (location ++ ".candidates")
    maxRouteCandidates (requireId · .mission ·)
  requireSorted value.derivation.candidates (location ++ ".candidates")
  requireStr value.derivation.detail (location ++ ".detail") maxDetailChars
  requireOptionalHex value.derivation.proposalDigestSha256
    (location ++ ".proposal_digest_sha256") 64
  checkOptional (requireAtLeast · 1 (location ++ ".bound_revision")) value.derivation.boundRevision
  checkOptional (requireAtLeast · 1 (location ++ ".observed_revision"))
    value.derivation.observedRevision
  checkOptional (validateObservationPoint · (location ++ ".observation_point"))
    value.derivation.observationPoint
  validateCoherence value.derivation location
  validateLane value.derivation value.inbound.domain location
  validateProvenance value.provenance (location ++ ".provenance")
  failAt (value.provenance.receivedAt ≠ value.decidedAt ∨
    value.provenance.observedRevision ≠ value.derivation.observedRevision ∨
    value.provenance.observationCursor ≠
      value.derivation.observationPoint.map ObservationPoint.cursor) .badValue location
  requireAuthority value.authority location

/-- A validated route decision record. -/
def newRouteRecord [JsonDigest] (routeId : String) (turn : InboundTurn)
    (derivation : RouteDerivation) (decidedAt : Nat)
    (context : AuthenticatedContext) : Checks RouteRecord := do
  let provenance ← provenanceRecord context decidedAt derivation.observedRevision
    (derivation.observationPoint.map ObservationPoint.cursor)
  let route : RouteRecord := {
    routeId := routeId
    decidedAt := decidedAt
    inbound := turn
    inboundDigestSha256 := turn.digest
    derivation := derivation
    provenance := provenance
    authority := authorityNone }
  validateRoute route "route"
  pure route

/-- One route of the document, after those with the given identities. -/
def validateHeldRoute [JsonDigest] (identities : List (String × String × String))
    (entry : String × RouteRecord) :
    Checks (List (String × String × String)) := do
  validateRoute entry.2 s!"route {entry.1}"
  failAt (entry.2.routeId ≠ entry.1) .badValue s!"route {entry.1}"
  failAt (entry.2.inbound.identity ∈ identities) .routeConflict s!"route {entry.1}"
  pure (identities ++ [entry.2.inbound.identity])

/-- Every route record, and one decision for each inbound turn. -/
def validateRouteDecisions [JsonDigest] (routes : Dict String RouteRecord) :
    Checks Unit := do
  let _ ← foldChecked validateHeldRoute [] (byId routes)
  pure ()

/-- A stored decision is returned to its own context and for its own content. -/
def replayOf [JsonDigest] (turn : InboundTurn) (context : AuthenticatedContext)
    (route : RouteRecord) : Checks RouteRecord := do
  failAt (route.provenance.context ≠ context) .contextMismatch "route"
  failAt (route.inboundDigestSha256 ≠ turn.digest) .idempotencyConflict "route"
  pure route

/-- The stored decision for the identity of a turn, if there is one. -/
def findReplay [JsonDigest] (routes : Dict String RouteRecord)
    (turn : InboundTurn) (context : AuthenticatedContext) :
    Checks (Option RouteRecord) := do
  turn.validate "inbound"
  requireContext context "context"
  match ((byId routes).map Prod.snd).find? (·.inbound.identity = turn.identity) with
  | some route => (replayOf turn context route).map some
  | none => pure none

end DodgingInfinity.Coordination
