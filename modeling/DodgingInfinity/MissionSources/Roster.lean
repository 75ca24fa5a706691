import DodgingInfinity.Json
import DodgingInfinity.Library.Dict

/-!
# Mission views and runtime readings

A mission view is one source's record of a Mission: its standing and the execution
identity it names.  A snapshot reading is what the runtime reports: the tasks with
the role bindings recorded for them, and the live agents.
-/

namespace DodgingInfinity.MissionSources

/-- A gate derived from the native lifecycle, not a lifecycle. -/
inductive Standing where
  | active
  | inactive
  | terminal
  | unknownFuture
  deriving DecidableEq

inductive Health where
  | fresh
  | stale
  | unavailable
  | malformed
  | incompatible
  deriving DecidableEq

inductive BindingState where
  | bound
  | unbound
  | disappeared
  | ambiguous
  | unverified
  | notApplicable
  deriving DecidableEq

inductive BindingReason where
  | missionNotActive
  | runtimeSnapshotNotFresh
  | missionRecordAmbiguity
  | missionWorkspaceInconsistent
  | runNotStarted
  | runOutcomeUnknown
  | taskIdentityUnresolved
  | workspaceUnrecorded
  | taskClaimedByMultipleMissions
  | workspaceClaimedByMultipleMissions
  | workspaceNotObserved
  | bindingNotConfirmedByBothPasses
  | taskNotInSnapshot
  | taskDuplicatedInSnapshot
  | taskWorkspaceMismatch
  | canonicalChainComplete
  | coveredByCanonicalRecord
  | canonicalClaimConflict
  | canonicalSourceNotFresh
  | coveredByParentChain
  | taskRecordNotCorroborated
  | chainMembershipEnded
  | childRecordStale
  | childRecordCycle
  | childRecordIncomplete
  | parentBindingNotConfirmed
  deriving DecidableEq

inductive MemberClassification where
  | present
  | replaced
  | disappeared
  | ambiguous
  deriving DecidableEq

inductive MemberReason where
  | sessionConfirmed
  | sessionChanged
  | agentNotLive
  | agentNameDuplicated
  | bindingDuplicated
  | stableIdentityConflict
  | sessionUnconfirmed
  | agentClaimedByMultipleBindings
  | sessionClaimedByMultipleBindings
  | liveSessionSharedByAgents
  | stableIdentityUnconfirmed
  | roleOrProviderUnconfirmed
  deriving DecidableEq

/-- The agent's own reported status, never the Mission's state. -/
inductive Activity where
  | busy
  | idle
  | blocked
  | done
  | unknown
  | unknownFuture
  deriving DecidableEq

/-- The status literals the runtime reports; any other is of the future. -/
def runtimeStatusActivity (status : String) : Activity :=
  if status = "working" then .busy
  else if status = "idle" then .idle
  else if status = "blocked" then .blocked
  else if status = "done" then .done
  else if status = "unknown" then .unknown
  else .unknownFuture

/-- The text of a fact no supported field reports. -/
def unknown : String := "unknown"

def unreportedFacts : List String := ["model", "cost", "tokens", "progress"]

def canonicalLifecycleModels : List String :=
  ["mission_core.mission_state/1", "workflow_authority.workflow_phase/2"]

/-! ## Mission views -/

/-- The execution identity a Mission's own record names. -/
structure Execution where
  taskId : Option String
  identitySource : Option String
  workspaceRealpath : Option String
  runStarted : Bool
  receiptRecorded : Bool
  consistent : Bool
  recordAmbiguous : Bool
  deriving DecidableEq

structure View where
  missionRef : String
  sourceId : String
  model : String
  standing : Standing
  declared : String
  execution : Execution
  deriving DecidableEq

/-- Whether a view is under no canonical kind's own model. -/
def View.taskNative (view : View) : Bool :=
  view.model ∉ canonicalLifecycleModels

structure Binding where
  state : BindingState
  reason : BindingReason
  taskId : Option String
  deriving DecidableEq

/-- A Mission's canonical binding identity, as its source projects it. -/
structure BindingIdentity where
  missionRef : String
  sourceId : String
  model : String
  declared : String
  taskId : Option String
  workspaceRealpath : Option String
  identitySource : Option String
  deriving DecidableEq

def bindingIdentity (view : View) : BindingIdentity where
  missionRef := view.missionRef
  sourceId := view.sourceId
  model := view.model
  declared := view.declared
  taskId := view.execution.taskId
  workspaceRealpath := view.execution.workspaceRealpath
  identitySource := view.execution.identitySource

/-! ## The runtime snapshot -/

/-- One role binding recorded for a task: who should be the agent. -/
structure SnapshotBinding where
  logical : String
  role : Option String
  agent : String
  session : Option String
  paneId : Option String
  workspaceId : Option String
  deriving DecidableEq

structure SnapshotTask where
  taskId : String
  workspaceRealpath : String
  bindings : List SnapshotBinding
  deriving DecidableEq

/-- One live agent as the runtime reports it: who is there. -/
structure SnapshotAgent where
  agent : String
  provider : Option String
  status : String
  session : Option String
  paneId : Option String
  workspaceId : Option String
  deriving DecidableEq

structure SnapshotReading where
  health : Health
  observedAt : Option Nat
  tasks : List SnapshotTask
  agents : List SnapshotAgent

def SnapshotReading.isLive (reading : SnapshotReading) : Bool :=
  reading.health = .fresh

/-- The tasks the snapshot holds under an id. -/
def SnapshotReading.tasksById (reading : SnapshotReading) (taskId : Option String) :
    List SnapshotTask :=
  reading.tasks.filter fun task => some task.taskId = taskId

end DodgingInfinity.MissionSources

/-!
## The roster

Which agents are members of which active Mission.  Bindings are decided first, from
claims counted over every active Mission; members afterwards, from claims counted
over every bound task.
-/

namespace DodgingInfinity.MissionSources

/-! ## Members -/

structure Member where
  memberRef : String
  missionRef : String
  taskId : String
  logical : String
  role : String
  agent : String
  provider : String
  paneId : Option String
  workspaceId : Option String
  recordedSession : Option String
  liveSession : Option String
  classification : MemberClassification
  reason : MemberReason
  activity : Activity
  observedAt : Option Nat
  unreported : List (String × String)
  deriving DecidableEq

/-- How one recorded binding is classified, with the live agent it was held against. -/
structure Classified where
  classification : MemberClassification
  reason : MemberReason
  live : Option SnapshotAgent
  deriving DecidableEq

/-- Who claims what, across every bound task of one classification. -/
structure Claims where
  agentNames : List String
  recordedSessions : List String
  agents : List SnapshotAgent

def newClaims (bound : List SnapshotTask) (agents : List SnapshotAgent) : Claims where
  agentNames := bound.flatMap fun task => task.bindings.map SnapshotBinding.agent
  recordedSessions := bound.flatMap fun task =>
    task.bindings.filterMap SnapshotBinding.session
  agents := agents

def Claims.liveByName (claims : Claims) (name : String) : List SnapshotAgent :=
  claims.agents.filter fun agent => agent.agent = name

def Claims.liveSessions (claims : Claims) : List String :=
  claims.agents.filterMap SnapshotAgent.session

/-- Whether a session is one that several hold; none is not. -/
def sharedSession (sessions : List String) (session : Option String) : Bool :=
  session.any fun held => sessions.count held > 1

/-- A recorded binding against the one live agent of its name. -/
def liveClassification (recorded : SnapshotBinding) (agent : SnapshotAgent)
    (claims : Claims) : Classified :=
  if sharedSession claims.liveSessions agent.session then
    ⟨.ambiguous, .liveSessionSharedByAgents, some agent⟩
  else if none ∈ [recorded.paneId, agent.paneId, recorded.workspaceId,
      agent.workspaceId] then
    ⟨.ambiguous, .stableIdentityUnconfirmed, some agent⟩
  else if recorded.paneId ≠ agent.paneId ∨ recorded.workspaceId ≠ agent.workspaceId then
    ⟨.ambiguous, .stableIdentityConflict, some agent⟩
  else if recorded.session = none ∨ agent.session = none then
    ⟨.ambiguous, .sessionUnconfirmed, some agent⟩
  else if recorded.role = none ∨ agent.provider = none then
    ⟨.ambiguous, .roleOrProviderUnconfirmed, some agent⟩
  else if recorded.session ≠ agent.session then
    ⟨.replaced, .sessionChanged, some agent⟩
  else ⟨.present, .sessionConfirmed, some agent⟩

/-- Every duplicate and every missing identity fact is ambiguous before a live agent is
considered. -/
def memberClassification (recorded : SnapshotBinding) (logicalCount : Nat)
    (claims : Claims) : Classified :=
  if logicalCount > 1 then ⟨.ambiguous, .bindingDuplicated, none⟩
  else if claims.agentNames.count recorded.agent > 1 then
    ⟨.ambiguous, .agentClaimedByMultipleBindings, none⟩
  else if sharedSession claims.recordedSessions recorded.session then
    ⟨.ambiguous, .sessionClaimedByMultipleBindings, none⟩
  else
    match claims.liveByName recorded.agent with
    | [] => ⟨.disappeared, .agentNotLive, none⟩
    | [agent] => liveClassification recorded agent claims
    | _ :: _ :: _ => ⟨.ambiguous, .agentNameDuplicated, none⟩

def newMember (view : View) (taskId : String) (recorded : SnapshotBinding)
    (classified : Classified) (observedAt : Option Nat) : Member where
  memberRef := view.missionRef ++ "#" ++ recorded.logical
  missionRef := view.missionRef
  taskId := taskId
  logical := recorded.logical
  role := recorded.role.getD unknown
  agent := recorded.agent
  provider := (classified.live.bind SnapshotAgent.provider).getD unknown
  paneId := recorded.paneId
  workspaceId := recorded.workspaceId
  recordedSession := recorded.session
  liveSession := classified.live.bind SnapshotAgent.session
  classification := classified.classification
  reason := classified.reason
  activity := (classified.live.map fun agent =>
    runtimeStatusActivity agent.status).getD .unknown
  observedAt := observedAt
  unreported := unreportedFacts.map fun fact => (fact, unknown)

/-- Whether one recorded role is held by a live agent of its name on exactly the
recorded session. -/
def corroborated (task : SnapshotTask) (agents : List SnapshotAgent) : Bool :=
  task.bindings.any fun recorded => recorded.session.isSome && agents.any fun agent =>
      decide (agent.agent = recorded.agent ∧ agent.session = recorded.session)

/-- Every recorded binding of one bound task, by logical name and then agent. -/
def classifyMembers (view : View) (task : SnapshotTask) (claims : Claims)
    (observedAt : Option Nat) : List Member :=
  sortedBy Member.logical (sortedBy Member.agent (task.bindings.map fun recorded =>
    newMember view task.taskId recorded (memberClassification recorded
        ((task.bindings.map SnapshotBinding.logical).count recorded.logical) claims)
      observedAt))

/-! ## Deferrals -/

/-- A task id and a workspace, as a record names them. -/
abbrev Link := Option String × Option String

def View.link (view : View) : Link :=
  (view.execution.taskId, view.execution.workspaceRealpath)

/-- A canonical record that claims its task and root: its own model does not say it is
inactive or terminal. -/
def View.canonicalClaiming (view : View) : Bool :=
  view.taskNative = false ∧ (view.standing = .active ∨ view.standing = .unknownFuture)

/-- Whether a link shares its task or its workspace with one of a list. -/
def Link.sharedWith (link : Link) (links : List Link) : Bool :=
  (link.1 ≠ none ∧ link.1 ∈ links.map Prod.fst) ∨ (link.2 ≠ none ∧ link.2 ∈ links.map Prod.snd)

/-- What an active task-native view defers to, in fixed order. -/
def deferral (pairs links : List Link) (canonicalComplete : Bool) (link : Link) : Option Binding :=
  if link ∈ pairs then some ⟨.notApplicable, .coveredByCanonicalRecord, link.1⟩
  else if link.sharedWith pairs then some ⟨.ambiguous, .canonicalClaimConflict, link.1⟩
  else if link ∈ links then some ⟨.notApplicable, .coveredByParentChain, link.1⟩
  else if link.sharedWith links then some ⟨.ambiguous, .canonicalClaimConflict, link.1⟩
  else if canonicalComplete = false then
    some ⟨.unverified, .canonicalSourceNotFresh, link.1⟩
  else none

/-- What a view defers to among some others: only an active task-native one does. -/
def deferringTo (views : List View) (canonicalComplete : Bool) (parentLinks : List Link)
    (view : View) : Option Binding :=
  if view.taskNative = false ∨ view.standing ≠ .active then none
  else deferral ((views.filter View.canonicalClaiming).map View.link) parentLinks
    canonicalComplete view.link

/-- The binding of every view that defers, under its Mission. -/
def deferrals (views : List View) (canonicalComplete : Bool) (parentLinks : List Link) :
    Dict String Binding :=
  .ofEntries (views.filterMap fun view =>
    (deferringTo views canonicalComplete parentLinks view).map fun binding =>
      (view.missionRef, binding))

/-! ## Bindings -/

/-- The active Missions that claim: a deferring one claims nothing. -/
def claimants (views : List View) (deferred : Dict String Binding) : List View :=
  views.filter fun view =>
    deferred.contains view.missionRef = false ∧ view.standing = .active

/-- Every claim of a task id, once for each Mission that makes it. -/
def taskClaims (views : List View) (deferred : Dict String Binding) : List String :=
  (claimants views deferred).filterMap fun view => view.execution.taskId

def workspaceClaims (views : List View) (deferred : Dict String Binding) : List String :=
  (claimants views deferred).filterMap fun view => view.execution.workspaceRealpath

/-- The binding from the Mission's own record, before the snapshot is consulted; none
when the record supports a lookup. -/
def executionBinding (view : View) (tasks workspaces : List String) : Option Binding :=
  if view.execution.recordAmbiguous then some ⟨.ambiguous, .missionRecordAmbiguity, none⟩
  else if view.execution.consistent = false then
    some ⟨.ambiguous, .missionWorkspaceInconsistent, none⟩
  else
    match view.execution.taskId, view.execution.workspaceRealpath with
    | none, _ =>
        if view.execution.receiptRecorded then
          some ⟨.unbound, .taskIdentityUnresolved, none⟩
        else if view.execution.runStarted then some ⟨.unbound, .runOutcomeUnknown, none⟩
        else some ⟨.unbound, .runNotStarted, none⟩
    | some taskId, none => some ⟨.unbound, .workspaceUnrecorded, some taskId⟩
    | some taskId, some workspace =>
        if tasks.count taskId > 1 then
          some ⟨.ambiguous, .taskClaimedByMultipleMissions, some taskId⟩
        else if workspaces.count workspace > 1 then
          some ⟨.ambiguous, .workspaceClaimedByMultipleMissions, some taskId⟩
        else none

/-- What one classification reads beside the views. -/
structure Observation where
  reading : SnapshotReading
  observedRoots : Option (List String)
  confirmedBindings : Option (Dict String BindingIdentity)
  canonicalComplete : Bool

/-- Whether the roots the snapshot observed are known and leave a workspace out. -/
def Observation.unobserved (observation : Observation) (view : View) : Bool :=
  observation.observedRoots.any fun roots =>
    decide (view.execution.workspaceRealpath ∉ roots.map some)

/-- Whether an earlier pass is known and did not confirm the Mission's identity. -/
def Observation.unconfirmed (observation : Observation) (view : View) : Bool :=
  observation.confirmedBindings.any fun confirmed =>
    decide (confirmed.get? view.missionRef ≠ some (bindingIdentity view))

/-- A binding with the task it is bound to, if it is. -/
structure Decision where
  binding : Binding
  task : Option SnapshotTask

def undecided (state : BindingState) (reason : BindingReason) (taskId : Option String) : Decision :=
  ⟨⟨state, reason, taskId⟩, none⟩

/-- The lookup of a Mission's task in the snapshot. -/
def snapshotDecision (observation : Observation) (view : View) : Decision :=
  let taskId := view.execution.taskId
  if observation.unobserved view then undecided .unverified .workspaceNotObserved taskId
  else if observation.unconfirmed view then
    undecided .unverified .bindingNotConfirmedByBothPasses taskId
  else
    match observation.reading.tasksById taskId with
    | [] => undecided .disappeared .taskNotInSnapshot taskId
    | [task] =>
        if some task.workspaceRealpath ≠ view.execution.workspaceRealpath then
          undecided .ambiguous .taskWorkspaceMismatch taskId
        else ⟨⟨.bound, .canonicalChainComplete, taskId⟩, some task⟩
    | _ :: _ :: _ => undecided .ambiguous .taskDuplicatedInSnapshot taskId

/-- A Mission's binding before corroboration. -/
def recordedDecision (observation : Observation) (deferred : Dict String Binding)
    (tasks workspaces : List String) (view : View) : Decision :=
  if view.standing ≠ .active then undecided .notApplicable .missionNotActive none
  else
    match deferred.get? view.missionRef with
    | some binding => ⟨binding, none⟩
    | none =>
        if observation.reading.isLive = false then
          undecided .unverified .runtimeSnapshotNotFresh view.execution.taskId
        else
          match executionBinding view tasks workspaces with
          | some binding => ⟨binding, none⟩
          | none => snapshotDecision observation view

/-- A task-native team binds only when a live session corroborates it. -/
def corroboratedDecision (agents : List SnapshotAgent) (view : View)
    (decision : Decision) : Decision :=
  match decision.task with
  | none => decision
  | some task =>
      if view.taskNative ∧ corroborated task agents = false then
        undecided .unverified .taskRecordNotCorroborated (some task.taskId)
      else decision

def decideBinding (observation : Observation) (deferred : Dict String Binding)
    (tasks workspaces : List String) (view : View) : Decision :=
  corroboratedDecision observation.reading.agents view
    (recordedDecision observation deferred tasks workspaces view)

/-! ## The classification -/

structure Mission where
  view : View
  binding : Binding
  members : List Member
  deriving DecidableEq

/-- The live agents no bound task names; unknown when the snapshot is not fresh. -/
def unmatchedAgents (reading : SnapshotReading) (claims : Claims) : Option Nat :=
  if reading.isLive then
    some (reading.agents.countP fun agent => decide (agent.agent ∉ claims.agentNames))
  else none

/-- The Missions in the order of their refs, each with its decision. -/
def decisions (views : List View) (observation : Observation)
    (deferred : Dict String Binding) : List (View × Decision) :=
  (sortedBy View.missionRef views).map fun view =>
    (view, decideBinding observation deferred (taskClaims views deferred)
      (workspaceClaims views deferred) view)

/-- Classify with the deferrals given. -/
def classifyWith (views : List View) (observation : Observation)
    (deferred : Dict String Binding) : List Mission × Option Nat :=
  let decided := decisions views observation deferred
  let claims := newClaims (decided.filterMap fun entry => entry.2.task)
    observation.reading.agents
  (decided.map fun entry => {
      view := entry.1
      binding := entry.2.binding
      members := entry.2.task.elim [] fun task =>
        classifyMembers entry.1 task claims observation.reading.observedAt },
    unmatchedAgents observation.reading claims)

def classify (views : List View) (observation : Observation) : List Mission × Option Nat :=
  classifyWith views observation (deferrals views observation.canonicalComplete [])

end DodgingInfinity.MissionSources
