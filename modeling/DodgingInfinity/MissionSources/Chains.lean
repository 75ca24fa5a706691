import DodgingInfinity.MissionSources.Roster

/-!
# The recorded child task chains

Version 2 of the roster classifies, beside each Mission's direct chain, the children
its own root records.  Members are classified only after every chain of every Mission
is decided.
-/

namespace DodgingInfinity.MissionSources

/-! ## The chain observation -/

inductive ChildrenState where
  | observed
  | observedEmpty
  | unavailable
  | notApplicable
  deriving DecidableEq

/-- One recorded child of a task. -/
structure ChildRecord where
  parentTaskId : String
  childTaskId : Option String
  repo : Option String
  workspaceId : Option String
  dependency : Option Bool
  declaredAgents : Option (List (String × String))
  deriving DecidableEq

structure ChildrenBlock where
  state : ChildrenState
  problem : Option String
  caveat : Option String
  recordCount : Option Nat
  otherParentCount : Option Nat
  deriving DecidableEq

/-- The children record of one captured root. -/
structure Children where
  block : ChildrenBlock
  records : List ChildRecord

/-- The current task of one captured root. -/
structure RootTask where
  taskId : String
  status : Option String
  membershipEnded : Bool
  dependencyComplete : Bool

structure RootEntry where
  task : Option RootTask
  children : Children

structure ChainReading where
  health : Health
  roots : List (String × RootEntry)
  unavailable : List (String × String)
  overCapacity : List String

def ChainReading.isLive (chains : ChainReading) : Bool :=
  chains.health = .fresh

def ChainReading.root (chains : ChainReading) (path : String) : Option RootEntry :=
  (chains.roots.find? fun entry => entry.1 = path).map Prod.snd

/-- The entry of a path that may not be recorded. -/
def ChainReading.rootOf (chains : ChainReading) (path : Option String) : Option RootEntry :=
  path.bind chains.root

inductive RootObservation where
  | observed
  | unavailable
  | overCapacity
  | notCaptured
  | unknown
  deriving DecidableEq

structure RootBlock where
  path : Option String
  observation : RootObservation
  problem : Option String
  deriving DecidableEq

def ChainReading.rootObservation (chains : ChainReading) (path : String) :
    RootObservation × Option String :=
  if (chains.root path).isSome then (.observed, none)
  else
    match chains.unavailable.find? fun item => item.1 = path with
    | some item => (.unavailable, some item.2)
    | none =>
        if path ∈ chains.overCapacity then (.overCapacity, none)
        else (.notCaptured, none)

def rootBlock (chains : ChainReading) : Option String → RootBlock
  | none => ⟨none, .unknown, none⟩
  | some path =>
      ⟨some path, (chains.rootObservation path).1, (chains.rootObservation path).2⟩

/-! ## The children of a Mission -/

def noChildren (state : ChildrenState) (problem : String) : ChildrenBlock × List ChildRecord :=
  (⟨state, some problem, none, none, none⟩, [])

/-- The children record of the Mission's own root, when its current task is the
Mission's. -/
def parentChildren (chains : ChainReading) (view : View) : ChildrenBlock × List ChildRecord :=
  if view.standing ≠ .active then noChildren .notApplicable "mission_not_active"
  else if chains.isLive = false then
    noChildren .unavailable "chain_observation_not_fresh"
  else if view.execution.taskId = none ∨ view.execution.workspaceRealpath = none ∨
      view.execution.consistent = false ∨ view.execution.recordAmbiguous then
    noChildren .notApplicable "mission_execution_unresolved"
  else
    match chains.rootOf view.execution.workspaceRealpath with
    | none => noChildren .unavailable "parent_root_not_observed"
    | some entry =>
        if entry.task.map RootTask.taskId ≠ view.execution.taskId then
          noChildren .unavailable "parent_task_mismatch"
        else (entry.children.block, entry.children.records)

def ChildRecord.link (record : ChildRecord) : Link :=
  (record.childTaskId, record.repo)

/-- The recorded parent chains of every active Mission that defers to no canonical
record. -/
def parentLinks (chains : ChainReading) (views : List View)
    (canonicalComplete : Bool) : List Link :=
  (claimants views (deferrals views canonicalComplete [])).flatMap fun view =>
    (parentChildren chains view).2.map ChildRecord.link

/-- The deferrals with the recorded parent chains: a task-native root recorded as a
child is followed by its parent's chain. -/
def chainDeferrals (chains : ChainReading) (views : List View)
    (canonicalComplete : Bool) : Dict String Binding :=
  deferrals views canonicalComplete (parentLinks chains views canonicalComplete)

/-- The children followed under a Mission: a deferring one has none. -/
def missionChildren (chains : ChainReading) (deferred : Dict String Binding)
    (view : View) : ChildrenBlock × List ChildRecord :=
  if deferred.contains view.missionRef then
    noChildren .notApplicable "children_followed_by_the_record_it_defers_to"
  else parentChildren chains view

/-- Every recorded child of a claiming Mission. -/
def claimedChildren (chains : ChainReading) (views : List View)
    (deferred : Dict String Binding) : List ChildRecord :=
  (claimants views deferred).flatMap fun view =>
    (missionChildren chains deferred view).2

/-- The claims of every direct and every child chain. -/
def chainTaskClaims (chains : ChainReading) (views : List View)
    (deferred : Dict String Binding) : List String :=
  taskClaims views deferred ++
    (claimedChildren chains views deferred).filterMap ChildRecord.childTaskId

def chainWorkspaceClaims (chains : ChainReading) (views : List View)
    (deferred : Dict String Binding) : List String :=
  workspaceClaims views deferred ++
    (claimedChildren chains views deferred).filterMap ChildRecord.repo

/-! ## The chains -/

inductive ChainKind where
  | direct
  | child
  deriving DecidableEq

structure MembershipEnd where
  ended : Option Bool
  status : Option String
  rule : String
  deriving DecidableEq

inductive DependencyResolution where
  | satisfied
  | unsatisfied
  | unknown
  deriving DecidableEq

structure ChainDependency where
  recorded : Option Bool
  resolution : DependencyResolution
  rule : String
  deriving DecidableEq

structure ChainRecord where
  childTaskId : Option String
  repo : Option String
  workspaceId : Option String
  declaredAgents : Option (List (String × String))
  deriving DecidableEq

structure Chain where
  kind : ChainKind
  chainTaskId : Option String
  parentTaskId : Option String
  root : RootBlock
  binding : Binding
  membershipEnd : MembershipEnd
  dependency : Option ChainDependency
  record : Option ChainRecord
  descendantsNotFollowed : Option Nat
  deriving DecidableEq

def membershipRule : String :=
  "terminal_status_ends_membership:COMPLETE|COMPLETED|ABANDONED|FAILED"

/-- Known only when the root's current task is the one asked for. -/
def membershipEnd (entry : Option RootEntry) (taskId : Option String) : MembershipEnd :=
  match (entry.bind RootEntry.task).filter fun task => some task.taskId = taskId with
  | none => ⟨none, none, membershipRule⟩
  | some task => ⟨some task.membershipEnded, task.status, membershipRule⟩

/-- How many children a child root records itself. -/
def descendants (entry : Option RootEntry) : Option Nat :=
  (entry.filter fun held => held.children.block.state = .observed ∨
    held.children.block.state = .observedEmpty).bind fun held =>
      held.children.block.recordCount

/-- Whether a child root's own children record names one of some paths. -/
def namesBack (entry : Option RootEntry) (paths : List (Option String)) : Bool :=
  entry.any fun held => held.children.records.any fun record =>
    paths.any fun path => path = record.repo

def dependencyRule : String := "dependency_satisfied_only_by_status:COMPLETE"

def dependencyResolution (record : ChildRecord) (chains : ChainReading) (live : Bool) :
    DependencyResolution :=
  if record.childTaskId = none ∨ record.repo = none then .unsatisfied
  else if live = false then .unknown
  else
    match chains.rootOf record.repo with
    | none => .unknown
    | some entry =>
        if entry.task.map RootTask.taskId ≠ record.childTaskId then .unsatisfied
        else if entry.task.any RootTask.dependencyComplete then .satisfied
        else .unsatisfied

/-- What the child chains of one classification are decided against. -/
structure ChainScope where
  observation : Observation
  chains : ChainReading
  tasks : List String
  workspaces : List String

def ChainScope.live (scope : ChainScope) : Bool :=
  scope.observation.reading.isLive && scope.chains.isLive

/-- The lookup of a child's task in the snapshot. -/
def childSnapshotDecision (scope : ChainScope) (record : ChildRecord) : Decision :=
  match scope.observation.reading.tasksById record.childTaskId with
  | [] => undecided .disappeared .taskNotInSnapshot record.childTaskId
  | [task] =>
      if some task.workspaceRealpath ≠ record.repo then
        undecided .ambiguous .taskWorkspaceMismatch record.childTaskId
      else ⟨⟨.bound, .canonicalChainComplete, record.childTaskId⟩, some task⟩
  | _ :: _ :: _ => undecided .ambiguous .taskDuplicatedInSnapshot record.childTaskId

/-- A child whose record is complete and claimed once, by its own root. -/
def childRootDecision (scope : ChainScope) (record : ChildRecord) : Decision :=
  match scope.chains.rootOf record.repo with
  | none => undecided .unverified .workspaceNotObserved record.childTaskId
  | some entry =>
      match entry.task with
      | none => undecided .disappeared .taskNotInSnapshot record.childTaskId
      | some task =>
          if some task.taskId ≠ record.childTaskId then
            undecided .ambiguous .childRecordStale record.childTaskId
          else if task.membershipEnded then
            undecided .notApplicable .chainMembershipEnded record.childTaskId
          else childSnapshotDecision scope record

/-- Whether a text that may not be recorded is one that several claim. -/
def multiplyClaimed (claims : List String) (name : Option String) : Bool :=
  name.any fun held => claims.count held > 1

def childDecision (scope : ChainScope) (view : View) (parentConfirmed : Bool)
    (record : ChildRecord) : Decision :=
  let parent := view.execution.workspaceRealpath
  if scope.live = false then
    undecided .unverified .runtimeSnapshotNotFresh record.childTaskId
  else if parentConfirmed = false then
    undecided .unverified .parentBindingNotConfirmed record.childTaskId
  else if record.childTaskId = none ∨ record.repo = none then
    undecided .ambiguous .childRecordIncomplete record.childTaskId
  else if record.repo = parent ∨
      namesBack (scope.chains.rootOf record.repo) [parent, record.repo] then
    undecided .ambiguous .childRecordCycle record.childTaskId
  else if multiplyClaimed scope.tasks record.childTaskId then
    undecided .ambiguous .taskClaimedByMultipleMissions record.childTaskId
  else if multiplyClaimed scope.workspaces record.repo then
    undecided .ambiguous .workspaceClaimedByMultipleMissions record.childTaskId
  else childRootDecision scope record

/-- One recorded child, with the task it is bound to. -/
def childChain (scope : ChainScope) (view : View) (parentConfirmed : Bool)
    (record : ChildRecord) : Chain × Option SnapshotTask :=
  let entry := scope.chains.rootOf record.repo
  let decision := childDecision scope view parentConfirmed record
  ({
    kind := .child
    chainTaskId := record.childTaskId
    parentTaskId := some record.parentTaskId
    root := rootBlock scope.chains record.repo
    binding := decision.binding
    membershipEnd := membershipEnd entry record.childTaskId
    dependency := some ⟨record.dependency,
      dependencyResolution record scope.chains scope.live, dependencyRule⟩
    record := some ⟨record.childTaskId, record.repo, record.workspaceId, record.declaredAgents⟩
    descendantsNotFollowed := descendants entry }, decision.task)

/-- The direct chain's binding is the Mission's, unless its own root shows that the task
it misses has ended. -/
def directBinding (mission : Mission) (ended : MembershipEnd) : Binding :=
  if mission.binding.state = .disappeared ∧ mission.binding.reason = .taskNotInSnapshot ∧
      ended.ended = some true then
    ⟨.notApplicable, .chainMembershipEnded, mission.view.execution.taskId⟩
  else mission.binding

def directChain (scope : ChainScope) (mission : Mission) : Chain × Option SnapshotTask :=
  let execution := mission.view.execution
  let ended := membershipEnd (scope.chains.rootOf execution.workspaceRealpath)
    execution.taskId
  ({
    kind := .direct
    chainTaskId := execution.taskId
    parentTaskId := none
    root := rootBlock scope.chains execution.workspaceRealpath
    binding := directBinding mission ended
    membershipEnd := ended
    dependency := none
    record := none
    descendantsNotFollowed := none },
    if mission.binding.state = .bound then
      (scope.observation.reading.tasksById mission.binding.taskId).head?
    else none)

/-- Whether the Mission's own binding is confirmed unique, over the direct claims. -/
def parentConfirmed (observation : Observation) (tasks workspaces : List String)
    (view : View) : Bool :=
  view.standing = .active ∧ executionBinding view tasks workspaces = none ∧
    observation.unconfirmed view = false

/-! ## The classification -/

structure ChainMember where
  member : Member
  chain : ChainKind
  chainTaskId : String
  deriving DecidableEq

def qualified (member : Member) (chain : ChainKind) (chainTaskId missionRef : String) :
    ChainMember where
  member := { member with
    memberRef := missionRef ++ "#" ++ chainTaskId ++ "#" ++ member.logical }
  chain := chain
  chainTaskId := chainTaskId

/-- The members of the direct chain, then those of the child chains, each by task, by
logical name and by agent. -/
def sortedMembers (members : List ChainMember) : List ChainMember :=
  let sorted := sortedBy ChainMember.chainTaskId
    (sortedBy (fun member => member.member.logical)
      (sortedBy (fun member => member.member.agent) members))
  (sorted.filter fun member => member.chain = .direct) ++
    sorted.filter fun member => member.chain = .child

structure ChainMission where
  view : View
  binding : Binding
  members : List ChainMember
  taskChains : List Chain
  childrenRecord : ChildrenBlock
  deriving DecidableEq

/-- A Mission with its chains, the direct one first. -/
structure DecidedChains where
  mission : Mission
  chains : List (Chain × Option SnapshotTask)

/-- The tasks a Mission's chains are bound to. -/
def DecidedChains.bound (decided : DecidedChains) : List SnapshotTask :=
  decided.chains.filterMap Prod.snd

def chainMembers (claims : Claims) (observedAt : Option Nat) (mission : Mission)
    (chain : Chain × Option SnapshotTask) : List ChainMember :=
  chain.2.elim [] fun task =>
    (classifyMembers mission.view task claims observedAt).map fun member =>
      qualified member chain.1.kind task.taskId mission.view.missionRef

/-- Every Mission of the version 1 roster with its chains. -/
def decidedChains (views : List View) (observation : Observation) (chains : ChainReading) :
    List DecidedChains :=
  let deferred := chainDeferrals chains views observation.canonicalComplete
  let scope : ChainScope := {
    observation := observation
    chains := chains
    tasks := chainTaskClaims chains views deferred
    workspaces := chainWorkspaceClaims chains views deferred }
  (classifyWith views observation deferred).1.map fun mission => {
    mission := mission
    chains := directChain scope mission :: (missionChildren chains deferred mission.view).2.map
        (childChain scope mission.view (parentConfirmed observation
          (taskClaims views deferred) (workspaceClaims views deferred) mission.view)) }

def classifyV2 (views : List View) (observation : Observation) (chains : ChainReading) :
    List ChainMission × Option Nat :=
  let deferred := chainDeferrals chains views observation.canonicalComplete
  let decided := decidedChains views observation chains
  let claims := newClaims (decided.flatMap DecidedChains.bound)
    observation.reading.agents
  (decided.map fun entry => {
      view := entry.mission.view
      binding := entry.mission.binding
      members := sortedMembers (entry.chains.flatMap
        (chainMembers claims observation.reading.observedAt entry.mission))
      taskChains := entry.chains.map Prod.fst
      childrenRecord := (missionChildren chains deferred entry.mission.view).1 },
    unmatchedAgents observation.reading claims)

end DodgingInfinity.MissionSources
