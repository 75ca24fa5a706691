import DodgingInfinity.Library.Calls
import DodgingInfinity.TargetBroker.Receipts

/-!
# Workspaces and their sessions

A workflow owns a live workspace when one child record of its own names it, one live
workspace has that id, and the agents on both sides are the same.  The proof is made
once for a release; before the close its binding is compared with new readings.
-/

namespace DodgingInfinity.TargetBroker

open Checked WorkflowAuthority
open TargetRuntime (fieldOf textOf namedText isObject)

/-! ## Ownership -/

inductive Ownership where
  | owned
  | notOwned
  | unprovable
  deriving DecidableEq

/-- One row of a cleanup report: the verdict, and whether the step went through. -/
structure CleanupRow where
  verdict : Ownership
  ok : Bool
  deriving DecidableEq

/-- What the session close came to, with its rows. -/
structure SessionsAnswer where
  reclaimed : Bool
  rows : List CleanupRow
  deriving DecidableEq

/-- What a reading of foreign data raises. -/
inductive Unfit where
  | badPath
  | unhashable
  | unsortable
  | notIterable
  deriving DecidableEq

/-- `realpath`, which raises for a text that is no path. -/
abbrev Realpath := String → Except Unfit String

/-- `os.path.join` of two parts. -/
def joinPath (root name : String) : String :=
  if startsWith name "/" then name
  else if root = "" ∨ root.toList.getLast? = some '/' then root ++ name
  else root ++ "/" ++ name

def derivedLeasePath (root workflowId : String) : String := joinPath root workflowId

/-- The lease's path in the record, resolved; none is derived. -/
def recordedLeaseRealpath (realpath : Realpath) (record : WorkflowRecord) :
    Except Unfit (Option String) :=
  if leasePath record = "" then pure none else do
    let resolved ← realpath (leasePath record)
    pure (some resolved)

/-- The durably bound target task id; the sentinel of an unresolved one is none. -/
def recordedTaskId (record : WorkflowRecord) : Option String :=
  (record.targetEngine.map TargetEngine.taskId).filter fun taskId =>
    taskId ≠ "" ∧ taskId ≠ unresolvedTaskId

def isWithin (child parent : String) : Bool := startsWith child (parent ++ "/")

/-- Whether a path is the directory of the workflow's own lease: the recorded path is
the derived one, lies inside the root, and is what the path resolves to. -/
def ownsWorkspace (realpath : Realpath) (root : String) (record : WorkflowRecord)
    (path : String) : Except Unfit Ownership := do
  let lease ← recordedLeaseRealpath realpath record
  match lease with
  | none => pure .unprovable
  | some recorded =>
      if record.workflowId = "" then pure .unprovable else do
        let realRoot ← realpath root
        let derived ← realpath (derivedLeasePath root record.workflowId)
        if recorded ≠ derived then pure .notOwned
        else if ¬ isWithin recorded realRoot then pure .notOwned
        else do
          let resolved ← realpath path
          pure (if resolved = recorded then .owned else .notOwned)

/-- Whether a child record names a resource of the workflow: its repository is the
workflow's own directory, and its task the bound one. -/
def ownsChildRecord (realpath : Realpath) (root : String) (record : WorkflowRecord)
    (child : Json) : Except Unfit Ownership :=
  match recordedTaskId record, namedText (fieldOf child "repo") with
  | some taskId, some repo => do
      let owns ← ownsWorkspace realpath root record repo
      pure (if owns ≠ .owned then .notOwned
        else match namedText (fieldOf child "task_id") with
          | none => .unprovable
          | some recordedId => if recordedId = taskId then .owned else .notOwned)
  | _, _ => pure .unprovable

/-- The objects of a listing that are child records of the workflow. -/
def ownedRecords (realpath : Realpath) (root : String) (record : WorkflowRecord) :
    List Json → Except Unfit (List Json)
  | [] => pure []
  | child :: rest =>
      if isObject child then do
        let owns ← ownsChildRecord realpath root record child
        let others ← ownedRecords realpath root record rest
        pure (if owns = .owned then child :: others else others)
      else ownedRecords realpath root record rest

/-! ## The proof -/

/-- The agents a child record names, by their logical names. -/
def recordedAgents (child : Json) : Option (List (String × String)) :=
  match fieldOf child "agents" with
  | .object agents =>
      if agents = [] then none
      else agents.mapM fun agent =>
        if agent.1 = "" then none else (namedText agent.2).map fun name => (agent.1, name)
  | _ => none

/-- The items of a set of names, as another component reports it. -/
def isHashable : Json → Bool
  | .list _ => false
  | .object _ => false
  | _ => true

def isNumeric : Json → Bool
  | .bool _ => true
  | .number _ => true
  | _ => false

def isText (item : Json) : Bool := (textOf item).isSome

/-- The items of different kinds cannot be sorted. -/
def isSortable (items : List Json) : Bool :=
  items.all isText || items.all isNumeric || items.all isNull

/-- A reported set is the set of the names. -/
def sameNames (items : List Json) (names : List String) : Bool :=
  (items.all fun item => (textOf item).any (· ∈ names)) &&
    names.all fun name => items.any fun item => textOf item = some name

/-- What was proven: the binding a close is compared with. -/
structure ProofSnapshot where
  workspaceId : String
  taskId : String
  agentNames : List String
  lease : Option String
  deriving DecidableEq

inductive ProofProblem where
  | noChildRecord
  | multipleChildRecords
  | noWorkspaceId
  | workspaceNotFound
  | multipleWorkspaces
  | agentsDisagree
  | evidenceDegraded
  deriving DecidableEq

inductive Proof where
  | owned (snapshot : ProofSnapshot)
  | notOwned (problem : ProofProblem)
  | unprovable (problem : ProofProblem)
  deriving DecidableEq

/-- The live workspaces of an id. -/
def workspacesOf (live : List Json) (workspaceId : String) : List Json :=
  live.filter fun workspace =>
    isObject workspace && textOf (fieldOf workspace "workspace_id") = some workspaceId

/-- The agents of the record and of the live workspace are compared as sets. -/
def compareAgents (realpath : Realpath) (record : WorkflowRecord) (workspaceId taskId : String)
    (child workspace : Json) : Except Unfit Proof :=
  match recordedAgents child, fieldOf workspace "agent_names" with
  | none, _ => pure (.unprovable .agentsDisagree)
  | some agents, .list observed => do
      failIf (¬ observed.all isHashable) .unhashable
      if sameNames observed (agents.map Prod.snd) then do
        let lease ← recordedLeaseRealpath realpath record
        pure (.owned ⟨workspaceId, taskId, agents.map Prod.snd, lease⟩)
      else do
        failIf (¬ isSortable observed) .unsortable
        pure (.notOwned .agentsDisagree)
  | some _, _ => pure (.unprovable .evidenceDegraded)

/-- The live side of the proof for the one record that is the workflow's. -/
def proveLive (realpath : Realpath) (record : WorkflowRecord) (taskId : String) (child : Json)
    (live : List Json) : Except Unfit Proof :=
  match namedText (fieldOf child "workspace_id") with
  | none => pure (.unprovable .noWorkspaceId)
  | some workspaceId =>
      match workspacesOf live workspaceId with
      | [] => pure (.notOwned .workspaceNotFound)
      | [workspace] => compareAgents realpath record workspaceId taskId child workspace
      | _ => pure (.notOwned .multipleWorkspaces)

/-- Whether the workflow owns exactly one live workspace. -/
def proveOwnership (realpath : Realpath) (root : String) (record : WorkflowRecord)
    (children live : Json) : Except Unfit Proof :=
  match recordedTaskId record, children, live with
  | some taskId, .list children, .list live => do
      let matching ← ownedRecords realpath root record children
      match matching with
      | [] => pure (.notOwned .noChildRecord)
      | [child] => proveLive realpath record taskId child live
      | _ => pure (.notOwned .multipleChildRecords)
  | _, _, _ => pure (.unprovable .evidenceDegraded)

/-! ## The comparison before the close -/

/-- The live workspace is still the one, with the agents that were proven. -/
def liveStillMatches (snapshot : ProofSnapshot) (live : Json) : Except Unfit Bool :=
  match live with
  | .list live =>
      match workspacesOf live snapshot.workspaceId with
      | [workspace] =>
          match fieldOf workspace "agent_names" with
          | .list observed => do
              failIf (¬ observed.all isHashable) .unhashable
              pure (sameNames observed snapshot.agentNames)
          | _ => pure false
      | _ => pure false
  | _ => pure false

/-- The record still names the lease and the task that were proven. -/
def recordStillMatches (realpath : Realpath) (record : WorkflowRecord)
    (snapshot : ProofSnapshot) : Except Unfit Bool := do
  let lease ← recordedLeaseRealpath realpath record
  pure (lease = snapshot.lease ∧ recordedTaskId record = some snapshot.taskId)

/-- The one record of the workflow still names the workspace and its agents. -/
def childStillMatches (snapshot : ProofSnapshot) (matching : List Json) : Bool :=
  match matching with
  | [child] =>
      textOf (fieldOf child "workspace_id") = some snapshot.workspaceId ∧
        (recordedAgents child).any fun agents =>
          sameNames (agents.map fun agent => .text agent.2) snapshot.agentNames
  | _ => false

/-- The child records are consulted only where a listing is there to consult. -/
def childrenStillMatch (realpath : Realpath) (root : String) (record : WorkflowRecord)
    (snapshot : ProofSnapshot) (children : Json) : Except Unfit Bool :=
  match children with
  | .null => pure true
  | .list children => do
      let matching ← ownedRecords realpath root record children
      pure (childStillMatches snapshot matching)
  | .text _ => pure false
  | .object _ => pure false
  | _ => .error .notIterable

/-- Whether the live world is still the one that was proven. -/
def stillMatches (realpath : Realpath) (root : String) (record : WorkflowRecord)
    (snapshot : ProofSnapshot) (children live : Json) : Except Unfit Bool := do
  let live ← liveStillMatches snapshot live
  if live = false then pure false
  else do
    let bound ← recordStillMatches realpath record snapshot
    if bound = false then pure false
    else childrenStillMatch realpath root record snapshot children

/-! ## The release of the sessions -/

/-- What a broker may do about workspaces. -/
structure WorkspaceWorker where
  observes : Bool
  closes : Bool
  deriving DecidableEq

/-- One reading of the child listing and of the live workspaces, each missing where it
raised, with the file system it was made in. -/
structure Reading where
  children : Option Json
  live : Option Json
  realpath : Realpath

/-- The listing in what was read of the children; anything but an object is none. -/
def listedOf (reading : Reading) : Json := fieldOf (reading.children.getD .null) "listed"

/-- A worker without the capability has no live workspaces to read. -/
def liveOf (worker : WorkspaceWorker) (reading : Reading) : Option Json :=
  if worker.observes then reading.live else none

/-- The one proof of a release. -/
def domainBProof (worker : WorkspaceWorker) (root : String) (record : WorkflowRecord)
    (reading : Reading) : Except Unfit (Option ProofSnapshot) :=
  match liveOf worker reading with
  | none => pure none
  | some live => do
      let proof ← proveOwnership reading.realpath root record (listedOf reading) live
      pure (match proof with
        | .owned snapshot => some snapshot
        | _ => none)

/-- The problem of a proof that is not one. -/
def problemOf : Proof → Option ProofProblem
  | .owned _ => none
  | .notOwned problem => some problem
  | .unprovable problem => some problem

/-- Without a proof nothing is closed; the sessions are reclaimed where the evidence
shows that none remains. -/
def nothingToClose (worker : WorkspaceWorker) (root : String) (record : WorkflowRecord)
    (reading : Reading) : Except Unfit SessionsAnswer :=
  match liveOf worker reading with
  | none => pure ⟨false, [⟨.unprovable, true⟩]⟩
  | some live => do
      let proof ← proveOwnership reading.realpath root record (listedOf reading) live
      pure {
        reclaimed := problemOf proof = some .workspaceNotFound ∨
          problemOf proof = some .noChildRecord ∧ recordedTaskId record = none
        rows := [⟨.unprovable, true⟩] }

/-- What a release came to: the workspace it asked to close, and its answer. -/
structure SessionsRelease where
  invoked : Option String
  answer : Except Unfit SessionsAnswer

/-- The close of the proven workspace, after the comparison. -/
def closeProven (root : String) (record : WorkflowRecord) (snapshot : ProofSnapshot)
    (reading : Reading) (live : Json) : SessionsRelease :=
  match stillMatches reading.realpath root record snapshot (listedOf reading) live with
  | .error unfit => ⟨none, .error unfit⟩
  | .ok false => ⟨none, .ok ⟨false, [⟨.unprovable, true⟩]⟩⟩
  | .ok true => ⟨some snapshot.workspaceId, .ok ⟨true, [⟨.owned, true⟩]⟩⟩

/-- The terminal cleanup of the workspace, with what the release proved. -/
def domainBRelease (worker : WorkspaceWorker) (root : String) (record : WorkflowRecord)
    (snapshot : Option ProofSnapshot) (reading : Reading) : SessionsRelease :=
  if ¬ worker.observes ∧ ¬ worker.closes then ⟨none, .ok ⟨true, [⟨.notOwned, true⟩]⟩⟩
  else if ¬ worker.closes then ⟨none, .ok ⟨false, [⟨.unprovable, false⟩]⟩⟩
  else match snapshot with
    | none => ⟨none, nothingToClose worker root record reading⟩
    | some snapshot =>
        match liveOf worker reading with
        | none => ⟨none, .ok ⟨false, [⟨.unprovable, true⟩]⟩⟩
        | some live => closeProven root record snapshot reading live

/-- A release: the proof by a first reading, and the close by a second one. -/
def releaseSessions (worker : WorkspaceWorker) (root : String) (record : WorkflowRecord)
    (first second : Reading) : SessionsRelease :=
  match domainBProof worker root record first with
  | .error unfit => ⟨none, .error unfit⟩
  | .ok snapshot => domainBRelease worker root record snapshot second

end DodgingInfinity.TargetBroker
