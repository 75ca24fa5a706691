import DodgingInfinity.Json
import DodgingInfinity.Library.Dict
import DodgingInfinity.Library.Program

/-!
# The task file and its writers

One file names the task of a workspace.  Every writer reads the whole document,
changes it and writes the whole document back.  What a writer asks in between
is where another one may land.
-/

namespace DodgingInfinity.Herdr

/-! ## The document -/

/-- The decoded object of the task file. -/
abbrev Task := Dict String Json

/-- What a read of the task file finds. -/
inductive TaskFile where
  | absent
  | unreadable
  | notObject
  | holds (task : Task)

def textOf : Json → Option String
  | .text value => some value
  | _ => none

/-- The text under a key, if the document has one there. -/
def textAt (task : Task) (key : String) : Option String :=
  (task.get? key).bind textOf

def activeStatus : String := "ACTIVE"

/-- The statuses of a prior task that has stopped. -/
def priorTaskStopped : List String := ["COMPLETE", "ABORTED", "ERROR"]

def IsActive (task : Task) : Prop := textAt task "status" = some activeStatus

instance (task : Task) : Decidable (IsActive task) :=
  inferInstanceAs (Decidable (_ = _))

def idleTask : Task := Dict.empty.set "status" (.text "IDLE")

def unreadableTask : Task :=
  (Dict.empty.set "status" (.text "ERROR")).set "error"
    (.text "unreadable task state")

/-- The tolerant read; a value that is no object fails at its first use. -/
def loadTask : TaskFile → Option Task
  | .absent => some idleTask
  | .unreadable => some unreadableTask
  | .notObject => none
  | .holds task => some task

/-- The read that guards an active task: what cannot be read is refused. -/
def loadTaskStrict : TaskFile → Option Task
  | .absent => some idleTask
  | .unreadable | .notObject => none
  | .holds task => some task

/-! ## Questions -/

/-- The agents of a running herd, by their logical names. -/
abbrev Agents := Dict String String

structure Config where
  clearBeforeNewTask : Bool
  deriving DecidableEq

/-- What a role is prompted with. -/
inductive PromptText where
  | heartbeat (taskId : Option Json) (rows : List (String × String))
  | newTask (taskId text : String)

structure Prompted where
  returncode : Int
  stdout : String
  stderr : String
  deriving DecidableEq

inductive HerdQuestion where
  | loadConfig
  | loadRuntime
  | readTask
  | observeControlRoles (taskId : String)
  | agentInfo (agent : String)
  | prompt (agent : String) (text : PromptText)
  | recordHeartbeatRouting
  | clearContexts
  | admitCompletion
  | dependenciesComplete (taskId : Option Json)
  | readCheckpoint
  | clock
  | saveTask (task : Task)

/-- An answer that may be an exception is optional. -/
@[reducible] def HerdAnswer : HerdQuestion → Type
  | .loadConfig => Option Config
  | .loadRuntime => Option Agents
  | .readTask => TaskFile
  | .observeControlRoles _ => Unit
  | .agentInfo _ => String
  | .prompt _ _ => Option Prompted
  | .recordHeartbeatRouting => Unit
  | .clearContexts => Bool
  | .admitCompletion => Bool
  | .dependenciesComplete _ => Bool
  | .readCheckpoint => Bool
  | .clock => Int
  | .saveTask _ => Bool

inductive HerdEnd where
  | skipped
  | ok
  | failed
  | saved
  | raised
  deriving DecidableEq

abbrev HerdProgram := Program HerdQuestion HerdAnswer HerdEnd

/-- The statuses of a role that takes a prompt. -/
def readyStatuses : List String := ["idle", "done"]

/-! ## Dispatch -/

structure DispatchCall where
  text : String
  taskId : String
  repo : String
  rejectionDrill : Bool
  taskPolicy : Option Json
  preserveContexts : Bool

/-- The record of a new task. -/
def newTask (call : DispatchCall) (startedAt : Int) : Task :=
  let task := Dict.ofEntries [("version", Json.number 1), ("id", .text call.taskId),
    ("status", .text activeStatus), ("description", .text call.text),
    ("started_at", .number startedAt), ("repo", .text call.repo), ("repo_ref", .text call.repo),
    ("heartbeat_count", .number 0), ("manual_prompt_count", .number 0),
    ("rejection_drill", .bool call.rejectionDrill)]
  match call.taskPolicy with
  | none => task
  | some policy => task.set "policy" policy

/-- The record of a task whose prompt failed. -/
def failedTask (task : Task) (error : String) (completedAt : Int) : Task :=
  ((task.set "status" (.text "ERROR")).set "error" (.text error)).set
    "completed_at" (.number completedAt)

def errorOf (prompted : Prompted) : String :=
  if prompted.stderr ≠ "" then prompted.stderr else prompted.stdout

/-- Record the new task, prompt the supervisor with it, and record the failure of
that prompt over whatever the file holds by then. -/
def recordAndPrompt (call : DispatchCall) (supervisor : String) : HerdProgram :=
  .ask .clock fun startedAt =>
  .ask (.saveTask (newTask call startedAt)) fun saved =>
  if saved = false then .done .raised
  else .ask (.prompt supervisor (.newTask call.taskId call.text)) fun
    | none => .done .raised
    | some prompted =>
        if prompted.returncode = 0 then .done .ok
        else .ask .clock fun completedAt =>
          .ask (.saveTask (failedTask (newTask call startedAt) (errorOf prompted)
            completedAt)) fun _ => .done .raised

/-- The supervisor must be ready for a new task. -/
def dispatchTo (call : DispatchCall) (agents : Agents) : HerdProgram :=
  match agents.get? "supervisor" with
  | none => .done .raised
  | some supervisor => .ask (.agentInfo supervisor) fun status =>
      if status ∉ readyStatuses then .done .raised
      else recordAndPrompt call supervisor

/-- Whether the contexts of a stopped task are cleared first. -/
def clearsContexts (call : DispatchCall) (config : Config) (prior : Task) : Bool :=
  (textAt prior "status").any (· ∈ priorTaskStopped) ∧
    call.preserveContexts = false ∧ config.clearBeforeNewTask

def dispatchAfter (call : DispatchCall) (config : Config) (agents : Agents)
    (prior : Task) : HerdProgram :=
  if IsActive prior then .done .raised
  else if clearsContexts call config prior then
    .ask .clearContexts fun cleared =>
      if cleared = false then .done .raised else dispatchTo call agents
  else dispatchTo call agents

/-- Dispatch one top-level objective, its text stripped and its id settled. -/
def dispatchTask (call : DispatchCall) : HerdProgram :=
  if call.text = "" then .done .raised
  else .ask .loadConfig fun
    | none => .done .raised
    | some config => .ask .loadRuntime fun
      | none => .done .raised
      | some agents => .ask .readTask fun file =>
          match loadTaskStrict file with
          | none => .done .raised
          | some prior => dispatchAfter call config agents prior

/-! ## Completion and abortion -/

/-- The count a document has, zero where it has none. -/
def countOf (task : Task) : Option Int :=
  match task.get? "heartbeat_count" with
  | none => some 0
  | some (.number count) => some count
  | some (.bool value) => some (if value then 1 else 0)
  | some (.text value) => value.toInt?
  | some _ => none

end DodgingInfinity.Herdr
