import DodgingInfinity.Herdr.Tasks
import DodgingInfinity.Library.Interleaving

/-!
# Heartbeats beside other writers

Any number of heartbeats run over one task file, which dispatches and ends of
tasks write too.  Beside the file, the world remembers which tasks it has ever
recorded and what each heartbeat has loaded.
-/

namespace DodgingInfinity.Herdr

/-! ## The world -/

def shownId : TaskFile → Option String
  | .holds task => textAt task "id"
  | _ => none

/-- The file names this task, under this status. -/
def Shows (file : TaskFile) (taskId status : String) : Prop :=
  ∃ task, file = .holds task ∧ textAt task "id" = some taskId ∧ textAt task "status" = some status

structure HerdWorld where
  file : TaskFile
  recorded : List String
  loaded : Nat → Option Task

namespace HerdWorld

/-- A writer replaces the file. -/
def recording (world : HerdWorld) (task : Task) : HerdWorld :=
  { world with
    file := .holds task
    recorded := world.recorded ++ (textAt task "id").toList }

/-- A heartbeat loads the document that the file holds. -/
def loading (world : HerdWorld) (heartbeat : Nat) : HerdWorld :=
  { world with
    loaded := Function.update world.loaded heartbeat (loadTask world.file) }

/-- A world in which nobody has loaded anything. -/
def start (file : TaskFile) : HerdWorld :=
  ⟨file, (shownId file).toList, fun _ => none⟩

end HerdWorld

/-- What the other writers record: a new task, under an id that the file never
named, or a task that has stopped. -/
def OtherWrites (world : HerdWorld) (task : Task) : Prop :=
  (∃ taskId, textAt task "id" = some taskId ∧ taskId ∉ world.recorded) ∨
    ∃ status ∈ priorTaskStopped, textAt task "status" = some status

/-- Every position of another writer: a save of a heartbeat meets the condition
that the run is about, and any other question leaves the file alone. -/
def herd (condition : HerdWorld → Nat → Prop) :
    Commons Nat HerdQuestion HerdAnswer HerdWorld where
  answers heartbeat world question answer next :=
    match question with
    | .readTask => answer = world.file ∧ next = world.loading heartbeat
    | .saveTask task => condition world heartbeat ∧
        if answer = true then next = world.recording task else next = world
    | _ => next = world
  drifts world next := ∃ task, OtherWrites world task ∧ next = world.recording task

variable {condition : HerdWorld → Nat → Prop} {heartbeat : Nat}

variable {task : Task}

end DodgingInfinity.Herdr

/-!
## No heartbeat undoes an end, while none is late

A heartbeat writes back the document that it loaded before it prompted, and
rereads nothing.  Where the file still shows that task active, a task that has
ended, or has given way to a newer one, is never shown active again.
-/

namespace DodgingInfinity.Herdr

open Relation Transition

/-! ## What the other writers save -/

abbrev HerdPool := Pool Nat HerdQuestion HerdAnswer HerdWorld HerdEnd

/-- The task is recorded as stopped, or the file has gone on to another one. -/
def Settled (world : HerdWorld) (taskId : String) : Prop :=
  (∃ status ∈ priorTaskStopped, Shows world.file taskId status) ∨
    taskId ∈ world.recorded ∧ ∃ other, other ≠ taskId ∧ shownId world.file = some other

variable {condition : HerdWorld → Nat → Prop}

variable {world : HerdWorld} {taskId : String}

variable {task : Task}

/-- A pool in which one heartbeat runs. -/
def alone (world : HerdWorld) (program : HerdProgram) : HerdPool :=
  ⟨world, Function.update (fun _ => none) 0 (some program)⟩

def sampleTask : Task := Dict.ofEntries [("id", .text "t-1"),
  ("status", .text "ACTIVE"), ("heartbeat_count", .number 0)]

def sampleWorld : HerdWorld := HerdWorld.start (.holds sampleTask)

end DodgingInfinity.Herdr
