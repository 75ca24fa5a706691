import DodgingInfinity.Herdr.Identity
import DodgingInfinity.Library.History

/-!
# Clearing contexts

Before new work every role is identified, and only then is anything sent.  The durable
record says how far each role came.
-/

namespace DodgingInfinity.Herdr

/-! ## The durable record -/

inductive ResetPhase where
  | planned
  | cleared
  | reseeded
  | blocked
  deriving DecidableEq

inductive ResetProblem where
  | unavailable
  | clearFailed
  | reseedFailed
  | identity (code : IdentityProblem)
  deriving DecidableEq

structure ResetEntry where
  phase : ResetPhase
  agent : Option Json
  problem : Option ResetProblem
  verdict : Option VerdictKind

structure ResetDocument where
  roles : Dict String ResetEntry
  blocked : Option (List String)

/-- The record with an entry updated, or begun. -/
def ResetDocument.record (document : ResetDocument) (logical : String) (phase : ResetPhase)
    (update : ResetEntry → ResetEntry) : ResetDocument :=
  let entry := (document.roles.get? logical).getD ⟨phase, none, none, none⟩
  { document with roles := document.roles.set logical { update entry with phase := phase } }

/-! ## Questions -/

structure ClearConfig where
  clearRoles : Option (List String)
  resetCommands : Option (Dict String String)
  kinds : Dict String String
  taskTimeout : Option Int

/-- What a probe of one agent answers. -/
structure AgentInfo where
  status : String
  raw : Json

def AgentInfo.toJson (info : AgentInfo) : Json :=
  .object [("status", .text info.status), ("raw", info.raw)]

inductive BindingsFile where
  | corrupt
  | holds (roles : Dict String Json)

inductive CommandAnswer where
  | raised
  | returned (code : Int)
  deriving DecidableEq

inductive ClearQuestion where
  | loadConfig
  | loadRuntime
  | readTask
  | loadBindings
  | saveResetState (document : ResetDocument)
  | agentInfo (agent : String)
  | listAgents
  | saveBindings (roles : Dict String Json)
  | sendReset (agent : Json) (command : String)
  | reseed (agent : Json) (logical : String)

@[reducible] def ClearAnswer : ClearQuestion → Type
  | .loadConfig => Option ClearConfig
  | .loadRuntime => Option Agents
  | .readTask => TaskFile
  | .loadBindings => BindingsFile
  | .saveResetState _ => Bool
  | .agentInfo _ => AgentInfo
  | .listAgents => Option Json
  | .saveBindings _ => Bool
  | .sendReset _ _ => CommandAnswer
  | .reseed _ _ => CommandAnswer

inductive ClearFault where
  | taskActive
  | busy (logical : String)
  | clearFailed (logical : String)
  | raised
  deriving DecidableEq

/-- What a reset holds in memory. -/
structure ClearState where
  document : ResetDocument
  bindings : Dict String Json
  blocked : List String

abbrev Clearing (α : Type) := Procedure ClearQuestion ClearAnswer ClearState ClearFault α

/-- A role that was chosen, with the agent and the command that it is sent. -/
structure SelectedRole where
  logical : String
  agent : Json
  reset : String

/-! ## Steps -/

namespace Clearing

def ask (question : ClearQuestion) : Clearing (ClearAnswer question) := Procedure.put question

def raise {α : Type} : Clearing α := Procedure.stop .raised

def attempted {α : Type} : Option α → Clearing α
  | some value => pure value
  | none => raise

def orRaise (done : Bool) : Clearing Unit := if done then pure () else raise

def record (logical : String) (phase : ResetPhase) (update : ResetEntry → ResetEntry) :
    Clearing Unit :=
  Procedure.change fun state =>
    { state with document := state.document.record logical phase update }

def saveResetState : Clearing Unit := do
  let state ← Procedure.read
  let saved ← ask (.saveResetState state.document)
  orRaise saved

/-- A role that receives no command, with the reason. -/
def block (logical : String) (agent : Json) (problem : Option ResetProblem)
    (verdict : Option VerdictKind) : Clearing (Option SelectedRole) := do
  record logical .blocked fun entry =>
    { entry with agent := some agent, problem := problem, verdict := verdict }
  saveResetState
  Procedure.change fun state => { state with blocked := state.blocked ++ [logical] }
  pure none

def plan (logical : String) (agent : Json) (reset : String) (verdict : VerdictKind) :
    Clearing (Option SelectedRole) := do
  record logical .planned fun entry =>
    { entry with agent := some agent, problem := none, verdict := some verdict }
  saveResetState
  pure (some ⟨logical, agent, reset⟩)

end Clearing

open Clearing

/-! ## Choosing the roles -/

def roleTypeForLogical (logical : String) : String :=
  if logical = "supervisor" then "supervisor"
  else if logical.startsWith "lead" then "lead"
  else if logical.startsWith "executor" then "executor"
  else "reviewer"

def allowedTypes (config : ClearConfig) : List String :=
  config.clearRoles.getD ["supervisor", "lead", "executor", "reviewer"]

def defaultResetCommands : Dict String String :=
  Dict.ofEntries [("claude", "/clear"), ("codex", "/new")]

/-- The reset command of a role type, if its kind has one. -/
def resetCommand (config : ClearConfig) (roleType : String) : Option String :=
  ((config.kinds.get? roleType).bind (config.resetCommands.getD defaultResetCommands).get?).filter
    fun reset => reset ≠ ""

def probeSentinelStatuses : List String := ["missing", "unknown"]

def resettableStatuses : List String := ["idle", "done"]

/-- A status that the multiplexer itself reported and that forbids a reset. -/
def isBusy (status : Json) : Bool :=
  match textOf status with
  | some text => text ∉ probeSentinelStatuses ∧ text ∉ resettableStatuses
  | none => true

/-- The recorded identity of a role; without one it is an empty object. -/
def bindingOf (roles : Dict String Json) (logical : String) : Json :=
  (roles.get? logical).getD (.object [])

/-- The name that a rediscovered record goes by. -/
def agentOf (record : Json) (agent : String) : Json :=
  if truthy (memberOf record "name") then memberOf record "name" else .text agent

def adopt (logical agent reset : String) (record : Json) : Clearing (Option SelectedRole) :=
  if isBusy (memberOf record "agent_status") then Procedure.stop (.busy logical)
  else do
    Procedure.change fun state => { state with
      bindings := state.bindings.set logical (bindingFor logical (agentOf record agent) record) }
    let state ← Procedure.read
    let saved ← ask (.saveBindings state.bindings)
    orRaise saved
    plan logical (agentOf record agent) reset .replaced

def followRediscovery (logical agent reset : String) (verdict : VerdictKind) :
    Except RediscoveryFault Json → Clearing (Option SelectedRole)
  | .ok record => adopt logical agent reset record
  | .error (.problem code) => block logical (.text agent) (some (.identity code)) (some verdict)
  | .error .raised => raise

def followVerdict (logical agent reset : String) (binding : Json) (verdict : Verdict) :
    Clearing (Option SelectedRole) :=
  match verdict.action with
  | .rediscover => do
      let answer ← ask .listAgents
      let listing ← attempted answer
      followRediscovery logical agent reset verdict.kind (rediscover binding listing)
  | .bind | .block =>
      block logical (.text agent) (verdict.problem.map .identity) (some verdict.kind)
  | .proceed | .rebootstrap => plan logical (.text agent) reset verdict.kind

def identifyRole (logical agent reset : String) (info : AgentInfo) :
    Clearing (Option SelectedRole) :=
  if isBusy (.text info.status) then Procedure.stop (.busy logical)
  else do
    let state ← Procedure.read
    let verdict ← attempted (classify logical (bindingOf state.bindings logical) info.toJson)
    followVerdict logical agent reset (bindingOf state.bindings logical) verdict

def selectRole (config : ClearConfig) (logical agent : String) : Clearing (Option SelectedRole) :=
  if roleTypeForLogical logical ∉ allowedTypes config then pure none
  else match resetCommand config (roleTypeForLogical logical) with
    | none => block logical (.text agent) (some .unavailable) none
    | some reset => do
        let info ← ask (.agentInfo agent)
        identifyRole logical agent reset info

def selectRoles (config : ClearConfig) : List (String × String) → Clearing (List SelectedRole)
  | [] => pure []
  | entry :: rest => do
      let first ← selectRole config entry.1 entry.2
      let others ← selectRoles config rest
      pure (first.toList ++ others)

/-! ## Sending -/

def clearAfter (role : SelectedRole) : CommandAnswer → Clearing Unit
  | .raised => do
      record role.logical .planned fun entry => { entry with problem := some .clearFailed }
      saveResetState
      raise
  | .returned code =>
      if code ≠ 0 then do
        record role.logical .blocked fun entry => { entry with problem := some .clearFailed }
        saveResetState
        Procedure.stop (.clearFailed role.logical)
      else do
        record role.logical .cleared id
        saveResetState

def clearRoles : List SelectedRole → Clearing Unit
  | [] => pure ()
  | role :: rest => do
      let answer ← ask (.sendReset role.agent role.reset)
      clearAfter role answer
      clearRoles rest

def reseedAfter (role : SelectedRole) : CommandAnswer → Clearing Unit
  | .raised => do
      record role.logical .cleared fun entry => { entry with problem := some .reseedFailed }
      saveResetState
      raise
  | .returned code =>
      if code ≠ 0 then do
        record role.logical .cleared fun entry => { entry with problem := some .reseedFailed }
        saveResetState
      else do
        record role.logical .reseeded fun entry => { entry with problem := none }
        saveResetState

def reseedRoles : List SelectedRole → Clearing Unit
  | [] => pure ()
  | role :: rest => do
      let answer ← ask (.reseed role.agent role.logical)
      reseedAfter role answer
      reseedRoles rest

/-- The last save, with the roles that were blocked. -/
def finishReset : Clearing ResetDocument := do
  Procedure.change fun state =>
    { state with document := { state.document with blocked := some state.blocked } }
  saveResetState
  let state ← Procedure.read
  pure state.document

/-! ## The operation -/

/-- A bindings document that cannot be trusted blocks every role. -/
def blockAll : List (String × String) → Clearing Unit
  | [] => pure ()
  | entry :: rest => do
      record entry.1 .blocked fun held => { held with
        agent := some (.text entry.2)
        problem := some (.identity .bindingsCorrupt) }
      Procedure.change fun state => { state with blocked := state.blocked ++ [entry.1] }
      blockAll rest

def clearBound (config : ClearConfig) (agents : Agents) : BindingsFile → Clearing ResetDocument
  | .corrupt => do
      blockAll agents.entries
      finishReset
  | .holds roles => do
      Procedure.change fun state => { state with bindings := roles }
      let selected ← selectRoles config agents.entries
      clearRoles selected
      let _ ← attempted config.taskTimeout
      reseedRoles selected
      finishReset

def refuseActive (task : Task) : Clearing Unit :=
  if IsActive task then Procedure.stop .taskActive else pure ()

/-- Clear the contexts of a completed task before new work. -/
def clearContexts : Clearing ResetDocument := do
  let configAnswer ← ask .loadConfig
  let config ← attempted configAnswer
  let runtimeAnswer ← ask .loadRuntime
  let agents ← attempted runtimeAnswer
  let file ← ask .readTask
  let task ← attempted (loadTaskStrict file)
  refuseActive task
  saveResetState
  let bindings ← ask .loadBindings
  clearBound config agents bindings

/-- What a reset starts from. -/
def clearStart : ClearState := ⟨⟨Dict.empty, none⟩, Dict.empty, []⟩

end DodgingInfinity.Herdr
