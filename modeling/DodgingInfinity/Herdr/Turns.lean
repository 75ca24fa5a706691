import DodgingInfinity.Json
import DodgingInfinity.Library.Checked

/-!
# Turn outcomes

One pass of the observer opens a turn when a role starts to work and closes it,
from evidence alone, when the role stops.  The outcome is derived in one place, and
what a closed turn may say is checked in another.
-/

namespace DodgingInfinity.Herdr

open Checked

inductive TurnOutcome where
  | running
  | completed
  | blocked
  | failedTransport
  | interrupted
  deriving DecidableEq

/-- The outcomes that are failures and must name a cause. -/
def failureOutcomes : List TurnOutcome := [.blocked, .failedTransport, .interrupted]

structure Turn where
  turnId : String
  taskId : String
  logical : String
  agent : String
  outcome : TurnOutcome
  cause : Option String
  expectedArtifact : Option String
  artifactPresent : Option Bool
  openedAt : Int
  closedAt : Option Int
  observerBuild : Option String
  routedAt : Option Int
  effectObservedAt : Option Int
  deriving DecidableEq

/-- A turn that was opened with the name of an artifact. -/
def Turn.Expects (turn : Turn) : Prop := ∃ artifact, turn.expectedArtifact = some artifact ∧
  artifact ≠ ""

def Turn.expects (turn : Turn) : Bool := turn.expectedArtifact.any fun artifact => artifact ≠ ""

inductive TurnProblem where
  | taskScope
  | attribution (name : String)
  | causeMissing
  | artifactAbsent
  deriving DecidableEq

/-- How the host shows a value inside a text. -/
class Shown where
  shown : Option String → String

export Shown (shown)

/-! ## One turn -/

def newTurn (turnId taskId logical agent : String) (expectedArtifact : Option String)
    (observerBuild : Option String) (now : Int) : Except TurnProblem Turn := do
  failIf (turnId = "") (.attribution "turn id")
  failIf (taskId = "") (.attribution "task id")
  failIf (logical = "") (.attribution "logical role")
  pure {
    turnId := turnId
    taskId := taskId
    logical := logical
    agent := agent
    outcome := .running
    cause := none
    expectedArtifact := expectedArtifact
    artifactPresent := none
    openedAt := now
    closedAt := none
    observerBuild := observerBuild
    routedAt := none
    effectObservedAt := none
  }

/-- Close a turn with a recorded outcome: a failure names its cause, and what is
completed has the artifact it expected. -/
def close (record : Turn) (outcome : TurnOutcome) (cause : Option String)
    (artifactPresent : Option Bool) (now : Int) : Except TurnProblem Turn := do
  failIf (outcome ∈ failureOutcomes ∧ (cause = none ∨ cause = some "")) .causeMissing
  failIf (outcome = .completed ∧ record.expects ∧ artifactPresent ≠ some true) .artifactAbsent
  pure { record with
    outcome := outcome
    cause := cause
    artifactPresent := artifactPresent
    closedAt := some now }

/-! ## Derivation -/

/-- The statuses a probe makes up when it could not reach the agent. -/
def probeSentinels : List String := ["missing", "unknown"]

def workingStatuses : List String := ["working"]

def settledStatuses : List String := ["idle", "done", "blocked"]

def IsOneOf (statuses : List String) (status : Option String) : Prop :=
  ∃ name ∈ statuses, status = some name

instance (statuses : List String) (status : Option String) : Decidable (IsOneOf statuses status) :=
  inferInstanceAs (Decidable (∃ name ∈ statuses, status = some name))

def evidenceInsufficient : String :=
  "the observed status is not one this observer can read as working" ++
    " or settled, so the evidence does not distinguish a long" ++
    " legitimate turn from a dead one; the honest outcome is RUNNING"

/-- The outcome from every input it depends on; the transport is asked first. -/
def outcomeFrom (status : Option String) (transportOk : Bool) (artifactPresent : Option Bool)
    (interrupted : Bool) : TurnOutcome :=
  if ¬ transportOk then .failedTransport
  else if interrupted then .interrupted
  else if status = some "working" ∨ status = none then .running
  else match artifactPresent with
    | none => .completed
    | some true => .completed
    | some false => .blocked

/-- What the evidence says of an open turn; no outcome leaves it open. -/
structure Derived where
  outcome : Option TurnOutcome
  cause : Option String

def derive [Shown] (record : Turn) (status : Option String) (artifactPresent : Option Bool)
    (interrupted : Bool) : Derived :=
  if IsOneOf probeSentinels status then ⟨some .failedTransport, some (
    "the probe for `" ++ record.logical ++ "` returned " ++ shown status ++
      ": the agent could not be reached, so this turn ended in TRANSPORT FAILURE rather" ++
      " than in a decision. Derived by the observer, because a" ++
      " turn killed by transport cannot record its own end")⟩
  else if interrupted then ⟨some .interrupted, some (
    "the turn for `" ++ record.logical ++ "` was cut off before any outcome was decided")⟩
  else if IsOneOf workingStatuses status then ⟨none, none⟩
  else if ¬ IsOneOf settledStatuses status then ⟨none, some evidenceInsufficient⟩
  else
    let outcome := outcomeFrom status true artifactPresent false
    if outcome = .blocked then ⟨some .blocked, some (
      "`" ++ record.logical ++ "` settled at " ++ shown status ++
        " and its expected artifact " ++ shown record.expectedArtifact ++
        " is ABSENT; the turn ended without producing what it was for")⟩
    else ⟨some outcome, none⟩

/-! ## One pass -/

/-- The open turn of a role that was recorded last, with its place. -/
def openTurnOf (turns : List Turn) (logical : String) : Option (Turn × Nat) :=
  turns.zipIdx.reverse.find? fun entry => entry.1.logical = logical ∧ entry.1.outcome = .running

/-- What a pass is called with, and what its probes answer. -/
structure TurnPass where
  agents : List (String × String)
  distinct : (agents.map Prod.fst).Nodup
  taskId : String
  status : String → Option String
  expected : String → Option String
  turnId : String → String
  artifactProbe : Option (String → Bool)
  observerBuild : Option String
  now : Int

structure TurnEvent where
  outcome : Option TurnOutcome
  logical : String
  turnId : String
  deriving DecidableEq

/-- A pass under way: the document, the events, and whether it is to be saved. -/
structure Observed where
  turns : List Turn
  events : List TurnEvent
  changed : Bool

/-- A role without an open turn: one is opened when it works. -/
def openRole (pass : TurnPass) (observed : Observed) (logical agent : String) :
    Except TurnProblem Observed :=
  if IsOneOf workingStatuses (pass.status logical) then do
    let opened ← newTurn (pass.turnId logical) pass.taskId logical agent
      (pass.expected logical) pass.observerBuild pass.now
    pure ⟨observed.turns ++ [opened], observed.events ++ [⟨none, logical, opened.turnId⟩], true⟩
  else pure observed

/-- Whether the artifact of an open turn is there, where it is asked. -/
def artifactPresent (pass : TurnPass) (record : Turn) : Option Bool :=
  match pass.artifactProbe, record.expectedArtifact with
  | some probe, some artifact => if artifact ≠ "" then some (probe artifact) else none
  | _, _ => none

/-- A role with an open turn: it stays open, or is closed from the evidence. -/
def followRole [Shown] (pass : TurnPass) (observed : Observed) (logical : String)
    (record : Turn) (index : Nat) : Except TurnProblem Observed :=
  let present := artifactPresent pass record
  let derived := derive record (pass.status logical) present false
  match derived.outcome with
  | none =>
      if derived.cause ≠ none ∧ record.cause ≠ derived.cause then
        pure ⟨observed.turns.set index { record with cause := derived.cause },
          observed.events, true⟩
      else pure observed
  | some outcome => do
      let closed ← close record outcome derived.cause present pass.now
      pure ⟨observed.turns.set index closed,
        observed.events ++ [⟨some outcome, logical, closed.turnId⟩], true⟩

def observeRole [Shown] (pass : TurnPass) (observed : Observed) (logical agent : String) :
    Except TurnProblem Observed :=
  match openTurnOf observed.turns logical with
  | none => openRole pass observed logical agent
  | some (record, index) => followRole pass observed logical record index

def observeRoles [Shown] (pass : TurnPass) (observed : Observed) :
    List (String × String) → Except TurnProblem Observed
  | [] => .ok observed
  | role :: rest => do
      let next ← observeRole pass observed role.1 role.2
      observeRoles pass next rest

/-- One observer pass over the control roles. -/
def observeControlRoles [Shown] (turns : List Turn) (pass : TurnPass) :
    Except TurnProblem Observed :=
  if pass.taskId = "" then .error .taskScope
  else observeRoles pass ⟨turns, [], false⟩ (sortedBy Prod.fst pass.agents)

/-- The record after a pass; one that raised saves nothing. -/
def afterPass [Shown] (turns : List Turn) (pass : TurnPass) : List Turn :=
  match observeControlRoles turns pass with
  | .ok observed => if observed.changed then observed.turns else turns
  | .error _ => turns

/-! ## What one role does -/

/-- No turn of the role is open. -/
def NoneOpen (turns : List Turn) (logical : String) : Prop :=
  ∀ turn ∈ turns, turn.logical = logical → turn.outcome ≠ .running

theorem openTurnOf_eq_none {turns : List Turn} {logical : String} :
    openTurnOf turns logical = none ↔ NoneOpen turns logical := by
  simp only [openTurnOf, List.find?_eq_none, List.mem_reverse, decide_eq_true_eq, not_and, NoneOpen]
  constructor
  · intro h turn hmem hlogical
    obtain ⟨index, hindex⟩ := List.mem_iff_getElem?.mp hmem
    exact h (turn, index) (List.mem_zipIdx_iff_getElem?.mpr hindex) hlogical
  · intro h entry hmem hlogical
    exact h entry.1 (List.mem_of_getElem? (List.mem_zipIdx_iff_getElem?.mp hmem)) hlogical

theorem openTurnOf_eq_some {turns : List Turn} {logical : String} {record : Turn} {index : Nat}
    (h : openTurnOf turns logical = some (record, index)) :
    turns[index]? = some record ∧ record.logical = logical ∧ record.outcome = .running := by
  have hmem := List.mem_of_find?_eq_some h
  have hfound := List.find?_some h
  simp only [decide_eq_true_eq] at hfound
  exact ⟨List.mem_zipIdx_iff_getElem?.mp (List.mem_reverse.mp hmem), hfound⟩

/-- What a role's observation does to the record. -/
inductive RoleStep (pass : TurnPass) (logical : String) (turns : List Turn) : List Turn → Prop
  | same : RoleStep pass logical turns turns
  | opened (turn : Turn) (hnone : NoneOpen turns logical) (hlogical : turn.logical = logical)
      (htask : turn.taskId = pass.taskId) (hrunning : turn.outcome = .running)
      (hclosed : turn.closedAt = none) : RoleStep pass logical turns (turns ++ [turn])
  | noted (record : Turn) (index : Nat) (cause : Option String)
      (hrecord : turns[index]? = some record) (hlogical : record.logical = logical)
      (hopen : record.outcome = .running) :
      RoleStep pass logical turns (turns.set index { record with cause := cause })
  | closed (record : Turn) (index : Nat) (outcome : TurnOutcome) (cause : Option String)
      (hrecord : turns[index]? = some record) (hlogical : record.logical = logical)
      (hopen : record.outcome = .running) (hover : outcome ≠ .running)
      (hcause : outcome ∈ failureOutcomes → ∃ text, cause = some text ∧ text ≠ "")
      (hpresent : outcome = .completed → record.Expects → artifactPresent pass record = some true) :
      RoleStep pass logical turns (turns.set index { record with
        outcome := outcome
        cause := cause
        artifactPresent := artifactPresent pass record
        closedAt := some pass.now })

variable {turns : List Turn} {pass : TurnPass} {logical agent : String}

theorem expects_eq_true {turn : Turn} : turn.expects = true ↔ turn.Expects := by
  simp [Turn.expects, Turn.Expects, Option.any_eq_true]

/-- A turn as it is opened. -/
theorem newTurn_eq_ok {turnId taskId : String} {expectedArtifact observerBuild : Option String}
    {now : Int} {turn : Turn} :
    newTurn turnId taskId logical agent expectedArtifact observerBuild now = .ok turn ↔
      turnId ≠ "" ∧ taskId ≠ "" ∧ logical ≠ "" ∧
        turn = ⟨turnId, taskId, logical, agent, .running, none, expectedArtifact, none, now, none,
          observerBuild, none, none⟩ := by
  simp only [newTurn, bind_eq_ok, exists_passed, failIf_eq_ok, pure_eq_ok, ne_eq, @eq_comm _ turn]

/-- A turn as it is closed. -/
theorem close_eq_ok {record closed : Turn} {outcome : TurnOutcome} {cause : Option String}
    {present : Option Bool} {now : Int} : close record outcome cause present now = .ok closed ↔
      ¬ (outcome ∈ failureOutcomes ∧ (cause = none ∨ cause = some "")) ∧
      ¬ (outcome = .completed ∧ record.Expects ∧ present ≠ some true) ∧
      closed = { record with
        outcome := outcome, cause := cause, artifactPresent := present, closedAt := some now } := by
  simp only [close, bind_eq_ok, exists_passed, failIf_eq_ok, pure_eq_ok, expects_eq_true,
    @eq_comm _ closed]

theorem append_ne_empty {first second : String} (h : second ≠ "") : first ++ second ≠ "" := by
  intro hempty
  apply h
  rw [← String.toList_inj] at hempty ⊢
  rw [String.toList_append] at hempty
  exact (List.append_eq_nil_iff.mp hempty).2

/-- What is derived of an open turn: a failure with its cause, or a completion of a
settled turn whose artifact was not found absent. -/
theorem derive_outcome [Shown] {record : Turn} {status : Option String}
    {present : Option Bool} {outcome : TurnOutcome}
    (h : (derive record status present false).outcome = some outcome) : outcome ≠ .running ∧
      (outcome ∈ failureOutcomes → ∃ text,
        (derive record status present false).cause = some text ∧ text ≠ "") ∧
      (outcome = .completed → IsOneOf settledStatuses status ∧ present ≠ some false) := by
  unfold derive at h ⊢
  split
  · rename_i hsentinel
    rw [if_pos hsentinel] at h
    obtain rfl := Option.some.inj h
    exact ⟨by simp, fun _ => ⟨_, rfl, append_ne_empty (by decide)⟩, by simp⟩
  · rename_i hsentinel
    rw [if_neg hsentinel, if_neg (by simp)] at h
    rw [if_neg (by simp)]
    split
    · rename_i hworking
      rw [if_pos hworking] at h
      cases h
    · rename_i hworking
      rw [if_neg hworking] at h
      split
      · rename_i hsettled
        rw [if_pos hsettled] at h
        cases h
      · rename_i hsettled
        rw [if_neg hsettled] at h
        rw [not_not] at hsettled
        simp only at h ⊢
        split
        · rename_i hblocked
          rw [if_pos hblocked] at h
          obtain rfl := Option.some.inj h
          exact ⟨by simp, fun _ => ⟨_, rfl, append_ne_empty (by decide)⟩, by simp⟩
        · rename_i hblocked
          rw [if_neg hblocked] at h
          obtain rfl := Option.some.inj h
          obtain ⟨name, hname, rfl⟩ := hsettled
          have hworks : ¬ (some name = some "working" ∨ some name = none) := by
            simp only [settledStatuses, List.mem_cons, List.not_mem_nil, or_false] at hname
            rcases hname with rfl | rfl | rfl <;> simp
          simp only [outcomeFrom, not_true_eq_false, Bool.false_eq_true, hworks, if_false]
            at hblocked ⊢
          cases present with
          | none =>
              exact ⟨by simp, by simp [failureOutcomes], fun _ => ⟨⟨name, hname, rfl⟩, by simp⟩⟩
          | some found =>
              cases found with
              | true =>
                  exact ⟨by simp, by simp [failureOutcomes], fun _ => ⟨⟨name, hname, rfl⟩, by simp⟩⟩
              | false => simp at hblocked

end DodgingInfinity.Herdr
