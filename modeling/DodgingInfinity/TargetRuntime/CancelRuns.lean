import DodgingInfinity.Library.Interleaving
import DodgingInfinity.MissionCore.Lifecycle

/-!
# Cancelling a run

A cancel is recorded first, which makes its Mission terminal, then whatever
control there is over the run is used, and last the record is completed.  Only
the call that has recorded the cancel goes on to control anything: one that
finds the record incomplete completes it and signals nothing.
-/

namespace DodgingInfinity.TargetRuntime

open MissionCore

/-! ## Questions -/

/-- What a signal to a group came to. -/
inductive Signalled where
  | delivered
  | noSuchGroup
  | failed
  deriving DecidableEq

inductive CancelQuestion where
  | view
  | observedStopped (workspaceRealpath : String)
  | recordCancel (achieved : CancelAchieved) (authorizationId : Option String)
  | callerGroup
  | ownedGroups
  | killGroup (group : Int)
  | groupAlive (group : Int)
  | completeCancel (control : CancelControl) (quiescence : CancelQuiescence)
      (authorizationId : Option String)

/-- An answer that may be an exception is optional. -/
@[reducible] def CancelAnswer : CancelQuestion → Type
  | .view => Option Mission
  | .observedStopped _ => Option Bool
  | .recordCancel _ _ => Bool
  | .callerGroup => Int
  | .ownedGroups => Option (List Int)
  | .killGroup _ => Signalled
  | .groupAlive _ => Bool
  | .completeCancel _ _ _ => Bool

structure CancelOutcome where
  achieved : CancelAchieved
  control : CancelControl
  quiescence : CancelQuiescence
  deriving DecidableEq

inductive CancelEnd where
  | refused
  | raised
  | completed (outcome : CancelOutcome)
  deriving DecidableEq

abbrev CancelProgram := Program CancelQuestion CancelAnswer CancelEnd

/-! ## Control -/

/-- How the owned group of a run was controlled, and what that proves. -/
abbrev Controlled := CancelControl → CancelQuiescence → CancelProgram

/-- The verdicts on a group that ownership evidence lets be reaped. -/
inductive Reaped where
  | reaped
  | alreadyGone
  | refused
  deriving DecidableEq

/-- Kill a group that the owner ledger names, and that is not the caller's own. -/
def reapOwned (group : Int) (next : Reaped → CancelProgram) : CancelProgram :=
  if group ≤ 1 then next .refused
  else .ask .callerGroup fun own =>
    if group = own then next .refused
    else .ask .ownedGroups fun
      | none => .done .raised
      | some owned =>
          if group ∉ owned then next .refused
          else .ask (.killGroup group) fun
            | .failed => next .refused
            | .noSuchGroup => next .alreadyGone
            | .delivered => .ask (.groupAlive group) fun alive =>
                next (if alive then .refused else .reaped)

/-- What a verdict proves of the run. -/
def controlOf : Reaped → CancelControl × CancelQuiescence
  | .reaped => (.ownedGroupReaped, .ownedGroupReaped)
  | .alreadyGone => (.ownedGroupAlreadyGone, .ownedGroupReaped)
  | .refused => (.failedGroupStillAlive, .unproven)

/-- Reap the group the receipt names, if the owner ledger records it. -/
def controlOwnedGroup (receipt : Option RunReceipt) (next : Controlled) : CancelProgram :=
  match receipt.bind RunReceipt.ownedProcessGroup with
  | none => next .unavailableNoOwnedGroup .unproven
  | some group => .ask .callerGroup fun own =>
      if group = own then next .refusedOwnershipUnverified .unproven
      else .ask .ownedGroups fun
        | none => .done .raised
        | some owned =>
            if group ∉ owned then next .refusedOwnershipUnverified .unproven
            else reapOwned group fun verdict =>
              next (controlOf verdict).1 (controlOf verdict).2

/-! ## The call -/

def recordCompletion (achieved : CancelAchieved) (bound : Option String) :
    Controlled := fun control quiescence =>
  .ask (.completeCancel control quiescence bound) fun completed =>
    .done (if completed then .completed ⟨achieved, control, quiescence⟩ else .refused)

/-- Complete the record of a cancel, with control over the run by the call that
recorded it only. -/
def completeRecorded (run : Run) (bound : Option String) (resumed : Bool) : CancelProgram :=
  match run.cancel with
  | none => .done .raised
  | some cancel =>
      let complete := recordCompletion cancel.achieved bound
      if cancel.achieved = .beforeIntent then
        complete .notApplicable .nothingStarted
      else if resumed then complete .interruptedNotResignalled .unproven
      else if cancel.achieved = .afterTargetTerminated then
        complete .notApplicable .taskObservedStopped
      else controlOwnedGroup run.receipt complete

/-- Record the cancel, and go on with the run as it is recorded then. -/
def recordAndComplete (achieved : CancelAchieved) (bound : Option String) : CancelProgram :=
  .ask (.recordCancel achieved bound) fun recorded =>
    if recorded = false then .done .refused
    else .ask .view fun viewed =>
      match viewed.bind Mission.run with
      | none => .done .raised
      | some run => completeRecorded run bound false

/-- What the cancel of a Mission can have achieved, by its state. -/
def cancelFrom (mission : Mission) (bound : Option String) : CancelProgram :=
  if mission.state = .authorized then
    recordAndComplete
      (if mission.runIntent = none then .beforeIntent else .afterIntentTargetUnknown)
      bound
  else if mission.state = .running then
    match mission.runIntent with
    | none => .done .raised
    | some intent => .ask (.observedStopped intent.workspaceRealpath) fun
        | none => .done .raised
        | some stopped => recordAndComplete
            (if stopped then .afterTargetTerminated else .afterObservedRunning) bound
  else .done .refused

/-- The incomplete cancel of a run, if it has one. -/
def pendingRun (mission : Mission) : Option Run :=
  mission.run.filter fun run => run.cancel.any fun cancel => cancel.completedAt = none

/-- Cancel the run of the Mission as it was read, or complete a cancel that was
interrupted. -/
def cancelViewed (claimed : Option String) (mission : Mission) : CancelProgram :=
  let bound := boundAuthorization mission
  if claimed ≠ none ∧ claimed ≠ bound then .done .refused
  else match pendingRun mission with
    | some run => completeRecorded run bound true
    | none => cancelFrom mission bound

def cancel (claimed : Option String) : CancelProgram :=
  .ask .view fun
    | none => .done .refused
    | some mission => cancelViewed claimed mission

end DodgingInfinity.TargetRuntime

/-!
## A cancelled run is signalled at most once

Any number of callers cancel one Mission, each cut off at any point, while the
Mission store takes any other call and the owner ledger grows.  Beside the two,
the world remembers whose record of the cancel was answered, and every signal.
-/

namespace DodgingInfinity.TargetRuntime

open MissionCore Relation Transition
open Checked (bind_eq_ok exists_passed map_eq_ok pure_eq_ok)

/-! ## The world -/

structure CancelWorld where
  document : Document
  ledger : List Int
  recorder : Option Nat
  signals : List (Nat × Int)

/-- A world in which nothing was cancelled through this call. -/
def CancelWorld.start (document : Document) (ledger : List Int) : CancelWorld :=
  ⟨document, ledger, none, []⟩

/-- The Mission store takes the record of a cancel. -/
def RecordsCancel (missionId : String) (achieved : CancelAchieved)
    (bound : Option String) (document next : Document) : Prop :=
  ∃ env authorizationId context taken, bound = some authorizationId ∧
    MissionCore.recordCancel env document missionId achieved authorizationId context =
      .ok (next, taken)

/-- The Mission store takes the completion of a cancel. -/
def CompletesCancel (missionId : String) (control : CancelControl)
    (quiescence : CancelQuiescence) (bound : Option String) (document next : Document) : Prop :=
  ∃ env authorizationId context taken, bound = some authorizationId ∧
    MissionCore.completeCancel env document missionId (some control) (some quiescence)
      authorizationId context = .ok (next, taken)

/-- A write of the store that was answered, or one that failed before or after
the document was replaced. -/
def Writes (writes : Document → Document → Prop) (world : CancelWorld)
    (answered : CancelWorld → CancelWorld) (answer : Bool) (next : CancelWorld) : Prop :=
  match answer with
  | true => ∃ document, writes world.document document ∧
      next = answered { world with document := document }
  | false => next = world ∨ ∃ document, writes world.document document ∧
      next = { world with document := document }

variable [JsonDigest] [ReconciliationPlanner]

def cancelling (missionId : String) (groupOf : Nat → Int) :
    Commons Nat CancelQuestion CancelAnswer CancelWorld where
  answers caller world question answer next :=
    match question with
    | .view => next = world ∧
        (answer = none ∨ answer = world.document.missions.get? missionId)
    | .recordCancel achieved bound =>
        Writes (RecordsCancel missionId achieved bound) world
          (fun written => { written with recorder := some caller }) answer next
    | .callerGroup => next = world ∧ answer = groupOf caller
    | .ownedGroups => next = world ∧ (answer = none ∨ answer = some world.ledger)
    | .killGroup group => next = { world with signals := world.signals ++ [(caller, group)] }
    | .completeCancel control quiescence bound =>
        Writes (CompletesCancel missionId control quiescence bound) world id answer next
    | _ => next = world
  drifts world next :=
    (∃ document, Step world.document document ∧
      next = { world with document := document }) ∨
    ∃ group, next = { world with ledger := world.ledger ++ [group] }

/-- The Mission is CANCELLED, with this receipt of its run. -/
def CancelledWith (missionId : String) (receipt : Option RunReceipt) (document : Document) : Prop :=
  ∃ mission run, document.missions.get? missionId = some mission ∧
    mission.state = .cancelled ∧ mission.run = some run ∧ run.receipt = receipt

/-- A signal is the first, by the caller that has recorded the cancel, to a group
that the receipt names, that the owner ledger holds, and that is not its own. -/
structure Rightful (missionId : String) (groupOf : Nat → Int) (caller : Nat)
    (group : Int) (world : CancelWorld) : Prop where
  recorded : world.recorder = some caller
  first : world.signals = []
  named : ∃ receipt, CancelledWith missionId (some receipt) world.document ∧
    receipt.ownedProcessGroup = some group
  owned : group ∈ world.ledger
  foreign : group ≠ groupOf caller

def signalsRightly (missionId : String) (groupOf : Nat → Int) (caller : Nat)
    (world : CancelWorld) : CancelQuestion → Prop
  | .killGroup group => Rightful missionId groupOf caller group world
  | _ => True

/-- A signal follows the record of a cancel, and none follows a signal. -/
structure Signalling (missionId : String) (world : CancelWorld) : Prop where
  reachable : Reachable world.document
  recorded : world.recorder ≠ none → ∃ receipt, CancelledWith missionId receipt world.document
  unsignalled : world.recorder = none → world.signals = []
  once : world.signals.length ≤ 1

/-! ## What a step leaves -/

variable {missionId : String} {groupOf : Nat → Int} {caller : Nat}
  {world next : CancelWorld} {document after : Document}

theorem terminalsFixed_of_runs (h : Reachable document) (hrun : Runs document after) :
    TerminalsFixed document after :=
  h.related (p := Consistent) consistent_default
    (fun _ _ hwell hconsistent hchange => hchange.consistent hwell hconsistent)
    TerminalsFixed.refl (fun _ _ _ => TerminalsFixed.trans)
    (fun _ _ _ _ hchange => hchange.terminalsFixed) hrun

variable {receipt : Option RunReceipt}

/-- The receipt of a cancelled run is the one it keeps. -/
theorem CancelledWith.later (hreach : Reachable document)
    (h : CancelledWith missionId receipt document) (hrun : Runs document after) :
    CancelledWith missionId receipt after := by
  obtain ⟨mission, run, hheld, hstate, hmission, hreceipt⟩ := h
  obtain ⟨changed, hchanged, hlater⟩ := terminalsFixed_of_runs hreach hrun missionId
    mission hheld (by simp [hstate, MissionState.terminal])
  refine ⟨changed, ?_⟩
  have hcancelled : changed.state = .cancelled := hlater.state_eq.trans hstate
  rcases hlater.run with hsame | ⟨held, last, hheldRun, hlast, hrunLater⟩
  · exact ⟨run, hchanged, hcancelled, hsame.trans hmission, hreceipt⟩
  · obtain rfl := Option.some.inj (hmission.symm.trans hheldRun)
    exact ⟨last, hchanged, hcancelled, hlast, hrunLater.receipt.trans hreceipt⟩

variable {bound : Option String}

theorem RecordsCancel.step {achieved : CancelAchieved}
    (h : RecordsCancel missionId achieved bound document after) :
    Step document after := by
  obtain ⟨env, authorizationId, context, taken, -, hcall⟩ := h
  exact ⟨env, .cancel missionId achieved authorizationId context, by
    simp [perform, hcall]⟩

theorem CompletesCancel.step {control : CancelControl} {quiescence : CancelQuiescence}
    (h : CompletesCancel missionId control quiescence bound document after) :
    Step document after := by
  obtain ⟨env, authorizationId, context, taken, -, hcall⟩ := h
  exact ⟨env, .completeCancel missionId (some control) (some quiescence)
    authorizationId context, by simp [perform, hcall]⟩

omit [JsonDigest] [ReconciliationPlanner] in
/-- What the record of a cancel leaves, and what it found. -/
theorem RecordsCancel.cancelled {achieved : CancelAchieved}
    (h : RecordsCancel missionId achieved bound document after) :
    (∀ receipt, ¬ CancelledWith missionId receipt document) ∧
      ∃ receipt, CancelledWith missionId receipt after := by
  obtain ⟨env, authorizationId, context, taken, -, hcall⟩ := h
  obtain ⟨mission, changed, hheld, hopen, hmutate, rfl⟩ := runWrite_eq_ok hcall
  simp only [bind_eq_ok, exists_passed, runTransition_eq_ok, pure_eq_ok, Prod.mk.injEq] at hmutate
  obtain ⟨-, -, moved, ⟨-, -, rfl⟩, rfl, -⟩ := hmutate
  constructor
  · rintro receipt ⟨other, run, hother, hstate, -, -⟩
    obtain rfl := Option.some.inj (hheld.symm.trans hother)
    exact hopen rfl (by simp [hstate, MissionState.terminal])
  · exact ⟨_, _, _, Dict.get?_set_self .., rfl, rfl, rfl⟩

/-- What an answer or a drift does to the store and to the ledger. -/
structure Onward (world next : CancelWorld) : Prop where
  runs : Runs world.document next.document
  grows : ∀ group ∈ world.ledger, group ∈ next.ledger

theorem Writes.onward {writes : Document → Document → Prop}
    {answered : CancelWorld → CancelWorld} {answer : Bool}
    (h : Writes writes world answered answer next)
    (hsteps : ∀ document after, writes document after → Step document after)
    (hanswered : ∀ written, (answered written).document = written.document ∧
      (answered written).ledger = written.ledger) : Onward world next := by
  cases answer with
  | true =>
      obtain ⟨document, hwrites, rfl⟩ := h
      obtain ⟨hdocument, hledger⟩ := hanswered { world with document := document }
      refine ⟨?_, ?_⟩
      · rw [hdocument]
        exact ReflTransGen.single (hsteps _ _ hwrites)
      · rw [hledger]
        exact fun _ hmem => hmem
  | false =>
      rcases h with rfl | ⟨document, hwrites, rfl⟩
      · exact ⟨ReflTransGen.refl, fun _ hmem => hmem⟩
      · exact ⟨ReflTransGen.single (hsteps _ _ hwrites), fun _ hmem => hmem⟩

variable {question : CancelQuestion}

theorem onward_answer {answer : CancelAnswer question}
    (h : (cancelling missionId groupOf).answers caller world question answer next) :
    Onward world next := by
  have hsame : ∀ same : CancelWorld, same = world → Onward world same := by
    rintro _ rfl
    exact ⟨ReflTransGen.refl, fun _ hmem => hmem⟩
  cases question with
  | view => exact hsame next h.1
  | observedStopped _ => exact hsame next h
  | recordCancel achieved bound =>
      have hwrites : Writes (RecordsCancel missionId achieved bound) world
        (fun written => { written with recorder := some caller }) answer next := h
      exact hwrites.onward (fun _ _ => RecordsCancel.step) fun _ => ⟨rfl, rfl⟩
  | callerGroup => exact hsame next h.1
  | ownedGroups => exact hsame next h.1
  | killGroup group =>
      rw [show next = _ from h]
      exact ⟨ReflTransGen.refl, fun _ hmem => hmem⟩
  | groupAlive _ => exact hsame next h
  | completeCancel control quiescence bound =>
      have hwrites : Writes (CompletesCancel missionId control quiescence bound) world
        id answer next := h
      exact hwrites.onward (fun _ _ => CompletesCancel.step) fun _ => ⟨rfl, rfl⟩

theorem onward_drift (h : (cancelling missionId groupOf).drifts world next) :
    Onward world next := by
  rcases h with ⟨document, hstep, rfl⟩ | ⟨group, rfl⟩
  · exact ⟨ReflTransGen.single hstep, fun _ hmem => hmem⟩
  · exact ⟨ReflTransGen.refl, fun _ hmem => List.mem_append_left _ hmem⟩

/-- The record of who cancelled and the signals, after an answer. -/
theorem noted_answer {answer : CancelAnswer question}
    (h : (cancelling missionId groupOf).answers caller world question answer next) :
    next.recorder = world.recorder ∧ next.signals = world.signals ∨
    (∃ achieved bound, RecordsCancel missionId achieved bound world.document
        next.document ∧ next.recorder = some caller ∧ next.signals = world.signals) ∨
    ∃ group, question = .killGroup group ∧
      next = { world with signals := world.signals ++ [(caller, group)] } := by
  cases question with
  | view => exact .inl (by rw [h.1]; exact ⟨rfl, rfl⟩)
  | observedStopped _ => exact .inl (by rw [show next = world from h]; exact ⟨rfl, rfl⟩)
  | recordCancel achieved bound =>
      cases answer with
      | true =>
          obtain ⟨document, hwrites, rfl⟩ := h
          exact .inr (.inl ⟨achieved, bound, hwrites, rfl, rfl⟩)
      | false =>
          rcases h with rfl | ⟨document, -, rfl⟩
          · exact .inl ⟨rfl, rfl⟩
          · exact .inl ⟨rfl, rfl⟩
  | callerGroup => exact .inl (by rw [h.1]; exact ⟨rfl, rfl⟩)
  | ownedGroups => exact .inl (by rw [h.1]; exact ⟨rfl, rfl⟩)
  | killGroup group => exact .inr (.inr ⟨group, rfl, h⟩)
  | groupAlive _ => exact .inl (by rw [show next = world from h]; exact ⟨rfl, rfl⟩)
  | completeCancel control quiescence bound =>
      cases answer with
      | true =>
          obtain ⟨document, -, rfl⟩ := h
          exact .inl ⟨rfl, rfl⟩
      | false =>
          rcases h with rfl | ⟨document, -, rfl⟩
          · exact .inl ⟨rfl, rfl⟩
          · exact .inl ⟨rfl, rfl⟩

theorem noted_drift (h : (cancelling missionId groupOf).drifts world next) :
    next.recorder = world.recorder ∧ next.signals = world.signals := by
  rcases h with ⟨document, -, rfl⟩ | ⟨group, rfl⟩ <;> exact ⟨rfl, rfl⟩

/-! ## The invariant -/

/-- A step that notes nothing keeps the invariant. -/
theorem Signalling.kept (h : Signalling missionId world) (honward : Onward world next)
    (hnoted : next.recorder = world.recorder ∧ next.signals = world.signals) :
    Signalling missionId next where
  reachable := h.reachable.run honward.runs
  recorded hrecorder := by
    obtain ⟨receipt, hcancelled⟩ := h.recorded (hnoted.1 ▸ hrecorder)
    exact ⟨receipt, hcancelled.later h.reachable honward.runs⟩
  unsignalled hrecorder := by
    rw [hnoted.2]
    exact h.unsignalled (hnoted.1 ▸ hrecorder)
  once := by
    rw [hnoted.2]
    exact h.once

/-- Before its Mission is CANCELLED nobody has recorded a cancel or signalled. -/
theorem Signalling.unsignalled_of_open (h : Signalling missionId world)
    (hopen : ∀ receipt, ¬ CancelledWith missionId receipt world.document) :
    world.signals = [] := by
  refine h.unsignalled ?_
  by_contra hrecorder
  obtain ⟨receipt, hcancelled⟩ := h.recorded hrecorder
  exact hopen receipt hcancelled

theorem Signalling.answer {answer : CancelAnswer question} (h : Signalling missionId world)
    (hallowed : signalsRightly missionId groupOf caller world question)
    (hanswer : (cancelling missionId groupOf).answers caller world question answer next) :
    Signalling missionId next := by
  have honward := onward_answer hanswer
  rcases noted_answer hanswer with hnoted | ⟨achieved, bound, hrecords, hrecorder,
    hsignals⟩ | ⟨group, rfl, rfl⟩
  · exact h.kept honward hnoted
  · obtain ⟨hopen, hcancelled⟩ := hrecords.cancelled
    have hnone := h.unsignalled_of_open hopen
    refine ⟨h.reachable.run honward.runs, fun _ => hcancelled, fun hnobody => ?_, ?_⟩
    · rw [hrecorder] at hnobody
      cases hnobody
    · rw [hsignals, hnone]
      exact Nat.zero_le 1
  · have hrightful : Rightful missionId groupOf caller group world := hallowed
    refine ⟨h.reachable, h.recorded, fun hnobody => ?_, ?_⟩
    · have hrecorder : world.recorder = none := hnobody
      rw [hrightful.recorded] at hrecorder
      cases hrecorder
    · simp [hrightful.first]

/-! ## Every caller is safe beside the others -/

/-- What happens around a caller of the cancel. -/
abbrev aroundCancel (missionId : String) (groupOf : Nat → Int) (caller : Nat) :
    Surroundings CancelQuestion CancelAnswer CancelWorld :=
  (cancelling missionId groupOf).around (signalsRightly missionId groupOf) caller

theorem onward_around (h : (aroundCancel missionId groupOf caller).drifts world next) :
    Onward world next := by
  rcases h with hdrift | ⟨other, question, answer, -, -, hanswer⟩
  · exact onward_drift hdrift
  · exact onward_answer hanswer

theorem signalling_stable :
    (aroundCancel missionId groupOf caller).Stable (Signalling missionId) := by
  intro world next h haround
  rcases haround with hdrift | ⟨other, question, answer, -, hallowed, hanswer⟩
  · exact h.kept (onward_drift hdrift) (noted_drift hdrift)
  · exact h.answer hallowed hanswer

/-- The caller has recorded the cancel of a run with this receipt, and nobody has
signalled. -/
structure Ours (missionId : String) (caller : Nat) (receipt : Option RunReceipt)
    (world : CancelWorld) : Prop where
  inv : Signalling missionId world
  recorded : world.recorder = some caller
  unsignalled : world.signals = []
  cancelled : CancelledWith missionId receipt world.document

/-- Nobody else records a cancel of a CANCELLED Mission, or signals for it. -/
theorem Ours.around (h : Ours missionId caller receipt world)
    (haround : (aroundCancel missionId groupOf caller).drifts world next) :
    Ours missionId caller receipt next := by
  have hinv := signalling_stable world next h.inv haround
  have hcancelled := h.cancelled.later h.inv.reachable (onward_around haround).runs
  have hnoted : next.recorder = world.recorder ∧ next.signals = world.signals := by
    rcases haround with hdrift | ⟨other, question, answer, hother, hallowed, hanswer⟩
    · exact noted_drift hdrift
    · rcases noted_answer hanswer with hnoted | ⟨_, _, hrecords, -, -⟩ | ⟨group, rfl, -⟩
      · exact hnoted
      · exact absurd h.cancelled (hrecords.cancelled.1 receipt)
      · have hrightful : Rightful missionId groupOf other group world := hallowed
        have hsame := hrightful.recorded.symm.trans h.recorded
        exact absurd (Option.some.inj hsame) hother
  exact ⟨hinv, hnoted.1.trans h.recorded, hnoted.2.trans h.unsignalled, hcancelled⟩

variable {mission : Mission} {run : Run} {taken : RunCancel}

variable {context : Context}

variable {env : Env}

omit [JsonDigest] [ReconciliationPlanner]

end DodgingInfinity.TargetRuntime
