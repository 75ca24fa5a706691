import DodgingInfinity.MissionCore.AuthorityUse
import DodgingInfinity.MissionCore.Service.Verification

/-!
# What a run write can do to a Mission

Every run write keeps the Mission as it is, stores one changed run and leaves
the state, or moves the Mission along one wired transition.  Each case carries
the guards its writer has passed.
-/

namespace DodgingInfinity.MissionCore

open Checked

/-- The Mission a run transition leaves. -/
def movedMission (mission : Mission) (target : MissionState)
    (reason : RunReason) (now : Nat) : Mission :=
  { mission with
    lifecycle := some (mission.lifecycleEvents ++ [{
      fromState := mission.state
      toState := target
      reason := reason
      recordedAt := now }])
    state := target
    updatedAt := now }

/-- Before any intent: AUTHORIZED, with no intent recorded. -/
structure BeforeIntent (mission : Mission) : Prop where
  authorized : mission.state = .authorized
  unintended : mission.runIntent = none

/-- An intent is recorded and its run is still AUTHORIZED. -/
structure AfterIntent (mission : Mission) (run : Run) : Prop where
  held : mission.run = some run
  intended : run.intent ≠ none

/-- No other Mission holds the path, by its binding or by its intent. -/
def Unheld (document : Document) (missionId path : String) : Prop :=
  ∀ other held, document.missions.get? other = some held → other ≠ missionId →
    holdsWorkspace held path = false

/-! ## The shared pipeline, inverted -/

variable {env : Env} {document next : Document} {missionId : String}
  {mission changed : Mission} {context : Context}

theorem lookupMission_eq_ok : lookupMission document missionId = .ok mission ↔
      idProblem missionId .mission = none ∧
        document.missions.get? missionId = some mission := by
  simp only [lookupMission, bind_eq_ok, exists_passed, failIf_eq_ok, orFail_eq_ok, not_not, ne_eq]

variable {now : Nat}

theorem runTransition_eq_ok {target : MissionState}
    {reason : RunReason} : runTransition mission target reason now = .ok changed ↔
      target ∈ mission.state.allowedTransitions ∧
        (mission.state, target) ∈ MissionState.runTransitions ∧
        changed = movedMission mission target reason now := by
  simp only [runTransition, validateTransition, bind_eq_ok, exists_passed,
    failIf_eq_ok, pure_eq_ok, not_not]
  constructor
  · rintro ⟨hallowed, hwired, rfl⟩
    exact ⟨hallowed, hwired, rfl⟩
  · rintro ⟨hallowed, hwired, rfl⟩
    exact ⟨hallowed, hwired, rfl⟩

/-- A run write that was not refused, at the Mission it found. -/
theorem runWrite_eq_ok {α : Type} {outcome : α} {guardTerminal : Bool}
    {mutate : Mission → Checks (Mission × α)}
    (h : runWrite document missionId context guardTerminal mutate =
      .ok (next, outcome)) : ∃ mission changed, document.missions.get? missionId = some mission ∧
      (guardTerminal = true → mission.state ∉ MissionState.terminal) ∧
      mutate mission = .ok (changed, outcome) ∧
      next = document.setMission missionId changed := by
  simp only [runWrite, bind_eq_ok, exists_passed, failIf_eq_ok, pure_eq_ok,
    lookupMission_eq_ok, Prod.exists, Prod.mk.injEq, not_and] at h
  obtain ⟨-, -, mission, ⟨-, hheld⟩, hopen, changed, _, hmutate, hnext, rfl⟩ := h
  exact ⟨mission, changed, hheld, hopen, hmutate, hnext.symm⟩

variable {passed : Unit}

theorem requireBeforeIntent_eq_ok :
    requireBeforeIntent mission = .ok passed ↔ BeforeIntent mission := by
  simp only [requireBeforeIntent, bind_eq_ok, exists_passed, failIf_eq_ok, not_not, ne_eq]
  exact ⟨fun h => ⟨h.1, h.2⟩, fun h => ⟨h.authorized, h.unintended⟩⟩

variable {run : Run}

theorem requireIntent_eq_ok :
    requireIntent mission = .ok run ↔ AfterIntent mission run := by
  simp only [requireIntent, bind_eq_ok, exists_passed, orFail_eq_ok, failIf_eq_ok, pure_eq_ok]
  constructor
  · rintro ⟨held, hheld, hintent, rfl⟩
    exact ⟨hheld, hintent⟩
  · intro h
    exact ⟨run, h.held, h.intended, rfl⟩

theorem runOf_of_held (h : mission.run = some run) :
    runOf mission = run := by
  simp [runOf, h]

/-- Storing the run a Mission already has changes nothing. -/
theorem withRun_eq_self (h : mission.run = some run) :
    { mission with run := some run } = mission := by
  cases mission
  simp_all

variable {path : String}

theorem requireUnheldWorkspace_eq_ok
    (h : requireUnheldWorkspace document missionId path = .ok passed) :
    Unheld document missionId path := by
  unfold requireUnheldWorkspace at h
  split at h
  · rename_i hnone
    intro other held hheld hother
    have hentry := List.find?_eq_none.mp hnone (other, held)
      ((document.missions.mem_entries_iff other held).mpr hheld)
    simpa [hother] using hentry
  · split at h <;> simp at h

/-! ## The changes -/

variable [JsonDigest]

/-- The authority an intent consumes, and the workspace it names. -/
structure Intended (document : Document) (missionId : String)
    (mission : Mission) (intent : RunIntent) : Prop where
  authority : ∃ authorization, UseChecked document intent.authorizationId missionId intent.revision
      intent.recordedAt (runRequiredActionScope.map ActionScope.text) none
      (some intent.proposalDigestSha256) mission authorization ∧
    intent.approvedActionScope = authorization.authorizedActionScope ∧
    intent.approvedDeliveryTargets = authorization.authorizedDeliveryTargets
  prepared : ∃ binding, mission.runWorkspace = some binding ∧ binding.state = .prepared ∧
    binding.bound.pathRealpath = intent.workspaceRealpath ∧
    binding.bound.baselineCommitSha = intent.observedBaselineCommitSha

/-- The run a write stores on a Mission that stays in its state. -/
inductive RunStored (document : Document) (missionId : String) (mission : Mission) : Run → Prop
  | bound (binding : WorkspaceBinding) (hbefore : BeforeIntent mission)
      (hunheld : Unheld document missionId binding.bound.pathRealpath)
      (hnone : mission.runWorkspace = none) : RunStored document missionId mission
        { runOf mission with workspace := some binding }
  | prepared (binding : WorkspaceBinding) (preparedAt : Nat)
      (hbefore : BeforeIntent mission) (hheld : mission.runWorkspace = some binding) :
      RunStored document missionId mission { runOf mission with
        workspace := some { binding with
          state := .prepared, preparedAt := some preparedAt } }
  | refused (refusal : WorkspaceRefusal) (hbefore : BeforeIntent mission) :
      RunStored document missionId mission
        { runOf mission with workspaceRefusal := some refusal }
  | intended (intent : RunIntent) (hbefore : BeforeIntent mission)
      (hintended : Intended document missionId mission intent) :
      RunStored document missionId mission
        { runOf mission with intent := some intent }
  | received (run : Run) (receipt : RunReceipt)
      (hafter : AfterIntent mission run) (hstate : mission.state = .authorized)
      (hunbound : boundTask run.receipt = none) :
      RunStored document missionId mission
        { run with receipt := some receipt }
  | counted (run : Run) (unobserved : ReconcileUnobserved)
      (hafter : AfterIntent mission run)
      (hstate : mission.state = .authorized) :
      RunStored document missionId mission
        { run with reconcileUnobserved := some unobserved }
  | resolved (run : Run) (resolution : LateResolution)
      (hheld : mission.run = some run) (hlate : lateResolvable mission = true)
      (hnone : run.lateResolution = none) :
      RunStored document missionId mission
        { run with lateResolution := some resolution }
  | paused (pauses : List RunPause)
      (hstate : mission.state = .authorized ∨ mission.state = .running) :
      RunStored document missionId mission
        { runOf mission with pauses := pauses }
  | resumed (run : Run) (pauses : List RunPause)
      (hheld : mission.run = some run)
      (hopen : mission.state ∉ MissionState.terminal) :
      RunStored document missionId mission { run with pauses := pauses }
  | pending (run : Run) (proof : PendingProof) (hheld : mission.run = some run)
      (hstate : mission.state = .running) :
      RunStored document missionId mission
        { run with pendingProof := some proof }
  | cancelCompleted (run : Run) (cancel : RunCancel)
      (control : Option CancelControl) (quiescence : Option CancelQuiescence)
      (completedAt : Nat) (hheld : mission.run = some run)
      (hcancel : run.cancel = some cancel)
      (hpending : cancel.completedAt = none)
      (hstate : mission.state = .cancelled) :
      RunStored document missionId mission { run with
        cancel := some { cancel with
          control := control
          quiescence := quiescence
          completedAt := some completedAt } }

/-- What a completing verification has established. -/
structure Proved (document : Document) (missionId : String)
    (mission : Mission) (verification : RunVerification) : Prop where
  accepted : ∃ evidence, requireAcceptedResult document missionId
    verification.resultEvidenceId = .ok evidence
  verified : verification.verified = true
  contract : contractFailures document mission verification.decidedAt = .ok []

/-- The run, the target and the reason of a transition. -/
inductive RunMoves (document : Document) (missionId : String)
    (mission : Mission) : Run → MissionState → RunReason → Prop
  | observed (run : Run) (taskId : String) (alreadyStopped : Bool)
      (hheld : mission.run = some run) (hbound : boundTask run.receipt = some taskId) :
      RunMoves document missionId mission run .running
        (observedReason alreadyStopped)
  | stopped (run : Run) (receipt : Option RunReceipt) (stop : ReconcileStop)
      (hafter : AfterIntent mission run)
      (hreceipt : receipt = run.receipt ∨ boundTask run.receipt = none) :
      RunMoves document missionId mission { run with receipt := receipt }
        .blocked (.reconciled stop)
  | exhausted (run : Run) (unobserved : ReconcileUnobserved)
      (hafter : AfterIntent mission run) :
      RunMoves document missionId mission
        { run with reconcileUnobserved := some unobserved } .blocked
        (.reconciled .notObservable)
  | cancelled (cancel : RunCancel) (hpending : cancel.completedAt = none) :
      RunMoves document missionId mission
        { runOf mission with cancel := some cancel } .cancelled
        (.cancelled cancel.achieved)
  | verified (run : Run) (verification : RunVerification)
      (hheld : mission.run = some run) (hstate : mission.state = .running)
      (hproved : Proved document missionId mission verification) :
      RunMoves document missionId mission
        { run with verification := some verification } .completed .verified
  | failed (run : Run) (verification : RunVerification)
      (conjunct : VerifyConjunct) (hheld : mission.run = some run)
      (hstate : mission.state = .running) :
      RunMoves document missionId mission
        { run with verification := some verification } .blocked
        (.conjunctFailed conjunct)

/-- What one run write does to its Mission. -/
inductive RunChange (document : Document) (missionId : String) (mission : Mission) : Mission → Prop
  | kept : RunChange document missionId mission mission
  | stored (run : Run) (now : Nat)
      (h : RunStored document missionId mission run) :
      RunChange document missionId mission (setRun mission run now)
  | moved (run : Run) (target : MissionState) (reason : RunReason) (now : Nat)
      (h : RunMoves document missionId mission run target reason)
      (hwired : (mission.state, target) ∈ MissionState.runTransitions) :
      RunChange document missionId mission
        (movedMission { mission with run := some run } target reason now)

/-- A run write, as a change of the document. -/
def RunWritten (document next : Document) : Prop :=
  ∃ missionId mission changed, document.missions.get? missionId = some mission ∧
    RunChange document missionId mission changed ∧ next = document.setMission missionId changed

/-! ## The workspace -/

variable {binding : WorkspaceBinding} {baseline : String}

theorem recordWorkspaceBinding_written
    {repository url : String}
    (h : recordWorkspaceBinding env document missionId path repository url
      baseline context = .ok (next, binding)) : RunWritten document next := by
  obtain ⟨mission, changed, hheld, -, hmutate, rfl⟩ := runWrite_eq_ok h
  simp only [bind_eq_ok, exists_passed, requireBeforeIntent_eq_ok, failIf_eq_ok,
    refusePaused, not_not] at hmutate
  obtain ⟨hbefore, -, bound, hbound, -, hunheld, hbind⟩ := hmutate
  have hpath : bound.pathRealpath = path := by
    simp only [workspaceBinding, bind_eq_ok, exists_passed, pure_eq_ok] at hbound
    obtain ⟨_, -, -, -, _, -, -, rfl⟩ := hbound
    rfl
  refine ⟨missionId, mission, changed, hheld, ?_, rfl⟩
  unfold bindWorkspace at hbind
  split at hbind
  · rename_i existing hexisting
    simp only [bind_eq_ok, exists_passed, failIf_eq_ok, pure_eq_ok, Prod.mk.injEq] at hbind
    obtain ⟨-, rfl, -⟩ := hbind
    have hrun : mission.run = some (runOf mission) := by
      cases hrun : mission.run with
      | none => simp [runOf, hrun, newRunBlock] at hexisting
      | some run => simp [runOf, hrun]
    rw [withRun_eq_self hrun]
    exact .kept
  · rename_i hnone
    obtain ⟨rfl, -⟩ := Prod.mk.inj (Except.ok.inj hbind)
    refine .stored _ _ (.bound _ hbefore ?_ ?_)
    · rw [hpath]
      exact requireUnheldWorkspace_eq_ok hunheld
    · cases hrun : mission.run with
      | none => simp [Mission.runWorkspace, hrun]
      | some run => simpa [Mission.runWorkspace, runOf, hrun] using hnone

theorem recordWorkspacePrepared_written
    {digest : String} (h : recordWorkspacePrepared env document missionId digest context =
      .ok (next, binding)) : RunWritten document next := by
  obtain ⟨mission, changed, hheld, -, hmutate, rfl⟩ := runWrite_eq_ok h
  simp only [bind_eq_ok, exists_passed, requireBeforeIntent_eq_ok, failIf_eq_ok,
    orFail_eq_ok, refusePaused] at hmutate
  obtain ⟨hbefore, -, held, hworkspace, -, hmutate⟩ := hmutate
  refine ⟨missionId, mission, changed, hheld, ?_, rfl⟩
  split at hmutate
  · obtain ⟨rfl, -⟩ := Prod.mk.inj ((pure_eq_ok ..).mp hmutate)
    exact .kept
  · obtain ⟨rfl, -⟩ := Prod.mk.inj ((pure_eq_ok ..).mp hmutate)
    exact .stored _ _ (.prepared held env.now hbefore hworkspace)

theorem recordWorkspaceRefusal_written {refusal : WorkspaceRefusal}
    {problem detail : String}
    (h : recordWorkspaceRefusal env document missionId problem detail context =
      .ok (next, refusal)) : RunWritten document next := by
  obtain ⟨mission, changed, hheld, -, hmutate, rfl⟩ := runWrite_eq_ok h
  simp only [bind_eq_ok, exists_passed, requireBeforeIntent_eq_ok, pure_eq_ok,
    Prod.mk.injEq] at hmutate
  obtain ⟨hbefore, -, -, rfl, -⟩ := hmutate
  exact ⟨missionId, mission, _, hheld, .stored _ env.now (.refused _ hbefore), rfl⟩

/-! ## Intent and receipt -/

variable {call : IntentCall}

theorem requireRunAuthority_eq_ok
    {authorization : Authorization} (hheld : document.missions.get? missionId = some mission)
    (h : requireRunAuthority env document missionId call = .ok authorization) :
    UseChecked document call.authorizationId missionId call.revision env.now
      (runRequiredActionScope.map ActionScope.text) none
      (some call.proposalDigestSha256) mission authorization := by
  simp only [requireRunAuthority, bind_eq_ok, exists_passed, failIf_eq_ok,
    orFail_eq_ok, Bool.not_eq_false] at h
  obtain ⟨hvalid, hauthorization⟩ := h
  obtain ⟨checkedMission, checked, hchecked⟩ := useChecked_of_valid hvalid
  obtain rfl := Option.some.inj (hheld.symm.trans hchecked.mission_held)
  obtain rfl := Option.some.inj (hauthorization.symm.trans hchecked.authorization_held)
  exact hchecked

omit [JsonDigest] in
theorem preparedAt_eq_true (h : preparedAt mission path baseline = true) :
    ∃ binding, mission.runWorkspace = some binding ∧
      binding.state = .prepared ∧ binding.bound.pathRealpath = path ∧
      binding.bound.baselineCommitSha = baseline := by
  unfold preparedAt at h
  split at h
  · cases h
  · rename_i binding hbinding
    exact ⟨binding, hbinding, of_decide_eq_true h⟩

theorem recordRunIntent_written {intent : RunIntent}
    (h : recordRunIntent env document missionId call context =
      .ok (next, intent)) : RunWritten document next := by
  obtain ⟨mission, changed, hheld, -, hmutate, rfl⟩ := runWrite_eq_ok h
  simp only [bind_eq_ok, exists_passed, requireBeforeIntent_eq_ok, failIf_eq_ok,
    refusePaused, pure_eq_ok, Prod.mk.injEq, not_not, ne_eq, Bool.not_eq_false] at hmutate
  obtain ⟨hbefore, -, authorization, hauthority, hscope, htargets, -, _, -, -,
    hprepared, rfl, -⟩ := hmutate
  have hchecked := requireRunAuthority_eq_ok hheld hauthority
  exact ⟨missionId, mission, _, hheld, .stored _ env.now (.intended (newIntent call env.now) hbefore
      ⟨⟨authorization, hchecked, hscope, htargets⟩, preparedAt_eq_true hprepared⟩), rfl⟩

variable {receipt : RunReceipt} {taskId : Option String} {source : RunIdentitySource}
  {group : Option Int}

omit [JsonDigest] in
theorem boundReceipt_eq_ok {existing : Option RunReceipt}
    (h : boundReceipt existing taskId source group now = .ok receipt) :
    boundTask existing = none := by
  unfold boundReceipt at h
  split at h
  · rfl
  · split at h
    · rename_i hunbound
      exact hunbound.1
    · simp at h

theorem recordRunReceipt_written
    (h : recordRunReceipt env document missionId taskId source group context =
      .ok (next, receipt)) : RunWritten document next := by
  obtain ⟨mission, changed, hheld, -, hmutate, rfl⟩ := runWrite_eq_ok h
  simp only [bind_eq_ok, exists_passed, requireIntent_eq_ok, failIf_eq_ok,
    pure_eq_ok, Prod.mk.injEq, not_not, ne_eq] at hmutate
  obtain ⟨run, hafter, hstate, -, bound, hbound, rfl, -⟩ := hmutate
  exact ⟨missionId, mission, _, hheld, .stored _ env.now
    (.received run bound hafter hstate (boundReceipt_eq_ok hbound)), rfl⟩

/-! ## Observation and stops -/

variable {moved : RunMoved}

theorem recordObservedRunning_written {taskId : String}
    {alreadyStopped : Bool} (h : recordObservedRunning env document missionId taskId alreadyStopped
      context = .ok (next, moved)) : RunWritten document next := by
  obtain ⟨mission, changed, hheld, -, hmutate, rfl⟩ := runWrite_eq_ok h
  simp only [bind_eq_ok, exists_passed, refusePaused, failIf_eq_ok, pure_eq_ok,
    runTransition_eq_ok, Prod.mk.injEq, not_not, ne_eq] at hmutate
  obtain ⟨-, htask, _, ⟨-, hwired, rfl⟩, rfl, -⟩ := hmutate
  refine ⟨missionId, mission, _, hheld, ?_, rfl⟩
  cases hrun : mission.run with
  | none => simp [runOf, hrun, newRunBlock, boundTask] at htask
  | some run =>
      rw [runOf_of_held hrun] at htask
      have hmoved : RunChange document missionId mission _ :=
        .moved run .running _ env.now (.observed run taskId alreadyStopped hrun htask) hwired
      rwa [withRun_eq_self hrun] at hmoved

omit [JsonDigest] in
theorem bindLateChild_eq_ok {bound : Run} (h : bindLateChild run taskId now = .ok bound) :
    ∃ receipt, bound = { run with receipt := receipt } ∧
      (receipt = run.receipt ∨ boundTask run.receipt = none) := by
  unfold bindLateChild at h
  split at h
  · obtain rfl := Except.ok.inj h
    exact ⟨run.receipt, rfl, .inl rfl⟩
  · simp only [bind_eq_ok, exists_passed, failIf_eq_ok, pure_eq_ok, not_not, ne_eq] at h
    obtain ⟨hunbound, -, rfl⟩ := h
    exact ⟨_, rfl, .inr hunbound⟩

theorem recordRunStop_written {stop : ReconcileStop}
    (h : recordRunStop env document missionId stop taskId context =
      .ok (next, moved)) : RunWritten document next := by
  obtain ⟨mission, changed, hheld, -, hmutate, rfl⟩ := runWrite_eq_ok h
  simp only [bind_eq_ok, exists_passed, refusePaused, failIf_eq_ok, pure_eq_ok,
    requireIntent_eq_ok, runTransition_eq_ok, Prod.mk.injEq] at hmutate
  obtain ⟨-, run, hafter, -, bound, hbound, _, ⟨-, hwired, rfl⟩, rfl, -⟩ :=
    hmutate
  obtain ⟨receipt, rfl, hreceipt⟩ := bindLateChild_eq_ok hbound
  exact ⟨missionId, mission, _, hheld,
    .moved _ .blocked _ env.now (.stopped run receipt stop hafter hreceipt) hwired, rfl⟩

theorem recordReconcileUnobserved_written {outcome : UnobservedOutcome}
    (h : recordReconcileUnobserved env document missionId context =
      .ok (next, outcome)) : RunWritten document next := by
  obtain ⟨mission, changed, hheld, -, hmutate, rfl⟩ := runWrite_eq_ok h
  simp only [bind_eq_ok, exists_passed, refusePaused, failIf_eq_ok, pure_eq_ok,
    requireIntent_eq_ok, Prod.mk.injEq, not_not, ne_eq] at hmutate
  obtain ⟨-, hstate, run, hafter, -, moved, hmoved, rfl, -⟩ := hmutate
  refine ⟨missionId, mission, _, hheld, ?_, rfl⟩
  unfold stopWhenExhausted at hmoved
  split at hmoved
  · obtain ⟨-, hwired, rfl⟩ := runTransition_eq_ok.mp hmoved
    exact .moved _ .blocked _ env.now (.exhausted run _ hafter) hwired
  · obtain rfl := Except.ok.inj hmoved
    exact .stored _ env.now (.counted run _ hafter hstate)

omit [JsonDigest] in
theorem requireLateResolvable_eq_ok (h : requireLateResolvable mission = .ok passed) :
    lateResolvable mission = true := by
  unfold requireLateResolvable at h
  split at h
  · assumption
  · simp at h

omit [JsonDigest] in
theorem run_of_lateResolvable (h : lateResolvable mission = true) :
    mission.run = some (runOf mission) := by
  cases hrun : mission.run with
  | none => simp [lateResolvable, hrun] at h
  | some run => simp [runOf, hrun]

theorem recordLateResolution_written {resolution : LateResolution}
    {taskId status : String}
    (h : recordLateResolution env document missionId taskId status context =
      .ok (next, resolution)) : RunWritten document next := by
  obtain ⟨mission, changed, hheld, -, hmutate, rfl⟩ := runWrite_eq_ok h
  simp only [bind_eq_ok, exists_passed, failIf_eq_ok, pure_eq_ok,
    Prod.mk.injEq, not_not, ne_eq] at hmutate
  obtain ⟨hlate, hnone, -, -, rfl, -⟩ := hmutate
  have hlate := requireLateResolvable_eq_ok hlate
  exact ⟨missionId, mission, _, hheld, .stored _ env.now
    (.resolved _ _ (run_of_lateResolvable hlate) hlate hnone), rfl⟩

/-! ## Pause, resume, cancel -/

variable {authorizationId : String}

variable {pause : RunPause}

theorem recordPause_written (h : recordPause env document missionId authorizationId context =
      .ok (next, pause)) : RunWritten document next := by
  obtain ⟨mission, changed, hheld, -, hmutate, rfl⟩ := runWrite_eq_ok h
  simp only [bind_eq_ok, exists_passed, refusePaused, requireBoundAuthorization,
    failIf_eq_ok, pure_eq_ok, Prod.mk.injEq, not_and, not_not, ne_eq] at hmutate
  obtain ⟨hstate, -, -, -, rfl, -⟩ := hmutate
  exact ⟨missionId, mission, _, hheld, .stored _ env.now
    (.paused _ (or_iff_not_imp_left.mpr hstate)), rfl⟩

theorem recordResume_written (h : recordResume env document missionId authorizationId context =
      .ok (next, pause)) : RunWritten document next := by
  obtain ⟨mission, changed, hheld, hopen, hmutate, rfl⟩ := runWrite_eq_ok h
  simp only [bind_eq_ok, exists_passed, requireBoundAuthorization, failIf_eq_ok,
    orFail_eq_ok, pure_eq_ok, Prod.mk.injEq] at hmutate
  obtain ⟨-, hpaused, last, hlast, rfl, -⟩ := hmutate
  refine ⟨missionId, mission, _, hheld, .stored _ env.now ?_, rfl⟩
  cases hrun : mission.run with
  | none => simp [runIsPaused, hrun] at hpaused
  | some run =>
      rw [runOf_of_held hrun]
      exact .resumed run _ hrun (hopen rfl)

variable {cancel : RunCancel}

theorem recordCancel_written {achieved : CancelAchieved}
    (h : recordCancel env document missionId achieved authorizationId context =
      .ok (next, cancel)) : RunWritten document next := by
  obtain ⟨mission, changed, hheld, -, hmutate, rfl⟩ := runWrite_eq_ok h
  simp only [bind_eq_ok, exists_passed, requireBoundAuthorization, failIf_eq_ok,
    runTransition_eq_ok, pure_eq_ok, Prod.mk.injEq] at hmutate
  obtain ⟨-, -, _, ⟨-, hwired, rfl⟩, rfl, -⟩ := hmutate
  exact ⟨missionId, mission, _, hheld, .moved _ .cancelled _ env.now (.cancelled _ rfl) hwired, rfl⟩

theorem completeCancel_written
    {control : Option CancelControl} {quiescence : Option CancelQuiescence}
    (h : completeCancel env document missionId control quiescence
      authorizationId context = .ok (next, cancel)) :
    RunWritten document next := by
  obtain ⟨mission, changed, hheld, -, hmutate, rfl⟩ := runWrite_eq_ok h
  simp only [bind_eq_ok, exists_passed, requireBoundAuthorization, failIf_eq_ok,
    orFail_eq_ok, pure_eq_ok, Prod.mk.injEq, not_not, ne_eq] at hmutate
  obtain ⟨-, run, hrun, held, hcancel, hstate, hpending, rfl, -⟩ := hmutate
  exact ⟨missionId, mission, _, hheld, .stored _ env.now
    (.cancelCompleted run held control quiescence env.now hrun hcancel hpending
      hstate), rfl⟩

/-! ## Verification -/

variable {call : VerificationCall} {outcome : VerificationOutcome}

theorem recordPendingProof_change
    {failures : List ClosureFailure}
    (hrun : mission.run = some run) (hstate : mission.state = .running)
    (h : recordPendingProof mission run env.now failures call =
      .ok (changed, outcome)) :
    RunChange document missionId mission changed := by
  simp only [recordPendingProof, bind_eq_ok, exists_passed, failIf_eq_ok,
    orFail_eq_ok, pure_eq_ok, Prod.mk.injEq] at h
  obtain ⟨-, receipt, -, rfl, -⟩ := h
  exact .stored _ env.now (.pending run _ hrun hstate)

theorem verifyContract_change (hrun : mission.run = some run) (hstate : mission.state = .running)
    (h : verifyContract env document missionId mission run call =
      .ok (changed, outcome)) :
    RunChange document missionId mission changed := by
  simp only [verifyContract, bind_eq_ok] at h
  obtain ⟨evidence, haccepted, failures, hfailures, h⟩ := h
  split at h
  · exact recordPendingProof_change hrun hstate h
  · rename_i hproved
    simp only [decideVerification, bind_eq_ok, runTransition_eq_ok, pure_eq_ok, Prod.mk.injEq] at h
    obtain ⟨_, ⟨-, hwired, rfl⟩, rfl, -⟩ := h
    have hnone : failures = [] := not_not.mp hproved
    rw [hnone] at hfailures
    exact .moved _ .completed _ env.now (.verified run
      (newVerification call env.now none) hrun hstate
      ⟨⟨evidence, by simpa [newVerification] using haccepted⟩,
        by simp [newVerification], hfailures⟩) hwired

theorem recordVerification_written (h : recordVerification env document missionId call context =
      .ok (next, outcome)) : RunWritten document next := by
  obtain ⟨mission, changed, hheld, -, hmutate, rfl⟩ := runWrite_eq_ok h
  simp only [bind_eq_ok, exists_passed, refusePaused, failIf_eq_ok,
    orFail_eq_ok, not_not, ne_eq] at hmutate
  obtain ⟨-, hstate, run, hrun, hmutate⟩ := hmutate
  refine ⟨missionId, mission, changed, hheld, ?_, rfl⟩
  split at hmutate
  · exact verifyContract_change hrun hstate hmutate
  · rename_i failed _
    simp only [decideVerification, bind_eq_ok, runTransition_eq_ok, pure_eq_ok,
      Prod.mk.injEq] at hmutate
    obtain ⟨_, ⟨-, hwired, rfl⟩, rfl, -⟩ := hmutate
    exact .moved _ .blocked _ env.now (.failed run _ failed hrun hstate) hwired

end DodgingInfinity.MissionCore
