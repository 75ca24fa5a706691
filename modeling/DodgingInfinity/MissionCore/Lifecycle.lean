import DodgingInfinity.MissionCore.Registry

/-!
# The lifecycle is one-way

A run freezes the history behind it, a terminal state is never left, and the
two states that speak of a started run are entered by one.
-/

namespace DodgingInfinity.MissionCore

open Checked Relation

/-! ## What later documents may change -/

/-- A Mission with a run keeps its history and every authorization naming
it. -/
structure HistoryFixed (document later : Document) (missionId : String)
    (mission changed : Mission) : Prop where
  held : later.missions.get? missionId = some changed
  ran : changed.run ≠ none
  same : SameHistory mission changed
  authorizations : ∀ authorizationId authorization, authorization.missionId = missionId →
      (document.authorizations.get? authorizationId = some authorization ↔
        later.authorizations.get? authorizationId = some authorization)

def HistoriesFixed (document later : Document) : Prop :=
  ∀ missionId mission, document.missions.get? missionId = some mission →
    mission.run ≠ none → ∃ changed, HistoryFixed document later missionId mission changed

/-- A run stopped because nothing was observable, that bound no target. -/
structure NothingObserved (mission : Mission) (run : Run) : Prop where
  blocked : mission.state = .blocked
  stop : ∃ event, mission.lifecycleEvents = [event] ∧ (event.reason = .reconciled .degraded ∨
      event.reason = .reconciled .notObservable)
  unbound : boundTask run.receipt = none

/-- A cancel later on: as it was, or its one completion. -/
inductive CancelLater (state : MissionState) : Option RunCancel → Option RunCancel → Prop
  | same (cancel : Option RunCancel) : CancelLater state cancel cancel
  | completed (cancel : RunCancel) (control : Option CancelControl)
      (quiescence : Option CancelQuiescence) (completedAt : Nat)
      (hstate : state = .cancelled) (hpending : cancel.completedAt = none) :
      CancelLater state (some cancel) (some { cancel with
        control := control
        quiescence := quiescence
        completedAt := some completedAt })

/-- A late resolution later on: as it was, or the one of a run nothing was
observed of. -/
inductive ResolutionLater (mission : Mission) (run : Run) :
    Option LateResolution → Option LateResolution → Prop
  | same (resolution : Option LateResolution) :
      ResolutionLater mission run resolution resolution
  | resolved (resolution : LateResolution)
      (hstop : NothingObserved mission run) : ResolutionLater mission run none (some resolution)

/-- A diagnostic later on: as it was, or reduced by a retention sweep. -/
inductive ReducedLater {α : Type} (reduce : α → α) : Option α → Option α → Prop
  | same (value : Option α) : ReducedLater reduce value value
  | reduced (value : α) : ReducedLater reduce (some value)
      (some (reduce value))

def reducedRefusal (refusal : WorkspaceRefusal) : WorkspaceRefusal :=
  { refusal with detail := none }

def reducedProof (pending : PendingProof) : PendingProof :=
  { pending with blockers := pending.blockers.map fun blocker =>
      { blocker with detail := none } }

/-- A terminal run later on. -/
structure RunLater (mission : Mission) (run later : Run) : Prop where
  intent : later.intent = run.intent
  receipt : later.receipt = run.receipt
  pauses : later.pauses = run.pauses
  verification : later.verification = run.verification
  unobserved : later.reconcileUnobserved = run.reconcileUnobserved
  workspace : later.workspace = run.workspace
  cancel : CancelLater mission.state run.cancel later.cancel
  resolution : ResolutionLater mission run run.lateResolution
    later.lateResolution
  refusal : ReducedLater reducedRefusal run.workspaceRefusal
    later.workspaceRefusal
  proof : ReducedLater reducedProof run.pendingProof later.pendingProof

/-- A terminal Mission later on: only its run may differ, and the time it was
touched. -/
structure TerminalLater (mission changed : Mission) : Prop where
  record : changed = { mission with
    run := changed.run, updatedAt := changed.updatedAt }
  run : changed.run = mission.run ∨ ∃ run later, mission.run = some run ∧
    changed.run = some later ∧ RunLater mission run later

def TerminalsFixed (document later : Document) : Prop :=
  ∀ missionId mission, document.missions.get? missionId = some mission →
    mission.state ∈ MissionState.terminal → ∃ changed,
      later.missions.get? missionId = some changed ∧ TerminalLater mission changed

/-- The Mission was not in the state it is in now. -/
def Entered (document : Document) (missionId : String) (changed : Mission) : Prop :=
  ∀ mission, document.missions.get? missionId = some mission → mission.state ≠ changed.state

/-! ## The relations are preorders -/

section

variable {document next later : Document} {missionId : String}
  {mission middle changed : Mission} {run between after : Run}

theorem SameHistory.refl (mission : Mission) : SameHistory mission mission :=
  ⟨rfl, rfl, rfl, rfl, rfl, rfl⟩

theorem SameHistory.trans (hfirst : SameHistory mission middle)
    (hsecond : SameHistory middle changed) : SameHistory mission changed where
  keyed := hsecond.keyed.trans hfirst.keyed
  request := hsecond.request.trans hfirst.request
  revisions := hsecond.revisions.trans hfirst.revisions
  current := hsecond.current.trans hfirst.current
  decisions := hsecond.decisions.trans hfirst.decisions
  authorizationIds := hsecond.authorizationIds.trans hfirst.authorizationIds

theorem HistoriesFixed.refl (document : Document) : HistoriesFixed document document :=
  fun _ mission hheld hrun => ⟨mission, hheld, hrun, .refl mission, fun _ _ _ => Iff.rfl⟩

theorem HistoriesFixed.trans (hfirst : HistoriesFixed document next)
    (hsecond : HistoriesFixed next later) : HistoriesFixed document later := by
  intro missionId mission hheld hrun
  obtain ⟨middle, hmiddle⟩ := hfirst missionId mission hheld hrun
  obtain ⟨changed, hchanged⟩ := hsecond missionId middle hmiddle.held hmiddle.ran
  exact ⟨changed, hchanged.held, hchanged.ran, hmiddle.same.trans hchanged.same,
    fun authorizationId authorization hnames =>
      (hmiddle.authorizations authorizationId authorization hnames).trans
        (hchanged.authorizations authorizationId authorization hnames)⟩

theorem CancelLater.trans {state : MissionState}
    {first second third : Option RunCancel} (hfirst : CancelLater state first second)
    (hsecond : CancelLater state second third) :
    CancelLater state first third := by
  cases hfirst with
  | same => exact hsecond
  | completed cancel control quiescence completedAt hstate hpending =>
      cases hsecond with
      | same =>
          exact .completed cancel control quiescence completedAt hstate hpending
      | completed _ _ _ _ _ hagain => cases hagain

theorem ReducedLater.trans {α : Type} {reduce : α → α}
    (hreduce : ∀ value, reduce (reduce value) = reduce value)
    {first second third : Option α} (hfirst : ReducedLater reduce first second)
    (hsecond : ReducedLater reduce second third) :
    ReducedLater reduce first third := by
  cases hfirst with
  | same => exact hsecond
  | reduced value =>
      cases hsecond with
      | same => exact .reduced value
      | reduced =>
          rw [hreduce]
          exact .reduced value

theorem reducedRefusal_reducedRefusal (refusal : WorkspaceRefusal) :
    reducedRefusal (reducedRefusal refusal) = reducedRefusal refusal := rfl

theorem reducedProof_reducedProof (pending : PendingProof) :
    reducedProof (reducedProof pending) = reducedProof pending := by
  simp [reducedProof, Function.comp_def]

theorem RunLater.refl (mission : Mission) (run : Run) : RunLater mission run run :=
  ⟨rfl, rfl, rfl, rfl, rfl, rfl, .same _, .same _, .same _, .same _⟩

theorem RunLater.trans (hfirst : RunLater mission run between)
    (hsecond : RunLater middle between after) (hstate : middle.state = mission.state)
    (hevents : middle.lifecycleEvents = mission.lifecycleEvents) :
    RunLater mission run after where
  intent := hsecond.intent.trans hfirst.intent
  receipt := hsecond.receipt.trans hfirst.receipt
  pauses := hsecond.pauses.trans hfirst.pauses
  verification := hsecond.verification.trans hfirst.verification
  unobserved := hsecond.unobserved.trans hfirst.unobserved
  workspace := hsecond.workspace.trans hfirst.workspace
  cancel := hfirst.cancel.trans (hstate ▸ hsecond.cancel)
  resolution := by
    have hresolution := hsecond.resolution
    generalize hafter : after.lateResolution = last at hresolution
    generalize hbetween : between.lateResolution = held at hresolution
    cases hresolution with
    | same =>
        rw [← hbetween]
        exact hfirst.resolution
    | resolved resolution hstop =>
        have hnone : run.lateResolution = none := by
          have hearlier := hfirst.resolution
          rw [hbetween] at hearlier
          generalize run.lateResolution = started at hearlier
          cases hearlier
          rfl
        rw [hnone]
        exact .resolved resolution {
          blocked := hstate ▸ hstop.blocked
          stop := hevents ▸ hstop.stop
          unbound := by rw [← hfirst.receipt]; exact hstop.unbound }
  refusal := hfirst.refusal.trans reducedRefusal_reducedRefusal hsecond.refusal
  proof := hfirst.proof.trans reducedProof_reducedProof hsecond.proof

theorem TerminalLater.refl (mission : Mission) : TerminalLater mission mission :=
  ⟨rfl, .inl rfl⟩

theorem TerminalLater.trans (hfirst : TerminalLater mission middle)
    (hsecond : TerminalLater middle changed) :
    TerminalLater mission changed where
  record := by
    rw [hsecond.record, hfirst.record]
  run := by
    have hstate : middle.state = mission.state := by rw [hfirst.record]
    have hevents : middle.lifecycleEvents = mission.lifecycleEvents := by
      rw [hfirst.record]
      rfl
    rcases hfirst.run with hsame | ⟨run, between, hrun, hbetween, hlater⟩
    · rcases hsecond.run with hkept | ⟨held, after, hheld, hafter, hlast⟩
      · exact .inl (hkept.trans hsame)
      · refine .inr ⟨held, after, hsame ▸ hheld, hafter, ?_⟩
        exact (RunLater.refl mission held).trans hlast hstate hevents
    · rcases hsecond.run with hkept | ⟨held, after, hheld, hafter, hlast⟩
      · exact .inr ⟨run, between, hrun, hkept.trans hbetween, hlater⟩
      · obtain rfl := Option.some.inj (hbetween.symm.trans hheld)
        exact .inr ⟨run, after, hrun, hafter, hlater.trans hlast hstate hevents⟩

theorem TerminalLater.state_eq (h : TerminalLater mission changed) :
    changed.state = mission.state := by
  rw [h.record]

theorem TerminalsFixed.refl (document : Document) : TerminalsFixed document document :=
  fun _ mission hheld _ => ⟨mission, hheld, .refl mission⟩

theorem TerminalsFixed.trans (hfirst : TerminalsFixed document next)
    (hsecond : TerminalsFixed next later) : TerminalsFixed document later := by
  intro missionId mission hheld hterminal
  obtain ⟨middle, hmiddle, hlater⟩ := hfirst missionId mission hheld hterminal
  obtain ⟨changed, hchanged, hlast⟩ := hsecond missionId middle hmiddle
    (hlater.state_eq ▸ hterminal)
  exact ⟨changed, hchanged, hlater.trans hlast⟩

end

variable [JsonDigest] {env : Env} {document noted effected next : Document}
  {missionId : String} {mission changed : Mission} {run : Run}
  {decision : DecisionRecord} {replay : Replay}

/-! ## A run freezes the history -/

/-- A Mission with a run still has one after any change. -/
theorem MissionChange.keeps_run
    (h : MissionChange document missionId mission changed) (hrun : mission.run ≠ none) :
    changed.run ≠ none ∧ SameHistory mission changed := by
  cases h with
  | withdrawn => exact ⟨hrun, rfl, rfl, rfl, rfl, rfl, rfl⟩
  | decided _ _ _ _ _ _ hunrun => exact absurd hunrun hrun
  | ran _ hchange =>
      refine ⟨?_, hchange.sameHistory⟩
      cases hchange with
      | kept => exact hrun
      | stored => simp [setRun]
      | moved => simp [movedMission]
  | reclaimed => exact ⟨by simp, rfl, rfl, rfl, rfl, rfl, rfl⟩

/-- A decision on one Mission leaves the authorizations naming another. -/
theorem Deciding.authorities_iff
    (h : Deciding env document noted effected next missionId mission changed
      decision replay) {other : String} (hne : other ≠ mission.missionId)
    {authorizationId : String} {authorization : Authorization}
    (hnames : authorization.missionId = other) :
    document.authorizations.get? authorizationId = some authorization ↔
      next.authorizations.get? authorizationId = some authorization := by
  have hagrees := h.others hne
  refine ⟨fun hheld => hagrees.authorities authorizationId authorization hheld
    hnames, fun hnext => ?_⟩
  rw [h.authorizations] at hnext
  rcases (h.effect.lists h.nodup).2 authorizationId authorization hnext with
    ⟨before, hbefore, hsame⟩ | ⟨hown, -⟩
  · rw [h.noting.authorizations] at hbefore
    have hkept := hagrees.authorities authorizationId before hbefore (hsame.symm.trans hnames)
    rw [h.authorizations] at hkept
    rw [hbefore, Option.some.inj (hkept.symm.trans hnext)]
  · exact absurd (hnames.symm.trans hown) hne

variable [ReconciliationPlanner]

theorem Change.authorities_iff (h : Change document next)
    (hwell : AllWellFormed document) (hconsistent : Consistent document)
    (hheld : document.missions.get? missionId = some mission)
    (hrun : mission.run ≠ none) (authorizationId : String) (authorization : Authorization)
    (hnames : authorization.missionId = missionId) :
    document.authorizations.get? authorizationId = some authorization ↔
      next.authorizations.get? authorizationId = some authorization := by
  cases h with
  | decided env _ decidedId before decision hdecided =>
      obtain ⟨_, _, _, _, _, hdeciding, -⟩ :=
        hdecided.deciding hwell hconsistent
      refine hdeciding.authorities_iff ?_ hnames
      rw [hdeciding.shape.keyed]
      rintro rfl
      obtain rfl := Option.some.inj (hheld.symm.trans hdecided.held)
      exact hrun hdecided.unrun
  | _ => rfl

theorem Change.historiesFixed (h : Change document next)
    (hwell : AllWellFormed document) (hconsistent : Consistent document) :
    HistoriesFixed document next := by
  intro missionId mission hheld hrun
  have hauthorities := h.authorities_iff hwell hconsistent hheld hrun
  obtain ⟨changed, hchanged, hcases⟩ := h.mission_of_held hheld
  rcases hcases with rfl | hchange
  · exact ⟨changed, hchanged, hrun, .refl changed, hauthorities⟩
  · obtain ⟨hran, hsame⟩ := hchange.keeps_run hrun
    exact ⟨changed, hchanged, hran, hsame, hauthorities⟩

/-! ## A terminal state is never left -/

omit [ReconciliationPlanner] [JsonDigest] in
theorem NothingObserved.of_lateResolvable (hrun : mission.run = some run)
    (h : lateResolvable mission = true) : NothingObserved mission run := by
  simp only [lateResolvable, decide_eq_true_eq, runOf_of_held hrun] at h
  obtain ⟨hblocked, -, hstop, hunbound⟩ := h
  refine ⟨hblocked, ?_, hunbound⟩
  unfold lateResolutionStop at hstop
  split at hstop
  · rename_i event hevents
    refine ⟨event, hevents, ?_⟩
    have hreason : event.reason.lateResolutionStop = true := by
      by_contra hnot
      simp [hnot] at hstop
    unfold RunReason.lateResolutionStop at hreason
    split at hreason
    · rename_i heq
      exact .inl heq
    · rename_i heq
      exact .inr heq
    · cases hreason
  · exact absurd rfl hstop

omit [ReconciliationPlanner] in
/-- On a terminal Mission two writes store a run: the completion of its cancel
and one late resolution. -/
theorem RunStored.terminal {later : Run} (h : RunStored document missionId mission later)
    (hterminal : mission.state ∈ MissionState.terminal) :
    ∃ run, mission.run = some run ∧ RunLater mission run later := by
  have hopen : mission.state ≠ .authorized := by
    rintro heq
    simp [heq, MissionState.terminal] at hterminal
  cases h with
  | bound _ hbefore => exact absurd hbefore.authorized hopen
  | prepared _ _ hbefore => exact absurd hbefore.authorized hopen
  | refused _ hbefore => exact absurd hbefore.authorized hopen
  | intended _ hbefore => exact absurd hbefore.authorized hopen
  | received _ _ _ hstate => exact absurd hstate hopen
  | counted _ _ _ hstate => exact absurd hstate hopen
  | resolved run resolution hrun hlate hnone =>
      refine ⟨run, hrun, { RunLater.refl mission run with
        resolution := ?_ }⟩
      rw [hnone]
      exact .resolved resolution (.of_lateResolvable hrun hlate)
  | paused _ hstate =>
      rcases hstate with hstate | hstate <;> simp [hstate, MissionState.terminal] at hterminal
  | resumed _ _ _ hrunning => exact absurd hterminal hrunning
  | pending _ _ _ hstate => simp [hstate, MissionState.terminal] at hterminal
  | cancelCompleted run cancel control quiescence completedAt hrun hcancel
      hpending hstate =>
      refine ⟨run, hrun, { RunLater.refl mission run with cancel := ?_ }⟩
      rw [hcancel]
      exact .completed cancel control quiescence completedAt hstate hpending

omit [ReconciliationPlanner] [JsonDigest] in
theorem runLater_reclaimed (mission : Mission) (run : Run) (reclaimedAt : Nat)
    (outcome : ReclaimOutcome) :
    RunLater mission run (reclaimedRun run reclaimedAt outcome) := by
  refine { RunLater.refl mission run with refusal := ?_, proof := ?_ }
  · change ReducedLater reducedRefusal run.workspaceRefusal
      (run.workspaceRefusal.map reducedRefusal)
    cases run.workspaceRefusal with
    | none => exact .same none
    | some refusal => exact .reduced refusal
  · change ReducedLater reducedProof run.pendingProof (run.pendingProof.map reducedProof)
    cases run.pendingProof with
    | none => exact .same none
    | some pending => exact .reduced pending

omit [ReconciliationPlanner] in
theorem MissionChange.terminal (h : MissionChange document missionId mission changed)
    (hterminal : mission.state ∈ MissionState.terminal) :
    TerminalLater mission changed := by
  cases h with
  | withdrawn _ _ _ hstate => simp [hstate, MissionState.terminal] at hterminal
  | decided _ _ _ _ _ hopen => exact absurd hterminal hopen
  | ran _ hchange =>
      cases hchange with
      | kept => exact .refl mission
      | stored later now hstored =>
          obtain ⟨run, hrun, hlater⟩ := hstored.terminal hterminal
          exact ⟨rfl, .inr ⟨run, later, hrun, rfl, hlater⟩⟩
      | moved later target reason now _ hwired =>
          exfalso
          simp only [MissionState.runTransitions, List.mem_cons,
            Prod.mk.injEq, List.not_mem_nil, or_false] at hwired
          rcases hwired with ⟨h, -⟩ | ⟨h, -⟩ | ⟨h, -⟩ | ⟨h, -⟩ | ⟨h, -⟩ |
            ⟨h, -⟩ <;> simp [h, MissionState.terminal] at hterminal
  | reclaimed run reclaimedAt outcome hrun =>
      exact ⟨rfl, .inr ⟨run, _, hrun, rfl, runLater_reclaimed mission run reclaimedAt outcome⟩⟩

theorem Change.terminalsFixed (h : Change document next) :
    TerminalsFixed document next := by
  intro missionId mission hheld hterminal
  obtain ⟨changed, hchanged, hcases⟩ := h.mission_of_held hheld
  rcases hcases with rfl | hchange
  · exact ⟨changed, hchanged, .refl changed⟩
  · exact ⟨changed, hchanged, hchange.terminal hterminal⟩

/-! ## RUNNING and COMPLETED are entered by a started run -/

omit [ReconciliationPlanner] in
/-- The state before, and the run, of a Mission a change has moved. -/
theorem MissionChange.entered
    (h : MissionChange document missionId mission changed) (hshape : WellFormed missionId mission)
    (hentered : mission.state ≠ changed.state) :
    (changed.state = .running → mission.state = .authorized ∧
      ∃ run, mission.run = some run ∧ Started run) ∧
    (changed.state = .completed → mission.state = .running ∧
      ∃ run, mission.run = some run ∧ Started run) := by
  cases h with
  | withdrawn => exact absurd rfl hentered
  | decided env _ _ _ decision _ _ _ heffected =>
      cases heffected with
      | settled _ _ hkind =>
          rcases hkind with ⟨-, rfl⟩ | ⟨-, rfl⟩ <;> simp
      | _ => simp
  | ran _ hchange =>
      cases hchange with
      | kept => exact absurd rfl hentered
      | stored => exact absurd rfl hentered
      | moved run target reason now hmoves hwired =>
          refine ⟨fun htarget => ?_, fun htarget => ?_⟩
          · obtain rfl : target = .running := htarget
            refine ⟨by simpa [MissionState.runTransitions] using hwired, ?_⟩
            have hstarted := hmoves.started hshape (.inl rfl)
            cases hmoves with
            | observed _ _ _ hrun => exact ⟨run, hrun, hstarted⟩
          · obtain rfl : target = .completed := htarget
            have hrunning : mission.state = .running := by
              simpa [MissionState.runTransitions] using hwired
            exact ⟨hrunning, hshape.started (.inl hrunning)⟩
  | reclaimed => exact absurd rfl hentered

omit [JsonDigest] [ReconciliationPlanner] in
/-- A sweep moves no Mission. -/
theorem state_of_reclaims (h : ReflTransGen Reclaim document next)
    (hheld : next.missions.get? missionId = some changed) :
    ∃ mission, document.missions.get? missionId = some mission ∧
      mission.state = changed.state := by
  induction h generalizing changed with
  | refl => exact ⟨changed, hheld, rfl⟩
  | tail _ hlast ih =>
      obtain ⟨reclaimedId, before, run, reclaimedAt, outcome, hbefore, -, -, rfl⟩ := hlast
      simp only [Document.setMission, Dict.get?_set] at hheld
      split at hheld
      · rename_i heq
        subst heq
        obtain rfl := Option.some.inj hheld
        obtain ⟨mission, hmission, hstate⟩ := ih hbefore
        exact ⟨mission, hmission, hstate⟩
      · exact ih hheld

/-- A step enters RUNNING from AUTHORIZED alone, COMPLETED from RUNNING alone,
each with a recorded intent and a receipt that names a task. -/
theorem Reachable.entered (h : Reachable document) (hstep : Step document next)
    (hheld : next.missions.get? missionId = some changed)
    (hentered : Entered document missionId changed) : (changed.state = .running → ∃ mission run,
      document.missions.get? missionId = some mission ∧
      mission.state = .authorized ∧ mission.run = some run ∧ Started run) ∧
    (changed.state = .completed → ∃ mission run, document.missions.get? missionId = some mission ∧
      mission.state = .running ∧ mission.run = some run ∧ Started run) := by
  cases h.left hstep with
  | same => exact absurd rfl (hentered changed hheld)
  | changed _ hchange =>
      rcases hchange.mission_of_next hheld with hold | hwritten
      · exact absurd rfl (hentered changed hold)
      · cases hwritten with
        | created _ _ _ _ _ _ hnew => simp [hnew.record]
        | changed mission _ hbefore hmoved =>
            obtain ⟨hrunning, hcompleted⟩ := hmoved.entered
              (h.wellFormed hbefore) (hentered mission hbefore)
            refine ⟨fun hstate => ?_, fun hstate => ?_⟩
            · obtain ⟨hauthorized, run, hrun, hstarted⟩ := hrunning hstate
              exact ⟨mission, run, hbefore, hauthorized, hrun, hstarted⟩
            · obtain ⟨hauthorized, run, hrun, hstarted⟩ := hcompleted hstate
              exact ⟨mission, run, hbefore, hauthorized, hrun, hstarted⟩
  | swept _ hchain =>
      obtain ⟨mission, hbefore, hstate⟩ := state_of_reclaims hchain hheld
      exact absurd hstate (hentered mission hbefore)

/-- The lifecycle is one-way over every run: a run freezes the history behind
it, a terminal Mission changes only in its cancel, one late resolution and its
diagnostics, and RUNNING and COMPLETED are entered by a started run. -/
theorem lifecycle_one_way (document : Document) (h : Reachable document) :
    (∀ later, Runs document later → HistoriesFixed document later) ∧
    (∀ later, Runs document later → TerminalsFixed document later) ∧
    ∀ next missionId changed, Step document next → next.missions.get? missionId = some changed →
      Entered document missionId changed → (changed.state = .running → ∃ mission run,
        document.missions.get? missionId = some mission ∧
        mission.state = .authorized ∧ mission.run = some run ∧ Started run) ∧
      (changed.state = .completed → ∃ mission run, document.missions.get? missionId = some mission ∧
        mission.state = .running ∧ mission.run = some run ∧ Started run) :=
  ⟨fun _ hrun => h.related (p := Consistent) consistent_default
      (fun _ _ hwell hconsistent hchange =>
        hchange.consistent hwell hconsistent)
      HistoriesFixed.refl (fun _ _ _ => HistoriesFixed.trans)
      (fun _ _ hwell hconsistent hchange =>
        hchange.historiesFixed hwell hconsistent) hrun,
    fun _ hrun => h.related (p := Consistent) consistent_default
      (fun _ _ hwell hconsistent hchange =>
        hchange.consistent hwell hconsistent)
      TerminalsFixed.refl (fun _ _ _ => TerminalsFixed.trans)
      (fun _ _ _ _ hchange => hchange.terminalsFixed) hrun,
    fun _ _ _ hstep hheld hentered => h.entered hstep hheld hentered⟩

omit [JsonDigest] [ReconciliationPlanner] in
theorem lifecycle_one_way_sample : HistoriesFixed sampleMidway sampleRun ∧
      TerminalsFixed sampleRun sampleRun := by
  obtain ⟨hhistories, -, -⟩ := @lifecycle_one_way sampleRunDigest samplePlanner
    sampleMidway sampleMidway_reachable
  obtain ⟨-, hterminals, -⟩ := @lifecycle_one_way sampleRunDigest samplePlanner
    sampleRun sampleRun_reachable
  exact ⟨hhistories sampleRun sampleMidway_runs, hterminals sampleRun .refl⟩

end DodgingInfinity.MissionCore

/-!
## At most one live authorization

An unrevoked authorization of a Mission is the last it issued and binds its
current revision; whether there is one is read off the state.
-/

namespace DodgingInfinity.MissionCore

/-- A stored authorization of the Mission that no edit has revoked. -/
structure Unrevoked (document : Document) (missionId authorizationId : String)
    (authorization : Authorization) : Prop where
  held : document.authorizations.get? authorizationId = some authorization
  names : authorization.missionId = missionId
  unrevoked : authorization.revocation = none

/-- The authorization is the last the Mission issued, for its current revision
and the digest of it. -/
structure BindsCurrent (mission : Mission) (authorizationId : String)
    (authorization : Authorization) : Prop where
  last : mission.authorizationIds.getLast? = some authorizationId
  revision : authorization.revision = mission.currentRevision
  digest : ∃ entry, mission.revisions.getLast? = some entry ∧
    entry.revision = mission.currentRevision ∧
    authorization.proposalDigestSha256 = entry.proposalDigestSha256

/-- The states that rest on a live authorization. -/
def authorizedStates : List MissionState :=
  [.authorized, .running, .completed, .blocked]

/-- The states no authorization is live in. -/
def unauthorizedStates : List MissionState :=
  [.awaitingDecision, .denied, .rejected, .changesRequested]

variable {document : Document} {missionId authorizationId : String}
  {mission : Mission} {authorization : Authorization} {replay : Replay}

/-- A stored authorization is one the replay of its Mission issued. -/
theorem Consistent.issued (h : Consistent document)
    (hheld : document.missions.get? missionId = some mission)
    (hstands : Stands document mission replay)
    (hlive : Unrevoked document missionId authorizationId authorization) :
    authorizationId ∈ replay.issuedIds := by
  obtain ⟨owner, howner, hlisted⟩ := h.owned authorizationId authorization hlive.held
  rw [hlive.names] at howner
  obtain rfl := Option.some.inj (hheld.symm.trans howner)
  rwa [hstands.replayed.authorizations] at hlisted

theorem Stands.bindsCurrent (h : Stands document mission replay)
    (hshape : WellFormed missionId mission) (hissued : authorizationId ∈ replay.issuedIds)
    (hheld : document.authorizations.get? authorizationId = some authorization)
    (hunrevoked : authorization.revocation = none) :
    BindsCurrent mission authorizationId authorization := by
  have hstate : replay.state = .authorized := by
    by_contra hdormant
    exact h.revoked_of_dormant hdormant hissued hheld hunrevoked
  obtain ⟨earlier, last, live, hone⟩ := h.oneLive hstate
  have hlast : authorizationId = last := by
    rw [hone.issued] at hissued
    rcases List.mem_append.mp hissued with hearlier | hnew
    · exact absurd hunrevoked (hone.revoked _ hearlier authorization hheld)
    · exact List.mem_singleton.mp hnew
  subst hlast
  obtain rfl := Option.some.inj (hheld.symm.trans hone.held)
  obtain ⟨entry, hentry, hdigest⟩ := hone.digest
  have hcurrent : mission.revisions.getLast? = some entry := by
    rw [List.getLast?_eq_getElem?, ← h.replayed.length]
    exact hentry
  exact {
    last := by
      rw [h.replayed.authorizations, hone.issued]
      exact List.getLast?_concat
    revision := hone.revision_eq.trans h.replayed.revision
    digest := ⟨entry, hcurrent, hshape.toNumbered.current entry hcurrent, hdigest⟩ }

/-- A Mission in an authorized state was decided to be AUTHORIZED. -/
theorem Stands.authorized_of_state (h : Stands document mission replay)
    (hshape : WellFormed missionId mission) (hstate : mission.state ∈ authorizedStates) :
    replay.state = .authorized := by
  refine h.authorized_of hshape ?_
  by_cases hauthorized : mission.state = .authorized
  · exact .inr hauthorized
  · refine .inl fun hrun => ?_
    have hdecided := hshape.undecided (hshape.unrun hrun)
    simp only [authorizedStates, decisionStates, List.mem_cons,
      List.not_mem_nil, or_false] at hstate hdecided
    rcases hstate with heq | heq | heq | heq <;> simp_all

theorem Stands.dormant_of_state (h : Stands document mission replay)
    (hshape : WellFormed missionId mission) (hstate : mission.state ∈ unauthorizedStates) :
    replay.state ≠ .authorized := by
  have hlifecycle := hshape.lifecycle_of_open fun hrunning => by
    simp only [unauthorizedStates, runStates, List.mem_cons,
      List.not_mem_nil, or_false] at hstate hrunning
    rcases hstate with heq | heq | heq | heq <;> simp_all
  rw [h.state_eq hlifecycle]
  rintro heq
  simp [unauthorizedStates, heq] at hstate

variable [JsonDigest] [ReconciliationPlanner]

/-- In every reachable document a Mission has at most one unrevoked
authorization, which binds its current revision; its state says whether there
is one. -/
theorem at_most_one_live_authorization (document : Document)
    (h : Reachable document) (missionId : String) (mission : Mission)
    (hheld : document.missions.get? missionId = some mission) : (∀ authorizationId authorization,
      Unrevoked document missionId authorizationId authorization →
        BindsCurrent mission authorizationId authorization) ∧
    (∀ first second one two, Unrevoked document missionId first one →
      Unrevoked document missionId second two → first = second) ∧
    (mission.state ∈ authorizedStates → ∃ authorizationId authorization,
      Unrevoked document missionId authorizationId authorization) ∧
    (mission.state ∈ unauthorizedStates → ∀ authorizationId authorization,
      ¬ Unrevoked document missionId authorizationId authorization) := by
  have hshape := h.wellFormed hheld
  obtain ⟨replay, hstands⟩ := h.consistent.stands hheld
  have hbinds : ∀ authorizationId authorization,
      Unrevoked document missionId authorizationId authorization →
        BindsCurrent mission authorizationId authorization :=
    fun authorizationId authorization hlive => hstands.bindsCurrent hshape
      (h.consistent.issued hheld hstands hlive) hlive.held hlive.unrevoked
  refine ⟨hbinds, fun first second one two hone htwo => ?_, fun hstate => ?_,
    fun hstate authorizationId authorization hlive => ?_⟩
  · have hfirst := (hbinds first one hone).last
    have hsecond := (hbinds second two htwo).last
    exact Option.some.inj (hfirst.symm.trans hsecond)
  · obtain ⟨earlier, last, authorization, hone⟩ :=
      hstands.oneLive (hstands.authorized_of_state hshape hstate)
    exact ⟨last, authorization, hone.held, hone.owned.trans hshape.keyed, hone.unrevoked⟩
  · exact hstands.revoked_of_dormant (hstands.dormant_of_state hshape hstate)
      (h.consistent.issued hheld hstands hlive) hlive.held hlive.unrevoked

omit [JsonDigest] [ReconciliationPlanner] in
theorem at_most_one_live_authorization_sample : ∃ authorizationId authorization,
      Unrevoked sampleRun sampleMissionId authorizationId authorization := by
  obtain ⟨mission, hheld, hcompleted⟩ := sampleRun_completed
  obtain ⟨-, -, hauthorized, -⟩ := @at_most_one_live_authorization
    sampleRunDigest samplePlanner sampleRun sampleRun_reachable sampleMissionId
    mission hheld
  exact hauthorized (by simp [hcompleted, authorizedStates])

end DodgingInfinity.MissionCore
