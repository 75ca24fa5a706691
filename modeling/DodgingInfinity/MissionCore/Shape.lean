import DodgingInfinity.MissionCore.Touch

/-!
# The shape every stored Mission keeps

Every Mission of a reachable document is keyed by its own id, numbers its
revisions without a gap, carries a lifecycle chain only behind a run, and a
run whose receipt and workspace stand behind its intent.
-/

namespace DodgingInfinity.MissionCore

open Checked Relation

/-- A receipt follows an intent, and an intent names the path and the baseline
of the prepared binding. -/
structure RunShape (run : Run) : Prop where
  received : run.receipt ≠ none → run.intent ≠ none
  prepared : ∀ intent, run.intent = some intent → ∃ binding,
    run.workspace = some binding ∧ binding.state = .prepared ∧
    binding.bound.pathRealpath = intent.workspaceRealpath ∧
    binding.bound.baselineCommitSha = intent.observedBaselineCommitSha

/-- A run that has started: its intent is recorded and its receipt names the
task. -/
structure Started (run : Run) : Prop where
  intended : run.intent ≠ none
  bound : ∃ taskId, boundTask run.receipt = some taskId

/-- The shape of the Mission stored under an id. -/
structure WellFormed (missionId : String) (mission : Mission) : Prop where
  keyed : mission.missionId = missionId
  revised : mission.revisions ≠ []
  numbered : ∀ index entry, mission.revisions[index]? = some entry → entry.revision = index + 1
  current : mission.currentRevision = mission.revisions.length
  unrun : mission.run = none → mission.lifecycle = none
  undecided : mission.lifecycle = none → mission.state ∈ decisionStates
  waiting : mission.run ≠ none → mission.lifecycle = none → mission.state = .authorized
  moved : ∀ events, mission.lifecycle = some events → ∃ event,
    events.getLast? = some event ∧ event.toState = mission.state ∧ mission.state ∈ runStates
  run_shape : ∀ run, mission.run = some run → RunShape run
  started : mission.state = .running ∨ mission.state = .completed →
    ∃ run, mission.run = some run ∧ Started run

def AllWellFormed (document : Document) : Prop :=
  ∀ missionId mission, document.missions.get? missionId = some mission →
    WellFormed missionId mission

variable {document next noted effected : Document} {missionId : String}
  {mission changed : Mission} {run : Run} {decision : DecisionRecord}
  {env : Env}

theorem WellFormed.toNumbered (h : WellFormed missionId mission) :
    Numbered missionId mission where
  keyed := h.keyed
  current := fun entry hentry => by
    have hlength := List.length_pos_iff.mpr h.revised
    rw [List.getLast?_eq_getElem?] at hentry
    have hnumber := h.numbered _ entry hentry
    have hcurrent := h.current
    omega

/-- A Mission that cannot move to a run state is in no run state. -/
theorem WellFormed.lifecycle_of_open (h : WellFormed missionId mission)
    (hstate : mission.state ∉ runStates) : mission.lifecycle = none := by
  cases hevents : mission.lifecycle with
  | none => rfl
  | some events =>
      obtain ⟨_, -, -, hmoved⟩ := h.moved events hevents
      exact absurd hmoved hstate

theorem runShape_new : RunShape newRunBlock where
  received := by simp [newRunBlock]
  prepared := by simp [newRunBlock]

theorem WellFormed.runOf_shape (h : WellFormed missionId mission) :
    RunShape (runOf mission) := by
  cases hrun : mission.run with
  | none => simpa [runOf, hrun] using runShape_new
  | some run =>
      rw [runOf_of_held hrun]
      exact h.run_shape run hrun

/-- A started Mission is started by the run a write begins from. -/
theorem WellFormed.runOf_started (h : WellFormed missionId mission)
    (hstate : mission.state = .running ∨ mission.state = .completed) :
    Started (runOf mission) := by
  obtain ⟨run, hrun, hstarted⟩ := h.started hstate
  rwa [runOf_of_held hrun]

/-! ## Storing a run -/

/-- Storing a run keeps the shape, where one was held already or the Mission
is AUTHORIZED. -/
theorem WellFormed.setRun (h : WellFormed missionId mission)
    (hheld : mission.run ≠ none ∨ mission.state = .authorized) (hshape : RunShape run)
    (hstarted : mission.state = .running ∨ mission.state = .completed → Started run) (now : Nat) :
    WellFormed missionId (setRun mission run now) where
  keyed := h.keyed
  revised := h.revised
  numbered := h.numbered
  current := h.current
  unrun := by simp [MissionCore.setRun]
  undecided := h.undecided
  waiting := fun _ hlifecycle => hheld.elim (fun hrun =>
    h.waiting hrun hlifecycle) id
  moved := h.moved
  run_shape := fun held hrun => by
    obtain rfl := Option.some.inj hrun
    exact hshape
  started := fun hstate => ⟨run, rfl, hstarted hstate⟩

variable [JsonDigest]

theorem RunStored.held (h : RunStored document missionId mission run)
    (hwell : WellFormed missionId mission) :
    mission.run ≠ none ∨ mission.state = .authorized := by
  cases h with
  | bound _ hbefore => exact .inr hbefore.authorized
  | prepared _ _ hbefore => exact .inr hbefore.authorized
  | refused _ hbefore => exact .inr hbefore.authorized
  | intended _ hbefore => exact .inr hbefore.authorized
  | received _ _ _ hstate => exact .inr hstate
  | counted _ _ _ hstate => exact .inr hstate
  | resolved _ _ hheld => exact .inl (by simp [hheld])
  | paused _ hstate =>
      rcases hstate with hauthorized | hrunning
      · exact .inr hauthorized
      · obtain ⟨held, hheld, -⟩ := hwell.started (.inl hrunning)
        exact .inl (by simp [hheld])
  | resumed _ _ hheld => exact .inl (by simp [hheld])
  | pending _ _ hheld => exact .inl (by simp [hheld])
  | cancelCompleted _ _ _ _ _ hheld => exact .inl (by simp [hheld])

omit [JsonDigest] in
theorem runIntent_runOf (mission : Mission) :
    (runOf mission).intent = mission.runIntent := by
  cases hrun : mission.run with
  | none => simp [runOf, hrun, Mission.runIntent, newRunBlock]
  | some run => simp [runOf, hrun, Mission.runIntent]

omit [JsonDigest] in
theorem runWorkspace_runOf (mission : Mission) :
    (runOf mission).workspace = mission.runWorkspace := by
  cases hrun : mission.run with
  | none => simp [runOf, hrun, Mission.runWorkspace, newRunBlock]
  | some run => simp [runOf, hrun, Mission.runWorkspace]

theorem RunStored.shape (h : RunStored document missionId mission run)
    (hwell : WellFormed missionId mission) : RunShape run := by
  have hshape := hwell.runOf_shape
  cases h with
  | bound binding hbefore =>
      have hnone := (runIntent_runOf mission).trans hbefore.unintended
      exact ⟨hshape.received, by simp [hnone]⟩
  | prepared binding preparedAt hbefore =>
      have hnone := (runIntent_runOf mission).trans hbefore.unintended
      exact ⟨hshape.received, by simp [hnone]⟩
  | refused => exact ⟨hshape.received, hshape.prepared⟩
  | intended intent hbefore hintended =>
      refine ⟨by simp, fun held hheld => ?_⟩
      obtain rfl := Option.some.inj hheld
      obtain ⟨binding, hbinding, hprepared⟩ := hintended.prepared
      exact ⟨binding, (runWorkspace_runOf mission).trans hbinding, hprepared⟩
  | received held receipt hafter =>
      have hheld := hwell.run_shape held hafter.held
      exact ⟨fun _ => hafter.intended, hheld.prepared⟩
  | counted held unobserved hafter =>
      have hheld := hwell.run_shape held hafter.held
      exact ⟨hheld.received, hheld.prepared⟩
  | resolved held resolution hrun =>
      have hheld := hwell.run_shape held hrun
      exact ⟨hheld.received, hheld.prepared⟩
  | paused => exact ⟨hshape.received, hshape.prepared⟩
  | resumed held pauses hrun =>
      have hheld := hwell.run_shape held hrun
      exact ⟨hheld.received, hheld.prepared⟩
  | pending held proof hrun =>
      have hheld := hwell.run_shape held hrun
      exact ⟨hheld.received, hheld.prepared⟩
  | cancelCompleted held cancel control quiescence completedAt hrun =>
      have hheld := hwell.run_shape held hrun
      exact ⟨hheld.received, hheld.prepared⟩

/-- No write that leaves the state undoes the start of a run. -/
theorem RunStored.started (h : RunStored document missionId mission run)
    (hwell : WellFormed missionId mission)
    (hstate : mission.state = .running ∨ mission.state = .completed) :
    Started run := by
  have hstarted := hwell.runOf_started hstate
  have hopen : mission.state ≠ .authorized := by
    rcases hstate with hstate | hstate <;> simp [hstate]
  cases h with
  | bound _ hbefore => exact absurd hbefore.authorized hopen
  | prepared _ _ hbefore => exact absurd hbefore.authorized hopen
  | refused _ hbefore => exact absurd hbefore.authorized hopen
  | intended _ hbefore => exact absurd hbefore.authorized hopen
  | received _ _ _ hauthorized => exact absurd hauthorized hopen
  | counted _ _ _ hauthorized => exact absurd hauthorized hopen
  | resolved held _ hrun =>
      rw [runOf_of_held hrun] at hstarted
      exact ⟨hstarted.intended, hstarted.bound⟩
  | paused => exact ⟨hstarted.intended, hstarted.bound⟩
  | resumed held _ hrun =>
      rw [runOf_of_held hrun] at hstarted
      exact ⟨hstarted.intended, hstarted.bound⟩
  | pending held _ hrun =>
      rw [runOf_of_held hrun] at hstarted
      exact ⟨hstarted.intended, hstarted.bound⟩
  | cancelCompleted held _ _ _ _ hrun =>
      rw [runOf_of_held hrun] at hstarted
      exact ⟨hstarted.intended, hstarted.bound⟩

/-! ## Moving along the lifecycle -/

theorem RunMoves.shape {target : MissionState} {reason : RunReason}
    (h : RunMoves document missionId mission run target reason)
    (hwell : WellFormed missionId mission) : RunShape run := by
  cases h with
  | observed _ _ _ hrun => exact hwell.run_shape run hrun
  | stopped held receipt _ hafter =>
      have hheld := hwell.run_shape held hafter.held
      exact ⟨fun _ => hafter.intended, hheld.prepared⟩
  | exhausted held _ hafter =>
      have hheld := hwell.run_shape held hafter.held
      exact ⟨hheld.received, hheld.prepared⟩
  | cancelled =>
      have hshape := hwell.runOf_shape
      exact ⟨hshape.received, hshape.prepared⟩
  | verified held _ hrun =>
      have hheld := hwell.run_shape held hrun
      exact ⟨hheld.received, hheld.prepared⟩
  | failed held _ _ hrun =>
      have hheld := hwell.run_shape held hrun
      exact ⟨hheld.received, hheld.prepared⟩

/-- RUNNING and COMPLETED are entered by a started run alone. -/
theorem RunMoves.started {target : MissionState} {reason : RunReason}
    (h : RunMoves document missionId mission run target reason)
    (hwell : WellFormed missionId mission)
    (htarget : target = .running ∨ target = .completed) : Started run := by
  cases h with
  | observed _ taskId _ hrun hbound =>
      refine ⟨(hwell.run_shape run hrun).received ?_, taskId, hbound⟩
      intro hnone
      simp [hnone, boundTask] at hbound
  | stopped => simp at htarget
  | exhausted => simp at htarget
  | cancelled => simp at htarget
  | verified held _ hrun hstate =>
      have hstarted := hwell.runOf_started (.inl hstate)
      rw [runOf_of_held hrun] at hstarted
      exact ⟨hstarted.intended, hstarted.bound⟩
  | failed => simp at htarget

theorem WellFormed.moved_shape {target : MissionState} {reason : RunReason}
    {now : Nat} (hwell : WellFormed missionId mission)
    (h : RunMoves document missionId mission run target reason)
    (hwired : (mission.state, target) ∈ MissionState.runTransitions) : WellFormed missionId
      (movedMission { mission with run := some run } target reason now) where
  keyed := hwell.keyed
  revised := hwell.revised
  numbered := hwell.numbered
  current := hwell.current
  unrun := by simp [movedMission]
  undecided := by simp [movedMission]
  waiting := by simp [movedMission]
  moved := fun events hevents => by
    obtain rfl := Option.some.inj hevents
    refine ⟨_, List.getLast?_concat, rfl, ?_⟩
    simp only [MissionState.runTransitions, List.mem_cons, Prod.mk.injEq,
      List.not_mem_nil, or_false] at hwired
    simp only [movedMission, runStates, List.mem_cons, List.not_mem_nil, or_false]
    rcases hwired with ⟨-, h⟩ | ⟨-, h⟩ | ⟨-, h⟩ | ⟨-, h⟩ | ⟨-, h⟩ | ⟨-, h⟩ <;> simp [h]
  run_shape := fun held hheld => by
    obtain rfl := Option.some.inj hheld
    exact h.shape hwell
  started := fun htarget => ⟨run, rfl, h.started hwell htarget⟩

theorem RunChange.wellFormed (h : RunChange document missionId mission changed)
    (hwell : WellFormed missionId mission) : WellFormed missionId changed := by
  cases h with
  | kept => exact hwell
  | stored run now hstored =>
      exact hwell.setRun (hstored.held hwell) (hstored.shape hwell) (hstored.started hwell) now
  | moved run target reason now hmoves hwired =>
      exact hwell.moved_shape hmoves hwired

/-! ## Deciding, creating, withdrawing and reclaiming -/

theorem NewMission.wellFormed {call : ProposeCall} {clean : Proposal}
    {createdAt : Nat} {entry : RevisionEntry}
    (h : NewMission missionId call clean createdAt entry mission) :
    WellFormed missionId mission := by
  have hnumber := h.revision_eq
  obtain ⟨rfl, -, -, -, -⟩ := h
  exact {
    keyed := rfl
    revised := by simp
    numbered := fun index held hheld => by
      cases index with
      | zero =>
          obtain rfl := Option.some.inj hheld
          exact hnumber
      | succ index => simp at hheld
    current := rfl
    unrun := fun _ => rfl
    undecided := by simp [decisionStates]
    waiting := by simp
    moved := by simp
    run_shape := by simp
    started := by simp }

/-- A decision leaves a Mission without a run, in a state of its own. -/
theorem DecisionEffected.wellFormed
    (h : DecisionEffected env noted mission decision effected changed)
    (hwell : WellFormed missionId mission) (hunrun : mission.run = none)
    (decisions : List DecisionRecord) (now : Nat) :
    WellFormed missionId { changed with
      decisions := decisions, updatedAt := now } := by
  have hlifecycle := hwell.unrun hunrun
  -- every effect but an edit changes the state and the authorizations alone
  have hsettled : ∀ state ids, state ∈ decisionStates →
      WellFormed missionId { mission with
        state := state, authorizationIds := ids,
        decisions := decisions, updatedAt := now } := fun state ids hstate => {
    keyed := hwell.keyed
    revised := hwell.revised
    numbered := hwell.numbered
    current := hwell.current
    unrun := hwell.unrun
    undecided := fun _ => hstate
    waiting := fun hrun => absurd hunrun hrun
    moved := fun events hevents => by simp [hlifecycle] at hevents
    run_shape := hwell.run_shape
    started := by
      rintro (rfl | rfl) <;> simp [decisionStates] at hstate }
  cases h with
  | approved => exact hsettled _ _ (by simp [decisionStates])
  | denied => exact hsettled _ _ (by simp [decisionStates])
  | settled entry target hkind =>
      refine hsettled _ _ ?_
      rcases hkind with ⟨-, rfl⟩ | ⟨-, rfl⟩ <;> simp [decisionStates]
  | edited entry _ invalidated hkind hrevoked hrevision =>
      exact {
        keyed := hwell.keyed
        revised := by simp
        numbered := fun index held hheld => by
          rw [List.getElem?_append] at hheld
          split at hheld
          · exact hwell.numbered index held hheld
          · have hcurrent := hwell.current
            obtain ⟨hindex, rfl⟩ := List.getElem?_eq_some_iff.mp hheld
            simp only [List.length_singleton] at hindex
            simp only [List.getElem_singleton]
            omega
        current := by simp [hwell.current]
        unrun := hwell.unrun
        undecided := by simp [decisionStates]
        waiting := fun hrun => absurd hunrun hrun
        moved := fun events hevents => by simp [hlifecycle] at hevents
        run_shape := hwell.run_shape
        started := by simp }

omit [JsonDigest] in
theorem WellFormed.reclaimed (hwell : WellFormed missionId mission)
    (hrun : mission.run = some run) (reclaimedAt : Nat) (outcome : ReclaimOutcome) :
    WellFormed missionId { mission with
      run := some (reclaimedRun run reclaimedAt outcome) } where
  keyed := hwell.keyed
  revised := hwell.revised
  numbered := hwell.numbered
  current := hwell.current
  unrun := by simp
  undecided := hwell.undecided
  waiting := fun _ => hwell.waiting (by simp [hrun])
  moved := hwell.moved
  run_shape := fun held hheld => by
    obtain rfl := Option.some.inj hheld
    have hshape := hwell.run_shape run hrun
    exact ⟨hshape.received, hshape.prepared⟩
  started := fun hstate => by
    obtain ⟨held, hheld, hstarted⟩ := hwell.started hstate
    obtain rfl := Option.some.inj (hrun.symm.trans hheld)
    exact ⟨_, rfl, hstarted.intended, hstarted.bound⟩

omit [JsonDigest] in
theorem WellFormed.withdrawn (hwell : WellFormed missionId mission)
    (withdrawal : Withdrawal) (now : Nat) :
    WellFormed missionId { mission with
      withdrawal := some withdrawal, updatedAt := now } :=
  { hwell with }

theorem MissionChange.wellFormed (h : MissionChange document missionId mission changed)
    (hwell : WellFormed missionId mission) : WellFormed missionId changed := by
  cases h with
  | withdrawn withdrawal now => exact hwell.withdrawn withdrawal now
  | decided env noted effected moved decision _ hunrun _ heffected =>
      exact heffected.wellFormed hwell hunrun _ _
  | ran _ hchange => exact hchange.wellFormed hwell
  | reclaimed run reclaimedAt outcome hrun =>
      exact hwell.reclaimed hrun reclaimedAt outcome

/-! ## Reachable documents -/

variable [ReconciliationPlanner]

theorem Change.allWellFormed (h : Change document next)
    (hwell : AllWellFormed document) : AllWellFormed next := by
  intro missionId mission hheld
  rcases h.mission_of_next hheld with hold | hwritten
  · exact hwell missionId mission hold
  · cases hwritten with
    | created _ _ _ _ _ _ hnew => exact hnew.wellFormed
    | changed before _ hbefore hchange =>
        exact hchange.wellFormed (hwell missionId before hbefore)

omit [JsonDigest] [ReconciliationPlanner] in
theorem AllWellFormed.allNumbered (h : AllWellFormed document) : AllNumbered document :=
  fun missionId mission hheld => (h missionId mission hheld).toNumbered

/-- The induction over the runs of the system: what the empty document has and
every change of a well-formed one keeps holds of every reachable document. -/
theorem Reachable.invariant {p : Document → Prop} (hinit : p defaultDocument)
    (hchange : ∀ document next, AllWellFormed document → p document →
      Change document next → p next) (h : Reachable document) :
    AllWellFormed document ∧ p document := by
  have hchain : ∀ first last : Document, AllWellFormed first ∧ p first →
      ReflTransGen Change first last → AllWellFormed last ∧ p last := by
    intro first last hfirst hlast
    induction hlast with
    | refl => exact hfirst
    | tail _ hlast ih =>
        exact ⟨hlast.allWellFormed ih.1, hchange _ _ ih.1 ih.2 hlast⟩
  refine Transition.Reachable.invariant (p := fun document =>
    AllWellFormed document ∧ p document) ⟨?_, hinit⟩ ?_ h
  · intro missionId mission hheld
    simp [defaultDocument] at hheld
  · rintro document next hdocument ⟨env, call, hcall⟩
    exact hchain document next hdocument (perform_left hdocument.1.allNumbered hcall).changes

theorem Reachable.allWellFormed (h : Reachable document) : AllWellFormed document :=
  (h.invariant (p := fun _ => True) trivial fun _ _ _ _ _ => trivial).1

theorem Reachable.wellFormed (h : Reachable document)
    (hheld : document.missions.get? missionId = some mission) : WellFormed missionId mission :=
  h.allWellFormed missionId mission hheld

/-- A step from a reachable document is one change at most, or a sweep. -/
theorem Reachable.left (h : Reachable document) (hstep : Step document next) :
    Left document next := by
  obtain ⟨env, call, hcall⟩ := hstep
  exact perform_left h.allWellFormed.allNumbered hcall

/-- A preorder that every change respects, wherever an invariant of the changes
holds, relates a reachable document to every later one. -/
theorem Reachable.related {p : Document → Prop}
    {r : Document → Document → Prop} (hinit : p defaultDocument)
    (hkept : ∀ document next, AllWellFormed document → p document → Change document next → p next)
    (hrefl : ∀ document, r document document)
    (htrans : ∀ first second third, r first second → r second third → r first third)
    (hchange : ∀ document next, AllWellFormed document → p document →
      Change document next → r document next)
    (h : Reachable document) {later : Document} (hrun : Runs document later) :
    r document later := by
  have hchain : ∀ first last : Document, AllWellFormed first → p first →
      ReflTransGen Change first last →
        (AllWellFormed last ∧ p last) ∧ r first last := by
    intro first last hfirst hholds hlast
    induction hlast with
    | refl => exact ⟨⟨hfirst, hholds⟩, hrefl first⟩
    | tail _ hlast ih =>
        obtain ⟨⟨hwell, hmiddle⟩, hrelated⟩ := ih
        exact ⟨⟨hlast.allWellFormed hwell, hkept _ _ hwell hmiddle hlast⟩,
          htrans _ _ _ hrelated (hchange _ _ hwell hmiddle hlast)⟩
  exact Transition.Reachable.related hrefl htrans
    (fun _ _ hreached hstep => by
      obtain ⟨hwell, hholds⟩ := Reachable.invariant hinit hkept hreached
      exact (hchain _ _ hwell hholds (Reachable.left hreached hstep).changes).2) h hrun

end DodgingInfinity.MissionCore
