import DodgingInfinity.MissionCore.Runs
import DodgingInfinity.MissionCore.Shape

/-!
# The workspace lease

A path belongs to at most one Mission for good: a binding is refused where any
other Mission holds the path, is never replaced, and is what an intent names.
-/

namespace DodgingInfinity.MissionCore

open Checked Relation

/-- The Mission holds the path, by its binding or by its recorded intent. -/
def Leases (mission : Mission) (path : String) : Prop :=
  (∃ binding, mission.runWorkspace = some binding ∧ binding.bound.pathRealpath = path) ∨
  (∃ intent, mission.runIntent = some intent ∧ intent.workspaceRealpath = path)

/-- No two distinct Missions hold one path. -/
def Exclusive (document : Document) : Prop :=
  ∀ first second mission other path, document.missions.get? first = some mission →
    document.missions.get? second = some other →
    Leases mission path → Leases other path → first = second

/-- The binding as it is later: the same workspace, prepared at most. -/
structure SameBinding (binding later : WorkspaceBinding) : Prop where
  bound : later.bound = binding.bound
  recordedAt : later.recordedAt = binding.recordedAt
  state : later.state = binding.state ∨ later.state = .prepared

/-- Every binding of the document stands in the later one. -/
def BindingsStand (document later : Document) : Prop :=
  ∀ missionId mission binding, document.missions.get? missionId = some mission →
    mission.runWorkspace = some binding →
    ∃ changed held, later.missions.get? missionId = some changed ∧
      changed.runWorkspace = some held ∧ SameBinding binding held

theorem SameBinding.refl (binding : WorkspaceBinding) : SameBinding binding binding :=
  ⟨rfl, rfl, .inl rfl⟩

theorem SameBinding.trans {first second third : WorkspaceBinding}
    (hfirst : SameBinding first second) (hsecond : SameBinding second third) :
    SameBinding first third where
  bound := hsecond.bound.trans hfirst.bound
  recordedAt := hsecond.recordedAt.trans hfirst.recordedAt
  state := by
    rcases hsecond.state with hsame | hprepared
    · rw [hsame]
      exact hfirst.state
    · exact .inr hprepared

theorem BindingsStand.refl (document : Document) : BindingsStand document document :=
  fun _ mission binding hheld hbinding =>
    ⟨mission, binding, hheld, hbinding, .refl binding⟩

theorem BindingsStand.trans {first second third : Document} (hfirst : BindingsStand first second)
    (hsecond : BindingsStand second third) : BindingsStand first third := by
  intro missionId mission binding hheld hbinding
  obtain ⟨changed, held, hchanged, hsame, hfirst⟩ :=
    hfirst missionId mission binding hheld hbinding
  obtain ⟨last, kept, hlast, hkept, hsecond⟩ :=
    hsecond missionId changed held hchanged hsame
  exact ⟨last, kept, hlast, hkept, hfirst.trans hsecond⟩

variable {document next : Document} {missionId path : String}
  {mission changed : Mission} {run : Run}

theorem holdsWorkspace_eq_true :
    holdsWorkspace mission path = true ↔ Leases mission path := by
  simp [holdsWorkspace, Leases]

/-- An intent names the path and the baseline of the prepared binding. -/
theorem WellFormed.intent_prepared (h : WellFormed missionId mission)
    {intent : RunIntent} (hintent : mission.runIntent = some intent) :
    ∃ binding, mission.runWorkspace = some binding ∧ binding.state = .prepared ∧
      binding.bound.pathRealpath = intent.workspaceRealpath ∧
      binding.bound.baselineCommitSha = intent.observedBaselineCommitSha := by
  obtain ⟨run, hrun, hheld⟩ := Option.bind_eq_some_iff.mp hintent
  obtain ⟨binding, hbinding, hprepared⟩ :=
    (h.run_shape run hrun).prepared intent hheld
  exact ⟨binding, by simp [Mission.runWorkspace, hrun, hbinding], hprepared⟩

/-- A Mission holds the path of its binding and no other. -/
theorem leases_iff_of_shape (hwell : WellFormed missionId mission) :
    Leases mission path ↔ ∃ binding, mission.runWorkspace = some binding ∧
      binding.bound.pathRealpath = path := by
  constructor
  · rintro (hbinding | ⟨intent, hintent, rfl⟩)
    · exact hbinding
    · obtain ⟨binding, hbinding, -, hpath, -⟩ := hwell.intent_prepared hintent
      exact ⟨binding, hbinding, hpath⟩
  · exact .inl

variable [JsonDigest]

/-! ## What one change does to a binding -/

/-- The workspace a stored run carries is the one before it, prepared at most,
or a new one on a path no other Mission holds. -/
theorem RunStored.workspace (h : RunStored document missionId mission run) :
    (∃ binding, run.workspace = some binding ∧ mission.runWorkspace = none ∧
      Unheld document missionId binding.bound.pathRealpath) ∨
    (run.workspace = none ∧ mission.runWorkspace = none) ∨
    ∃ binding held, mission.runWorkspace = some binding ∧
      run.workspace = some held ∧ SameBinding binding held := by
  have hkept : run.workspace = mission.runWorkspace → (∃ binding, run.workspace = some binding ∧
        mission.runWorkspace = none ∧ Unheld document missionId binding.bound.pathRealpath) ∨
      (run.workspace = none ∧ mission.runWorkspace = none) ∨
      ∃ binding held, mission.runWorkspace = some binding ∧
        run.workspace = some held ∧ SameBinding binding held := by
    intro hsame
    cases hworkspace : mission.runWorkspace with
    | none => exact .inr (.inl ⟨hsame.trans hworkspace, rfl⟩)
    | some binding =>
        exact .inr (.inr ⟨binding, binding, rfl, hsame.trans hworkspace, .refl binding⟩)
  have hrunOf := runWorkspace_runOf mission
  have hheldRun : ∀ held, mission.run = some held →
      held.workspace = mission.runWorkspace := by
    intro held hheld
    simp [Mission.runWorkspace, hheld]
  cases h with
  | bound binding _ hunheld hnone => exact .inl ⟨binding, rfl, hnone, hunheld⟩
  | prepared binding _ _ hheld =>
      exact .inr (.inr ⟨binding, _, hheld, rfl, rfl, rfl, .inr rfl⟩)
  | refused => exact hkept hrunOf
  | intended => exact hkept hrunOf
  | received held _ hafter => exact hkept (hheldRun held hafter.held)
  | counted held _ hafter => exact hkept (hheldRun held hafter.held)
  | resolved held _ hrun => exact hkept (hheldRun held hrun)
  | paused => exact hkept hrunOf
  | resumed held _ hrun => exact hkept (hheldRun held hrun)
  | pending held _ hrun => exact hkept (hheldRun held hrun)
  | cancelCompleted held _ _ _ _ hrun => exact hkept (hheldRun held hrun)

/-- No transition touches the workspace. -/
theorem RunMoves.workspace {target : MissionState} {reason : RunReason}
    (h : RunMoves document missionId mission run target reason) :
    run.workspace = mission.runWorkspace := by
  have hheldRun : ∀ held, mission.run = some held →
      held.workspace = mission.runWorkspace := by
    intro held hheld
    simp [Mission.runWorkspace, hheld]
  cases h with
  | observed _ _ _ hrun => exact hheldRun run hrun
  | stopped held _ _ hafter => exact hheldRun held hafter.held
  | exhausted held _ hafter => exact hheldRun held hafter.held
  | cancelled => exact runWorkspace_runOf mission
  | verified held _ hrun => exact hheldRun held hrun
  | failed held _ _ hrun => exact hheldRun held hrun

omit [JsonDigest] in
theorem runWorkspace_of_unrun (h : mission.run = none) :
    mission.runWorkspace = none := by
  simp [Mission.runWorkspace, h]

/-- No decision touches the run. -/
theorem DecisionEffected.run_eq {env : Env} {noted effected : Document}
    {decision : DecisionRecord} (h : DecisionEffected env noted mission decision effected changed) :
    changed.run = mission.run := by
  cases h <;> rfl

/-- The workspace of a changed Mission is the one before it, prepared at most,
or a new one on a path no other Mission holds. -/
theorem MissionChange.workspace (h : MissionChange document missionId mission changed) :
    (∃ binding, changed.runWorkspace = some binding ∧ mission.runWorkspace = none ∧
      Unheld document missionId binding.bound.pathRealpath) ∨
    (changed.runWorkspace = none ∧ mission.runWorkspace = none) ∨
    ∃ binding held, mission.runWorkspace = some binding ∧
      changed.runWorkspace = some held ∧ SameBinding binding held := by
  have hkept : changed.runWorkspace = mission.runWorkspace →
      (changed.runWorkspace = none ∧ mission.runWorkspace = none) ∨
      ∃ binding held, mission.runWorkspace = some binding ∧
        changed.runWorkspace = some held ∧ SameBinding binding held := by
    intro hsame
    cases hworkspace : mission.runWorkspace with
    | none => exact .inl ⟨hsame.trans hworkspace, rfl⟩
    | some binding =>
        exact .inr ⟨binding, binding, rfl, hsame.trans hworkspace, .refl binding⟩
  cases h with
  | withdrawn => exact .inr (hkept rfl)
  | decided env noted effected moved decision _ hunrun _ heffected =>
      have hrun : moved.run = none := heffected.run_eq.trans hunrun
      exact .inr (.inl ⟨runWorkspace_of_unrun hrun, runWorkspace_of_unrun hunrun⟩)
  | ran _ hchange =>
      cases hchange with
      | kept => exact .inr (hkept rfl)
      | stored run now hstored => exact hstored.workspace
      | moved run target reason now hmoves =>
          exact .inr (hkept hmoves.workspace)
  | reclaimed run reclaimedAt outcome hrun =>
      exact .inr (hkept (by
        simp [Mission.runWorkspace, hrun, reclaimedRun]))

/-! ## Runs -/

variable [ReconciliationPlanner]

theorem Change.bindingsStand (h : Change document next) :
    BindingsStand document next := by
  intro missionId mission binding hheld hbinding
  obtain ⟨changed, hchanged, hcases⟩ := h.mission_of_held hheld
  rcases hcases with rfl | hchange
  · exact ⟨changed, binding, hchanged, hbinding, .refl binding⟩
  · rcases hchange.workspace with ⟨_, -, hnone, -⟩ | ⟨-, hnone⟩ |
      ⟨before, held, hbefore, hafter, hsame⟩
    · simp [hbinding] at hnone
    · simp [hbinding] at hnone
    · obtain rfl := Option.some.inj (hbinding.symm.trans hbefore)
      exact ⟨changed, held, hchanged, hafter, hsame⟩

omit [ReconciliationPlanner] in
/-- A path the written Mission holds it held before, or no other Mission did. -/
theorem MissionWritten.lease (h : MissionWritten document missionId changed)
    (hshape : WellFormed missionId changed) (hleases : Leases changed path) :
    (∃ mission, document.missions.get? missionId = some mission ∧
      Leases mission path) ∨ Unheld document missionId path := by
  obtain ⟨binding, hbinding, rfl⟩ := (leases_iff_of_shape hshape).mp hleases
  cases h with
  | created _ _ _ _ _ _ hnew =>
      have hunrun : changed.run = none := by rw [hnew.record]
      rw [runWorkspace_of_unrun hunrun] at hbinding
      cases hbinding
  | changed mission _ hbefore hchange =>
      rcases hchange.workspace with ⟨bound, hbound, -, hunheld⟩ |
        ⟨hnone, -⟩ | ⟨before, held, hheldBefore, hafter, hsame⟩
      · obtain rfl := Option.some.inj (hbinding.symm.trans hbound)
        exact .inr hunheld
      · rw [hnone] at hbinding
        cases hbinding
      · obtain rfl := Option.some.inj (hbinding.symm.trans hafter)
        exact .inl ⟨mission, hbefore, .inl ⟨before, hheldBefore,
          by rw [hsame.bound]⟩⟩

theorem Change.exclusive (h : Change document next)
    (hwell : AllWellFormed document) (hexclusive : Exclusive document) :
    Exclusive next := by
  have hnext := h.allWellFormed hwell
  rcases h.missions_eq with hsame | ⟨written, stored, hset, hwritten⟩
  · intro first second mission other path hfirst hsecond
    exact hexclusive first second mission other path (hsame ▸ hfirst) (hsame ▸ hsecond)
  · have hstored : next.missions.get? written = some stored := by
      rw [hset, Dict.get?_set_self]
    have hother : ∀ missionId mission,
        next.missions.get? missionId = some mission → missionId ≠ written →
          document.missions.get? missionId = some mission := by
      intro missionId mission hheld hne
      rwa [hset, Dict.get?_set_of_ne _ _ hne] at hheld
    -- no Mission beside the written one holds a path of the written one
    have hclash : ∀ missionId mission path,
        next.missions.get? missionId = some mission → missionId ≠ written →
          Leases stored path → ¬ Leases mission path := by
      intro missionId mission path hheld hne hleases hclaimed
      have hbefore := hother missionId mission hheld hne
      rcases hwritten.lease (hnext written stored hstored) hleases with
        ⟨old, hold, hheldBefore⟩ | hunheld
      · exact hne (hexclusive missionId written mission old path hbefore hold hclaimed hheldBefore)
      · have hfree := hunheld missionId mission hbefore hne
        rw [holdsWorkspace_eq_true.mpr hclaimed] at hfree
        cases hfree
    intro first second mission other path hfirst hsecond hleases hclaimed
    by_cases hone : first = written
    · subst hone
      obtain rfl := Option.some.inj (hstored.symm.trans hfirst)
      by_contra hne
      exact hclash second other path hsecond (Ne.symm hne) hleases hclaimed
    · by_cases htwo : second = written
      · subst htwo
        obtain rfl := Option.some.inj (hstored.symm.trans hsecond)
        exact absurd hleases (hclash first mission path hfirst hone hclaimed)
      · exact hexclusive first second mission other path (hother first mission hfirst hone)
          (hother second other hsecond htwo) hleases hclaimed

theorem Reachable.exclusive (h : Reachable document) : Exclusive document :=
  (h.invariant (p := Exclusive) (fun _ _ _ _ _ hfirst => by
    simp [defaultDocument] at hfirst)
    fun _ _ hwell hexclusive hchange => hchange.exclusive hwell hexclusive).2

theorem Reachable.bindingsStand {later : Document} (h : Reachable document)
    (hrun : Runs document later) : BindingsStand document later :=
  h.related (p := fun _ => True) trivial (fun _ _ _ _ _ => trivial)
    BindingsStand.refl (fun _ _ _ => BindingsStand.trans)
    (fun _ _ _ _ hchange => hchange.bindingsStand) hrun

/-- In every reachable document no two Missions hold one path, every binding
stands in every later document, and every intent names exactly what was
prepared for it. -/
theorem workspace_lease_exclusive (document : Document) (h : Reachable document) :
    (∀ first second mission other path, document.missions.get? first = some mission →
      document.missions.get? second = some other →
      Leases mission path → Leases other path → first = second) ∧
    (∀ later, Runs document later → BindingsStand document later) ∧ ∀ missionId mission intent,
      document.missions.get? missionId = some mission → mission.runIntent = some intent →
      ∃ binding, mission.runWorkspace = some binding ∧ binding.state = .prepared ∧
        binding.bound.pathRealpath = intent.workspaceRealpath ∧
        binding.bound.baselineCommitSha = intent.observedBaselineCommitSha :=
  ⟨h.exclusive, fun _ hrun => h.bindingsStand hrun,
    fun _ _ _ hheld hintent => (h.wellFormed hheld).intent_prepared hintent⟩

omit [JsonDigest] [ReconciliationPlanner] in
theorem workspace_lease_exclusive_sample :
    BindingsStand sampleMidway sampleRun := by
  obtain ⟨-, hstand, -⟩ := @workspace_lease_exclusive sampleRunDigest
    samplePlanner sampleMidway sampleMidway_reachable
  exact hstand sampleRun sampleMidway_runs

end DodgingInfinity.MissionCore
