import DodgingInfinity.PrDelivery.ConductSteps

/-!
# What pushing and opening the pull request keep
-/

namespace DodgingInfinity.PrDelivery

open Procedure

variable [JsonDigest] {sound : Exchange → Prop} {authority : Authority}
  {phase : Phase}

/-! ## Base advances after the commit -/

theorem conducts_handlePostCommitAdvance [FramedDigest] (commit : Oid) :
    Conducts sound authority (Working authority phase)
      (handlePostCommitAdvance commit) (fun _ => Working authority phase)
      (Falls authority phase) := by
  refine reads_read.quiet.next ready_working fun record =>
    reads_remoteBase.quiet.next ready_working fun newBase =>
      triple_ite _ (fun _ => triple_pure _ fun _ _ h => h) fun _ => ?_
  refine (reads_proveDisjointAdvance _ _).afterCommit.quiet.next ready_working
    fun _ => (quiet_ask rfl).next ready_working fun (raw : RawDiff) =>
    (reads_parsed raw.entries).quiet.next ready_working fun entries =>
    (reads_requireCandidateMatches entries).quiet.next ready_working fun _ =>
    (quiet_baseCi newBase).next ready_working fun _ =>
    quiet_clock.next ready_working fun now => Triple.bind (conducts_change
      (Working authority phase) fun record site h => h.congr rfl rfl rfl)
        fun _ => conducts_saved ready_working

/-! ## Push -/

variable {mode : Mode}

omit [JsonDigest] in
theorem phase_of_push (h : stepForPhase mode phase = some .push) :
    phase = .committed := by
  cases mode <;> cases phase <;> simp_all [stepForPhase]

/-- What the destination holds is the approved head, for a `prUpdate`. -/
def ApprovedOld (authority : Authority) (expected : Oid) : Prop :=
  authority.kind.mode = .prUpdate → expected = authority.originalBaseline.commitSha

theorem conducts_pushOldOid [FramedDigest] (commit : Oid) :
    Conducts sound authority (Working authority phase) (pushOldOid commit)
      (fun _ => Working authority phase) (Falls authority phase) := by
  refine reads_read.quiet.next ready_working fun record =>
    Triple.bind (conducts_handlePostCommitAdvance commit) fun _ =>
    (quiet_ask rfl).next ready_working fun (held : Option Oid) => ?_
  cases held with
  | none => exact triple_pure _ fun _ _ h => h
  | some oid =>
      refine triple_ite _ (fun _ => triple_pure _ fun _ _ h => h) fun _ => ?_
      exact (quiet_ask rfl).next ready_working fun (ancestor : Bool) =>
        (reads_blockIf _ _).quiet.next ready_working fun _ =>
          triple_pure _ fun _ _ h => h

theorem conducts_expectedRemoteOld [FramedDigest] (commit : Oid) :
    Conducts sound authority (Working authority phase) (expectedRemoteOld commit)
      (fun expected record site => Working authority phase record site ∧
        ApprovedOld authority expected) (Falls authority phase) := by
  refine reads_read.next ready_working fun record => ?_
  refine triple_of (p := record.authority = authority)
    (fun _ _ h => h.2 ▸ h.1.authority) fun hauthority => ?_
  refine triple_ite _ (fun hmode => ?_) fun hmode => ?_
  · exact ((reads_prUpdatePushOldOid commit).conducts
      (steady_working authority phase) (fun _ _ h => h)).weaken
        (fun _ _ h => h.1) |>.mono (fun _ _ _ h => ⟨h.1, fun _ =>
          h.1.authority ▸ h.2⟩) fun _ _ _ h => h
  · refine ((conducts_pushOldOid commit).weaken fun _ _ h => h.1).mono
      (fun _ _ _ h => ⟨h, fun hupdate => absurd ?_ hmode⟩) fun _ _ _ h => h
    rw [Record.mode, hauthority, hupdate]

/-- A push is recorded once the destination was read to hold the commit. -/
theorem conducts_succeedPush {p : Record → Site → Prop}
    (hphase : stepForPhase mode phase = some .push) {binding : PushBinding}
    (hp : ∀ record site, p record site → Working authority phase record site)
    (hbound : ∀ record site, p record site →
      Bound record.steps .push (.push binding)) (observed : Observed) :
    Conducts sound authority p (succeed .push observed .pushed)
      (fun _ => WorkingSome authority) (Falls authority phase) := by
  refine (conducts_proven hp fun record site h _ => ?_).mono
    (fun _ _ _ h => ⟨_, h⟩) fun _ _ _ h => h
  obtain ⟨receipt, hreceipt, hbinding, -⟩ :=
    succeeded_receipt (hbound record site h) observed .pushed
  have hbefore := (hp record site h).earned
  have hcommitted : record.phase ∈ committedPhases := by
    rw [(hp record site h).phase, phase_of_push hphase]
    simp [committedPhases]
  refine ⟨fun _ => ?_, fun _ => ⟨receipt, binding, hreceipt, hbinding⟩, ?_⟩
  · obtain ⟨commit, held, hheld⟩ := hbefore.committed hcommitted
    exact ⟨commit, held, hheld.congr rfl rfl fun _ hin => hin⟩
  · intro hcomplete
    cases hcomplete

theorem conducts_observePush (binding : PushBinding)
    (hphase : stepForPhase mode phase = some .push) : Conducts sound authority
      (fun record site => Working authority phase record site ∧
        Bound record.steps .push (.push binding))
      (observePush binding) (fun _ => WorkingSome authority)
      (Falls authority phase) := by
  have hready : Ready authority phase _ := ready_working.and (steady_bound .push (.push binding))
  exact (quiet_ask rfl).next hready fun (remoteOid : Option Oid) =>
    (reads_blockIf _ _).quiet.next hready fun _ =>
      conducts_succeedPush hphase (fun _ _ h => h.1) (fun _ _ h => h.2) _

theorem conducts_reconcilePush {receipt : Receipt}
    (hphase : stepForPhase mode phase = some .push) {binding : PushBinding}
    (hbinding : receipt.binding = .push binding) : Conducts sound authority
      (fun record site => Working authority phase record site ∧ Left record.steps .push receipt)
      (reconcilePush binding) (Settled authority phase)
      (Falls authority phase) := by
  have hready : Ready authority phase _ := ready_working.and
    (steady_record fun record => Left record.steps .push receipt)
  have hstep := settable_of_step hphase
  refine (quiet_ask rfl).next hready fun (remoteOid : Option Oid) =>
    triple_ite _ (fun _ => ?_) fun _ => (reads_blockIf _ _).quiet.next hready
      fun _ => conducts_voidLeft (fun _ _ h => h.1) hstep
  refine Triple.bind (conducts_change (fun record site =>
    Working authority phase record site ∧
      Bound record.steps .push (.push binding)) fun record site h =>
        ⟨Holding.reopened ⟨h.1, rfl⟩ hstep (goesOn_of_step hphase) h.2,
          h.2.bound_reopened hbinding⟩) fun _ =>
    Triple.bind (conducts_succeedPush hphase (fun _ _ h => h.1)
      (fun _ _ h => h.2) _) fun _ => triple_pure _ fun _ _ h => h.settled

/-- The push is asked for under its receipt, unless the destination already
holds the commit. -/
theorem conducts_performPush (binding : PushBinding)
    (hphase : stepForPhase mode phase = some .push) (ref : String) (commit : Oid) :
    Conducts sound authority (fun record site => Working authority phase record site ∧
        Started authority record.steps .push (.push binding) ∧ WriteAhead site .push)
      (if binding.expectedRemoteOldOid = commit then
        succeed .push (.pushed true commit) .pushed
      else do
        let _pushed : Unit ← orRetry (ask (.push ref ref))
        observePush binding)
      (fun _ => WorkingSome authority) (Falls authority phase) := by
  have hahead : Ready authority phase _ := ready_working.and
    ((steady_bound .push (.push binding)).and (steady_writeAhead .push))
  refine triple_ite _ (fun _ => conducts_succeedPush hphase (fun _ _ h => h.1)
    (fun _ _ h => h.2.1.bound) _) fun _ => ?_
  refine Triple.bind ((conducts_effectOrRetry hahead ?_).weaken
    fun _ _ h => ⟨h.1, h.2.1.bound, h.2.2⟩) fun _ =>
      (conducts_observePush binding hphase).weaken fun _ _ h => ⟨h.1, h.2.1⟩
  rintro record site h step hstep
  cases hstep
  exact .inl h.2.2

theorem conducts_derivePush [FramedDigest]
    (hphase : stepForPhase mode phase = some .push) (commit : Oid) :
    Conducts sound authority (Working authority phase) (derivePush commit)
      (fun _ => WorkingSome authority) (Falls authority phase) := by
  refine reads_read.quiet.next ready_working fun record =>
    (quiet_ask rfl).next ready_working fun _ =>
    (reads_blockIf _ _).quiet.next ready_working fun _ =>
    Triple.bind (conducts_expectedRemoteOld commit) fun expected =>
    triple_of (fun _ _ h => h.2) fun happroved => ?_
  refine Triple.bind ((conducts_start ?_).weaken fun _ _ h => h.1) fun _ =>
    conducts_performPush _ hphase _ _
  rintro hmode push hpush
  cases hpush
  exact happroved hmode

theorem conducts_stepPush [FramedDigest] (hphase : stepForPhase mode phase = some .push) :
    Conducts sound authority (Working authority phase) stepPush
      (fun _ => WorkingSome authority) (Falls authority phase) := by
  refine (quiet_checkRepository _).next ready_working fun _ =>
    reads_commitOid.quiet.next ready_working fun commit =>
    (reads_leftReceipt _).next ready_working fun left => ?_
  cases left with
  | none => exact (conducts_derivePush hphase commit).weaken fun _ _ h => h.1
  | some receipt =>
      dsimp only
      split
      · rename_i binding hbinding
        exact conducts_settled ((conducts_reconcilePush hphase hbinding).weaken
          fun _ _ h => ⟨h.1, left_of_filter h.2⟩)
          (conducts_derivePush hphase commit)
      · exact triple_stop _ fun _ _ h => h.1.falls

/-! ## Pull request -/

theorem conducts_recordPullRequest {p : Record → Site → Prop} (view : PrView)
    (hp : Ready authority phase p) (hcongr : ∀ record site pullRequest, p record site →
      p { record with pullRequest := pullRequest } site) :
    Conducts sound authority p (recordPullRequest view) (fun _ => p)
      (Falls authority phase) := by
  refine reads_read.quiet.next hp fun record => ?_
  split
  · exact conducts_stop hp _ _
  · split
    · exact triple_ite _ (fun _ => conducts_stop hp _ _) fun _ => conducts_stop hp _ _
    · exact (reads_blockIf _ _).quiet.next hp fun _ =>
        triple_change _ fun record site h => hcongr record site _ h

omit [JsonDigest] in
theorem phase_of_prCreate
    (h : stepForPhase mode phase = some .prCreate) : phase = .pushed := by
  cases mode <;> cases phase <;> simp_all [stepForPhase]

omit [JsonDigest] in
/-- What a pushed phase was earned by is enough for one that opened a pull
request. -/
theorem Earned.opened {record other : Record} {site : Site}
    (h : Earned record site) (hphase : record.phase ∈ pushedPhases)
    (hauthority : other.authority = record.authority)
    (hcommit : other.steps.commit.receipt = record.steps.commit.receipt)
    (hpush : other.steps.push.receipt = record.steps.push.receipt)
    (hviewed : other.phase = .complete → other.mode ≠ .prUpdate) :
    Earned other site := by
  have hcommitted : record.phase ∈ committedPhases :=
    List.mem_cons_of_mem _ hphase
  refine ⟨fun _ => ?_, fun _ => ?_, fun hcomplete hmode =>
    absurd hmode (hviewed hcomplete)⟩
  · obtain ⟨commit, binding, hheld⟩ := h.committed hcommitted
    exact ⟨commit, binding, hheld.congr hauthority hcommit fun _ hin => hin⟩
  · obtain ⟨receipt, binding, hreceipt, hbinding⟩ := h.pushed hphase
    exact ⟨receipt, binding, hpush.trans hreceipt, hbinding⟩

theorem Working.opened {record : Record} {site : Site}
    (h : Working authority .prOpened record site) :
    Leaving authority .prOpened .complete record site := by
  refine ⟨h.sound, h.authority, h.phase, fun hallowed => ⟨h.sound, h.authority,
    rfl, ?_, h.permitted, Aligned.terminal (by simp [terminalPhases])⟩⟩
  refine h.earned.opened (by simp [h.phase, pushedPhases]) rfl rfl rfl
    fun _ hmode => ?_
  rw [h.phase, show record.mode = .prUpdate from hmode] at hallowed
  simp [allowedTransitionsByMode, prUpdateAllowedTransitions] at hallowed

/-- An exact pull request is recorded, and the delivery is complete. -/
theorem conducts_adoptPr
    (hphase : stepForPhase mode phase = some .prCreate) (item : PrView) (reconciled : Bool) :
    Conducts sound authority (Working authority phase)
      (adoptPr item reconciled) (fun _ => WorkingSome authority)
      (Falls authority phase) := by
  unfold adoptPr
  split
  · exact conducts_stop ready_working _ _
  refine (quiet_ask rfl).next ready_working fun (viewed : Option PrView) =>
    reads_read.quiet.next ready_working fun record => ?_
  split
  · refine (reads_blockIf _ _).quiet.next ready_working fun _ => Triple.bind
      (conducts_recordPullRequest _ ready_working fun _ _ _ h =>
        h.congr rfl rfl rfl) fun _ =>
      reads_read.quiet.next ready_working fun record => ?_
    split
    · exact conducts_stop ready_working _ _
    · refine Triple.bind (conducts_proven (fun _ _ h => h) fun record site h _ => ?_) fun _ => ?_
      · have hpushed : record.phase ∈ pushedPhases := by
          rw [h.phase, phase_of_prCreate hphase]
          simp [pushedPhases]
        exact h.earned.opened hpushed rfl rfl rfl fun hcomplete =>
          (by cases hcomplete)
      · exact ((Triple.bind (conducts_transition .complete) fun _ =>
          conducts_persist.weaken fun _ _ h => h.1).weaken
            fun _ _ h => h.opened).mono (fun _ _ _ h => ⟨_, h⟩) fun _ _ _ => Breaks.falls
  · exact conducts_stop ready_working _ _

theorem conducts_reconcilePrCreate {receipt : Receipt}
    (hphase : stepForPhase mode phase = some .prCreate) (binding : PrCreateBinding) :
    Conducts sound authority
      (fun record site => Working authority phase record site ∧ Left record.steps .prCreate receipt)
      (reconcilePrCreate binding) (Settled authority phase)
      (Falls authority phase) := by
  have hready : Ready authority phase _ := ready_working.and
    (steady_record fun record => Left record.steps .prCreate receipt)
  have hstep := settable_of_step hphase
  refine (quiet_prDisposition _).next hready fun existing => ?_
  cases existing with
  | none => exact conducts_voidLeft (fun _ _ h => h.1) hstep
  | some view =>
      exact Triple.bind (conducts_change
        (Working authority phase) fun record site h => Holding.reopened
          ⟨h.1, rfl⟩ hstep (goesOn_of_step hphase) h.2) fun _ =>
        Triple.bind (conducts_adoptPr hphase view true) fun _ =>
          triple_pure _ fun _ _ h => h.settled

theorem conducts_createPr
    (hphase : stepForPhase mode phase = some .prCreate) (headSha : Oid) : Conducts sound authority
      (fun record site => Working authority phase record site ∧ WriteAhead site .prCreate)
      (createPr headSha) (fun _ => WorkingSome authority)
      (Falls authority phase) := by
  have hahead : Ready authority phase _ := ready_working.and (steady_writeAhead .prCreate)
  refine reads_read.quiet.next hahead fun record =>
    Triple.bind (conducts_effectOrRetry hahead ?_) fun _ =>
    (quiet_prDisposition headSha).next hahead fun created =>
    (reads_orBlock _ created).quiet.next hahead fun view =>
      (conducts_adoptPr hphase view false).weaken fun _ _ h => h.1
  rintro record site h step hstep
  cases hstep
  exact .inl h.2

theorem conducts_derivePrCreate [FramedDigest]
    (hphase : stepForPhase mode phase = some .prCreate) (headSha : Oid) :
    Conducts sound authority (Working authority phase) (derivePrCreate headSha)
      (fun _ => WorkingSome authority) (Falls authority phase) := by
  have hahead : Ready authority phase _ := ready_working.and (steady_writeAhead .prCreate)
  refine Triple.bind (conducts_handlePostCommitAdvance headSha) fun _ =>
    reads_read.quiet.next ready_working fun record =>
    (quiet_ask rfl).next ready_working fun (remoteOid : Option Oid) =>
    (reads_blockIf _ _).quiet.next ready_working fun _ =>
    Triple.bind (conducts_start (by intro _ _ h; cases h)) fun _ =>
    ((quiet_prDisposition headSha).next hahead fun existing => ?_).weaken
      fun _ _ h => ⟨h.1, h.2.2⟩
  cases existing with
  | none => exact conducts_createPr hphase headSha
  | some view =>
      exact (conducts_adoptPr hphase view true).weaken fun _ _ h => h.1

theorem conducts_stepPrCreate [FramedDigest] (hphase : stepForPhase mode phase = some .prCreate) :
    Conducts sound authority (Working authority phase) stepPrCreate
      (fun _ => WorkingSome authority) (Falls authority phase) := by
  refine (quiet_checkRepository _).next ready_working fun _ =>
    reads_commitOid.quiet.next ready_working fun headSha =>
    (reads_leftReceipt _).next ready_working fun left => ?_
  cases left with
  | none =>
      exact (conducts_derivePrCreate hphase headSha).weaken fun _ _ h => h.1
  | some receipt =>
      dsimp only
      split
      · exact conducts_settled ((conducts_reconcilePrCreate hphase _).weaken
          fun _ _ h => ⟨h.1, left_of_filter h.2⟩)
          (conducts_derivePrCreate hphase headSha)
      · exact triple_stop _ fun _ _ h => h.1.falls

end DodgingInfinity.PrDelivery

/-!
## What a whole run keeps

Every call of the machine leaves the stored record sound, wherever it is cut
off and whatever it is answered, and so do any number of calls.
-/

namespace DodgingInfinity.PrDelivery

open Procedure

variable [JsonDigest] {sound : Exchange → Prop} {authority : Authority}
  {phase : Phase}

/-! ## Observing an update -/

variable {site : Site}

/-- A viewed pull request completes an update. -/
theorem Working.viewed {record : Record} (h : Working authority phase record site)
    (hviewed : Viewed record site) (hmode : authority.kind.mode = .prUpdate) :
    Leaving authority phase .complete record site := by
  refine ⟨h.sound, h.authority, h.phase, fun hallowed => ⟨h.sound, h.authority,
    rfl, ?_, h.permitted, Aligned.terminal (by simp [terminalPhases])⟩⟩
  have hpushed : phase = .pushed := by
    rw [Record.mode, h.authority, hmode, h.phase] at hallowed
    cases phase <;> simp_all [allowedTransitionsByMode, prUpdateAllowedTransitions]
  have hin : record.phase ∈ pushedPhases := by
    simp [h.phase, hpushed, pushedPhases]
  obtain ⟨commit, binding, hcommitted⟩ :=
    h.earned.committed (List.mem_cons_of_mem _ hin)
  exact ⟨fun _ => ⟨commit, binding, hcommitted.congr rfl rfl fun _ h => h⟩,
    fun _ => h.earned.pushed hin,
    fun _ _ => hviewed.congr rfl rfl fun _ h => h⟩

/-- What the observation of an update has read, once the pull request is the
authorized one at the recorded commit. -/
def Shown (authority : Authority) (update : PrUpdateAuthority) (commit : Oid)
    (view : PrView) (site : Site) : Prop :=
  authority.kind = .prUpdate update ∧ Heard site (.ghPrView update.pullRequestNumber) (some view) ∧
    prUpdateIdentityProblem (some view) authority update.pullRequestNumber commit = none

theorem steady_shown (update : PrUpdateAuthority) (commit : Oid) (view : PrView) :
    Steady fun _ site => Shown authority update commit view site :=
  ⟨fun h hdrift => ⟨h.1, (steady_heard _ _).driftSite h.2.1 hdrift, h.2.2⟩,
    fun answer _ h => ⟨h.1, h.2.1.hear _ answer, h.2.2⟩⟩

theorem conducts_completeUpdate (update : PrUpdateAuthority) (commit : Oid) (view : PrView) :
    Conducts sound authority (fun record site => (Working authority phase record site ∧
        recordedCommit record = some commit) ∧ Shown authority update commit view site)
      (do
        recordPullRequest view
        transition .complete
        persist)
      (fun _ => WorkingSome authority) (Falls authority phase) := by
  have hshown : Steady fun _ => Shown authority update commit view :=
    steady_shown update commit view
  have hready : Ready authority phase _ := (ready_working.and (steady_record
    fun record => recordedCommit record = some commit)).and hshown
  refine Triple.bind (conducts_recordPullRequest view hready
    fun _ _ _ h => ⟨⟨h.1.1.congr rfl rfl rfl, h.1.2⟩, h.2⟩) fun _ =>
    Triple.bind (conducts_leave fun record site h => ?_) fun _ =>
      conducts_end fun _ _ h => h.1
  obtain ⟨⟨hworking, hcommit⟩, hkind, hheard, hnone⟩ := h
  refine hworking.viewed ⟨commit, view, update, hcommit, ?_, hheard, ?_⟩ ?_
  · rw [hworking.authority, hkind]
  · rw [hworking.authority, hnone]
  · rw [hkind, Kind.mode]

theorem conducts_observePrUpdate :
    Conducts sound authority (Working authority phase) observePrUpdate
      (fun _ => WorkingSome authority) (Falls authority phase) := by
  have hcommitted : ∀ commit, Ready authority phase _ := fun commit =>
    ready_working.and (steady_record fun record => recordedCommit record = some commit)
  refine (quiet_checkRepository _).next ready_working fun _ =>
    reads_commitOid.next ready_working fun commit =>
    reads_read.next (hcommitted commit) fun record => ?_
  refine triple_of (p := record.authority = authority)
    (fun _ _ h => h.2 ▸ h.1.1.authority) fun hauthority => ?_
  refine Triple.weaken ?_ fun _ _ h => h.1
  refine (quiet_ask rfl).next (hcommitted commit) fun (remoteHead : Option Oid) =>
    (reads_blockIf _ _).quiet.next (hcommitted commit) fun _ =>
    reads_prUpdateAuthority.next (hcommitted commit) fun update => ?_
  refine triple_of (p := authority.kind = .prUpdate update)
    (fun _ _ h => h.1.1.authority ▸ h.2) fun hkind => ?_
  refine Triple.weaken ?_ fun _ _ h => h.1
  refine (reads_ask rfl).next (hcommitted commit) fun (viewed : Option PrView) => ?_
  have hview := (hcommitted commit).and (steady_heard (.ghPrView update.pullRequestNumber) viewed)
  split
  · rename_i view hnone
    exact (conducts_completeUpdate update commit view).weaken fun _ _ h =>
      ⟨h.1, hkind, h.2, hauthority ▸ hnone⟩
  · exact triple_ite _ (fun _ => conducts_stop hview _ _) fun _ => conducts_stop hview _ _
  · exact conducts_stop hview _ _
  · exact conducts_stop hview _ _

/-! ## Driving -/

variable [FramedDigest]

theorem conducts_runStep {mode : Mode} {steps : StepEntries} {step : Option Step}
    (hstep : stepForPhase mode phase = step) : Conducts sound authority
      (fun record site => Stored authority phase steps record site ∧ Rechecked site) (runStep step)
      (fun _ => WorkingSome authority) (Falls authority phase) := by
  match step with
  | none => exact conducts_observePrUpdate.weaken fun _ _ h => h.1.holding.working
  | some .baseRefresh => exact conducts_stepBaseRefresh hstep
  | some .commit =>
      exact (conducts_stepCommit hstep).weaken fun _ _ h => h.1.holding.working
  | some .push =>
      exact (conducts_stepPush hstep).weaken fun _ _ h => h.1.holding.working
  | some .prCreate =>
      exact (conducts_stepPrCreate hstep).weaken fun _ _ h => h.1.holding.working

/-- What the machine begins with: the record it has just loaded. -/
def Loaded (authority : Authority) (fresh : Record) (record : Record) (site : Site) : Prop :=
  Stored authority fresh.phase fresh.steps record site ∧ record = fresh

omit [FramedDigest] in
theorem ready_loaded (fresh : Record) : Ready authority fresh.phase (Loaded authority fresh) :=
  (ready_stored fresh.steps).and (steady_record fun record => record = fresh)

/-- A driven record is left sound, and only faults that nothing records leave
the machine. -/
theorem conducts_drive (expected : Option ExpectedStep) (fresh : Record) : Conducts sound authority
      (fun record site => Loaded authority fresh record site ∧ JustRead fresh site) (drive expected)
      (fun _ => WorkingSome authority) (Breaks authority) := by
  have hworking := fun record site (h : Loaded authority fresh record site) =>
    h.1.holding.working
  have hexpected : Conducts sound authority (fun record site => Loaded authority fresh record site ∧
        JustRead fresh site) (requireExpectedStep expected)
      (fun _ record site => Loaded authority fresh record site ∧
        JustRead fresh site) (Breaks authority) :=
    Triple.bind triple_read fun record => triple_ite _ (fun _ => triple_stop _ fun record site h =>
        ⟨(hworking record site h.2.1).sound, rfl⟩)
      fun _ => triple_pure _ fun _ _ h => h.2
  refine Triple.bind hexpected fun _ => Triple.bind (conducts_clock_again
    (ready_loaded fresh).steady
    (fun record site h => (hworking record site h).sound) fresh _) fun now =>
    Triple.bind triple_read fun record => ?_
  refine triple_of (p := record = fresh) (fun _ _ h => h.1 ▸ h.2.1.2) fun hrecord => ?_
  subst hrecord
  refine Triple.weaken ?_ fun _ _ h => h.2
  refine triple_ite _ (fun _ => triple_pure _ fun record site h =>
    ⟨_, hworking record site h.1⟩) fun hgoes => triple_ite _ (fun _ => ?_)
      fun hfree => triple_ite _ (fun _ => ?_) fun hfresh => ?_
  · refine Triple.bind triple_read fun held => ?_
    exact (conducts_applied now held (Triple.bind conducts_persist fun _ =>
      triple_pure _ fun _ _ h => ⟨.revoked, h⟩)).weaken fun working site h =>
        ⟨h.1, (hworking working site h.2.1).stopping (.inr rfl)⟩
  · exact Triple.bind ((conducts_block .expired).weaken
      fun record site h => hworking record site h.1) fun _ =>
        triple_pure _ fun _ _ h => h
  · have hrun : Conducts sound authority
        (fun working site => Stored authority record.phase record.steps working
          site ∧ Rechecked site) (runStep (stepForPhase record.mode record.phase))
        (fun _ => WorkingSome authority) (Falls authority record.phase) :=
      conducts_runStep rfl
    refine Triple.onFault (Triple.bind (hrun.weaken fun working site h => ?_)
      fun _ => Triple.bind triple_read fun _ => triple_pure _ fun _ _ h => h.2)
      fun fault => conducts_settle (fun _ hstep => hstep) fault
    exact ⟨h.1.1, record, now, h.2, hgoes, Bool.eq_false_iff.mpr hfree,
      Bool.eq_false_iff.mpr hfresh⟩

/-! ## Runs -/

omit [FramedDigest] in
/-- The working copy a run begins with is what was stored. -/
theorem Sound.loaded (h : Sound authority site) : Loaded authority site.stored site.stored
        (site.hear (.load site.stored.deliveryId) (.ok ⟨site.stored, rfl⟩)) ∧ JustRead site.stored
        (site.hear (.load site.stored.deliveryId) (.ok ⟨site.stored, rfl⟩)) := by
  have hlog : ∀ exchange ∈ site.log, exchange ∈ (site.hear
      (.load site.stored.deliveryId) (.ok ⟨site.stored, rfl⟩)).log :=
    fun _ hin => List.mem_cons_of_mem _ hin
  have hearned := h.earned.congr rfl rfl (fun _ => rfl) (fun _ => rfl) hlog
  exact ⟨⟨⟨⟨⟨h.later rfl hlog, h.authority, rfl, hearned, h.permitted,
    h.aligned⟩, rfl⟩, rfl, .inl rfl⟩, rfl⟩, ⟨site.log, rfl⟩, rfl, rfl, .inl rfl⟩

/-- One call of the machine, from any sound site. -/
theorem advanceOnce_safe (h : Sound authority site)
    (deliveryId : String) (expected : Option ExpectedStep) :
    (advanceOnce deliveryId expected).Safe (delivering sound)
      (conduct (Sound authority) Ruled) (fun _ => Sound authority) site := by
  intro now hlater
  have hnow : Sound authority now := by
    induction hlater with
    | refl => exact h
    | tail _ hdrift ih => exact ih.drift hdrift
  refine ⟨hnow, fun answer after hanswer => ?_⟩
  cases hanswer with
  | loaded _ hid =>
      subst hid
      refine (conducts_drive expected now.stored _ _ hnow.loaded).andThen
        fun result world hresult => ?_
      match result with
      | (.ok outcome, working) =>
          obtain ⟨phase, hworking⟩ := hresult
          exact hworking.sound
      | (.error fault, working) => exact hresult.1
  | unread _ failure =>
      exact hnow.later rfl fun _ hin => List.mem_cons_of_mem _ hin

omit [FramedDigest] in
/-- A minted record is sound. -/
theorem sound_minted {now : Time} (others : List Record)
    (hvalid : validateAuthorization (newAuthorization authority now) = .ok ()) :
    Sound authority ⟨newAuthorization authority now, others, []⟩ := by
  have hnone : ∀ step receipt, ((newAuthorization authority now).steps.get step).receipt ≠
        some receipt := by
    intro step receipt
    unfold newAuthorization
    split <;> cases step <;> simp [StepEntries.get, StepEntry.pending, StepEntry.notNeeded]
  exact ⟨rfl, hvalid, ⟨by simp [newAuthorization, committedPhases],
    by simp [newAuthorization, pushedPhases], by simp [newAuthorization]⟩,
    fun step receipt h => absurd h (hnone step receipt),
    fun _ step receipt h => absurd h (hnone step receipt)⟩

/-- In every run from a minted record the stored record stays sound, and what
was asked for was allowed. -/
theorem conduct_sessions {now : Time} {others : List Record} {final : Site}
    {trace : List (Asked Call Call.Answer Site)}
    (hvalid : validateAuthorization (newAuthorization authority now) = .ok ())
    (hrun : Sessions (delivering sound) IsAdvance
      ⟨newAuthorization authority now, others, []⟩ trace final) :
    Sound authority final ∧ ∀ asked ∈ trace,
      conduct (Sound authority) Ruled asked.before asked.question ∧
        Site.Answers sound asked.before asked.question asked.answer
          asked.after := by
  have hsafe : ∀ (program : Program Call Call.Answer (Except Fault Outcome))
      world, IsAdvance program → Sound authority world →
        program.Safe (delivering sound) (conduct (Sound authority) Ruled)
          (fun _ => Sound authority) world := by
    rintro program world ⟨deliveryId, expected, rfl⟩ hsound
    exact advanceOnce_safe hsound deliveryId expected
  exact Sessions.invariant (sound_minted others hvalid)
    (fun _ _ h hdrift => h.drift hdrift) (fun _ _ => conduct_inv) hsafe hrun

end DodgingInfinity.PrDelivery
