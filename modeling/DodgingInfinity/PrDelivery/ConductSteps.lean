import DodgingInfinity.PrDelivery.Bookkeeping

/-!
# What every step keeps

Each step leaves the stored record sound, asks for an effect only under its
rule, and moves the working copy only to a phase that it has earned.
-/

namespace DodgingInfinity.PrDelivery

open Procedure

variable [JsonDigest] {sound : Exchange → Prop} {authority : Authority}
  {phase : Phase}

/-- Steady facts under which the machine works. -/
structure Ready (authority : Authority) (phase : Phase)
    (p : Record → Site → Prop) : Prop where
  steady : Steady p
  working : ∀ record site, p record site → Working authority phase record site

theorem ready_working : Ready authority phase (Working authority phase) :=
  ⟨steady_working authority phase, fun _ _ h => h⟩

theorem ready_stored (steps : StepEntries) : Ready authority phase (Stored authority phase steps) :=
  ⟨steady_stored authority phase steps, fun _ _ h => h.holding.working⟩

variable {p : Record → Site → Prop}

theorem Ready.and {q : Record → Site → Prop} (hp : Ready authority phase p) (hq : Steady q) :
    Ready authority phase fun record site => p record site ∧ q record site :=
  ⟨hp.steady.and hq, fun record site h => hp.working record site h.1⟩

variable {α : Type}

variable {first : Act α}

theorem Reads.next {β : Type} {next : α → Act β}
    {fact : α → Record → Site → Prop}
    {post : β → Record → Site → Prop} (hfirst : Reads sound (Sound authority) Ruled first fact)
    (hp : Ready authority phase p) (hnext : ∀ value, Conducts sound authority
      (fun record site => p record site ∧ fact value record site) (next value)
      post (Falls authority phase)) :
    Conducts sound authority p (first >>= next) post (Falls authority phase) :=
  Triple.bind (hfirst.conducts hp.steady hp.working) hnext

theorem Quiet.next {β : Type} {next : α → Act β} {post : β → Record → Site → Prop}
    (hfirst : Quiet sound (Sound authority) Ruled first) (hp : Ready authority phase p)
    (hnext : ∀ value, Conducts sound authority p (next value) post
      (Falls authority phase)) :
    Conducts sound authority p (first >>= next) post (Falls authority phase) :=
  Reads.next hfirst hp fun value => (hnext value).weaken fun _ _ h => h.1

variable {verb : Verb}

/-- An effect is asked for only under its rule. -/
theorem conducts_effect (hp : Ready authority phase p)
    (hrule : ∀ record site, p record site → ∀ step,
      verb.step = some step → Ruled site verb step) :
    Conducts sound authority p (ask verb) (fun _ => p) (fun _ => p) :=
  (triple_ask hp.steady (fun _ _ h => (hp.working _ _ h).sound) verb
    hrule).mono (fun _ _ _ h => h.1) fun _ _ _ h => h.1

/-- A failed effect may be retried later. -/
theorem conducts_effectOrRetry
    (hp : Ready authority phase p) (hrule : ∀ record site, p record site → ∀ step,
      verb.step = some step → Ruled site verb step) :
    Conducts sound authority p (orRetry (ask verb)) (fun _ => p)
      (Falls authority phase) := by
  refine Triple.onFault (conducts_effect hp hrule) fun fault => ?_
  split <;> exact triple_stop _ fun _ _ h => (hp.working _ _ h).falls

theorem conducts_stop (hp : Ready authority phase p) (fault : Fault)
    (post : α → Record → Site → Prop) :
    Conducts sound authority p (stop fault) post (Falls authority phase) :=
  triple_stop fault fun _ _ h => (hp.working _ _ h).falls

theorem conducts_saved (hp : Ready authority phase p) :
    Conducts sound authority p persist (fun _ => Working authority phase) (Falls authority phase) :=
  (conducts_persist.weaken hp.working).mono (fun _ _ _ h => h)
    fun _ _ _ => Breaks.falls

variable {new : Phase}

/-- A phase change that the working copy is fit for. -/
theorem conducts_leave
    (hp : ∀ record site, p record site → Leaving authority phase new record site) :
    Conducts sound authority p (transition new)
      (fun _ record site => Working authority new record site ∧
        new ∈ allowedTransitionsByMode authority.kind.mode phase) (Falls authority phase) :=
  ((conducts_transition new).weaken hp).mono (fun _ _ _ h => h)
    fun _ _ _ => Breaks.falls

/-- A save in whatever phase ends a step. -/
theorem conducts_end {ended : Phase}
    (hp : ∀ record site, p record site → Working authority ended record site) :
    Conducts sound authority p persist (fun _ => WorkingSome authority) (Falls authority phase) :=
  (conducts_persist.weaken hp).mono (fun _ _ _ h => ⟨ended, h⟩)
    fun _ _ _ => Breaks.falls

variable {step : Step}

/-- A step whose effect is proven moves to a phase that it has earned. -/
theorem conducts_proven
    {observed : Observed}
    (hp : ∀ record site, p record site → Working authority phase record site)
    (hearned : ∀ record site, p record site →
      new ∈ allowedTransitionsByMode authority.kind.mode phase →
        Earned (record.succeeded step observed new) site) :
    Conducts sound authority p (succeed step observed new)
      (fun _ => Working authority new) (Falls authority phase) :=
  (conducts_succeed.weaken fun record site h =>
    ⟨hp record site h, hearned record site h⟩).mono (fun _ _ _ h => h.1)
      fun _ _ _ => Breaks.falls

/-! ## Base refresh -/

variable {record : Record} {site : Site}

omit [JsonDigest] in
/-- Before the commit nothing has to be earned. -/
theorem Earned.early
    (h : record.phase = .baseCurrent) : Earned record site :=
  ⟨by simp [h, committedPhases], by simp [h, pushedPhases], by simp [h]⟩

theorem conducts_finishBaseRefresh (newBase : Oid) :
    Conducts sound authority (Working authority phase)
      (finishBaseRefresh newBase) (fun _ => WorkingSome authority)
      (Falls authority phase) := by
  refine (quiet_liveCandidate newBase).next ready_working fun entries =>
    (reads_requireCandidateMatches entries).quiet.next ready_working fun _ =>
    (quiet_baseCi newBase).next ready_working fun ci =>
    reads_reverify.quiet.next ready_working fun observed =>
    quiet_clock.next ready_working fun now => Triple.bind (conducts_change
      (Working authority phase) fun record site h => h.congr rfl rfl rfl) fun _ => ?_
  exact (conducts_proven (fun _ _ h => h) fun _ _ _ _ => Earned.early rfl).mono
    (fun _ _ _ h => ⟨_, h⟩) fun _ _ _ h => h

/-- A stored receipt that failed may be moved over again. -/
def FailedStored (site : Site) : Prop :=
  ∃ receipt, site.stored.steps.baseRefresh.receipt = some receipt ∧ receipt.state = .failedRetryable

theorem steady_failedStored : Steady fun _ site => FailedStored site :=
  ⟨fun h hdrift => by
      unfold FailedStored at h ⊢
      rwa [hdrift.kept.2],
    fun _ _ h => h⟩

variable {receipt : Receipt}

/-- What a stored receipt is valid for. -/
theorem Sound.validReceipt
    (h : Sound authority site) (hreceipt : (site.stored.steps.get step).receipt = some receipt) :
    receipt.step = step ∧ receipt.parentAuthorityDigest = authority.authorityDigest ∧
      receipt.binding.step = step ∧
      (expectedReceiptState (site.stored.steps.get step).state = none ∨
        expectedReceiptState (site.stored.steps.get step).state =
          some receipt.state) := by
  have hvalid := h.valid
  have hmem : step ∈ PrDelivery.steps := by cases step <;> simp [PrDelivery.steps]
  simp only [validateAuthorization, validateSteps, Checked.bind_eq_ok,
    Checked.exists_passed, Checked.checkAll_eq_ok] at hvalid
  obtain ⟨⟨-, hsteps⟩, -⟩ := hvalid
  have hstep := hsteps step hmem
  simp only [validateStep, Checked.bind_eq_ok, Checked.exists_passed] at hstep
  obtain ⟨-, -, hstep⟩ := hstep
  simp only [validateStepReceipt, hreceipt, validateReceipt, failAt,
    Checked.bind_eq_ok, Checked.exists_passed, Checked.failIf_eq_ok, not_not,
    ne_eq, not_and_or] at hstep
  obtain ⟨⟨-, hown, -, -, hparent, -, -, hbinding, -⟩, hstate⟩ := hstep
  exact ⟨hown, hparent.trans (congrArg Authority.authorityDigest h.authority), hbinding, hstate⟩

variable {steps : StepEntries}

/-- A left receipt that was read again either stands for its effect or is
stored as failed. -/
theorem Stored.left (h : Stored authority phase steps record site)
    (hgoes : phase ∉ terminalPhases) (hrechecked : Rechecked site)
    (hleft : Left steps .baseRefresh receipt) :
    WriteAhead site .baseRefresh ∨ FailedStored site := by
  obtain ⟨hreceipt, hopen⟩ := hleft
  have hworking := h.holding.working
  obtain ⟨hstep, hparent, -, hstate⟩ :=
    hworking.sound.validReceipt (h.synced.steps ▸ hreceipt)
  rw [h.synced.steps] at hstate
  have haligned : (steps.get .baseRefresh).state ∈
      [.executing, .failedRetryable] := by
    have := hworking.aligned (hworking.phase ▸ hgoes) .baseRefresh receipt
    rw [h.holding.steps] at this
    exact this hreceipt hopen
  simp only [List.mem_cons, List.not_mem_nil, or_false] at hopen haligned
  rcases hopen with hopen | hopen
  · left
    have hexecuting : (steps.get .baseRefresh).state = .executing := by
      rcases haligned with haligned | haligned
      · exact haligned
      · simp [haligned, expectedReceiptState, hopen] at hstate
    have hallowed : Step.baseRefresh ∈ authority.allowedActions := by
      rw [← hworking.authority]
      exact (hworking.permitted .baseRefresh receipt
        (h.holding.steps ▸ hreceipt)).1
    exact Started.writeAhead ⟨hexecuting, hallowed, receipt, hreceipt, hopen,
      rfl, hstep, hparent⟩ h hrechecked
  · right
    exact ⟨receipt, by rw [h.synced.steps]; exact hreceipt, hopen⟩

theorem Holding.reopened
    (h : Holding authority phase steps record site)
    (hstep : Settable phase step) (hgoes : phase ∉ terminalPhases)
    (hleft : Left steps step receipt) : Working authority phase
      (record.withEntry step (reopenedEntry (record.steps.get step))) site := by
  obtain ⟨hworking, rfl⟩ := h
  refine hworking.withEntry hstep (hworking.fits ⟨fun held hheld => ?_,
    fun held hheld _ => ?_⟩)
  · obtain ⟨before, hbefore, rfl⟩ := Option.map_eq_some_iff.mp hheld
    exact ⟨before, hbefore, rfl⟩
  · exact hworking.aligned (hworking.phase ▸ hgoes) step receipt hleft.1 hleft.2

variable {mode : Mode}

theorem conducts_reconcileBaseRefresh (hphase : stepForPhase mode phase = some .baseRefresh)
    (hleft : Left steps .baseRefresh receipt) (binding : BaseRefreshBinding) :
    Conducts sound authority
      (fun record site => Stored authority phase steps record site ∧
        Rechecked site) (reconcileBaseRefresh binding)
      (fun _ => WorkingSome authority) (Falls authority phase) := by
  have hready : Ready authority phase _ :=
    (ready_stored steps).and steady_rechecked
  have hgoes := goesOn_of_step hphase
  have hreopened := fun record site
    (h : Stored authority phase steps record site ∧ Rechecked site) =>
      h.1.holding.reopened (settable_of_step hphase) hgoes hleft
  refine reads_read.quiet.next hready fun record =>
    (quiet_ask rfl).next hready fun (head : Option Oid) =>
      triple_ite _ (fun _ => ?_) fun _ => ?_
  · exact Triple.bind (conducts_change (Working authority phase) hreopened)
      fun _ => conducts_finishBaseRefresh _
  · refine (reads_blockIf _ _).quiet.next hready fun _ =>
      (quiet_indexMatches _).next hready fun moved =>
        triple_ite _ (fun _ => ?_) fun _ => ?_
    · have hboth : Ready authority phase _ := ready_working.and
        ((steady_writeAhead .baseRefresh).or steady_failedStored)
      refine Triple.bind (triple_change _ fun record site h =>
        ⟨hreopened record site h, h.1.left hgoes h.2 hleft⟩) fun _ =>
          Triple.bind (conducts_effectOrRetry hboth fun record site h step
            hstep => ?_) fun _ => (conducts_finishBaseRefresh _).weaken
              fun _ _ h => h.1
      cases hstep
      exact h.2.imp_right fun hfailed => ⟨⟨_, _, _, rfl⟩, hfailed⟩
    · refine (quiet_indexMatches _).next hready fun kept =>
        triple_ite _ (fun _ => ?_) fun _ => conducts_stop hready _ _
      exact Triple.bind ((conducts_void (settable_of_step hphase) _).weaken
        fun _ _ h => h.1.holding.working) fun _ => conducts_end fun _ _ h => h

theorem conducts_deriveBaseRefresh [FramedDigest]
    (hphase : stepForPhase mode phase = some .baseRefresh) : Conducts sound authority
      (fun record site => Working authority phase record site ∧
        ∀ receipt, ¬ Left record.steps .baseRefresh receipt)
      deriveBaseRefresh (fun _ => WorkingSome authority)
      (Falls authority phase) := by
  have hready : Ready authority phase _ := ready_working.and
    (steady_record fun record =>
      ∀ receipt, ¬ Left record.steps .baseRefresh receipt)
  have hstep := settable_of_step hphase
  refine reads_read.quiet.next hready fun record =>
    (quiet_ask rfl).next hready fun _ =>
    (reads_blockIf _ _).quiet.next hready fun _ =>
    (quiet_liveCandidate _).next hready fun entries =>
    (reads_requireCandidateMatches entries).quiet.next hready fun _ =>
    reads_remoteBase.quiet.next hready fun newBase =>
      triple_ite _ (fun _ => ?_) fun _ => ?_
  · refine Triple.bind (conducts_modifyEntry hstep (fun _ _ h => h.1)
      (fun record site h => ⟨fun receipt hreceipt => ?_,
        fun receipt hreceipt hopen => ?_⟩) _) fun _ => Triple.bind
      (conducts_leave fun record site h => ?_) fun _ =>
        conducts_end fun _ _ h => h.1
    · rw [← h.1.authority]
      exact h.1.permitted .baseRefresh receipt hreceipt
    · exact absurd ⟨hreceipt, hopen⟩ (h.2 receipt)
    · exact ⟨h.sound, h.authority, h.phase, fun hallowed => ⟨h.sound,
        h.authority, rfl, Earned.early rfl, h.permitted,
        fun _ => h.aligned (goesOn_of_allowed hallowed)⟩⟩
  · refine (reads_proveDisjointAdvance _ _).quiet.next hready fun changed =>
      Triple.bind ((conducts_start (by intro _ _ h; cases h)).weaken
        fun _ _ h => h.1) fun _ => ?_
    have hahead : Ready authority phase fun record site =>
        Working authority phase record site ∧ WriteAhead site .baseRefresh :=
      ready_working.and (steady_writeAhead .baseRefresh)
    refine Triple.bind ((conducts_effectOrRetry hahead ?_).weaken fun _ _ h =>
      ⟨h.1, h.2.2⟩) fun _ => Triple.bind (conducts_effectOrRetry hahead ?_)
        fun _ => (conducts_finishBaseRefresh _).weaken fun _ _ h => h.1
    all_goals
      rintro record site h step hstep
      cases hstep
      exact .inl h.2

theorem conducts_stepBaseRefresh [FramedDigest]
    (hphase : stepForPhase mode phase = some .baseRefresh) : Conducts sound authority
      (fun record site => Stored authority phase steps record site ∧ Rechecked site) stepBaseRefresh
      (fun _ => WorkingSome authority) (Falls authority phase) := by
  have hready : Ready authority phase _ :=
    (ready_stored steps).and steady_rechecked
  refine (quiet_checkRepository _).next hready fun _ =>
    (reads_leftReceipt _).next hready fun left => ?_
  cases left with
  | none => exact (conducts_deriveBaseRefresh hphase).weaken fun _ _ h =>
      ⟨h.1.1.holding.working, not_left_of_filter h.2⟩
  | some receipt =>
      refine triple_of (p := Left steps .baseRefresh receipt) (fun _ _ h =>
        h.1.1.holding.steps ▸ left_of_filter h.2) fun hleft => ?_
      refine Triple.weaken ?_ fun _ _ h => h.1
      dsimp only
      split
      · exact conducts_reconcileBaseRefresh hphase hleft _
      · exact conducts_stop hready _ _

/-! ## Commit -/

variable {binding : Binding}

omit [JsonDigest] in
theorem Started.bound
    (h : Started authority steps step binding) : Bound steps step binding := by
  obtain ⟨receipt, hreceipt, -, hbinding, -⟩ := h.receipt
  exact ⟨receipt, hreceipt, hbinding⟩

theorem steady_bound (step : Step) (binding : Binding) :
    Steady fun record _ => Bound record.steps step binding :=
  steady_record fun record => Bound record.steps step binding

omit [JsonDigest] in
/-- The receipt of a step that succeeded. -/
theorem succeeded_receipt
    (h : Bound record.steps step binding) (observed : Observed) (new : Phase) :
    ∃ receipt, ((record.succeeded step observed new).steps.get step).receipt = some receipt ∧
      receipt.binding = binding ∧ receipt.observed = some observed := by
  obtain ⟨receipt, hreceipt, hbinding⟩ := h
  refine ⟨{ receipt with state := .succeeded, observed := some observed }, ?_, hbinding, rfl⟩
  simp [Record.succeeded, Record.withEntry, succeededEntry, hreceipt]

omit [JsonDigest] in
theorem Earned.ofCommitted {commit : Oid}
    {binding : CommitBinding} (hphase : record.phase = .committed)
    (h : Committed record site commit binding) : Earned record site :=
  ⟨fun _ => ⟨commit, binding, h⟩, by simp [hphase, pushedPhases],
    by simp [hphase]⟩

/-- The commit was read to be one new commit on the approved head, where that
is required. -/
def OnHead (commit : Option Oid) (record : Record) (site : Site) : Prop :=
  record.mode = .prUpdate → Heard site (.commitParents commit)
    [record.authority.originalBaseline.commitSha]

theorem steady_onHead (commit : Option Oid) : Steady (OnHead commit) :=
  ⟨fun h hdrift hmode => (steady_heard _ _).driftSite (h hmode) hdrift,
    fun answer _ h hmode => (h hmode).hear _ answer⟩

/-- A commit is recorded once it was read to be the authorized change. -/
theorem conducts_observeCommit (binding : CommitBinding) : Conducts sound authority
      (fun record site => Working authority phase record site ∧
        Bound record.steps .commit (.commit binding))
      (observeCommit binding) (fun _ => WorkingSome authority)
      (Falls authority phase) := by
  have hready : Ready authority phase _ := ready_working.and
    (steady_bound .commit (.commit binding))
  refine (quiet_ask rfl).next hready fun (newHead : Option Oid) =>
    (reads_ask rfl).next hready fun (found : Option Oid × Option Oid) => ?_
  have hfound := hready.and (steady_heard (.commitParentAndTree newHead) found)
  refine (reads_blockIf _ _).next hfound fun _ => ?_
  have hmatching := hfound.and (steady_const (¬ (found.1 ≠ some binding.headBefore ∨
    found.2 ≠ some binding.expectedTreeOid)))
  refine (reads_requireUpdateCommit newHead).next hmatching fun _ => ?_
  have hone := hmatching.and (steady_onHead newHead)
  cases newHead with
  | none => exact conducts_stop hone _ _
  | some commit =>
      refine (reads_ask rfl).next hone fun (raw : RawDiff) => ?_
      have hraw := hone.and (steady_heard (.diffTreeRaw binding.headBefore commit) raw)
      refine (reads_parsed raw.entries).next hraw fun entries => ?_
      have hentries := hraw.and (steady_const (raw.entries = .ok entries))
      refine (reads_requireCandidateMatches entries).next hentries fun _ => ?_
      refine (conducts_proven (fun _ _ h => h.1.1.1.1.1.1.1)
        fun record site h _ => ?_).mono (fun _ _ _ h => ⟨_, h⟩) fun _ _ _ h => h
      obtain ⟨⟨⟨⟨⟨⟨⟨-, hbound⟩, hheard⟩, hmatch⟩, hparents⟩, hdiff⟩, hparsed⟩, hsame⟩ := h
      obtain ⟨receipt, hreceipt, hbinding, hobserved⟩ :=
        succeeded_receipt hbound (.committed commit) .committed
      obtain ⟨parent, tree⟩ := found
      rw [not_or, not_not, not_not] at hmatch
      obtain ⟨rfl, rfl⟩ := hmatch
      exact Earned.ofCommitted rfl ⟨⟨receipt, hreceipt, hbinding, hobserved⟩,
        hheard, ⟨raw, entries, hdiff, hparsed, hsame⟩, hparents⟩

/-- Whether a left receipt is settled: if not, the working copy goes on. -/
def Settled (authority : Authority) (phase : Phase) (settled : Bool)
    (record : Record) (site : Site) : Prop :=
  WorkingSome authority record site ∧ (settled = false → Working authority phase record site)

theorem Working.unsettled
    (h : Working authority phase record site) : Settled authority phase false record site :=
  ⟨⟨phase, h⟩, fun _ => h⟩

theorem WorkingSome.settled
    (h : WorkingSome authority record site) : Settled authority phase true record site :=
  ⟨h, fun hfalse => by cases hfalse⟩

/-- A left receipt is settled, or a fresh derivation goes on. -/
theorem conducts_settled {reconcile : Act Bool}
    {derive : Act Unit} (hreconcile : Conducts sound authority p reconcile
      (Settled authority phase) (Falls authority phase))
    (hderive : Conducts sound authority (Working authority phase) derive
      (fun _ => WorkingSome authority) (Falls authority phase)) : Conducts sound authority p
      (do
        let settled ← reconcile
        if settled then pure () else derive)
      (fun _ => WorkingSome authority) (Falls authority phase) :=
  Triple.bind hreconcile fun _ => triple_ite _
    (fun _ => triple_pure _ fun _ _ h => h.1)
    fun hnot => hderive.weaken fun _ _ h => h.2 (Bool.eq_false_iff.mpr hnot)

/-- A left receipt is taken back, for a fresh derivation. -/
theorem conducts_voidLeft
    (hp : ∀ record site, p record site → Working authority phase record site)
    (hstep : Settable phase step) : Conducts sound authority p
      (do
        void step
        persist
        pure false) (Settled authority phase) (Falls authority phase) :=
  Triple.bind ((conducts_void hstep _).weaken hp) fun _ =>
    Triple.bind (conducts_saved ready_working) fun _ =>
      triple_pure _ fun _ _ h => h.unsettled

theorem conducts_reconcileCommit
    (hphase : stepForPhase mode phase = some .commit) {binding : CommitBinding}
    (hbinding : receipt.binding = .commit binding) : Conducts sound authority
      (fun record site => Working authority phase record site ∧ Left record.steps .commit receipt)
      (reconcileCommit binding) (Settled authority phase)
      (Falls authority phase) := by
  have hready : Ready authority phase _ := ready_working.and
    (steady_record fun record => Left record.steps .commit receipt)
  have hstep := settable_of_step hphase
  refine (quiet_ask rfl).next hready fun (head : Option Oid) =>
    triple_ite _ (fun _ => conducts_voidLeft (fun _ _ h => h.1) hstep) fun _ => ?_
  refine (quiet_ask rfl).next hready fun (found : Option Oid × Option Oid) =>
    (reads_blockIf _ _).quiet.next hready fun _ =>
    (reads_requireUpdateCommit head).quiet.next hready fun _ =>
    Triple.bind (triple_change _ fun record site h => ⟨Holding.reopened
      ⟨h.1, rfl⟩ hstep (goesOn_of_step hphase) h.2,
        h.2.bound_reopened hbinding⟩) fun _ =>
    Triple.bind (conducts_observeCommit binding) fun _ =>
      triple_pure _ fun _ _ h => h.settled

/-- A commit call that failed never goes on. -/
theorem conducts_commitFailed
    (hphase : stepForPhase mode phase = some .commit) (update : Bool)
    (current : Oid) (post : Unit → Record → Site → Prop) :
    Conducts sound authority (Working authority phase)
      (commitFailed update current) post (Falls authority phase) := by
  refine triple_ite _ (fun _ => ?_) fun _ => conducts_stop ready_working _ _
  refine (quiet_ask rfl).next ready_working fun (head : Option Oid) =>
    triple_ite _ (fun _ => ?_) fun _ => conducts_stop ready_working _ _
  refine (quiet_pendingAmong pendingHistoryRefs).next ready_working
    fun pending => ?_
  cases pending with
  | none => exact conducts_stop ready_working _ _
  | some name =>
      exact Triple.bind (conducts_void (settable_of_step hphase) _) fun _ =>
        conducts_stop ready_working _ _

/-- The commit is asked for under its receipt, and then observed. -/
theorem conducts_performCommit
    (hphase : stepForPhase mode phase = some .commit) (binding : CommitBinding)
    (update : Bool) (current : Oid) : Conducts sound authority
      (fun record site => Working authority phase record site ∧
        Started authority record.steps .commit (.commit binding) ∧ WriteAhead site .commit)
      (do
        onTransportError (ask .commit) (commitFailed update current)
        observeCommit binding)
      (fun _ => WorkingSome authority) (Falls authority phase) := by
  have hahead : Ready authority phase _ := ready_working.and
    ((steady_bound .commit (.commit binding)).and (steady_writeAhead .commit))
  refine Triple.bind (Triple.onFault ((conducts_effect hahead ?_).weaken
    fun _ _ h => ⟨h.1, h.2.1.bound, h.2.2⟩) fun fault => ?_) fun _ =>
      (conducts_observeCommit binding).weaken fun _ _ h => ⟨h.1, h.2.1⟩
  · rintro record site h step hstep
    cases hstep
    exact .inl h.2.2
  · split
    · exact (conducts_commitFailed hphase _ _ _).weaken fun _ _ h => h.1
    · exact conducts_stop hahead _ _

theorem conducts_deriveCommit
    (hphase : stepForPhase mode phase = some .commit) :
    Conducts sound authority (Working authority phase) deriveCommit
      (fun _ => WorkingSome authority) (Falls authority phase) := by
  refine reads_read.quiet.next ready_working fun record =>
    (quiet_ask rfl).next ready_working fun _ =>
    (reads_blockIf _ _).quiet.next ready_working fun _ =>
    (quiet_requireStagedCandidate _).next ready_working fun _ =>
    (quiet_ask rfl).next ready_working fun (staged : Digest) =>
    (quiet_requireStaged _).next ready_working fun _ =>
    (quiet_ask rfl).next ready_working fun (tree : Oid) =>
    Triple.bind (conducts_start (by intro _ _ h; cases h)) fun _ =>
      conducts_performCommit hphase _ _ _

theorem conducts_stepCommit
    (hphase : stepForPhase mode phase = some .commit) :
    Conducts sound authority (Working authority phase) stepCommit
      (fun _ => WorkingSome authority) (Falls authority phase) := by
  refine (quiet_checkRepository _).next ready_working fun _ =>
    (reads_leftReceipt _).next ready_working fun left => ?_
  cases left with
  | none => exact (conducts_deriveCommit hphase).weaken fun _ _ h => h.1
  | some receipt =>
      dsimp only
      split
      · rename_i binding hbinding
        exact conducts_settled ((conducts_reconcileCommit hphase hbinding).weaken
          fun _ _ h => ⟨h.1, left_of_filter h.2⟩) (conducts_deriveCommit hphase)
      · exact triple_stop _ fun _ _ h => h.1.falls

end DodgingInfinity.PrDelivery
