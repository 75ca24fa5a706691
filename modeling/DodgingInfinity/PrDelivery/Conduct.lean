import DodgingInfinity.PrDelivery.Observation

/-!
# What the machine keeps while it works

The stored record is valid, every receipt in it is of an allowed step, and its
phase has been earned by what was read.  Each piece of bookkeeping keeps this
of the working copy too, and a step goes on to its effect only after its
receipt was stored and the record read again.
-/

namespace DodgingInfinity.PrDelivery

open Procedure

/-! ## What a phase is earned by -/

/-- The phases a record reaches with a commit. -/
def committedPhases : List Phase := [.committed, .pushed, .prOpened, .complete]

/-- The phases a record reaches with a push. -/
def pushedPhases : List Phase := [.pushed, .prOpened, .complete]

/-- The recorded commit was read to be the authorized change: its parent and
tree are its receipt's, its difference from that parent is the candidate, and
a `prUpdate` commit has the approved head for its complete parent list. -/
structure Committed (record : Record) (site : Site) (commit : Oid)
    (binding : CommitBinding) : Prop where
  receipt : ∃ receipt, record.steps.commit.receipt = some receipt ∧
    receipt.binding = .commit binding ∧ receipt.observed = some (.committed commit)
  parentAndTree : Heard site (.commitParentAndTree (some commit))
    (some binding.headBefore, some binding.expectedTreeOid)
  difference : ∃ raw entries, Heard site (.diffTreeRaw binding.headBefore commit) raw ∧
      raw.entries = .ok entries ∧ compare record.authority.candidate.entries entries = none
  parents : record.mode = .prUpdate → Heard site (.commitParents (some commit))
    [record.authority.originalBaseline.commitSha]

/-- The pull request was read to be the authorized one, at the recorded
commit. -/
def Viewed (record : Record) (site : Site) : Prop :=
  ∃ commit view update, recordedCommit record = some commit ∧
    record.authority.kind = .prUpdate update ∧
    Heard site (.ghPrView update.pullRequestNumber) (some view) ∧
    prUpdateIdentityProblem (some view) record.authority update.pullRequestNumber commit = none

/-- What the phase of a record has been earned by. -/
structure Earned (record : Record) (site : Site) : Prop where
  committed : record.phase ∈ committedPhases →
    ∃ commit binding, Committed record site commit binding
  pushed : record.phase ∈ pushedPhases → ∃ receipt binding,
    record.steps.push.receipt = some receipt ∧ receipt.binding = .push binding
  viewed : record.phase = .complete → record.mode = .prUpdate → Viewed record site

/-- A `prUpdate` push goes onto the approved head. -/
def OnApprovedHead (authority : Authority) (receipt : Receipt) : Prop :=
  authority.kind.mode = .prUpdate → ∀ binding, receipt.binding = .push binding →
    binding.expectedRemoteOldOid = authority.originalBaseline.commitSha

/-- Every receipt is of an allowed step. -/
def Permitted (record : Record) : Prop :=
  ∀ step receipt, (record.steps.get step).receipt = some receipt →
    step ∈ record.authority.allowedActions ∧ OnApprovedHead record.authority receipt

variable {record other : Record} {site next : Site}

theorem Committed.congr
    {commit : Oid} {binding : CommitBinding} (h : Committed record site commit binding)
    (hauthority : other.authority = record.authority)
    (hcommit : other.steps.commit.receipt = record.steps.commit.receipt)
    (hlog : ∀ exchange ∈ site.log, exchange ∈ next.log) :
    Committed other next commit binding := by
  obtain ⟨raw, entries, hheard, hentries, hsame⟩ := h.difference
  refine ⟨hcommit ▸ h.receipt, hlog _ h.parentAndTree,
    ⟨raw, entries, hlog _ hheard, hentries, hauthority ▸ hsame⟩, fun hmode => ?_⟩
  have hbefore : record.mode = .prUpdate := by
    rw [← hmode, Record.mode, Record.mode, hauthority]
  rw [hauthority]
  exact hlog _ (h.parents hbefore)

theorem recordedCommit_congr (hcommit : other.steps.commit.receipt = record.steps.commit.receipt) :
    recordedCommit other = recordedCommit record := by
  have hget : ∀ record : Record, (record.steps.get .commit).receipt = record.steps.commit.receipt :=
    fun _ => rfl
  simp only [recordedCommit, hget, hcommit]

theorem Viewed.congr (h : Viewed record site) (hauthority : other.authority = record.authority)
    (hcommit : other.steps.commit.receipt = record.steps.commit.receipt)
    (hlog : ∀ exchange ∈ site.log, exchange ∈ next.log) :
    Viewed other next := by
  obtain ⟨commit, view, update, hrecorded, hkind, hheard, hnone⟩ := h
  exact ⟨commit, view, update, (recordedCommit_congr hcommit).trans hrecorded,
    hauthority ▸ hkind, hlog _ hheard, hauthority ▸ hnone⟩

/-- What a phase was earned by stays, while the receipts it rests on do. -/
theorem Earned.congr (h : Earned record site) (hauthority : other.authority = record.authority)
    (hphase : other.phase = record.phase) (hcommit : other.phase ∈ committedPhases →
      other.steps.commit.receipt = record.steps.commit.receipt)
    (hpush : other.phase ∈ pushedPhases → other.steps.push.receipt = record.steps.push.receipt)
    (hlog : ∀ exchange ∈ site.log, exchange ∈ next.log) :
    Earned other next := by
  refine ⟨fun hin => ?_, fun hin => ?_, fun hcomplete hmode => ?_⟩
  · obtain ⟨commit, binding, hcommitted⟩ := h.committed (hphase ▸ hin)
    exact ⟨commit, binding, hcommitted.congr hauthority (hcommit hin) hlog⟩
  · obtain ⟨receipt, binding, hreceipt, hbinding⟩ := h.pushed (hphase ▸ hin)
    exact ⟨receipt, binding, (hpush hin).trans hreceipt, hbinding⟩
  · have hbefore : record.mode = .prUpdate := by
      rw [← hmode, Record.mode, Record.mode, hauthority]
    refine (h.viewed (hphase ▸ hcomplete) hbefore).congr hauthority (hcommit ?_) hlog
    simp [hcomplete, committedPhases]

/-- A stopped record has nothing to earn. -/
theorem Earned.stopped (h : record.phase = .blocked ∨ record.phase = .revoked) :
    Earned record site := by
  rcases h with h | h <;> exact ⟨by simp [h, committedPhases],
    by simp [h, pushedPhases], by simp [h]⟩

/-! ## The stored record and the working copy -/

/-- The exchange stored a record. -/
def Exchange.stores : Exchange → Prop
  | ⟨.save _, .ok _⟩ => True
  | _ => False

/-- A receipt without a proven result has an entry that says so, as long as
the record goes on. -/
def Aligned (record : Record) : Prop :=
  record.phase ∉ terminalPhases → ∀ step receipt, (record.steps.get step).receipt = some receipt →
      receipt.state ∈ [.executing, .failedRetryable] →
        (record.steps.get step).state ∈ [.executing, .failedRetryable]

theorem Aligned.congr (h : Aligned record)
    (hphase : other.phase = record.phase) (hsteps : other.steps = record.steps) :
    Aligned other := by
  unfold Aligned at h ⊢
  rwa [hphase, hsteps]

theorem Aligned.terminal (h : record.phase ∈ terminalPhases) : Aligned record :=
  fun hgoes => absurd h hgoes

/-- The stored record has these steps and this phase, unless it was revoked
since. -/
structure Synced (steps : StepEntries) (phase : Phase) (site : Site) : Prop where
  steps : site.stored.steps = steps
  phase : site.stored.phase = phase ∨ isRevoked site.stored = true

/-- The store holds what was read of a record, unless it was revoked since. -/
structure Unmoved (fresh : Record) (site : Site) : Prop where
  authority : site.stored.authority = fresh.authority
  synced : Synced fresh.steps fresh.phase site

/-- The last answer was this record. -/
def JustRead (fresh : Record) (site : Site) : Prop :=
  (∃ older, site.log = ⟨.load fresh.deliveryId,
    (.ok ⟨fresh, rfl⟩ : Except Failure _)⟩ :: older) ∧ Unmoved fresh site

/-- Since the last save this record was read, and then the clock. -/
def ReadAgain (fresh : Record) (now : Time) (site : Site) : Prop :=
  (∃ recent older, site.log = recent ++ ⟨.clock, now⟩ ::
      ⟨.load fresh.deliveryId, (.ok ⟨fresh, rfl⟩ : Except Failure _)⟩ :: older ∧
    ∀ exchange ∈ recent, ¬ exchange.stores) ∧ Unmoved fresh site

/-- Since the last save the record was read again, and then found neither
revoked nor expired. -/
def Rechecked (site : Site) : Prop :=
  ∃ fresh now, ReadAgain fresh now site ∧ fresh.phase ∉ terminalPhases ∧
    isRevoked fresh = false ∧ isExpired fresh now = false

/-- The stored record holds an executing receipt of the step under its own
authority, of an allowed action, and was read again since. -/
structure WriteAhead (site : Site) (step : Step) : Prop where
  executing : ∃ receipt, executingReceipt site.stored step = some receipt ∧ receipt.step = step ∧
    receipt.parentAuthorityDigest = site.stored.authority.authorityDigest
  allowed : step ∈ site.stored.authority.allowedActions
  rechecked : Rechecked site

/-- A ref move over a base refresh receipt that is stored as failed. -/
def Repeats (site : Site) (verb : Verb) : Prop :=
  (∃ ref newOid oldOid, verb = .updateRef ref newOid oldOid) ∧
    ∃ receipt, site.stored.steps.baseRefresh.receipt = some receipt ∧
      receipt.state = .failedRetryable

/-- The rule every effect of the machine keeps. -/
def Ruled (site : Site) (verb : Verb) (step : Step) : Prop :=
  WriteAhead site step ∨ Repeats site verb

variable [JsonDigest]

/-- What holds of the site in every run under an authority. -/
structure Sound (authority : Authority) (site : Site) : Prop where
  authority : site.stored.authority = authority
  valid : validateAuthorization site.stored = .ok ()
  earned : Earned site.stored site
  permitted : Permitted site.stored
  aligned : Aligned site.stored

/-- What holds of the working copy too, in a phase. -/
structure Working (authority : Authority) (phase : Phase) (record : Record)
    (site : Site) : Prop where
  sound : Sound authority site
  authority : record.authority = authority
  phase : record.phase = phase
  earned : Earned record site
  permitted : Permitted record
  aligned : Aligned record

variable {authority : Authority}

theorem Sound.later (h : Sound authority site) (hstored : next.stored = site.stored)
    (hlog : ∀ exchange ∈ site.log, exchange ∈ next.log) : Sound authority next :=
  ⟨hstored ▸ h.authority, hstored ▸ h.valid,
    hstored ▸ h.earned.congr rfl rfl (fun _ => rfl) (fun _ => rfl) hlog,
    hstored ▸ h.permitted, hstored ▸ h.aligned⟩

omit [JsonDigest] in
theorem Permitted.congr (h : Permitted record) (hauthority : other.authority = record.authority)
    (hsteps : other.steps = record.steps) : Permitted other := by
  intro step receipt hreceipt
  rw [hauthority]
  exact h step receipt (hsteps ▸ hreceipt)

theorem Sound.drift (h : Sound authority site) (hdrift : site.Drifts next) :
    Sound authority next := by
  cases hdrift with
  | elsewhere others => exact h.later rfl fun _ hin => hin
  | revoked revokedBy reason now after hrevoked hvalid =>
      obtain ⟨hauthority, hsteps, -, -, hphase⟩ := revokedRecord_eq_ok hrevoked
      refine ⟨hauthority.trans h.authority, hvalid, ?_,
        h.permitted.congr hauthority hsteps, Aligned.terminal ?_⟩
      · rcases hphase with hphase | ⟨hphase, -⟩
        · exact Earned.stopped (.inr hphase)
        · exact h.earned.congr hauthority hphase (fun _ => by rw [hsteps])
            (fun _ => by rw [hsteps]) fun _ hin => hin
      · rcases hphase with hphase | ⟨hphase, hterminal⟩
        · simp [hphase, terminalPhases]
        · exact hphase ▸ hterminal

theorem steady_working (authority : Authority) (phase : Phase) :
    Steady (Working authority phase) := by
  refine ⟨fun h hdrift => ⟨h.sound.drift hdrift, h.authority, h.phase, ?_,
    h.permitted, h.aligned⟩, fun _ _ h => ⟨h.sound.later rfl fun _ hin =>
      List.mem_cons_of_mem _ hin, h.authority, h.phase, ?_, h.permitted, h.aligned⟩⟩
  · exact h.earned.congr rfl rfl (fun _ => rfl) (fun _ => rfl) fun _ hin => by
      rwa [hdrift.log]
  · exact h.earned.congr rfl rfl (fun _ => rfl) (fun _ => rfl)
      fun _ hin => List.mem_cons_of_mem _ hin

theorem Site.Drifts.kept (h : site.Drifts next) : next.stored.authority = site.stored.authority ∧
      next.stored.steps = site.stored.steps := by
  cases h with
  | elsewhere others => exact ⟨rfl, rfl⟩
  | revoked revokedBy reason now after hrevoked hvalid =>
      exact ⟨(revokedRecord_eq_ok hrevoked).1, (revokedRecord_eq_ok hrevoked).2.1⟩

variable {phase : Phase}

/-- What is stored changes its phase only by a revocation. -/
theorem Site.Drifts.synced {steps : StepEntries} (h : site.Drifts next)
    (hsynced : Synced steps phase site) :
    Synced steps phase next := by
  refine ⟨h.kept.2.trans hsynced.steps, ?_⟩
  cases h with
  | elsewhere others => exact hsynced.phase
  | revoked revokedBy reason now after hrevoked hvalid =>
      exact .inr (isRevoked_of_revokedRecord hrevoked)

variable {fresh : Record}

theorem Site.Drifts.unmoved
    (h : site.Drifts next) (hunmoved : Unmoved fresh site) : Unmoved fresh next :=
  ⟨h.kept.1.trans hunmoved.authority, h.synced hunmoved.synced⟩

theorem JustRead.drift (h : JustRead fresh site) (hdrift : site.Drifts next) :
    JustRead fresh next := by
  obtain ⟨⟨older, hlog⟩, hunmoved⟩ := h
  exact ⟨⟨older, hdrift.log.trans hlog⟩, hdrift.unmoved hunmoved⟩

theorem steady_readAgain (fresh : Record) (now : Time) :
    Steady fun _ site => ReadAgain fresh now site := by
  refine ⟨fun h hdrift => ?_, fun {record site call} answer hcall h => ?_⟩
  · obtain ⟨⟨recent, older, hlog, hrecent⟩, hunmoved⟩ := h
    exact ⟨⟨recent, older, hdrift.log.trans hlog, hrecent⟩, hdrift.unmoved hunmoved⟩
  · obtain ⟨⟨recent, older, hlog, hrecent⟩, hunmoved⟩ := h
    refine ⟨⟨⟨call, answer⟩ :: recent, older, by simp [hlog], ?_⟩,
      ⟨hunmoved.authority, ⟨hunmoved.synced.steps, hunmoved.synced.phase⟩⟩⟩
    intro exchange hin
    rcases List.mem_cons.mp hin with rfl | hbefore
    · cases call with
      | save saved => exact absurd rfl (hcall saved)
      | _ => exact id
    · exact hrecent exchange hbefore

theorem steady_rechecked : Steady fun _ site => Rechecked site := by
  refine ⟨fun h hdrift => ?_, fun answer hcall h => ?_⟩
  · obtain ⟨fresh, now, hread, hfresh⟩ := h
    exact ⟨fresh, now, (steady_readAgain fresh now).driftSite hread hdrift, hfresh⟩
  · obtain ⟨fresh, now, hread, hfresh⟩ := h
    exact ⟨fresh, now, (steady_readAgain fresh now).hearSite answer hcall hread, hfresh⟩

theorem steady_writeAhead (step : Step) :
    Steady fun _ site => WriteAhead site step := by
  refine ⟨fun {_ site next} h hdrift => ?_, fun answer hcall h =>
    ⟨h.executing, h.allowed, steady_rechecked.hearSite answer hcall h.rechecked⟩⟩
  obtain ⟨hauthority, hsteps⟩ := hdrift.kept
  have hreceipt : executingReceipt next.stored step =
      executingReceipt site.stored step := by
    simp only [executingReceipt, hsteps]
  refine ⟨?_, hauthority ▸ h.allowed, steady_rechecked.driftSite h.rechecked hdrift⟩
  rw [hreceipt, hauthority]
  exact h.executing

/-! ## Bookkeeping -/

/-- The faults that `settle` records. -/
def Fault.isCaught : Fault → Bool
  | .block _ | .retry | .receipt _ | .candidate _ | .transport => true
  | .authorization _ | .store _ | .expectedStep | .typeError => false

/-- A fault that is recorded leaves the working copy fit for it. -/
def Falls (authority : Authority) (phase : Phase) (fault : Fault)
    (record : Record) (site : Site) : Prop :=
  Sound authority site ∧ (fault.isCaught = true → Working authority phase record site)

/-- A fault that nothing records. -/
def Breaks (authority : Authority) (fault : Fault) (_ : Record) (site : Site) : Prop :=
  Sound authority site ∧ fault.isCaught = false

variable {fault : Fault}

omit [JsonDigest] in
theorem Fault.breaks_of (h : fault.isCaught = false) :
    fault.isCaught = true → False := by
  simp [h]

theorem Breaks.falls (h : Breaks authority fault record site) :
    Falls authority phase fault record site :=
  ⟨h.1, fun hcaught => (Fault.breaks_of h.2 hcaught).elim⟩

theorem Working.falls (h : Working authority phase record site) :
    Falls authority phase fault record site :=
  ⟨h.sound, fun _ => h⟩

theorem Working.congr (h : Working authority phase record site)
    (hauthority : other.authority = record.authority)
    (hphase : other.phase = record.phase) (hsteps : other.steps = record.steps) :
    Working authority phase other site :=
  ⟨h.sound, hauthority.trans h.authority, hphase.trans h.phase,
    h.earned.congr hauthority hphase (fun _ => by rw [hsteps])
      (fun _ => by rw [hsteps]) fun _ hin => hin,
    h.permitted.congr hauthority hsteps, h.aligned.congr hphase hsteps⟩

end DodgingInfinity.PrDelivery
