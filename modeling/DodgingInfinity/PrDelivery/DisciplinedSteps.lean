import DodgingInfinity.PrDelivery.Discipline

/-!
# Every step keeps the discipline

One lemma for each piece of a step, in the order of the definitions: as long as
no revocation was read, the piece carries the working copy's revocation along.
-/

namespace DodgingInfinity.PrDelivery

variable {deliveryId : String}

theorem live_blockIf (bad : Prop) {_ : Decidable bad} (problem : Problem) :
    Live deliveryId (blockIf bad problem) :=
  .ite (live_stop _) (live_pure _)

theorem live_parsed {α : Type} (result : Except Problem α) :
    Live deliveryId (parsed result) := by
  cases result with
  | ok value => exact live_pure value
  | error problem => exact live_stop _

theorem live_orBlock {α : Type} (problem : Problem) (value : Option α) :
    Live deliveryId (orBlock problem value) := by
  cases value with
  | none => exact live_stop _
  | some held => exact live_pure held

theorem Live.onTransportError {α : Type} {first handler : Act α}
    (hfirst : Live deliveryId first) (hhandler : Live deliveryId handler) :
    Live deliveryId (onTransportError first handler) := by
  refine hfirst.onFault (fun fault => ?_) fun fault hpassed => ?_
  · cases fault with
    | transport => exact hhandler
    | _ => exact live_stop _
  · cases fault with
    | transport => cases hpassed
    | _ => rfl

theorem Live.orRetry {α : Type} {first : Act α}
    (hfirst : Live deliveryId first) : Live deliveryId (orRetry first) :=
  hfirst.onTransportError (live_stop _)

theorem Live.afterCommit {α : Type} {first : Act α}
    (hfirst : Live deliveryId first) : Live deliveryId (afterCommit first) := by
  refine hfirst.onFault (fun fault => ?_) fun fault hpassed => ?_
  · split <;> exact live_stop _
  · split
    · cases hpassed
    · rfl

theorem live_change {f : Record → Record}
    (hrevocation : ∀ record, (f record).revocation = record.revocation)
    (hauthority : ∀ record, (f record).deliveryId = record.deliveryId) :
    Live deliveryId (change f : Act Unit) :=
  (settles_change hrevocation hauthority).live

theorem live_modifyEntry (step : Step) (f : StepEntry → StepEntry) :
    Live deliveryId (modifyEntry step f) :=
  (settles_modifyEntry step f).live

theorem live_setReceiptState (step : Step) (state : ReceiptState) :
    Live deliveryId (setReceiptState step state) :=
  live_modifyEntry step _

theorem live_void (step : Step) : Live deliveryId (void step) :=
  (settles_void step).live

theorem live_transition (new : Phase) : Live deliveryId (transition new) :=
  (settles_transition new).live

/-! ## Live facts -/

theorem live_checkRepository (requireBranch : Bool) :
    Live deliveryId (checkRepository requireBranch) := by
  refine live_read.bind fun record => ?_
  refine (live_ask _).bind fun _ => (live_blockIf _ _).bind fun _ => ?_
  refine (live_ask _).bind fun _ => (live_blockIf _ _).bind fun _ => ?_
  refine (live_ask _).bind fun _ => (live_ask _).bind fun _ =>
    (live_ask _).bind fun _ => ?_
  refine (live_blockIf _ _).bind fun _ => (live_blockIf _ _).bind fun _ =>
    (live_blockIf _ _).bind fun _ => ?_
  exact .ite ((live_ask _).bind fun _ => live_blockIf _ _) (live_pure _)

theorem live_liveCandidate (baseOid : Oid) : Live deliveryId (liveCandidate baseOid) :=
  (live_ask _).bind fun _ => (live_blockIf _ _).bind fun _ =>
    (live_ask _).bind fun _ => live_parsed _

theorem live_requireCandidateMatches (entries : List CandidateEntry) :
    Live deliveryId (requireCandidateMatches entries) := by
  refine live_read.bind fun record => ?_
  split
  · exact live_stop _
  · exact live_pure _

theorem live_requireUpdateCandidate (baseOid : Oid) :
    Live deliveryId (requireUpdateCandidate baseOid) :=
  (live_ask _).bind fun _ => (live_parsed _).bind fun _ =>
    (live_ask _).bind fun _ => (live_parsed _).bind fun _ =>
      (live_requireCandidateMatches _).bind fun _ =>
        live_read.bind fun _ => live_blockIf _ _

theorem live_prUpdateAuthority : Live deliveryId prUpdateAuthority := by
  refine live_read.bind fun record => ?_
  cases record.authority.kind with
  | pullRequest => exact live_stop _
  | prUpdate authority => exact live_pure _

theorem live_requirePrUpdateIdentity (expectedHead : Oid) :
    Live deliveryId (requirePrUpdateIdentity expectedHead) := by
  refine live_read.bind fun record => live_prUpdateAuthority.bind fun _ => ?_
  refine (live_ask _).bind fun viewed => ?_
  split
  · exact live_stop _
  · exact (live_ask _).bind fun _ => live_blockIf _ _

theorem live_pendingAmong (names : List String) :
    Live deliveryId (pendingAmong names) := by
  induction names with
  | nil => exact live_pure _
  | cons name rest ih => exact (live_ask _).bind fun _ => .ite (live_pure _) ih

theorem live_pendingHistory : Live deliveryId pendingHistory :=
  live_pendingAmong _

theorem live_requireNoPendingHistory : Live deliveryId requireNoPendingHistory :=
  live_pendingHistory.bind fun _ => live_blockIf _ _

theorem live_requireOneNewCommit (commitOid : Option Oid) (parentOid : Oid) :
    Live deliveryId (requireOneNewCommit commitOid parentOid) :=
  (live_ask _).bind fun _ => live_blockIf _ _

theorem live_remoteBase : Live deliveryId remoteBase :=
  live_read.bind fun _ => (live_ask _).bind fun _ => live_orBlock _ _

theorem live_baseCi (oid : Oid) : Live deliveryId (baseCi oid) :=
  (live_ask _).orRetry.bind fun _ => .ite (live_pure _)
    ((live_blockIf _ _).bind fun _ => live_pure _)

theorem live_reverify : Live deliveryId reverify :=
  live_read.bind fun _ => (live_ask _).bind fun _ =>
    (live_blockIf _ _).bind fun _ => live_pure _

theorem live_leftReceipt (step : Step) : Live deliveryId (leftReceipt step) :=
  live_read.bind fun _ => live_pure _

theorem live_proveDisjointAdvance [FramedDigest] (oldOid newOid : Oid) :
    Live deliveryId (proveDisjointAdvance oldOid newOid) := by
  refine live_read.bind fun record => (live_ask _).bind fun _ => ?_
  refine (live_ask _).bind fun _ => (live_blockIf _ _).bind fun _ => ?_
  refine (live_ask _).bind fun _ => (live_blockIf _ _).bind fun _ => ?_
  refine (live_ask _).bind fun _ => (live_parsed _).bind fun _ => ?_
  exact (live_blockIf _ _).bind fun _ => live_pure _

theorem live_indexMatches (baseOid : Oid) : Live deliveryId (indexMatches baseOid) :=
  live_read.bind fun _ => (live_ask _).bind fun _ =>
    (live_parsed _).bind fun _ => live_pure _

section Steps

variable [JsonDigest]

theorem live_persist : Live deliveryId persist := settles_persist.live

theorem live_succeed (step : Step) (observed : Observed) (new : Phase) :
    Live deliveryId (succeed step observed new) :=
  (settles_succeed step observed new).live

/-! ## Base refresh -/

theorem live_finishBaseRefresh (newBase : Oid) :
    Live deliveryId (finishBaseRefresh newBase) := by
  refine (live_liveCandidate _).bind fun _ => ?_
  refine (live_requireCandidateMatches _).bind fun _ => ?_
  refine (live_baseCi _).bind fun _ => live_reverify.bind fun _ => ?_
  refine live_clock.bind fun _ => ?_
  refine (live_change (by intro _; rfl) (by intro _; rfl)).bind fun _ => ?_
  exact live_succeed _ _ _

theorem live_reconcileBaseRefresh (binding : BaseRefreshBinding) :
    Live deliveryId (reconcileBaseRefresh binding) := by
  refine live_read.bind fun record => (live_ask _).bind fun head => ?_
  refine .ite ((live_setReceiptState _ _).bind fun _ =>
    live_finishBaseRefresh _) ?_
  refine (live_blockIf _ _).bind fun _ => (live_indexMatches _).bind fun _ => ?_
  refine .ite ?_ ?_
  · exact (live_setReceiptState _ _).bind fun _ =>
      (live_ask _).orRetry.bind fun _ => live_finishBaseRefresh _
  · exact (live_indexMatches _).bind fun _ =>
      .ite ((live_void _).bind fun _ => live_persist) (live_stop _)

variable [FramedDigest]

theorem live_deriveBaseRefresh : Live deliveryId deriveBaseRefresh := by
  refine live_read.bind fun record => ?_
  refine (live_ask _).bind fun _ => (live_blockIf _ _).bind fun _ => ?_
  refine (live_liveCandidate _).bind fun _ => ?_
  refine (live_requireCandidateMatches _).bind fun _ => ?_
  refine live_remoteBase.bind fun newBase => .ite ?_ ?_
  · exact (live_modifyEntry _ _).bind fun _ =>
      (live_transition _).bind fun _ => live_persist
  · refine (live_proveDisjointAdvance _ _).bind fun changed => ?_
    refine (live_start _ _).bind fun _ => ?_
    refine (live_ask _).orRetry.bind fun _ => ?_
    exact (live_ask _).orRetry.bind fun _ => live_finishBaseRefresh _

theorem live_stepBaseRefresh : Live deliveryId stepBaseRefresh := by
  refine (live_checkRepository _).bind fun _ => ?_
  refine (live_leftReceipt _).bind fun left => ?_
  cases left with
  | none => exact live_deriveBaseRefresh
  | some receipt =>
      dsimp only
      cases receipt.binding with
      | baseRefresh binding => exact live_reconcileBaseRefresh binding
      | _ => exact live_stop _

/-! ## Commit -/

omit [JsonDigest] [FramedDigest] in
theorem live_requireUpdateCommit (commitOid : Option Oid) :
    Live deliveryId (requireUpdateCommit commitOid) :=
  live_read.bind fun _ => .ite (live_requireOneNewCommit _ _) (live_pure _)

omit [FramedDigest] in
theorem live_observeCommit (binding : CommitBinding) :
    Live deliveryId (observeCommit binding) := by
  refine (live_ask _).bind fun newHead => (live_ask _).bind fun _ => ?_
  refine (live_blockIf _ _).bind fun _ => ?_
  refine (live_requireUpdateCommit _).bind fun _ => ?_
  cases newHead with
  | none => exact live_stop _
  | some commitOid =>
      exact (live_ask _).bind fun _ => (live_parsed _).bind fun _ =>
        (live_requireCandidateMatches _).bind fun _ => live_succeed _ _ _

omit [FramedDigest] in
theorem live_reconcileCommit (binding : CommitBinding) :
    Live deliveryId (reconcileCommit binding) := by
  refine (live_ask _).bind fun head => .ite ?_ ?_
  · exact (live_void _).bind fun _ => live_persist.bind fun _ => live_pure _
  · refine (live_ask _).bind fun _ => (live_blockIf _ _).bind fun _ => ?_
    refine (live_requireUpdateCommit _).bind fun _ => ?_
    exact (live_setReceiptState _ _).bind fun _ =>
      (live_observeCommit _).bind fun _ => live_pure _

omit [JsonDigest] [FramedDigest] in
theorem live_commitFailed (update : Bool) (current : Oid) :
    Live deliveryId (commitFailed update current) := by
  refine .ite ?_ (live_stop _)
  refine (live_ask _).bind fun _ => .ite ?_ (live_stop _)
  refine live_pendingHistory.bind fun pending => ?_
  cases pending with
  | none => exact live_stop _
  | some name => exact (live_void _).bind fun _ => live_stop _

omit [JsonDigest] [FramedDigest] in
theorem live_requireStaged (staged : Digest) :
    Live deliveryId (requireStaged staged) := by
  refine live_read.bind fun record => ?_
  cases record.authority.kind with
  | pullRequest => exact live_pure _
  | prUpdate authority => exact live_blockIf _ _

omit [JsonDigest] [FramedDigest] in
theorem live_requireStagedCandidate (current : Oid) :
    Live deliveryId (requireStagedCandidate current) := by
  refine live_read.bind fun record => .ite ?_ ?_
  · exact live_requireNoPendingHistory.bind fun _ =>
      (live_requirePrUpdateIdentity _).bind fun _ =>
        live_requireUpdateCandidate _
  · exact (live_liveCandidate _).bind fun _ => live_requireCandidateMatches _

omit [FramedDigest] in
theorem live_deriveCommit : Live deliveryId deriveCommit := by
  refine live_read.bind fun record => ?_
  refine (live_ask _).bind fun _ => (live_blockIf _ _).bind fun _ => ?_
  refine (live_requireStagedCandidate _).bind fun _ => ?_
  refine (live_ask _).bind fun _ => (live_requireStaged _).bind fun _ => ?_
  refine (live_ask _).bind fun _ => (live_start _ _).bind fun _ => ?_
  exact ((live_ask _).onTransportError (live_commitFailed _ _)).bind fun _ =>
    live_observeCommit _

omit [FramedDigest] in
theorem live_stepCommit : Live deliveryId stepCommit := by
  refine (live_checkRepository _).bind fun _ => ?_
  refine (live_leftReceipt _).bind fun left => ?_
  cases left with
  | none => exact live_deriveCommit
  | some receipt =>
      dsimp only
      cases receipt.binding with
      | commit binding =>
          exact (live_reconcileCommit binding).bind fun _ =>
            .ite (live_pure _) live_deriveCommit
      | _ => exact live_stop _

theorem live_handlePostCommitAdvance (commit : Oid) :
    Live deliveryId (handlePostCommitAdvance commit) := by
  refine live_read.bind fun record => live_remoteBase.bind fun newBase => ?_
  refine .ite (live_pure _) ?_
  refine (live_proveDisjointAdvance _ _).afterCommit.bind fun _ => ?_
  refine (live_ask _).bind fun _ => (live_parsed _).bind fun _ => ?_
  refine (live_requireCandidateMatches _).bind fun _ => ?_
  refine (live_baseCi _).bind fun _ => live_clock.bind fun _ => ?_
  exact (live_change (by intro _; rfl) (by intro _; rfl)).bind fun _ =>
    live_persist

/-! ## Push -/

omit [JsonDigest] [FramedDigest] in
theorem live_commitOid : Live deliveryId commitOid :=
  live_read.bind fun _ => live_orBlock _ _

omit [FramedDigest] in
theorem live_observePush (binding : PushBinding) : Live deliveryId (observePush binding) :=
  (live_ask _).bind fun _ => (live_blockIf _ _).bind fun _ =>
    live_succeed _ _ _

omit [FramedDigest] in
theorem live_reconcilePush (binding : PushBinding) :
    Live deliveryId (reconcilePush binding) := by
  refine (live_ask _).bind fun remoteOid => .ite ?_ ?_
  · exact (live_setReceiptState _ _).bind fun _ =>
      (live_succeed _ _ _).bind fun _ => live_pure _
  · exact (live_blockIf _ _).bind fun _ => (live_void _).bind fun _ =>
      live_persist.bind fun _ => live_pure _

theorem live_pushOldOid (commit : Oid) :
    Live deliveryId (pushOldOid commit) := by
  refine live_read.bind fun record => ?_
  refine (live_handlePostCommitAdvance _).bind fun _ => ?_
  refine (live_ask _).bind fun held => ?_
  cases held with
  | none => exact live_pure _
  | some oid =>
      exact .ite (live_pure _) ((live_ask _).bind fun _ =>
        (live_blockIf _ _).bind fun _ => live_pure _)

omit [JsonDigest] [FramedDigest] in
theorem live_prUpdatePushOldOid (commit : Oid) : Live deliveryId (prUpdatePushOldOid commit) :=
  live_read.bind fun _ => (live_requireOneNewCommit _ _).bind fun _ =>
    (live_requirePrUpdateIdentity _).bind fun _ => live_pure _

theorem live_expectedRemoteOld (commit : Oid) : Live deliveryId (expectedRemoteOld commit) :=
  live_read.bind fun _ => .ite (live_prUpdatePushOldOid _) (live_pushOldOid _)

theorem live_derivePush (commit : Oid) :
    Live deliveryId (derivePush commit) := by
  refine live_read.bind fun record => ?_
  refine (live_ask _).bind fun _ => (live_blockIf _ _).bind fun _ => ?_
  refine (live_expectedRemoteOld _).bind fun expectedOld => ?_
  refine (live_start _ _).bind fun _ => .ite (live_succeed _ _ _) ?_
  exact (live_ask _).orRetry.bind fun _ => live_observePush _

theorem live_stepPush : Live deliveryId stepPush := by
  refine (live_checkRepository _).bind fun _ => live_commitOid.bind fun commit => ?_
  refine (live_leftReceipt _).bind fun left => ?_
  cases left with
  | none => exact live_derivePush _
  | some receipt =>
      dsimp only
      cases receipt.binding with
      | push binding =>
          exact (live_reconcilePush binding).bind fun _ =>
            .ite (live_pure _) (live_derivePush _)
      | _ => exact live_stop _

/-! ## Pull request -/

omit [JsonDigest] [FramedDigest] in
theorem live_prDisposition (headSha : Oid) :
    Live deliveryId (prDisposition headSha) := by
  refine live_read.bind fun record => (live_ask _).bind fun listed => ?_
  refine (live_blockIf _ _).bind fun _ => ?_
  split
  · exact live_pure _
  · exact live_pure _
  · exact live_stop _

omit [JsonDigest] [FramedDigest] in
theorem live_recordPullRequest (view : PrView) :
    Live deliveryId (recordPullRequest view) := by
  refine live_read.bind fun record => ?_
  split
  · exact live_stop _
  · split
    · exact .ite (live_stop _) (live_stop _)
    · exact (live_blockIf _ _).bind fun _ =>
        live_change (by intro _; rfl) (by intro _; rfl)

omit [FramedDigest] in
theorem live_adoptPr (item : PrView) (reconciled : Bool) :
    Live deliveryId (adoptPr item reconciled) := by
  unfold adoptPr
  cases item.number with
  | none => exact live_stop _
  | some number =>
      refine (live_ask _).bind fun viewed => live_read.bind fun record => ?_
      split
      · refine (live_blockIf _ _).bind fun _ => ?_
        refine (live_recordPullRequest _).bind fun _ => ?_
        refine live_read.bind fun record => ?_
        cases record.pullRequest with
        | none => exact live_stop _
        | some pullRequest =>
            exact (live_succeed _ _ _).bind fun _ =>
              (live_transition _).bind fun _ => live_persist
      · exact live_stop _

omit [FramedDigest] in
theorem live_reconcilePrCreate (binding : PrCreateBinding) :
    Live deliveryId (reconcilePrCreate binding) := by
  refine (live_prDisposition _).bind fun existing => ?_
  cases existing with
  | none =>
      exact (live_void _).bind fun _ => live_persist.bind fun _ => live_pure _
  | some view =>
      exact (live_setReceiptState _ _).bind fun _ =>
        (live_adoptPr _ _).bind fun _ => live_pure _

omit [FramedDigest] in
theorem live_createPr (headSha : Oid) : Live deliveryId (createPr headSha) :=
  live_read.bind fun _ => (live_ask _).orRetry.bind fun _ =>
    (live_prDisposition _).bind fun _ => (live_orBlock _ _).bind fun _ =>
      live_adoptPr _ _

theorem live_derivePrCreate (headSha : Oid) :
    Live deliveryId (derivePrCreate headSha) := by
  refine (live_handlePostCommitAdvance _).bind fun _ => ?_
  refine live_read.bind fun record => ?_
  refine (live_ask _).bind fun _ => (live_blockIf _ _).bind fun _ => ?_
  refine (live_start _ _).bind fun _ => ?_
  refine (live_prDisposition _).bind fun existing => ?_
  cases existing with
  | none => exact live_createPr _
  | some view => exact live_adoptPr _ _

theorem live_stepPrCreate : Live deliveryId stepPrCreate := by
  refine (live_checkRepository _).bind fun _ => live_commitOid.bind fun commit => ?_
  refine (live_leftReceipt _).bind fun left => ?_
  cases left with
  | none => exact live_derivePrCreate _
  | some receipt =>
      dsimp only
      cases receipt.binding with
      | prCreate binding =>
          exact (live_reconcilePrCreate binding).bind fun _ =>
            .ite (live_pure _) (live_derivePrCreate _)
      | _ => exact live_stop _

omit [FramedDigest] in
theorem live_observePrUpdate : Live deliveryId observePrUpdate := by
  refine (live_checkRepository _).bind fun _ => live_commitOid.bind fun _ => ?_
  refine live_read.bind fun record => (live_ask _).bind fun _ => ?_
  refine (live_blockIf _ _).bind fun _ => live_prUpdateAuthority.bind fun _ => ?_
  refine (live_ask _).bind fun viewed => ?_
  split
  · exact (live_recordPullRequest _).bind fun _ =>
      (live_transition _).bind fun _ => live_persist
  · exact .ite (live_stop _) (live_stop _)
  · exact live_stop _
  · exact live_stop _

theorem live_runStep (step : Option Step) :
    Live deliveryId (runStep step) := by
  match step with
  | none => exact live_observePrUpdate
  | some .baseRefresh => exact live_stepBaseRefresh
  | some .commit => exact live_stepCommit
  | some .push => exact live_stepPush
  | some .prCreate => exact live_stepPrCreate

/-! ## The whole drive -/

omit [FramedDigest] in
/-- What ended a step is recorded with the revocation last read, or it ends the
drive. -/
theorem keeps_settle (step : Option Step) (fault : Fault) :
    Procedure.Keeps (discipline deliveryId) (Ends deliveryId fault)
      (settle step fault) (fun _ _ _ => True) fun _ _ _ => True := by
  have hsettles : ∀ {act : Act Outcome}, Settles deliveryId act →
      Procedure.Keeps (discipline deliveryId) (Ends deliveryId fault) act
        (fun _ _ _ => True) fun _ _ _ => True := fun h =>
    (h.current.weaken fun _ _ hends => hends.1).mono
      (fun _ _ _ _ => trivial) fun _ _ _ _ => trivial
  cases fault with
  | block problem =>
      exact hsettles ((settles_block problem).bind fun _ => settles_pure _)
  | retry => exact hsettles ((settles_retry step).bind fun _ => settles_pure _)
  | receipt problem =>
      exact hsettles (.ite ((settles_transition _).bind fun _ =>
        settles_persist.bind fun _ => settles_pure _)
        ((settles_block problem).bind fun _ => settles_pure _))
  | candidate problem =>
      exact hsettles ((settles_block problem).bind fun _ => settles_pure _)
  | transport =>
      exact hsettles ((settles_retry step).bind fun _ => settles_pure _)
  | _ => exact Procedure.keeps_stop _ fun _ _ _ => trivial

omit [JsonDigest] [FramedDigest] in
theorem settles_requireExpectedStep (expected : Option ExpectedStep) :
    Settles deliveryId (requireExpectedStep expected) :=
  settles_read.bind fun _ => .ite (settles_stop rfl) (settles_pure _)

omit [FramedDigest] in
theorem settles_stopRevoked (now : Time) : Settles deliveryId (stopRevoked now) :=
  settles_move (settles_persist.bind fun _ => settles_pure _)

omit [FramedDigest] in
theorem settles_stopExpired : Settles deliveryId stopExpired :=
  (settles_block _).bind fun _ => settles_pure _

omit [JsonDigest] [FramedDigest] in
theorem live_outcomeOf : Live deliveryId outcomeOf :=
  live_read.bind fun _ => live_pure _

/-- Whatever ends it, one drive keeps the discipline, from a working copy that
carries the revocation just read. -/
theorem keeps_drive (expected : Option ExpectedStep) :
    Procedure.Keeps (discipline deliveryId) (Current deliveryId)
      (drive expected) (fun _ _ _ => True) fun _ _ _ => True := by
  have hsettles : ∀ {act : Act Outcome}, Settles deliveryId act →
      Procedure.Keeps (discipline deliveryId) (Current deliveryId) act
        (fun _ _ _ => True) fun _ _ _ => True := fun h =>
    h.current.mono (fun _ _ _ _ => trivial) fun _ _ _ _ => trivial
  refine Procedure.Keeps.bind ((settles_requireExpectedStep expected).current.mono
    (fun _ _ _ h => h) fun _ _ _ _ => trivial) fun _ => ?_
  refine Procedure.Keeps.bind (settles_clock.current.mono
    (fun _ _ _ h => h) fun _ _ _ _ => trivial) fun now => ?_
  intro record seen hcurrent
  show ((if record.phase ∈ terminalPhases then _ else _ : Act Outcome)
    record).Keeps _ _ seen
  by_cases hterminal : record.phase ∈ terminalPhases
  · rw [if_pos hterminal]
    exact trivial
  rw [if_neg hterminal]
  by_cases hrevoked : isRevoked record = true
  · rw [if_pos hrevoked]
    exact hsettles (settles_stopRevoked now) record seen hcurrent
  rw [if_neg hrevoked]
  by_cases hexpired : isExpired record now = true
  · rw [if_pos hexpired]
    exact hsettles settles_stopExpired record seen hcurrent
  rw [if_neg hexpired]
  have hnone : record.revocation = none := by simpa [isRevoked] using hrevoked
  have hlive : Live deliveryId (do
      runStep (stepForPhase record.mode record.phase)
      outcomeOf) :=
    (live_runStep _).bind fun _ => live_outcomeOf
  exact Procedure.Keeps.onFault
    (Procedure.Keeps.mono hlive (fun _ _ _ _ => trivial) fun _ _ _ h => h)
    (keeps_settle _) record seen ⟨hcurrent.1, hcurrent.2.1, hcurrent.1.symm.trans hnone⟩

/-- Every call of `advanceOnce` keeps the discipline, whatever was read
before. -/
theorem keeps_advanceOnce (expected : Option ExpectedStep) (seen : Option Revocation) :
    (advanceOnce deliveryId expected).Keeps (discipline deliveryId)
      (fun _ _ => True) seen := by
  refine ⟨rfl, fun answer => ?_⟩
  match answer with
  | .error failure => exact trivial
  | .ok record =>
      exact (keeps_drive expected record.val record.val.revocation
        ⟨rfl, record.property, trivial⟩).andThen fun _ _ _ => trivial

end Steps

end DodgingInfinity.PrDelivery
