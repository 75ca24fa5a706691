import DodgingInfinity.MissionCore.Withdrawal

/-!
# What each kind of principal can change

An unauthenticated caller can reserve a request id, propose and withdraw; an
operator's attestation can reserve a decision id and record one decision that
issues no more than was requested.  Everything else takes an authenticated
context.
-/

namespace DodgingInfinity.MissionCore

open Checked Relation

/-- The context a call presents; a retention sweep presents none. -/
def ServiceCall.context : ServiceCall → Option Context
  | .mint _ context => some context
  | .propose call => some call.context
  | .withdraw _ _ _ context => some context
  | .decide envelope => some envelope.context
  | .edit _ _ _ _ context => some context
  | .attestedApproval context _ _ _ _ _ _ _ => some context
  | .attested call => some call.context
  | .workspaceBinding _ _ _ _ _ context => some context
  | .workspacePrepared _ _ context => some context
  | .workspaceRefusal _ _ _ context => some context
  | .runIntent _ _ context => some context
  | .runReceipt _ _ _ _ context => some context
  | .observedRunning _ _ _ context => some context
  | .runStop _ _ _ context => some context
  | .reconcileUnobserved _ context => some context
  | .lateResolution _ _ _ context => some context
  | .verification _ _ context => some context
  | .pause _ _ context => some context
  | .resume _ _ context => some context
  | .cancel _ _ _ context => some context
  | .completeCancel _ _ _ _ context => some context
  | .state invocation => some invocation.context
  | .attestReceipt _ _ _ _ context => some context
  | .reconcile _ _ _ _ _ context => some context
  | .reclaim _ _ _ => none

/-- The proposal digest a decision presents. -/
def ServiceCall.presentedDigest : ServiceCall → Option String
  | .decide envelope => envelope.expectedProposalDigestSha256
  | .attestedApproval _ _ _ _ digest _ _ _ => digest
  | .attested call => some call.proposalDigestSha256
  | _ => none

/-- An approval an attestation carries: the digest presented, exactly what was
requested, for a bounded time, of a proposal made locally. -/
structure AttestedApproval (env : Env) (mission : Mission)
    (presented : Option String) (decision : DecisionRecord) : Prop where
  proposer : ∃ first, mission.revisions.head? = some first ∧
    first.provenance.context.principalKind = .unauthenticatedLocalCaller
  exactly : ∃ entry, mission.revisions.getLast? = some entry ∧
    presented = some entry.proposalDigestSha256 ∧ decision.approvedActionScope =
      some (sortedBy ActionScope.text entry.proposal.requestedActionScope) ∧
    decision.approvedDeliveryTargets = some entry.proposal.requestedDeliveryTarget.toList
  bounded : ∃ expires, decision.expiresAt = some expires ∧
    expires ≤ env.checkedAt + maxAttestedApprovalValiditySeconds

variable [JsonDigest]

/-- All that a call in an unauthenticated local caller's context can do. -/
inductive UnauthenticatedChange (env : Env) (document : Document)
    (context : Context) : Document → Prop
  | same : UnauthenticatedChange env document context document
  | reserved (reservedId : String)
      (hfresh : document.reservations.get? reservedId = none) :
      UnauthenticatedChange env document context { document with
        reservations := document.reservations.set reservedId
          (newReservation env .request context) }
  | proposed (call : ProposeCall) (clean : Proposal) (missionId : String)
      (mission : Mission) (entry : RevisionEntry) (reservation : Reservation)
      (hfresh : document.missions.get? missionId = none)
      (hreserved : Reserved document call.requestId .request context
        reservation)
      (hunconsumed : reservation.consumedBy = none)
      (hnew : NewMission missionId call clean env.now entry mission) :
      UnauthenticatedChange env document context
        ((document.setMission missionId mission).consume call.requestId
          reservation missionId)
  | withdrawn (missionId requestId : String) (withdrawalKey : Option String)
      (mission : Mission) (withdrawal : Withdrawal)
      (hheld : document.missions.get? missionId = some mission)
      (hfirst : mission.withdrawal = none)
      (hwithdraws : Withdraws mission requestId withdrawalKey context)
      (hintime : FirstWithdrawal env mission) :
      UnauthenticatedChange env document context
        (document.setMission missionId { mission with
          withdrawal := some withdrawal, updatedAt := env.now })

/-- All that a call in an operator's attested context can do. -/
inductive AttestedChange (env : Env) (document : Document)
    (context : Context) (presented : Option String) : Document → Prop
  | same : AttestedChange env document context presented document
  | reserved (reservedId : String)
      (hfresh : document.reservations.get? reservedId = none) :
      AttestedChange env document context presented { document with
        reservations := document.reservations.set reservedId
          (newReservation env .decision context) }
  | approved (next : Document) (missionId : String) (mission : Mission)
      (decision : DecisionRecord)
      (hdecided : Decided env document next missionId mission decision)
      (hkind : decision.decision = .approve)
      (happroval : AttestedApproval env mission presented decision) :
      AttestedChange env document context presented next
  | refused (next : Document) (missionId : String) (mission : Mission)
      (decision : DecisionRecord)
      (hdecided : Decided env document next missionId mission decision)
      (hkind : decision.decision ∈ [.deny, .reject, .requestChanges]) :
      AttestedChange env document context presented next

/-- The run blocks, the state records and the revisions stay, and a Mission
that is new has one revision and no run. -/
structure Confined (document next : Document) : Prop where
  states : next.missionState = document.missionState
  kept : ∀ missionId mission, document.missions.get? missionId = some mission →
      ∃ changed, next.missions.get? missionId = some changed ∧
        changed.run = mission.run ∧ changed.revisions = mission.revisions
  fresh : ∀ missionId mission, next.missions.get? missionId = some mission →
    document.missions.get? missionId = none → mission.run = none ∧ mission.revisions.length = 1

variable [ReconciliationPlanner] {env : Env} {document next : Document}
  {context : Context} {missionId : String}

/-! ## The context each operation requires -/

variable {location : String} {passed : Unit}

omit [JsonDigest] [ReconciliationPlanner] in
theorem requireAuthenticatedContext_eq_ok
    (h : requireAuthenticatedContext context location = .ok passed) :
    ∃ fields, context = .authenticated fields ∧
      fields.principalKind.isAuthenticated = true := by
  cases context with
  | authenticated fields =>
      simp only [requireAuthenticatedContext, refuseUnauthenticated, bind_eq_ok,
        exists_passed, failAt_eq_ok, Bool.not_eq_false] at h
      exact ⟨fields, rfl, h.2⟩
  | operatorAttested fields =>
      simp [requireAuthenticatedContext, requireContext] at h

omit [JsonDigest] [ReconciliationPlanner] in
/-- Neither confined kind of context is authenticated. -/
theorem not_confined_of_authenticated
    (h : requireAuthenticatedContext context location = .ok passed) :
    context.principalKind ≠ .unauthenticatedLocalCaller ∧
      ∀ fields, context ≠ .operatorAttested fields := by
  obtain ⟨fields, rfl, hkind⟩ := requireAuthenticatedContext_eq_ok h
  refine ⟨fun hunauthenticated => ?_, by simp⟩
  simp only [Context.principalKind, Context.asDict] at hunauthenticated
  rw [hunauthenticated] at hkind
  cases hkind

omit [JsonDigest] [ReconciliationPlanner] in
theorem requireOperatorAttestedContext_eq_ok
    (h : requireOperatorAttestedContext context location = .ok passed) :
    ∃ fields, context = .operatorAttested fields ∧
      fields.principalKind = .operatorAttested := by
  cases context with
  | authenticated fields => simp [requireOperatorAttestedContext] at h
  | operatorAttested fields =>
      simp only [requireOperatorAttestedContext, validateAttestedFields,
        validateContextFields, bind_eq_ok, exists_passed, failAt_eq_ok, not_not] at h
      exact ⟨fields, rfl, h.2.2.1⟩

omit [JsonDigest] [ReconciliationPlanner] in
theorem runWrite_authenticated {α : Type} {guardTerminal : Bool}
    {mutate : Mission → Checks (Mission × α)} {outcome : α}
    (h : runWrite document missionId context guardTerminal mutate =
      .ok (next, outcome)) :
    requireAuthenticatedContext context "context" = .ok () := by
  simp only [runWrite, bind_eq_ok, exists_passed] at h
  exact h.1

theorem applyStateOperation_authenticated {invocation : StateInvocation}
    {answer : StateAnswer} (h : applyStateOperation env document invocation = .ok (next, answer)) :
    requireAuthenticatedContext invocation.context "context" = .ok () := by
  simp only [applyStateOperation, bind_eq_ok, exists_passed] at h
  exact h.1

/-- The calls before any run: every other one takes an authenticated
context. -/
def ServiceCall.open : ServiceCall → Bool
  | .mint .. => true
  | .propose _ => true
  | .withdraw .. => true
  | .decide _ => true
  | .edit .. => true
  | .attestedApproval .. => true
  | .attested _ => true
  | _ => false

theorem perform_authenticated {call : ServiceCall}
    (hclosed : call.open = false) (hcontext : call.context = some context)
    (h : perform env document call = .ok next) :
    requireAuthenticatedContext context "context" = .ok () := by
  cases call with
  | mint => cases hclosed
  | propose => cases hclosed
  | withdraw => cases hclosed
  | decide => cases hclosed
  | edit => cases hclosed
  | attestedApproval => cases hclosed
  | attested => cases hclosed
  | reclaim => cases hcontext
  | state invocation =>
      obtain ⟨_, hcall, rfl⟩ := (map_eq_ok ..).mp h
      obtain rfl := Option.some.inj hcontext
      exact applyStateOperation_authenticated hcall
  | attestReceipt =>
      obtain ⟨_, hcall, rfl⟩ := (map_eq_ok ..).mp h
      obtain rfl := Option.some.inj hcontext
      simp only [attestReceipt, bind_eq_ok, exists_passed] at hcall
      exact applyStateOperation_authenticated hcall.2.2
  | reconcile =>
      obtain ⟨_, hcall, rfl⟩ := (map_eq_ok ..).mp h
      obtain rfl := Option.some.inj hcontext
      simp only [reconcile, bind_eq_ok, exists_passed] at hcall
      exact hcall.2.1
  | _ =>
      obtain ⟨_, hcall, rfl⟩ := (map_eq_ok ..).mp h
      obtain rfl := Option.some.inj hcontext
      exact runWrite_authenticated hcall

/-! ## Decisions under an attestation -/

omit [JsonDigest] [ReconciliationPlanner] in
theorem requireDecisionContext_eq_ok {approve : Bool}
    (h : requireDecisionContext context approve location = .ok passed) :
    (∃ fields, context = .authenticated fields ∧ fields.principalKind.isAuthenticated = true) ∨
      ∃ fields, context = .operatorAttested fields ∧
        fields.principalKind = .operatorAttested ∧ approve = true := by
  cases context with
  | authenticated fields =>
      exact .inl (requireAuthenticatedContext_eq_ok h)
  | operatorAttested fields =>
      simp only [requireDecisionContext, bind_eq_ok, exists_passed,
        failAt_eq_ok, Bool.not_eq_false] at h
      obtain ⟨_, hfields, hkind⟩ := requireOperatorAttestedContext_eq_ok h.1
      obtain rfl := Context.operatorAttested.inj hfields
      exact .inr ⟨fields, rfl, hkind, h.2⟩

variable {envelope : HumanDecisionEnvelope} {answer : DecisionOutcome}
  {mission : Mission} {reservation : Reservation} {decision : DecisionRecord}
  {outcome : RecordedOutcome} {fields : ContextFields}

omit [ReconciliationPlanner] in
theorem applyHumanDecision_valid
    (h : applyHumanDecision env document envelope = .ok (next, answer)) :
    envelope.validate = .ok () := by
  simp only [applyHumanDecision, bind_eq_ok, exists_passed] at h
  exact h.1

omit [JsonDigest] [ReconciliationPlanner] in
theorem validate_context (h : envelope.validate = .ok ()) :
    (∃ fields, envelope.context = .authenticated fields ∧
        fields.principalKind.isAuthenticated = true) ∨
      ∃ fields, envelope.context = .operatorAttested fields ∧
        fields.principalKind = .operatorAttested ∧
        envelope.decision = .approve := by
  simp only [HumanDecisionEnvelope.validate, bind_eq_ok, exists_passed] at h
  rcases requireDecisionContext_eq_ok h.1 with hplain | ⟨fields, hfields, hkind, happrove⟩
  · exact .inl hplain
  · exact .inr ⟨fields, hfields, hkind, of_decide_eq_true happrove⟩

omit [ReconciliationPlanner] in
/-- What the rules of an attested approval establish of its record. -/
theorem attestedApproval_of_content (hattested : envelope.context.principalKind.approveOnly = true)
    (happrove : envelope.decision = .approve)
    (hcontent : requireExactContent env mission envelope = .ok ())
    (hvalid : envelope.validate = .ok ())
    (hrecorded : EnvelopeRecorded envelope env.now outcome decision) :
    AttestedApproval env mission envelope.expectedProposalDigestSha256
      decision := by
  simp only [requireExactContent, Mission.currentRevisionEntry, bind_eq_ok,
    exists_passed, orFail_eq_ok, failIf_eq_ok, not_exists, not_and, not_not,
    Option.mem_def, ne_eq, hattested, if_true] at hcontent
  obtain ⟨entry, hentry, hexpected, hrules⟩ := hcontent
  simp only [requireAttestedApproval, Mission.firstRevision, bind_eq_ok,
    exists_passed, orFail_eq_ok, failIf_eq_ok, not_or, not_not, not_lt, gt_iff_lt, ne_eq] at hrules
  obtain ⟨first, hfirst, hproposer, actions, hactions, targets, htargets,
    ⟨hsame, hdelivery⟩, expires, hexpires, hbounded⟩ := hrules
  simp only [HumanDecisionEnvelope.validate, bind_eq_ok, exists_passed,
    failIf_eq_ok, hattested, true_and, not_or] at hvalid
  obtain ⟨digest, hdigest⟩ := Option.ne_none_iff_exists'.mp hvalid.2.2.1.1
  have hpresented := hexpected digest hdigest
  refine ⟨⟨first, hfirst, hproposer⟩, ⟨entry, hentry, ?_, ?_, ?_⟩, expires, ?_, hbounded⟩
  · rw [hdigest, hpresented]
  · rw [hrecorded.actions, HumanDecisionEnvelope.normalizedActions,
      if_pos happrove, hactions, Option.map_some, hsame]
  · rw [hrecorded.targets, HumanDecisionEnvelope.normalizedTargets,
      if_pos happrove, htargets, Option.map_some, hdelivery]
  · rw [hrecorded.expiresAt, hexpires]

omit [ReconciliationPlanner] in
theorem decideHuman_content (h : decideHuman env document envelope mission reservation =
      .ok (next, answer)) :
    requireExactContent env mission envelope = .ok () := by
  simp only [decideHuman, bind_eq_ok, exists_passed] at h
  obtain ⟨-, h⟩ := h
  split at h
  · simp at h
  · simp only [bind_eq_ok, exists_passed] at h
    exact h.1

omit [ReconciliationPlanner] in
/-- A human decision under an attestation is the approval it presents. -/
theorem applyHumanDecision_attested (hwell : AllWellFormed document)
    (hcontext : envelope.context = .operatorAttested fields)
    (h : applyHumanDecision env document envelope = .ok (next, answer)) :
    AttestedChange env document envelope.context
      envelope.expectedProposalDigestSha256 next := by
  have hvalid := applyHumanDecision_valid h
  obtain ⟨_, hplain, -⟩ | ⟨held, hheldContext, hkind, happrove⟩ :=
    validate_context hvalid
  · rw [hcontext] at hplain
    cases hplain
  obtain ⟨digest, reservation, mission, -, hreserved, hheld, hcases⟩ :=
    applyHumanDecision_eq_ok h
  rcases hcases with ⟨-, hreplay⟩ | ⟨hunconsumed, hdecide⟩
  · obtain ⟨_, -, -, -, -, -, rfl⟩ := replayHumanDecision_eq_ok.mp hreplay
    exact .same
  · obtain ⟨decision, outcome, hrecorded, hdecided, -, -⟩ := decideHuman_eq_ok
      (hwell _ mission hheld).toNumbered hheld hreserved hunconsumed hdecide
    have hattested : envelope.context.principalKind.approveOnly = true := by
      rw [hheldContext, Context.principalKind, Context.asDict, hkind]
      rfl
    exact .approved next _ mission decision hdecided (hrecorded.kind.trans happrove)
      (attestedApproval_of_content hattested happrove
        (decideHuman_content hdecide) hvalid hrecorded)

omit [ReconciliationPlanner] in
theorem applyAttestedOutcome_attested {call : AttestedCall} (hwell : AllWellFormed document)
    (h : applyAttestedOutcome env document call = .ok (next, answer)) :
    AttestedChange env document call.context
      (some call.proposalDigestSha256) next := by
  obtain ⟨reservation, mission, hreserved, hheld, hcases⟩ :=
    applyAttestedOutcome_eq_ok h
  rcases hcases with ⟨-, hreplay⟩ | ⟨hunconsumed, hdecide⟩
  · obtain ⟨_, -, -, -, -, -, rfl⟩ := replayAttestedOutcome_eq_ok.mp hreplay
    exact .same
  · obtain ⟨decision, entry, -, -, -, hrecorded, hdecided, -⟩ :=
      decideAttested_eq_ok (hwell _ mission hheld).toNumbered hheld hreserved hunconsumed hdecide
    refine .refused next _ mission decision hdecided ?_
    rw [hrecorded.kind]
    cases call.outcome <;> simp [AttestedOutcome.kind]

/-! ## What no confined change touches -/

omit [JsonDigest] [ReconciliationPlanner] in
theorem Confined.refl (document : Document) : Confined document document where
  states := rfl
  kept := fun _ mission hheld => ⟨mission, hheld, rfl, rfl⟩
  fresh := fun _ mission hheld hnone => by
    rw [hheld] at hnone
    cases hnone

omit [JsonDigest] [ReconciliationPlanner] in
/-- One Mission stored in place of one with its run and its revisions. -/
theorem Confined.of_set {changed : Mission} (hstates : next.missionState = document.missionState)
    (hmissions : next.missions = document.missions.set missionId changed)
    (hheld : document.missions.get? missionId = some mission) (hrun : changed.run = mission.run)
    (hrevisions : changed.revisions = mission.revisions) :
    Confined document next where
  states := hstates
  kept := fun other held hother => by
    rw [hmissions, Dict.get?_set]
    split
    · rename_i hid
      subst hid
      obtain rfl := Option.some.inj (hheld.symm.trans hother)
      exact ⟨changed, rfl, hrun, hrevisions⟩
    · exact ⟨held, hother, rfl, rfl⟩
  fresh := fun other held hnext hnone => by
    rw [hmissions, Dict.get?_set] at hnext
    split at hnext
    · rename_i hid
      subst hid
      rw [hheld] at hnone
      cases hnone
    · rw [hnext] at hnone
      cases hnone

omit [ReconciliationPlanner] in
/-- No decision but an edit touches the revisions, and none the run. -/
theorem DecisionEffected.kept {noted effected : Document} {changed : Mission}
    (h : DecisionEffected env noted mission decision effected changed)
    (hkind : decision.decision ≠ .edit) :
    changed.run = mission.run ∧ changed.revisions = mission.revisions := by
  cases h with
  | approved => exact ⟨rfl, rfl⟩
  | denied => exact ⟨rfl, rfl⟩
  | settled => exact ⟨rfl, rfl⟩
  | edited _ _ _ hedit => exact absurd hedit hkind

omit [ReconciliationPlanner] in
theorem Decided.confined (h : Decided env document next missionId mission decision)
    (hkind : decision.decision ≠ .edit) : Confined document next := by
  obtain ⟨noted, effected, changed, reservation, hnoted, heffected, -, -, -, -, rfl⟩ := h.effect
  obtain ⟨hrun, hrevisions⟩ := heffected.kept hkind
  have hquiet := (noteExpirations_eq_ok hnoted).authorityOnly.trans heffected.authorityOnly
  let moved := { changed with
    decisions := mission.decisions ++ [decision], updatedAt := env.now }
  have hmoved : moved.run = mission.run := hrun
  refine Confined.of_set ?_ ?_ h.held hmoved hrevisions
  · simp only [Document.consume, Document.setMission, hquiet.missionState]
  · simp only [Document.consume, Document.setMission, hquiet.missions, moved]

omit [ReconciliationPlanner] in
theorem UnauthenticatedChange.confined (h : UnauthenticatedChange env document context next) :
    Confined document next := by
  cases h with
  | same => exact .refl _
  | reserved => exact ⟨rfl, (Confined.refl document).kept,
      (Confined.refl document).fresh⟩
  | withdrawn missionId _ _ mission withdrawal hheld =>
      exact Confined.of_set rfl rfl hheld rfl rfl
  | proposed call clean missionId mission entry reservation hfresh _ _ hnew =>
      refine ⟨rfl, fun other held hother => ?_, fun other held hnext hnone => ?_⟩
      · have hdistinct : other ≠ missionId := by
          rintro rfl
          rw [hfresh] at hother
          cases hother
        exact ⟨held, by
          simpa [Document.consume, Document.setMission, Dict.get?_set,
            hdistinct] using hother, rfl, rfl⟩
      · simp only [Document.consume, Document.setMission, Dict.get?_set] at hnext
        split at hnext
        · obtain rfl := Option.some.inj hnext
          rw [hnew.record]
          exact ⟨rfl, rfl⟩
        · rw [hnext] at hnone
          cases hnone

omit [ReconciliationPlanner] in
theorem AttestedChange.confined {presented : Option String}
    (h : AttestedChange env document context presented next) :
    Confined document next := by
  cases h with
  | same => exact .refl _
  | reserved => exact ⟨rfl, (Confined.refl document).kept,
      (Confined.refl document).fresh⟩
  | approved _ missionId mission decision hdecided hkind =>
      exact hdecided.confined (by simp [hkind])
  | refused _ missionId mission decision hdecided hkind =>
      refine hdecided.confined fun hedit => ?_
      rw [hedit] at hkind
      simp at hkind

/-! ## Every operation -/

omit [ReconciliationPlanner] in
theorem propose_unauthenticated {call : ProposeCall} {created : ProposeOutcome}
    (h : propose env document call = .ok (next, created)) :
    UnauthenticatedChange env document call.context next := by
  obtain ⟨clean, digest, reservation, -, -, hreserved, hcases⟩ :=
    propose_eq_ok h
  rcases hcases with ⟨consumedBy, -, hreplay⟩ | ⟨hunconsumed, hcreate⟩
  · obtain ⟨_, _, -, -, -, -, -, -, rfl⟩ := replayPropose_eq_ok.mp hreplay
    exact .same
  · obtain ⟨missionId, mission, entry, hfresh, hnew, -, rfl⟩ :=
      createMission_eq_ok hcreate
    exact .proposed call clean missionId mission entry reservation hfresh hreserved hunconsumed hnew

omit [ReconciliationPlanner] in
theorem withdraw_unauthenticated {requestId : String}
    {withdrawalKey : Option String} {withdrawn : WithdrawOutcome}
    (h : withdrawProposal env document missionId requestId withdrawalKey
      context = .ok (next, withdrawn)) :
    UnauthenticatedChange env document context next := by
  obtain ⟨mission, hheld, hpassed, ⟨-, rfl, -⟩ | ⟨hunmarked, hfirst⟩⟩ :=
    withdrawProposal_cases h
  · exact .same
  · obtain ⟨hintime, withdrawal, rfl, -⟩ := firstWithdrawal_eq_ok hfirst
    obtain ⟨hrequest, hproposer, hkind⟩ :=
      requireProposer_eq_ok hpassed.proposer_ok
    obtain ⟨hkey, hbound⟩ := requireWithdrawalKeyMatch_eq_ok hpassed.key_ok
    exact .withdrawn missionId requestId withdrawalKey mission withdrawal hheld
      hunmarked ⟨hrequest, hproposer, hkind, hkey, hbound⟩ hintime

theorem perform_unauthenticated {call : ServiceCall} (hcontext : call.context = some context)
    (hkind : context.principalKind = .unauthenticatedLocalCaller)
    (h : perform env document call = .ok next) :
    UnauthenticatedChange env document context next := by
  have hdenied : ∀ location, requireAuthenticatedContext context location ≠
      .ok () :=
    fun _ hpassed => (not_confined_of_authenticated hpassed).1 hkind
  have hplain : ∀ location, requireOperatorAttestedContext context location ≠
      .ok () := by
    intro _ hpassed
    obtain ⟨fields, rfl, hattested⟩ :=
      requireOperatorAttestedContext_eq_ok hpassed
    rw [Context.principalKind, Context.asDict, hattested] at hkind
    cases hkind
  have hundecided : ∀ envelope : HumanDecisionEnvelope, envelope.context = context → ∀ answer,
        applyHumanDecision env document envelope ≠ .ok (next, answer) := by
    rintro envelope rfl answer hcall
    rcases validate_context (applyHumanDecision_valid hcall) with
      ⟨fields, hfields, hheld⟩ | ⟨fields, hfields, hheld, -⟩ <;>
    · rw [hfields, Context.principalKind, Context.asDict] at hkind
      rw [hkind] at hheld
      cases hheld
  cases hopen : call.open with
  | false => exact absurd (perform_authenticated hopen hcontext h) (hdenied _)
  | true =>
      cases call with
      | mint kind held =>
          obtain ⟨⟨_, reservedId⟩, hcall, rfl⟩ := (map_eq_ok ..).mp h
          obtain rfl := Option.some.inj hcontext
          obtain ⟨hfresh, rfl⟩ := reserve_eq_ok hcall
          simp only [reserve, bind_eq_ok, exists_passed] at hcall
          cases kind with
          | request => exact .reserved reservedId hfresh
          | decision =>
              cases held with
              | authenticated fields => exact absurd hcall.1 (hdenied _)
              | operatorAttested fields => exact absurd hcall.1 (hplain _)
          | stateOperation => exact absurd hcall.1 (hdenied _)
      | propose call =>
          obtain ⟨_, hcall, rfl⟩ := (map_eq_ok ..).mp h
          obtain rfl := Option.some.inj hcontext
          exact propose_unauthenticated hcall
      | withdraw missionId requestId withdrawalKey held =>
          obtain ⟨_, hcall, rfl⟩ := (map_eq_ok ..).mp h
          obtain rfl := Option.some.inj hcontext
          exact withdraw_unauthenticated hcall
      | decide envelope =>
          obtain ⟨_, hcall, rfl⟩ := (map_eq_ok ..).mp h
          obtain rfl := Option.some.inj hcontext
          exact absurd hcall (hundecided _ rfl _)
      | edit _ _ _ _ held =>
          obtain ⟨_, hcall, rfl⟩ := (map_eq_ok ..).mp h
          obtain rfl := Option.some.inj hcontext
          exact absurd hcall (hundecided _ rfl _)
      | attestedApproval held =>
          obtain ⟨_, hcall, rfl⟩ := (map_eq_ok ..).mp h
          simp only [applyOperatorAttestedApproval, bind_eq_ok, exists_passed] at hcall
          obtain rfl := Option.some.inj hcontext
          exact absurd hcall.2 (hundecided _ rfl _)
      | attested call =>
          obtain ⟨_, hcall, rfl⟩ := (map_eq_ok ..).mp h
          obtain rfl := Option.some.inj hcontext
          simp only [applyAttestedOutcome, bind_eq_ok, exists_passed] at hcall
          exact absurd hcall.1 (hplain _)
      | _ => cases hopen

theorem perform_attested {call : ServiceCall}
    (hwell : AllWellFormed document) (hcontext : call.context = some context)
    (hattested : context = .operatorAttested fields) (h : perform env document call = .ok next) :
    AttestedChange env document context call.presentedDigest next := by
  subst hattested
  cases hopen : call.open with
  | false =>
      exact absurd rfl ((not_confined_of_authenticated
        (perform_authenticated hopen hcontext h)).2 fields)
  | true =>
      cases call with
      | mint kind held =>
          obtain ⟨⟨_, reservedId⟩, hcall, rfl⟩ := (map_eq_ok ..).mp h
          obtain rfl := Option.some.inj hcontext
          obtain ⟨hfresh, rfl⟩ := reserve_eq_ok hcall
          simp only [reserve, bind_eq_ok, exists_passed] at hcall
          cases kind with
          | request =>
              simp [requireReservationContext, requireContext] at hcall
          | decision => exact .reserved reservedId hfresh
          | stateOperation =>
              exact absurd rfl ((not_confined_of_authenticated hcall.1).2 fields)
      | propose call =>
          obtain ⟨_, hcall, rfl⟩ := (map_eq_ok ..).mp h
          simp only [propose, Option.some.inj hcontext, requireContext,
            bind_eq_ok, reduceCtorEq, false_and, exists_false] at hcall
      | withdraw missionId requestId withdrawalKey held =>
          obtain ⟨_, hcall, rfl⟩ := (map_eq_ok ..).mp h
          simp only [withdrawProposal, Option.some.inj hcontext, requireContext,
            bind_eq_ok, reduceCtorEq, false_and, exists_false] at hcall
      | decide envelope =>
          obtain ⟨_, hcall, rfl⟩ := (map_eq_ok ..).mp h
          rw [← Option.some.inj hcontext]
          exact applyHumanDecision_attested hwell (Option.some.inj hcontext) hcall
      | edit missionId expectedRevision proposal decisionId held =>
          obtain ⟨_, hcall, rfl⟩ := (map_eq_ok ..).mp h
          -- an edit is no approval, which is all an attestation may decide
          obtain ⟨_, hplain, -⟩ | ⟨_, -, -, happrove⟩ :=
            validate_context (applyHumanDecision_valid hcall)
          · rw [Option.some.inj hcontext] at hplain
            cases hplain
          · cases happrove
      | attestedApproval held =>
          obtain ⟨_, hcall, rfl⟩ := (map_eq_ok ..).mp h
          simp only [applyOperatorAttestedApproval, bind_eq_ok, exists_passed] at hcall
          obtain rfl := Option.some.inj hcontext
          exact applyHumanDecision_attested hwell rfl hcall.2
      | attested call =>
          obtain ⟨_, hcall, rfl⟩ := (map_eq_ok ..).mp h
          rw [← Option.some.inj hcontext]
          exact applyAttestedOutcome_attested hwell hcall
      | _ => cases hopen

/-- In every reachable document an unauthenticated caller can only reserve,
propose and withdraw, an operator's attestation can only reserve and decide
within what was requested, and neither touches a run, a state record or a
revision. -/
theorem principal_confined (document : Document) (h : Reachable document)
    (env : Env) (call : ServiceCall) (next : Document) (context : Context)
    (hcontext : call.context = some context) (hcall : perform env document call = .ok next) :
    (context.principalKind = .unauthenticatedLocalCaller →
      UnauthenticatedChange env document context next ∧ Confined document next) ∧
    ∀ fields, context = .operatorAttested fields →
      AttestedChange env document context call.presentedDigest next ∧
        Confined document next := by
  constructor
  · intro hkind
    have hchange := perform_unauthenticated hcontext hkind hcall
    exact ⟨hchange, hchange.confined⟩
  · intro fields hattested
    have hchange := perform_attested h.allWellFormed hcontext hattested hcall
    exact ⟨hchange, hchange.confined⟩

/-- The operator's attestation, to the sample proposal. -/
def sampleAttested : ContextFields :=
  { sampleContext with principalKind := .operatorAttested }

omit [JsonDigest] [ReconciliationPlanner] in
theorem principal_confined_sample : letI := sampleKeyDigest
    letI := samplePlanner
    ∃ withdrawn reserved, perform (sampleEnv 5) sampleOffered sampleWithdrawal = .ok withdrawn ∧
      UnauthenticatedChange (sampleEnv 5) sampleOffered sampleProposer
        withdrawn ∧ perform (sampleEnv 5) sampleOffered (.mint .decision
        (.operatorAttested sampleAttested)) = .ok reserved ∧
      AttestedChange (sampleEnv 5) sampleOffered
        (.operatorAttested sampleAttested) none reserved := by
  let := sampleKeyDigest
  let := samplePlanner
  have hwithdrawn : ∃ withdrawn, perform (sampleEnv 5) sampleOffered
      sampleWithdrawal = .ok withdrawn :=
    exists_of_isOk (by decide +kernel)
  have hreserved : ∃ reserved, perform (sampleEnv 5) sampleOffered
      (.mint .decision (.operatorAttested sampleAttested)) = .ok reserved :=
    exists_of_isOk (by decide +kernel)
  obtain ⟨withdrawn, hwithdrawn⟩ := hwithdrawn
  obtain ⟨reserved, hreserved⟩ := hreserved
  exact ⟨withdrawn, reserved, hwithdrawn,
    ((principal_confined sampleOffered sampleOffered_reachable _ _ _ _ rfl
      hwithdrawn).1 rfl).1, hreserved,
    ((principal_confined sampleOffered sampleOffered_reachable _ _ _ _ rfl
      hreserved).2 sampleAttested rfl).1⟩

end DodgingInfinity.MissionCore
