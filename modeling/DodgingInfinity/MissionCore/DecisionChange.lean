import DodgingInfinity.MissionCore.Normal
import DodgingInfinity.MissionCore.RunChange
import DodgingInfinity.MissionCore.Service.Decisions

/-!
# What the operations before a run leave

Reserving an id, proposing, withdrawing and deciding, each inverted: what held
of the document, and the exact document the operation leaves.
-/

namespace DodgingInfinity.MissionCore

open Checked

variable {env : Env} {document next noted : Document} {missionId : String}
  {mission changed : Mission} {context : Context}

/-! ## Minted ids and reservations -/

variable {minted : String}

variable {taken : List String}

theorem freshIdWithin_eq_ok {kind : IdPrefix}
    {attempts : Nat} (h : freshIdWithin env kind taken attempts = .ok minted) :
    idProblem minted kind = none ∧ minted ∉ taken := by
  induction attempts with
  | zero => simp [freshIdWithin] at h
  | succ attempts ih =>
      simp only [freshIdWithin, requireId, bind_eq_ok, exists_passed,
        failAt_eq_ok, not_not, ne_eq] at h
      obtain ⟨hgrammar, h⟩ := h
      split at h
      · rename_i hfresh
        obtain rfl := (pure_eq_ok ..).mp h
        exact ⟨hgrammar, hfresh⟩
      · exact ih h

theorem freshId_eq_ok {kind : IdPrefix}
    (h : freshId env kind taken = .ok minted) : idProblem minted kind = none ∧ minted ∉ taken :=
  freshIdWithin_eq_ok h

/-- A minted key is not held yet. -/
theorem get?_of_freshId {α : Type} {kind : IdPrefix} {dict : Dict String α}
    (h : freshId env kind dict.keys = .ok minted) :
    dict.get? minted = none := by
  have hfresh := (freshId_eq_ok h).2
  rw [Dict.mem_keys_iff, Bool.not_eq_true] at hfresh
  exact (dict.contains_eq_false_iff minted).mp hfresh

/-- The reservation a mint leaves. -/
def newReservation (env : Env) (kind : ReferenceKind) (context : Context) :
    Reservation where
  reservedAt := env.now
  kind := kind
  context := context.asDict
  consumedBy := none

variable {kind : ReferenceKind} {reservedId : String}

theorem reserve_eq_ok (h : reserve env document kind context = .ok (next, reservedId)) :
    document.reservations.get? reservedId = none ∧
      next = { document with
        reservations := document.reservations.set reservedId
          (newReservation env kind context) } := by
  simp only [reserve, bind_eq_ok, exists_passed, failIf_eq_ok, pure_eq_ok, Prod.mk.injEq] at h
  obtain ⟨-, -, minted, hminted, hnext, rfl⟩ := h
  exact ⟨get?_of_freshId hminted, hnext.symm⟩

/-- The reservation of an id, for its kind and context. -/
structure Reserved (document : Document) (reservedId : String)
    (kind : ReferenceKind) (context : Context) (reservation : Reservation) :
    Prop where
  held : document.reservations.get? reservedId = some reservation
  kind_eq : reservation.kind = kind
  context_eq : reservation.context = context.asDict

variable {reservation : Reservation}

theorem lookupReservation_eq_ok
    {unknown mismatch : Problem} :
    lookupReservation document reservedId kind context unknown mismatch = .ok reservation ↔
      Reserved document reservedId kind context reservation := by
  simp only [lookupReservation, bind_eq_ok, exists_passed, orFail_eq_ok,
    failIf_eq_ok, pure_eq_ok, not_not, ne_eq]
  constructor
  · rintro ⟨held, hheld, hkind, hcontext, rfl⟩
    exact ⟨hheld, hkind, hcontext⟩
  · intro h
    exact ⟨reservation, h.held, h.kind_eq, h.context_eq, rfl⟩

variable {receivedAt revision : Nat} {referenceId : String} {provenance : Provenance}

theorem provenanceRecord_eq_ok (h : provenanceRecord context receivedAt kind referenceId missionId
      revision = .ok provenance) : provenance = {
      context := context.asDict
      receivedAt := receivedAt
      referenceKind := kind
      referenceId := referenceId
      missionId := missionId
      revision := revision
      humanIdentityProof := none
      proof := proofByPrincipalKind context.principalKind } := by
  simp only [provenanceRecord, bind_eq_ok, exists_passed, pure_eq_ok] at h
  obtain ⟨-, -, -, -, rfl⟩ := h
  rfl

theorem contextFromDict_asDict (h : requireAnyContext context "context" = .ok ()) :
    contextFromDict context.asDict "context" = .ok context := by
  cases context with
  | authenticated fields =>
      have hkind : fields.principalKind ≠ .operatorAttested := by
        simp only [requireAnyContext, requireContext,
          validateAuthenticatedFields, validateContextFields, bind_eq_ok,
          exists_passed, failAt_eq_ok] at h
        exact h.2.2.1
      simp only [contextFromDict, Context.asDict, hkind, if_false, bind_eq_ok,
        exists_passed, pure_eq_ok, and_true]
      exact h
  | operatorAttested fields =>
      have hkind : fields.principalKind = .operatorAttested := by
        simp only [requireAnyContext, requireOperatorAttestedContext,
          validateAttestedFields, validateContextFields, bind_eq_ok,
          exists_passed, failAt_eq_ok, not_not, ne_eq] at h
        exact h.2.2.1
      simp only [contextFromDict, Context.asDict, hkind, if_true, bind_eq_ok,
        exists_passed, pure_eq_ok, and_true]
      exact h

/-- The context a provenance was built from is the one it stores. -/
theorem provenanceContext_of_record
    (h : provenanceRecord context receivedAt kind referenceId missionId
      revision = .ok provenance) :
    provenanceContext provenance = .ok context := by
  have hcontext : requireAnyContext context "context" = .ok () := by
    simp only [provenanceRecord, bind_eq_ok, exists_passed] at h
    exact h.1
  rw [provenanceRecord_eq_ok h]
  exact contextFromDict_asDict hcontext

/-! ## The ledger -/

variable {note : LedgerNote}

theorem appendLedger_eq_ok (h : appendLedger env document missionId note = .ok next) :
    ∃ entry, next = { document with
        authorityLedger := document.authorityLedger ++ [entry] } ∧ entry.missionId = missionId ∧
      entry.fact = {
        kind := note.kind
        authorizationId := note.authorizationId
        decisionId := note.decisionId
        revision := note.revision
        recordedAt := env.now } := by
  simp only [appendLedger, newLedgerEntry, bind_eq_ok, exists_passed, failIf_eq_ok, pure_eq_ok] at h
  obtain ⟨-, _, -, _, ⟨-, rfl⟩, rfl⟩ := h
  exact ⟨_, rfl, rfl, rfl⟩

/-- The expiry a decision notes for one authorization, if it is due. -/
def dueExpiry (document : Document) (recorded : List String) (now : Nat)
    (authorizationId : String) : Option LedgerFact :=
  (document.authorizations.get? authorizationId).bind fun authorization =>
    if (∃ expires ∈ authorization.expiresAt, expires ≤ now) ∧
        authorization.revocation = none ∧ authorizationId ∉ recorded then
      some {
        kind := .expired
        authorizationId := some authorizationId
        decisionId := none
        revision := authorization.revision
        recordedAt := now }
    else none

/-- New ledger entries of one Mission, and nothing else. -/
structure Ledgered (document : Document) (missionId : String)
    (facts : List LedgerFact) (next : Document) : Prop where
  appended : ∃ notes, next = { document with
      authorityLedger := document.authorityLedger ++ notes } ∧
    (∀ entry ∈ notes, entry.missionId = missionId) ∧ notes.map LedgerEntry.fact = facts

theorem Ledgered.refl (document : Document) (missionId : String) :
    Ledgered document missionId [] document :=
  ⟨[], by simp, by simp, rfl⟩

theorem Ledgered.trans {middle : Document} {first second : List LedgerFact}
    (hfirst : Ledgered document missionId first middle)
    (hsecond : Ledgered middle missionId second next) :
    Ledgered document missionId (first ++ second) next := by
  obtain ⟨notes, rfl, hnotes, rfl⟩ := hfirst.appended
  obtain ⟨more, rfl, hmore, rfl⟩ := hsecond.appended
  refine ⟨notes ++ more, by simp, fun entry hentry => ?_, by simp⟩
  rcases List.mem_append.mp hentry with hold | hnew
  · exact hnotes entry hold
  · exact hmore entry hnew

theorem Ledgered.ofAppend
    (h : appendLedger env document missionId note = .ok next) : Ledgered document missionId [{
      kind := note.kind
      authorizationId := note.authorizationId
      decisionId := note.decisionId
      revision := note.revision
      recordedAt := env.now }] next := by
  obtain ⟨entry, rfl, hmission, hfact⟩ := appendLedger_eq_ok h
  exact ⟨[entry], rfl, by simpa using hmission, by simp [hfact]⟩

variable {recorded : List String}

theorem noteExpiration_eq_ok {authorizationId : String}
    (h : noteExpiration env mission recorded document authorizationId =
      .ok next) : Ledgered document mission.missionId
      (dueExpiry document recorded env.now authorizationId).toList next := by
  simp only [noteExpiration, bind_eq_ok, orFail_eq_ok] at h
  obtain ⟨authorization, hheld, h⟩ := h
  simp only [dueExpiry, hheld, Option.bind_some]
  split at h
  · rename_i hdue
    rw [if_pos hdue]
    exact Ledgered.ofAppend h
  · rename_i hdue
    rw [if_neg hdue]
    obtain rfl := (pure_eq_ok ..).mp h
    exact Ledgered.refl document mission.missionId

/-- What the ledger gains when the expiries of a list of authorizations are
noted. -/
theorem noteExpiration_fold_eq_ok {ids : List String}
    (h : foldChecked (noteExpiration env mission recorded) document ids =
      .ok next) : Ledgered document mission.missionId
      (ids.filterMap (dueExpiry document recorded env.now)) next := by
  induction ids generalizing document with
  | nil =>
      obtain rfl := Except.ok.inj h
      exact Ledgered.refl document mission.missionId
  | cons first rest ih =>
      obtain ⟨middle, hfirst, hrest⟩ := (foldChecked_cons_eq_ok ..).mp h
      have hnoted := noteExpiration_eq_ok hfirst
      have hsame : dueExpiry middle recorded env.now =
          dueExpiry document recorded env.now := by
        obtain ⟨notes, rfl, -, -⟩ := hnoted.appended
        rfl
      have htail := ih hrest
      rw [hsame] at htail
      have hboth := hnoted.trans htail
      rw [List.filterMap_cons]
      cases hdue : dueExpiry document recorded env.now first with
      | none => simpa [hdue] using hboth
      | some fact => simpa [hdue] using hboth

theorem noteExpirations_eq_ok
    (h : noteExpirations env document mission = .ok next) : Ledgered document mission.missionId
      (mission.authorizationIds.filterMap
        (dueExpiry document (recordedExpirations document) env.now)) next :=
  noteExpiration_fold_eq_ok h

/-! ## Proposals and withdrawals -/

variable {requestId : String} {outcome : ProposeOutcome}

theorem proposeOutcome_eq_ok {idempotent : Bool}
    (h : proposeOutcome mission requestId idempotent = .ok outcome) :
    ∃ entry, mission.revisions.getLast? = some entry ∧ outcome = {
        missionId := mission.missionId
        revision := entry.revision
        state := mission.state
        requestId := requestId
        idempotent := idempotent
        proposal := entry.proposal
        proposalDigestSha256 := entry.proposalDigestSha256 } := by
  simp only [proposeOutcome, Mission.currentRevisionEntry, bind_eq_ok,
    orFail_eq_ok, pure_eq_ok] at h
  obtain ⟨entry, hentry, rfl⟩ := h
  exact ⟨entry, hentry, rfl⟩

variable {call : ProposeCall} {digest : String}

theorem replayPropose_eq_ok {consumedBy : String} :
    replayPropose document call digest consumedBy = .ok (next, outcome) ↔
      ∃ mission first, document.missions.get? consumedBy = some mission ∧
        mission.revisions.head? = some first ∧ first.proposalDigestSha256 = digest ∧
        mission.withdrawalKeyDigestSha256 = call.withdrawalKeyDigestSha256 ∧
        mission.withdrawalKeyExpiresAt = call.withdrawalKeyExpiresAt ∧
        proposeOutcome mission call.requestId true = .ok outcome ∧
        next = document := by
  simp only [replayPropose, Mission.firstRevision, bind_eq_ok, exists_passed,
    orFail_eq_ok, failIf_eq_ok, pure_eq_ok, Prod.mk.injEq, not_or, not_not, ne_eq]
  constructor
  · rintro ⟨mission, hheld, first, hfirst, ⟨hdigest, hkey, hexpires⟩, answer, hanswer, rfl, rfl⟩
    exact ⟨mission, first, hheld, hfirst, hdigest, hkey, hexpires, hanswer, rfl⟩
  · rintro ⟨mission, first, hheld, hfirst, hdigest, hkey, hexpires, hanswer, rfl⟩
    exact ⟨mission, hheld, first, hfirst, ⟨hdigest, hkey, hexpires⟩, outcome, hanswer, rfl, rfl⟩

variable [JsonDigest]

/-- A stored revision: its proposal in normal form, under its digest. -/
structure NormalRevision (entry : RevisionEntry) : Prop where
  normal : validateProposal entry.proposal "proposal" = .ok entry.proposal
  digest : proposalDigest entry.proposal = .ok entry.proposalDigestSha256

/-- A Mission as its proposal leaves it: one revision, no history. -/
structure NewMission (missionId : String) (call : ProposeCall)
    (clean : Proposal) (createdAt : Nat) (entry : RevisionEntry)
    (mission : Mission) : Prop where
  record : mission = {
    schemaVersion := schemaVersion
    missionId := missionId
    requestId := call.requestId
    createdAt := createdAt
    updatedAt := createdAt
    state := .awaitingDecision
    currentRevision := 1
    revisions := [entry]
    decisions := []
    authorizationIds := []
    withdrawal := none
    withdrawalKeyDigestSha256 := call.withdrawalKeyDigestSha256
    withdrawalKeyExpiresAt := call.withdrawalKeyExpiresAt
    run := none
    lifecycle := none }
  revision_eq : entry.revision = 1
  digest : proposalDigest clean = .ok entry.proposalDigestSha256
  context_eq : entry.provenance.context = call.context.asDict
  normal : NormalRevision entry

variable {proposal : Proposal}

variable {createdAt : Nat} {entry : RevisionEntry}

theorem newRevisionEntry_eq_ok
    (h : newRevisionEntry revision proposal createdAt provenance = .ok entry) :
    ∃ clean, validateProposal proposal "proposal" = .ok clean ∧
      proposalDigest clean = .ok entry.proposalDigestSha256 ∧
      entry.revision = revision ∧ entry.proposal = clean ∧
      entry.createdAt = createdAt ∧ entry.provenance = provenance := by
  simp only [newRevisionEntry, bind_eq_ok, pure_eq_ok] at h
  obtain ⟨clean, hclean, digest, hdigest, rfl⟩ := h
  exact ⟨clean, hclean, hdigest, rfl, rfl, rfl, rfl⟩

theorem newRevisionEntry_normal
    (h : newRevisionEntry revision proposal createdAt provenance = .ok entry) :
    NormalRevision entry := by
  obtain ⟨clean, hclean, hdigest, -, hproposal, -, -⟩ := newRevisionEntry_eq_ok h
  subst hproposal
  exact ⟨validateProposal_normalizes _ _ _ _ hclean, hdigest⟩

variable {clean : Proposal}

theorem newMissionRecord_eq_ok
    (h : newMissionRecord missionId call.requestId clean createdAt call.context
      call.withdrawalKeyDigestSha256 call.withdrawalKeyExpiresAt = .ok mission) :
    ∃ entry, NewMission missionId call clean createdAt entry mission := by
  simp only [newMissionRecord, bind_eq_ok, exists_passed, pure_eq_ok,
    validateMissionRecord_eq_ok] at h
  obtain ⟨-, -, provenance, hprovenance, entry, hentry, -, rfl⟩ := h
  obtain rfl := provenanceRecord_eq_ok hprovenance
  obtain ⟨stored, hstored, hdigest, hrevision, -, -, hrecorded⟩ :=
    newRevisionEntry_eq_ok hentry
  rw [proposalDigest_of_validated hstored] at hdigest
  exact ⟨entry, rfl, hrevision, hdigest, by rw [hrecorded], newRevisionEntry_normal hentry⟩

/-- A new Mission and the consumed request id, as a document. -/
theorem createMission_eq_ok (h : createMission env document call clean reservation =
      .ok (next, outcome)) : ∃ missionId mission entry, document.missions.get? missionId = none ∧
      NewMission missionId call clean env.now entry mission ∧
      proposeOutcome mission call.requestId false = .ok outcome ∧
      next = (document.setMission missionId mission).consume call.requestId
        reservation missionId := by
  simp only [createMission, bind_eq_ok, exists_passed, failIf_eq_ok, pure_eq_ok, Prod.mk.injEq] at h
  obtain ⟨-, missionId, hminted, mission, hmission, answer, hanswer, hnext, rfl⟩ := h
  obtain ⟨entry, hentry⟩ := newMissionRecord_eq_ok hmission
  exact ⟨missionId, mission, entry, get?_of_freshId hminted, hentry, hanswer, hnext.symm⟩

/-- A proposal repeats the answer of a consumed id, or creates its Mission. -/
theorem propose_eq_ok
    (h : propose env document call = .ok (next, outcome)) : ∃ clean digest reservation,
      validateProposal call.proposal "proposal" = .ok clean ∧ proposalDigest clean = .ok digest ∧
      Reserved document call.requestId .request call.context reservation ∧
      ((∃ consumedBy, reservation.consumedBy = some consumedBy ∧
          replayPropose document call digest consumedBy =
            .ok (next, outcome)) ∨ (reservation.consumedBy = none ∧
          createMission env document call clean reservation =
            .ok (next, outcome))) := by
  simp only [propose, bind_eq_ok, exists_passed, lookupReservation_eq_ok] at h
  obtain ⟨-, -, clean, hclean, digest, hdigest, -, reservation, hreserved, h⟩ := h
  refine ⟨clean, digest, reservation, hclean, hdigest, hreserved, ?_⟩
  split at h
  · rename_i consumedBy hconsumed
    exact .inl ⟨consumedBy, hconsumed, h⟩
  · rename_i hconsumed
    exact .inr ⟨hconsumed, h⟩

/-- A withdrawal answers for the one recorded, or marks an undecided Mission
withdrawn. -/
theorem withdrawProposal_eq_ok
    {withdrawalKey : Option String} {outcome : WithdrawOutcome}
    (h : withdrawProposal env document missionId requestId withdrawalKey
      context = .ok (next, outcome)) : next = document ∨
      ∃ mission withdrawal, document.missions.get? missionId = some mission ∧
        mission.withdrawal = none ∧ mission.state = .awaitingDecision ∧
        mission.decisions = [] ∧ mission.authorizationIds = [] ∧
        next = document.setMission missionId { mission with
          withdrawal := some withdrawal, updatedAt := env.now } := by
  simp only [withdrawProposal, bind_eq_ok, exists_passed, lookupMission_eq_ok] at h
  obtain ⟨-, -, mission, ⟨-, hheld⟩, -, -, h⟩ := h
  split at h
  · exact .inl (Prod.mk.inj ((pure_eq_ok ..).mp h)).1.symm
  · rename_i hfirst
    simp only [firstWithdrawal, bind_eq_ok, exists_passed, orFail_eq_ok,
      failIf_eq_ok, pure_eq_ok, Prod.mk.injEq, not_or, not_not, ne_eq] at h
    obtain ⟨_, -, -, ⟨hstate, -, hdecisions, hauthorizations⟩, withdrawal, -, hnext, -⟩ := h
    exact .inr ⟨mission, withdrawal, hheld, not_not.mp hfirst, hstate,
      hdecisions, hauthorizations, hnext.symm⟩

/-! ## The effects of a decision -/

variable {decisionId : String}

theorem appendRevision_eq_ok (h : appendRevision mission proposal createdAt decisionId context
      receivedAt = .ok (changed, entry)) :
    ∃ clean, validateProposal proposal "proposal" = .ok clean ∧
      proposalDigest clean = .ok entry.proposalDigestSha256 ∧
      entry.revision = mission.currentRevision + 1 ∧ entry.createdAt = createdAt ∧
      provenanceRecord context receivedAt .decision decisionId
        mission.missionId (mission.currentRevision + 1) =
          .ok entry.provenance ∧ NormalRevision entry ∧
      changed = { mission with
        revisions := mission.revisions ++ [entry]
        currentRevision := mission.currentRevision + 1
        updatedAt := createdAt } := by
  simp only [appendRevision, bind_eq_ok, exists_passed, failIf_eq_ok,
    pure_eq_ok, Prod.mk.injEq] at h
  obtain ⟨-, provenance, hprovenance, added, hadded, rfl, rfl⟩ := h
  have hnormal := newRevisionEntry_normal hadded
  obtain ⟨clean, hclean, hdigest, hrevision, -, hcreated, rfl⟩ :=
    newRevisionEntry_eq_ok hadded
  exact ⟨clean, hclean, hdigest, hrevision, hcreated, hprovenance, hnormal, rfl⟩

/-- What the effect of each kind of decision leaves: the document with its
ledger and authorizations, and the Mission. -/
inductive DecisionEffected (env : Env) (document : Document)
    (mission : Mission) (decision : DecisionRecord) : Document → Mission → Prop
  | approved (entry : RevisionEntry) (authorization : Authorization)
      (effected : Document) (hkind : decision.decision = .approve)
      (htransition : .authorized ∈ mission.state.allowedTransitions)
      (hentry : mission.revisions.getLast? = some entry)
      (hfresh : document.authorizations.get? authorization.authorizationId = none)
      (hvalid : validateAuthorizationRecord authorization "authorization" =
        .ok ()) (hunrevoked : authorization.revocation = none)
      (hissued : authorization.issuedAt = env.now)
      (hagrees : authorizationAgrees authorization.toAuthorityHalf decision
        entry mission.missionId = .ok ())
      (hrequested : requireRequested decision entry.proposal = .ok ())
      (hledger : Ledgered { document with
          authorizations := document.authorizations.set
            authorization.authorizationId authorization } mission.missionId [{
        kind := .issued
        authorizationId := some authorization.authorizationId
        decisionId := some decision.decisionId
        revision := entry.revision
        recordedAt := env.now }] effected)
      (houtcome : decision.outcome = {
        resultingState := .authorized
        resultingRevision := entry.revision
        proposalDigestSha256 := entry.proposalDigestSha256
        authorizationId := some authorization.authorizationId
        invalidatedAuthorizationIds := [] }) :
      DecisionEffected env document mission decision effected { mission with
        authorizationIds :=
          mission.authorizationIds ++ [authorization.authorizationId]
        state := .authorized }
  | denied (entry : RevisionEntry) (effected : Document)
      (hkind : decision.decision = .deny)
      (htransition : .denied ∈ mission.state.allowedTransitions)
      (hentry : mission.revisions.getLast? = some entry)
      (hledger : Ledgered document mission.missionId [{
        kind := .denied
        authorizationId := none
        decisionId := some decision.decisionId
        revision := mission.currentRevision
        recordedAt := env.now }] effected)
      (houtcome : decision.outcome = {
        resultingState := .denied
        resultingRevision := mission.currentRevision
        proposalDigestSha256 := entry.proposalDigestSha256
        authorizationId := none
        invalidatedAuthorizationIds := [] }) :
      DecisionEffected env document mission decision effected
        { mission with state := .denied }
  | settled (entry : RevisionEntry) (target : MissionState)
      (hkind : (decision.decision = .reject ∧ target = .rejected) ∨
        (decision.decision = .requestChanges ∧ target = .changesRequested))
      (htransition : target ∈ mission.state.allowedTransitions)
      (hentry : mission.revisions.getLast? = some entry)
      (houtcome : decision.outcome = {
        resultingState := target
        resultingRevision := entry.revision
        proposalDigestSha256 := entry.proposalDigestSha256
        authorizationId := none
        invalidatedAuthorizationIds := [] }) :
      DecisionEffected env document mission decision document
        { mission with state := target }
  | edited (entry : RevisionEntry) (effected : Document)
      (invalidated : List String)
      (hkind : decision.decision = .edit)
      (hrevoked : foldChecked (revokeSuperseded env mission
        decision.decisionId) (document, []) mission.authorizationIds =
          .ok (effected, invalidated))
      (hrevision : entry.revision = mission.currentRevision + 1)
      (hcreated : entry.createdAt = env.now)
      (hprovenance : ∃ context, provenanceContext decision.provenance =
          .ok context ∧ provenanceRecord context decision.receivedAt .decision
          decision.decisionId mission.missionId (mission.currentRevision + 1) =
            .ok entry.provenance)
      (hdigest : decision.proposalDigestSha256 = some entry.proposalDigestSha256)
      (houtcome : decision.outcome = {
        resultingState := .awaitingDecision
        resultingRevision := entry.revision
        proposalDigestSha256 := entry.proposalDigestSha256
        authorizationId := none
        invalidatedAuthorizationIds := invalidated })
      (hnormal : NormalRevision entry) :
      DecisionEffected env document mission decision effected { mission with
        revisions := mission.revisions ++ [entry]
        currentRevision := mission.currentRevision + 1
        state := .awaitingDecision
        updatedAt := env.now }

/-- A decision recorded on its Mission, whatever its path and its kind. -/
structure Decided (env : Env) (document next : Document) (missionId : String)
    (mission : Mission) (decision : DecisionRecord) : Prop where
  held : document.missions.get? missionId = some mission
  running : mission.state ∉ MissionState.terminal
  unrun : mission.run = none
  standing : mission.withdrawal = none
  revision_eq : decision.revision = mission.currentRevision
  decidedAt_eq : decision.decidedAt = env.now
  effect : ∃ noted effected changed reservation, noteExpirations env document mission = .ok noted ∧
    DecisionEffected env noted mission decision effected changed ∧
    document.reservations.get? decision.decisionId = some reservation ∧
    reservation.kind = .decision ∧ reservation.consumedBy = none ∧
    reservation.context = decision.provenance.context ∧
    next = (effected.setMission missionId { changed with
        decisions := mission.decisions ++ [decision]
        updatedAt := env.now }).consume decision.decisionId reservation
      decision.decisionId

/-! ## Human decisions, inverted -/

/-- The record of an applied envelope. -/
structure EnvelopeRecorded (envelope : HumanDecisionEnvelope) (decidedAt : Nat)
    (outcome : RecordedOutcome) (decision : DecisionRecord) : Prop where
  decisionId : decision.decisionId = envelope.decisionId
  missionId : decision.missionId = envelope.missionId
  revision : decision.revision = envelope.revision
  kind : decision.decision = envelope.decision
  actions : decision.approvedActionScope = envelope.normalizedActions
  targets : decision.approvedDeliveryTargets = envelope.normalizedTargets
  expiresAt : decision.expiresAt = envelope.expiresAt
  replacement : envelope.replacementDigest = .ok decision.proposalDigestSha256
  provenance : provenanceRecord envelope.context envelope.receivedAt .decision
    envelope.decisionId envelope.missionId envelope.revision =
      .ok decision.provenance
  receivedAt : decision.receivedAt = envelope.receivedAt
  decidedAt_eq : decision.decidedAt = decidedAt
  digest : envelope.digest = .ok decision.decisionDigestSha256
  outcome_eq : decision.outcome = outcome

theorem newDecisionRecord_eq_ok {envelope : HumanDecisionEnvelope}
    {decidedAt : Nat} {outcome : RecordedOutcome} {decision : DecisionRecord}
    (h : newDecisionRecord envelope decidedAt outcome = .ok decision) :
    EnvelopeRecorded envelope decidedAt outcome decision := by
  simp only [newDecisionRecord, bind_eq_ok, exists_passed, pure_eq_ok] at h
  obtain ⟨-, provenance, hprovenance, replacement, hreplacement, digest, hdigest, -, rfl⟩ := h
  exact ⟨rfl, rfl, rfl, rfl, rfl, rfl, rfl, hreplacement, hprovenance, rfl, rfl, hdigest, rfl⟩

theorem issueMissionAuthorization_eq_ok {half : AuthorityHalf}
    {authorization : Authorization} (h : issueMissionAuthorization half = .ok authorization) :
    validateAuthorizationRecord authorization "authorization" = .ok () ∧
      authorization.toAuthorityHalf = half ∧
      authorization.revocation = none := by
  simp only [issueMissionAuthorization, bind_eq_ok, exists_passed, pure_eq_ok] at h
  obtain ⟨hvalid, rfl⟩ := h
  exact ⟨hvalid, rfl, rfl⟩

variable {passed : Unit}

omit [JsonDigest] in
theorem requireWithinRequest_eq_ok
    {actions : List ActionScope} {targets : List DeliveryTarget}
    (h : requireWithinRequest entry actions targets = .ok passed) :
    actions ⊆ entry.proposal.requestedActionScope ∧
      targets ⊆ entry.proposal.requestedDeliveryTarget.toList := by
  simp only [requireWithinRequest, bind_eq_ok, exists_passed, failIf_eq_ok, not_not] at h
  refine ⟨fun action haction => h.1 action haction, fun target htarget => ?_⟩
  rw [h.2 target htarget]
  exact List.mem_singleton_self target

/-- What the source relies on from one record: its key is its id, and its last
revision is its current one. -/
structure Numbered (missionId : String) (mission : Mission) : Prop where
  keyed : mission.missionId = missionId
  current : ∀ entry, mission.revisions.getLast? = some entry →
    entry.revision = mission.currentRevision

variable {envelope : HumanDecisionEnvelope} {decision : DecisionRecord}
  {outcome : RecordedOutcome} {effected : Document}

theorem approve_eq_ok (hnumbered : Numbered envelope.missionId mission)
    (hrevision : envelope.revision = mission.currentRevision) (hkind : envelope.decision = .approve)
    (h : approve env document mission envelope =
      .ok (effected, changed, outcome))
    (hdecision : EnvelopeRecorded envelope env.now outcome decision) :
    DecisionEffected env document mission decision effected changed := by
  simp only [approve, validateTransition, Mission.currentRevisionEntry,
    bind_eq_ok, exists_passed, orFail_eq_ok, failIf_eq_ok, pure_eq_ok, Prod.mk.injEq, not_not] at h
  obtain ⟨htransition, entry, hentry, actions, hactions, targets, htargets,
    hwithin, -, -, authorizationId, hminted, principal, hprincipal,
    authorization, hissued, recorded, hrecorded, rfl, rfl, rfl⟩ := h
  obtain ⟨hvalid, hhalf, hunrevoked⟩ := issueMissionAuthorization_eq_ok hissued
  have hid : authorization.authorizationId = authorizationId := by
    rw [hhalf, approvedHalf]
  have hentryRevision := hnumbered.current entry hentry
  obtain ⟨hwithinActions, hwithinTargets⟩ := requireWithinRequest_eq_ok hwithin
  have hprovenance := hdecision.provenance
  rw [hrevision, ← hentryRevision, ← hnumbered.keyed] at hprovenance
  have hsame : principal = decision.provenance :=
    Except.ok.inj (hprincipal.symm.trans hprovenance)
  subst hid
  refine .approved entry authorization recorded (hdecision.kind.trans hkind)
    htransition hentry (get?_of_freshId hminted) hvalid hunrevoked
    (by rw [hhalf, approvedHalf]) ?_ ?_
    (by rw [hdecision.decisionId]; exact Ledgered.ofAppend hrecorded)
    hdecision.outcome_eq
  · rw [authorizationAgrees_eq_ok, hhalf]
    exact ⟨rfl, by
      rw [hdecision.revision, hrevision]
      exact hentryRevision, rfl, by rw [hdecision.actions, hactions]; rfl,
      by rw [hdecision.targets, htargets]; rfl, hdecision.expiresAt.symm,
      hsame, hdecision.decidedAt_eq.symm⟩
  · rw [requireRequested_eq_ok]
    exact ⟨actions, targets, by rw [hdecision.actions, hactions],
      by rw [hdecision.targets, htargets], hwithinActions, hwithinTargets⟩

omit [JsonDigest] in
theorem deny_eq_ok (h : deny env document mission decisionId = .ok (effected, changed, outcome)) :
    .denied ∈ mission.state.allowedTransitions ∧
      changed = { mission with state := .denied } ∧
      ∃ entry, mission.revisions.getLast? = some entry ∧ Ledgered document mission.missionId [{
          kind := .denied
          authorizationId := none
          decisionId := some decisionId
          revision := mission.currentRevision
          recordedAt := env.now }] effected ∧ outcome = {
          resultingState := .denied
          resultingRevision := mission.currentRevision
          proposalDigestSha256 := entry.proposalDigestSha256
          authorizationId := none
          invalidatedAuthorizationIds := [] } := by
  simp only [deny, validateTransition, Mission.currentRevisionEntry,
    bind_eq_ok, exists_passed, orFail_eq_ok, failIf_eq_ok, pure_eq_ok, Prod.mk.injEq, not_not] at h
  obtain ⟨htransition, recorded, hrecorded, entry, hentry, rfl, rfl, rfl⟩ := h
  exact ⟨htransition, rfl, entry, hentry, Ledgered.ofAppend hrecorded, rfl⟩

theorem edit_eq_ok (hkind : envelope.decision = .edit) (h : edit env document mission envelope =
      .ok (effected, changed, outcome))
    (hdecision : EnvelopeRecorded envelope env.now outcome decision) :
    DecisionEffected env document mission decision effected changed := by
  simp only [edit, bind_eq_ok, exists_passed, orFail_eq_ok, pure_eq_ok,
    Prod.exists, Prod.mk.injEq] at h
  obtain ⟨-, revoked, invalidated, hrevoked, proposal, hproposal, revised,
    entry, hrevised, rfl, rfl, rfl⟩ := h
  obtain ⟨clean, hclean, hdigest, hrevision, hcreated, hprovenance, hnormal,
    rfl⟩ := appendRevision_eq_ok hrevised
  refine .edited entry revoked invalidated (hdecision.kind.trans hkind)
    (by rw [hdecision.decisionId]; exact hrevoked) hrevision hcreated
    ⟨envelope.context, provenanceContext_of_record hdecision.provenance, ?_⟩
    ?_ hdecision.outcome_eq hnormal
  · rw [hdecision.receivedAt, hdecision.decisionId]
    exact hprovenance
  · have hreplacement := hdecision.replacement
    simp only [HumanDecisionEnvelope.replacementDigest, hkind, if_true,
      hproposal, map_eq_ok] at hreplacement
    obtain ⟨digest, hproposed, hreplaced⟩ := hreplacement
    rw [proposalDigest_of_validated hclean, hproposed] at hdigest
    rw [← hreplaced, Except.ok.inj hdigest]

/-- The effect an envelope asks for. -/
theorem decisionEffect_eq_ok (hnumbered : Numbered envelope.missionId mission)
    (hrevision : envelope.revision = mission.currentRevision)
    (henvelope : envelope.decision.inEnvelope = true)
    (h : decisionEffect env document mission envelope =
      .ok (effected, changed, outcome))
    (hdecision : EnvelopeRecorded envelope env.now outcome decision) :
    DecisionEffected env document mission decision effected changed := by
  cases hkind : envelope.decision with
  | approve =>
      simp only [decisionEffect, hkind] at h
      exact approve_eq_ok hnumbered hrevision hkind h hdecision
  | deny =>
      simp only [decisionEffect, hkind] at h
      obtain ⟨htransition, rfl, entry, hentry, hledger, houtcome⟩ := deny_eq_ok h
      rw [← hdecision.decisionId] at hledger
      exact .denied entry effected (hdecision.kind.trans hkind) htransition
        hentry hledger (hdecision.outcome_eq.trans houtcome)
  | edit =>
      simp only [decisionEffect, hkind] at h
      exact edit_eq_ok hkind h hdecision
  | reject => simp [hkind, DecisionKind.inEnvelope] at henvelope
  | requestChanges => simp [hkind, DecisionKind.inEnvelope] at henvelope

omit [JsonDigest] in
theorem recordDecision_eq_ok
    (h : recordDecision env document missionId mission decision reservation =
      .ok next) :
    next = (document.setMission missionId { mission with
        decisions := mission.decisions ++ [decision]
        updatedAt := env.now }).consume decision.decisionId reservation
      decision.decisionId := by
  simp only [recordDecision, appendDecision, bind_eq_ok, exists_passed, pure_eq_ok] at h
  obtain ⟨_, ⟨-, rfl⟩, rfl⟩ := h
  rfl

/-- No effect touches the decisions recorded before. -/
theorem DecisionEffected.decisions_eq
    (h : DecisionEffected env document mission decision effected changed) :
    changed.decisions = mission.decisions := by
  cases h <;> rfl

omit [JsonDigest] in
theorem requireDecidable_eq_ok : requireDecidable mission = .ok passed ↔
      mission.state ∉ MissionState.terminal ∧ mission.run = none ∧
        mission.withdrawal = none := by
  simp only [requireDecidable, refuseTerminal, bind_eq_ok, exists_passed,
    failIf_eq_ok, not_not, ne_eq]

omit [JsonDigest] in
theorem inEnvelope_of_validate (h : envelope.validate = .ok ()) :
    envelope.decision.inEnvelope = true := by
  simp only [HumanDecisionEnvelope.validate, bind_eq_ok, exists_passed,
    failAt_eq_ok, Bool.not_eq_false] at h
  exact h.2.2.2.2.2.2.1

theorem validate_of_recorded (h : newDecisionRecord envelope env.now outcome =
    .ok decision) : envelope.validate = .ok () := by
  simp only [newDecisionRecord, bind_eq_ok, exists_passed] at h
  exact h.1

variable {answer : DecisionOutcome}

/-- A new human decision, from what its call established to its answer. -/
theorem decideHuman_eq_ok (hnumbered : Numbered envelope.missionId mission)
    (hheld : document.missions.get? envelope.missionId = some mission)
    (hreserved : Reserved document envelope.decisionId .decision
      envelope.context reservation) (hunconsumed : reservation.consumedBy = none)
    (h : decideHuman env document envelope mission reservation =
      .ok (next, answer)) : ∃ decision outcome, EnvelopeRecorded envelope env.now outcome decision ∧
      Decided env document next envelope.missionId mission decision ∧
      decisionOutcome env next decision false = .ok answer ∧
      ∃ entry, mission.revisions.getLast? = some entry ∧
        ∀ expected, envelope.expectedProposalDigestSha256 = some expected →
          expected = entry.proposalDigestSha256 := by
  simp only [decideHuman, bind_eq_ok, exists_passed, requireDecidable_eq_ok] at h
  obtain ⟨⟨hopen, hrun, hwithdrawal⟩, h⟩ := h
  split at h
  · simp at h
  · rename_i hrevision
    simp only [bind_eq_ok, exists_passed, Prod.exists, pure_eq_ok, Prod.mk.injEq] at h
    obtain ⟨hcontent, noted, hnoted, effected, changed, outcome, heffect,
      decision, hdecision, decided, hdecided, answered, hanswer, rfl, rfl⟩ := h
    have hrecorded := newDecisionRecord_eq_ok hdecision
    have heffected := decisionEffect_eq_ok hnumbered (not_not.mp hrevision)
      (inEnvelope_of_validate (validate_of_recorded hdecision)) heffect
      hrecorded
    have hnext := recordDecision_eq_ok hdecided
    rw [heffected.decisions_eq] at hnext
    refine ⟨decision, outcome, hrecorded, ?_, hanswer, ?_⟩
    · exact {
        held := hheld
        running := hopen
        unrun := hrun
        standing := hwithdrawal
        revision_eq := hrecorded.revision.trans (not_not.mp hrevision)
        decidedAt_eq := hrecorded.decidedAt_eq
        effect := ⟨noted, effected, changed, reservation, hnoted, heffected,
          hrecorded.decisionId ▸ hreserved.held, hreserved.kind_eq,
          hunconsumed, by
            rw [hreserved.context_eq, provenanceRecord_eq_ok hrecorded.provenance], hnext⟩ }
    · simp only [requireExactContent, Mission.currentRevisionEntry, bind_eq_ok,
        exists_passed, orFail_eq_ok, failIf_eq_ok, not_exists, not_and,
        not_not, Option.mem_def, ne_eq] at hcontent
      obtain ⟨entry, hentry, hexpected, -⟩ := hcontent
      exact ⟨entry, hentry, hexpected⟩

/-- A human decision repeats the answer of a consumed id, or decides. -/
theorem applyHumanDecision_eq_ok
    (h : applyHumanDecision env document envelope = .ok (next, answer)) :
    ∃ digest reservation mission, envelope.digest = .ok digest ∧
      Reserved document envelope.decisionId .decision envelope.context
        reservation ∧ document.missions.get? envelope.missionId = some mission ∧
      ((reservation.consumedBy ≠ none ∧ replayHumanDecision env document envelope digest =
            .ok (next, answer)) ∨ (reservation.consumedBy = none ∧
          decideHuman env document envelope mission reservation =
            .ok (next, answer))) := by
  simp only [applyHumanDecision, bind_eq_ok, exists_passed,
    lookupReservation_eq_ok, lookupMission_eq_ok] at h
  obtain ⟨-, digest, hdigest, reservation, hreserved, mission, ⟨-, hheld⟩, h⟩ := h
  refine ⟨digest, reservation, mission, hdigest, hreserved, hheld, ?_⟩
  split at h
  · rename_i hconsumed
    exact .inl ⟨hconsumed, h⟩
  · rename_i hconsumed
    exact .inr ⟨not_not.mp hconsumed, h⟩

theorem replayHumanDecision_eq_ok :
    replayHumanDecision env document envelope digest = .ok (next, answer) ↔
      ∃ recorded, recordedDecision document envelope.decisionId = some recorded ∧
        recorded.missionId = envelope.missionId ∧ recorded.decisionDigestSha256 = digest ∧
        (envelope.decision = .approve → ∀ expected,
          envelope.expectedProposalDigestSha256 = some expected →
            recorded.outcome.proposalDigestSha256 = expected) ∧
        decisionOutcome env document recorded true = .ok answer ∧
        next = document := by
  simp only [replayHumanDecision, bind_eq_ok, exists_passed, orFail_eq_ok,
    failIf_eq_ok, pure_eq_ok, Prod.mk.injEq, not_or, not_not, not_and,
    not_exists, Option.mem_def, ne_eq]
  constructor
  · rintro ⟨recorded, hrecorded, ⟨hmission, hdigest⟩, hexpected, outcome, houtcome, rfl, rfl⟩
    exact ⟨recorded, hrecorded, hmission, hdigest, hexpected, houtcome, rfl⟩
  · rintro ⟨recorded, hrecorded, hmission, hdigest, hexpected, houtcome, rfl⟩
    exact ⟨recorded, hrecorded, ⟨hmission, hdigest⟩, hexpected, answer, houtcome, rfl, rfl⟩

/-! ## Attested outcomes, inverted -/

/-- The record of an attested outcome. -/
structure AttestationRecorded (call : AttestedCall) (revision now : Nat)
    (outcome : RecordedOutcome) (decision : DecisionRecord) : Prop where
  decisionId : decision.decisionId = call.decisionId
  missionId : decision.missionId = call.missionId
  revision_eq : decision.revision = revision
  kind : decision.decision = call.outcome.kind
  provenance : provenanceRecord call.context now .decision call.decisionId
    call.missionId revision = .ok decision.provenance
  decidedAt_eq : decision.decidedAt = now
  digest : decision.decisionDigestSha256 = decisionDigest call.missionId
    revision call.outcome.kind none none none none call.reason
  outcome_eq : decision.outcome = outcome

variable {call : AttestedCall}

theorem newAttestedOutcomeRecord_eq_ok
    {now : Nat} (h : newAttestedOutcomeRecord call.context call.decisionId call.missionId
      revision call.outcome.kind now now outcome call.reason = .ok decision) :
    AttestationRecorded call revision now outcome decision := by
  simp only [newAttestedOutcomeRecord, bind_eq_ok, exists_passed, pure_eq_ok] at h
  obtain ⟨-, -, provenance, hprovenance, -, rfl⟩ := h
  exact ⟨rfl, rfl, rfl, rfl, hprovenance, rfl, rfl, rfl⟩

/-- The outcome an attested decision records. -/
def attestedOutcomeOf (call : AttestedCall) (entry : RevisionEntry) :
    RecordedOutcome where
  resultingState := call.outcome.target
  resultingRevision := entry.revision
  proposalDigestSha256 := entry.proposalDigestSha256
  authorizationId := none
  invalidatedAuthorizationIds := []

theorem attestedEffect_eq_ok (hnumbered : Numbered call.missionId mission)
    (hentry : mission.revisions.getLast? = some entry)
    (htransition : call.outcome.target ∈ mission.state.allowedTransitions)
    (h : attestedEffect env document mission call = .ok (effected, changed))
    (hdecision : AttestationRecorded call entry.revision env.now
      (attestedOutcomeOf call entry) decision) :
    DecisionEffected env document mission decision effected changed := by
  have hkind := hdecision.kind
  have houtcome := hdecision.outcome_eq
  cases hcall : call.outcome with
  | decline =>
      simp only [attestedEffect, hcall, if_true, bind_eq_ok, pure_eq_ok,
        Prod.exists, Prod.mk.injEq] at h
      obtain ⟨denied, moved, recorded, hdeny, rfl, rfl⟩ := h
      obtain ⟨-, rfl, last, hlast, hledger, -⟩ := deny_eq_ok hdeny
      rw [← hdecision.decisionId] at hledger
      rw [hcall] at hkind htransition
      refine .denied entry denied hkind htransition hentry hledger ?_
      rw [houtcome, attestedOutcomeOf, hcall, hnumbered.current entry hentry]
      rfl
  | reject =>
      simp only [attestedEffect, hcall, reduceCtorEq, if_false, Except.ok.injEq, Prod.mk.injEq] at h
      obtain ⟨rfl, rfl⟩ := h
      rw [hcall] at hkind htransition
      exact .settled entry _ (.inl ⟨hkind, rfl⟩) htransition hentry
        (by rw [houtcome, attestedOutcomeOf, hcall])
  | requestChanges =>
      simp only [attestedEffect, hcall, reduceCtorEq, if_false, Except.ok.injEq, Prod.mk.injEq] at h
      obtain ⟨rfl, rfl⟩ := h
      rw [hcall] at hkind htransition
      exact .settled entry _ (.inr ⟨hkind, rfl⟩) htransition hentry
        (by rw [houtcome, attestedOutcomeOf, hcall])

theorem decideAttested_eq_ok (hnumbered : Numbered call.missionId mission)
    (hheld : document.missions.get? call.missionId = some mission)
    (hreserved : Reserved document call.decisionId .decision call.context
      reservation) (hunconsumed : reservation.consumedBy = none)
    (h : decideAttested env document call mission reservation =
      .ok (next, answer)) : ∃ decision entry, mission.revisions.getLast? = some entry ∧
      call.proposalDigestSha256 = entry.proposalDigestSha256 ∧ call.revision = entry.revision ∧
      AttestationRecorded call entry.revision env.now (attestedOutcomeOf call entry) decision ∧
      Decided env document next call.missionId mission decision ∧
      decisionOutcome env next decision false = .ok answer := by
  simp only [decideAttested, validateTransition, Mission.currentRevisionEntry,
    Mission.firstRevision, bind_eq_ok, exists_passed, requireDecidable_eq_ok,
    orFail_eq_ok, failIf_eq_ok, pure_eq_ok, Prod.exists, Prod.mk.injEq, not_not, ne_eq] at h
  obtain ⟨⟨hopen, hrun, hwithdrawal⟩, hrevision, entry, hentry, hdigest, _, -,
    -, htransition, noted, hnoted, effected, changed, heffect, decision,
    hdecision, decided, hdecided, answered, hanswer, rfl, rfl⟩ := h
  have hrecorded := newAttestedOutcomeRecord_eq_ok hdecision
  have heffected := attestedEffect_eq_ok hnumbered hentry htransition heffect hrecorded
  have hnext := recordDecision_eq_ok hdecided
  rw [heffected.decisions_eq] at hnext
  have hcurrent := hnumbered.current entry hentry
  exact ⟨decision, entry, hentry, hdigest, hrevision.trans hcurrent.symm, hrecorded, {
      held := hheld
      running := hopen
      unrun := hrun
      standing := hwithdrawal
      revision_eq := hrecorded.revision_eq.trans hcurrent
      decidedAt_eq := hrecorded.decidedAt_eq
      effect := ⟨noted, effected, changed, reservation, hnoted, heffected,
        hrecorded.decisionId ▸ hreserved.held, hreserved.kind_eq, hunconsumed,
        by
          rw [hreserved.context_eq, provenanceRecord_eq_ok hrecorded.provenance], hnext⟩ }, hanswer⟩

theorem replayAttestedOutcome_eq_ok :
    replayAttestedOutcome env document call digest = .ok (next, answer) ↔
      ∃ recorded, recordedDecision document call.decisionId = some recorded ∧
        recorded.missionId = call.missionId ∧ recorded.decisionDigestSha256 = digest ∧
        recorded.outcome.proposalDigestSha256 = call.proposalDigestSha256 ∧
        decisionOutcome env document recorded true = .ok answer ∧
        next = document := by
  simp only [replayAttestedOutcome, bind_eq_ok, exists_passed, orFail_eq_ok,
    failIf_eq_ok, pure_eq_ok, Prod.mk.injEq, not_or, not_not, ne_eq]
  constructor
  · rintro ⟨recorded, hrecorded, ⟨hmission, hdigest, hproposal⟩, outcome, houtcome, rfl, rfl⟩
    exact ⟨recorded, hrecorded, hmission, hdigest, hproposal, houtcome, rfl⟩
  · rintro ⟨recorded, hrecorded, hmission, hdigest, hproposal, houtcome, rfl⟩
    exact ⟨recorded, hrecorded, ⟨hmission, hdigest, hproposal⟩, answer, houtcome, rfl, rfl⟩

/-- An attested outcome repeats the answer of a consumed id, or decides. -/
theorem applyAttestedOutcome_eq_ok
    (h : applyAttestedOutcome env document call = .ok (next, answer)) : ∃ reservation mission,
      Reserved document call.decisionId .decision call.context reservation ∧
      document.missions.get? call.missionId = some mission ∧ ((reservation.consumedBy ≠ none ∧
          replayAttestedOutcome env document call (decisionDigest call.missionId
            call.revision call.outcome.kind none none none none call.reason) =
              .ok (next, answer)) ∨ (reservation.consumedBy = none ∧
          decideAttested env document call mission reservation =
            .ok (next, answer))) := by
  simp only [applyAttestedOutcome, bind_eq_ok, exists_passed,
    lookupReservation_eq_ok, lookupMission_eq_ok] at h
  obtain ⟨-, -, -, -, -, -, reservation, hreserved, mission, ⟨-, hheld⟩, h⟩ := h
  refine ⟨reservation, mission, hreserved, hheld, ?_⟩
  split at h
  · rename_i hconsumed
    exact .inl ⟨hconsumed, h⟩
  · rename_i hconsumed
    exact .inr ⟨not_not.mp hconsumed, h⟩

end DodgingInfinity.MissionCore
