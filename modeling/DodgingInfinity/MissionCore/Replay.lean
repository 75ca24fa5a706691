import DodgingInfinity.MissionCore.Authorization

/-!
# What a replay of the decision history keeps

A successful replay always stands where the approval of the current revision,
if one is in force, is the last decision and the one live authorization.
-/

namespace DodgingInfinity.MissionCore

open Checked

/-- The states a decision history alone can leave. -/
def decisionStates : List MissionState :=
  [.awaitingDecision, .authorized, .denied, .rejected, .changesRequested]

/-- The authorizations some ledger facts record as expired. -/
def expiredIn (facts : List LedgerFact) : List String :=
  (facts.filter fun fact => fact.kind = .expired).filterMap
    LedgerFact.authorizationId

@[simp] theorem expiredIn_nil : expiredIn [] = [] := rfl

theorem expiredIn_append (first second : List LedgerFact) :
    expiredIn (first ++ second) = expiredIn first ++ expiredIn second := by
  simp [expiredIn, List.filter_append, List.filterMap_append]

/-! ## One decision, inverted -/

theorem reservationAgrees_eq_ok (document : Document) (reservedId : String)
    (kind : ReferenceKind) (consumedBy : String) (provenance : Provenance) (passed : Unit) :
    reservationAgrees document reservedId kind consumedBy provenance =
        .ok passed ↔ ∃ reservation, document.reservations.get? reservedId = some reservation ∧
        reservation.kind = kind ∧ reservation.consumedBy = some consumedBy ∧
        reservation.context = provenance.context := by
  simp [reservationAgrees]

theorem authorizationAgrees_eq_ok (authorization : AuthorityHalf)
    (decision : DecisionRecord) (entry : RevisionEntry) (missionId : String) (passed : Unit) :
    authorizationAgrees authorization decision entry missionId = .ok passed ↔
      authorization.missionId = missionId ∧ authorization.revision = decision.revision ∧
        authorization.proposalDigestSha256 = entry.proposalDigestSha256 ∧
        some authorization.authorizedActionScope = decision.approvedActionScope ∧
        some authorization.authorizedDeliveryTargets = decision.approvedDeliveryTargets ∧
        authorization.expiresAt = decision.expiresAt ∧
        authorization.humanPrincipal = decision.provenance ∧
        authorization.issuedAt = decision.decidedAt := by
  simp [authorizationAgrees]

theorem requireRequested_eq_ok (decision : DecisionRecord) (requested : Proposal) (passed : Unit) :
    requireRequested decision requested = .ok passed ↔
      ∃ actions targets, decision.approvedActionScope = some actions ∧
        decision.approvedDeliveryTargets = some targets ∧ actions ⊆ requested.requestedActionScope ∧
        targets ⊆ requested.requestedDeliveryTarget.toList := by
  simp only [requireRequested, bind_eq_ok, orFail_eq_ok, failIf_eq_ok, not_or, not_not]
  constructor
  · rintro ⟨actions, hactions, targets, htargets, hsubset⟩
    exact ⟨actions, targets, hactions, htargets, hsubset⟩
  · rintro ⟨actions, targets, hactions, htargets, hsubset⟩
    exact ⟨actions, hactions, targets, htargets, hsubset⟩

/-- What the outcome of a decision records is what its replay gives. -/
def OutcomeAgrees (mission : Mission) (decision : DecisionRecord)
    (next : Replay) (invalidated : List String) : Prop :=
  decision.outcome.resultingState = next.state ∧
    decision.outcome.resultingRevision = next.revision ∧
    sortedBy id decision.outcome.invalidatedAuthorizationIds = invalidated ∧
    ∃ entry, mission.revisions[next.revision - 1]? = some entry ∧
      decision.outcome.proposalDigestSha256 = entry.proposalDigestSha256

theorem replayDecision_eq_ok (document : Document) (mission : Mission)
    (replay next : Replay) (decision : DecisionRecord) :
    replayDecision document mission replay decision = .ok next ↔
      reservationAgrees document decision.decisionId .decision
          decision.decisionId decision.provenance = .ok () ∧
        replay.state ≠ .rejected ∧ decision.revision = replay.revision ∧
        ∃ noted, foldChecked (noteExpired document.authorizations
            decision.decidedAt) replay (sortedBy id replay.live.keys) =
              .ok noted ∧ ∃ invalidated, replayKind document mission noted decision =
              .ok (next, invalidated) ∧
            OutcomeAgrees mission decision next invalidated := by
  simp only [replayDecision, bind_eq_ok, exists_passed, failIf_eq_ok,
    orFail_eq_ok, pure_eq_ok, Prod.exists, not_not, not_or, ne_eq, OutcomeAgrees]
  constructor
  · rintro ⟨hreserved, hstate, hrevision, noted, hnoted, result, invalidated,
      hkind, ⟨hresulting, hnumber, hinvalidated⟩, entry, hentry, hdigest, rfl⟩
    exact ⟨hreserved, hstate, hrevision, noted, hnoted, invalidated, hkind,
      hresulting, hnumber, hinvalidated, entry, hentry, hdigest⟩
  · rintro ⟨hreserved, hstate, hrevision, noted, hnoted, invalidated, hkind,
      hresulting, hnumber, hinvalidated, entry, hentry, hdigest⟩
    exact ⟨hreserved, hstate, hrevision, noted, hnoted, next, invalidated,
      hkind, ⟨hresulting, hnumber, hinvalidated⟩, entry, hentry, hdigest, rfl⟩

/-- The authorization an approval issued, as the replay demands it. -/
structure Approved (document : Document) (mission : Mission)
    (decision : DecisionRecord) (revision : Nat) (authorizationId : String) :
    Prop where
  approves : decision.decision = .approve
  names : decision.outcome.authorizationId = some authorizationId
  revision_eq : decision.revision = revision
  issued : ∃ authorization entry,
    document.authorizations.get? authorizationId = some authorization ∧
    mission.revisions[revision - 1]? = some entry ∧
    requireRequested decision entry.proposal = .ok () ∧
    authorizationAgrees authorization.toAuthorityHalf decision entry
      mission.missionId = .ok ()

theorem replayApprove_eq_ok (document : Document) (mission : Mission)
    (replay next : Replay) (decision : DecisionRecord) :
    replayApprove document mission replay decision = .ok next ↔ replay.state = .awaitingDecision ∧
        ∃ authorizationId authorization entry,
          decision.outcome.authorizationId = some authorizationId ∧
          document.authorizations.get? authorizationId = some authorization ∧
          authorizationId ∉ replay.issuedIds ∧
          mission.revisions[replay.revision - 1]? = some entry ∧
          requireRequested decision entry.proposal = .ok () ∧
          authorizationAgrees authorization.toAuthorityHalf decision entry
            mission.missionId = .ok () ∧
          next = { replay with
            state := .authorized
            issuedIds := replay.issuedIds ++ [authorizationId]
            live := replay.live.set authorizationId replay.revision
            expectedLedger := replay.expectedLedger ++ [{
              kind := .issued
              authorizationId := some authorizationId
              decisionId := some decision.decisionId
              revision := replay.revision
              recordedAt := decision.decidedAt }] } := by
  simp only [replayApprove, bind_eq_ok, exists_passed, failIf_eq_ok,
    orFail_eq_ok, pure_eq_ok, not_not, ne_eq]
  constructor
  · rintro ⟨hstate, authorizationId, hnames, authorization, hheld, hfresh, entry,
      hentry, hrequested, hagrees, rfl⟩
    exact ⟨hstate, authorizationId, authorization, entry, hnames, hheld, hfresh,
      hentry, hrequested, hagrees, rfl⟩
  · rintro ⟨hstate, authorizationId, authorization, entry, hnames, hheld, hfresh,
      hentry, hrequested, hagrees, rfl⟩
    exact ⟨hstate, authorizationId, hnames, authorization, hheld, hfresh, entry,
      hentry, hrequested, hagrees, rfl⟩

theorem replayDeny_eq_ok (replay next : Replay) (decision : DecisionRecord) :
    replayDeny replay decision = .ok next ↔ replay.state = .awaitingDecision ∧
        decision.outcome.authorizationId = none ∧
        next = { replay with
          state := .denied
          expectedLedger := replay.expectedLedger ++ [{
            kind := .denied
            authorizationId := none
            decisionId := some decision.decisionId
            revision := replay.revision
            recordedAt := decision.decidedAt }] } := by
  simp only [replayDeny, bind_eq_ok, exists_passed, failIf_eq_ok, pure_eq_ok, not_not, ne_eq]
  constructor
  · rintro ⟨hstate, hnone, rfl⟩
    exact ⟨hstate, hnone, rfl⟩
  · rintro ⟨hstate, hnone, rfl⟩
    exact ⟨hstate, hnone, rfl⟩

theorem replayAttested_eq_ok (replay next : Replay) (decision : DecisionRecord)
    (target : MissionState) : replayAttested replay decision target = .ok next ↔
      replay.state = .awaitingDecision ∧ decision.outcome.authorizationId = none ∧
        next = { replay with state := target } := by
  simp only [replayAttested, bind_eq_ok, exists_passed, failIf_eq_ok, pure_eq_ok, not_not, ne_eq]
  constructor
  · rintro ⟨hstate, hnone, rfl⟩
    exact ⟨hstate, hnone, rfl⟩
  · rintro ⟨hstate, hnone, rfl⟩
    exact ⟨hstate, hnone, rfl⟩

/-- The revision an edit appended, as its decision demands it. -/
def EditedRevision (mission : Mission) (decision : DecisionRecord) (revision : Nat) : Prop :=
  ∃ entry context, mission.revisions[revision - 1]? = some entry ∧
    entry.provenance.referenceId = decision.decisionId ∧
    provenanceContext decision.provenance = .ok context ∧
    provenanceRecord context decision.receivedAt .decision decision.decisionId
      mission.missionId revision = .ok entry.provenance ∧
    some entry.proposalDigestSha256 = decision.proposalDigestSha256 ∧
    entry.createdAt = decision.decidedAt

theorem replayEdit_eq_ok (mission : Mission) (replay next : Replay) (decision : DecisionRecord) :
    replayEdit mission replay decision = .ok next ↔
      EditedRevision mission decision (replay.revision + 1) ∧
        decision.outcome.authorizationId = none ∧ next = { (liveAt replay replay.revision).foldl
            (replayInvalidation decision replay.revision) replay with
          state := .awaitingDecision
          revision := replay.revision + 1 } := by
  simp only [replayEdit, bind_eq_ok, exists_passed, failIf_eq_ok,
    orFail_eq_ok, pure_eq_ok, not_not, ne_eq, EditedRevision]
  constructor
  · rintro ⟨entry, hentry, hreference, context, hcontext, expected, hexpected,
      rfl, hdigest, hcreated, hauthorization, rfl⟩
    exact ⟨⟨entry, context, hentry, hreference, hcontext, hexpected, hdigest,
      hcreated⟩, hauthorization, rfl⟩
  · rintro ⟨⟨entry, context, hentry, hreference, hcontext, hexpected, hdigest,
      hcreated⟩, hauthorization, rfl⟩
    exact ⟨entry, hentry, hreference, context, hcontext, entry.provenance,
      hexpected, rfl, hdigest, hcreated, hauthorization, rfl⟩

/-! ## Noting expiries -/

theorem noteExpired_eq_ok (authorizations : Dict String Authorization)
    (decidedAt : Nat) (replay next : Replay) (authorizationId : String) :
    noteExpired authorizations decidedAt replay authorizationId = .ok next ↔ ∃ authorization,
        authorizations.get? authorizationId = some authorization ∧
        next = if (∃ expires ∈ authorization.expiresAt, expires ≤ decidedAt) ∧
            authorizationId ∉ replay.expired then
          { replay with
            expired := replay.expired ++ [authorizationId]
            expectedLedger := replay.expectedLedger ++ [{
              kind := .expired
              authorizationId := some authorizationId
              decisionId := none
              revision := authorization.revision
              recordedAt := decidedAt }] }
        else replay := by
  simp only [noteExpired, bind_eq_ok, orFail_eq_ok]
  refine exists_congr fun authorization => and_congr_right fun _ => ?_
  split
  · rw [pure_eq_ok, eq_comm]
  · rw [pure_eq_ok, eq_comm]

/-- Noting expiries touches the expiry bookkeeping alone, and only for the
ids it walks. -/
theorem noteExpired_fold_frame {authorizations : Dict String Authorization}
    {decidedAt : Nat} {replay noted : Replay} {ids : List String}
    (h : foldChecked (noteExpired authorizations decidedAt) replay ids =
      .ok noted) (hexpired : replay.expired = expiredIn replay.expectedLedger) :
    ∃ expired expectedLedger,
      noted = { replay with
        expired := expired, expectedLedger := expectedLedger } ∧
      expired = expiredIn expectedLedger ∧ ∀ authorizationId ∈ expired,
        authorizationId ∈ replay.expired ∨ authorizationId ∈ ids := by
  induction ids generalizing replay with
  | nil =>
      simp only [foldChecked_nil, Except.ok.injEq] at h
      subst h
      exact ⟨replay.expired, replay.expectedLedger, rfl, hexpired, fun _ hmem => .inl hmem⟩
  | cons first rest ih =>
      obtain ⟨next, hnext, hrest⟩ := (foldChecked_cons_eq_ok ..).mp h
      obtain ⟨authorization, -, hnext⟩ := (noteExpired_eq_ok ..).mp hnext
      split at hnext
      · subst hnext
        obtain ⟨expired, expectedLedger, hnoted, hderived, hmem⟩ :=
          ih hrest (by simp [hexpired, expiredIn])
        refine ⟨expired, expectedLedger, hnoted, hderived, fun id hid => ?_⟩
        rcases hmem id hid with hheld | htail
        · simp only [List.mem_append, List.mem_singleton] at hheld
          rcases hheld with hheld | rfl
          · exact .inl hheld
          · exact .inr (List.mem_cons_self ..)
        · exact .inr (List.mem_cons_of_mem _ htail)
      · subst hnext
        obtain ⟨expired, expectedLedger, hnoted, hderived, hmem⟩ :=
          ih hrest hexpired
        exact ⟨expired, expectedLedger, hnoted, hderived, fun id hid =>
          (hmem id hid).imp_right (List.mem_cons_of_mem _)⟩

/-! ## The invariant of a replay -/

/-- What every replayed prefix of a decision history keeps. -/
structure ReplayInv (document : Document) (mission : Mission)
    (decisions : List DecisionRecord) (replay : Replay) : Prop where
  positive : 1 ≤ replay.revision
  state_mem : replay.state ∈ decisionStates
  nodup : replay.issuedIds.Nodup
  dormant : replay.state ≠ .authorized → replay.live.entries = []
  authorized : replay.state = .authorized → ∃ authorizationId decision,
      replay.issuedIds.getLast? = some authorizationId ∧
      replay.live.entries = [(authorizationId, replay.revision)] ∧
      decisions.getLast? = some decision ∧
      Approved document mission decision replay.revision authorizationId
  revoked : ∀ authorizationId ∈ replay.issuedIds, (replay.revokedBy.get? authorizationId = none ↔
      authorizationId ∈ replay.live.keys)
  revoked_issued : ∀ authorizationId, replay.revokedBy.get? authorizationId ≠ none →
      authorizationId ∈ replay.issuedIds
  expired_eq : replay.expired = expiredIn replay.expectedLedger
  expired_issued : ∀ authorizationId ∈ replay.expired, authorizationId ∈ replay.issuedIds
  held : ∀ authorizationId ∈ replay.issuedIds, ∃ authorization,
    document.authorizations.get? authorizationId = some authorization ∧
      authorization.missionId = mission.missionId
  outcomes : ∀ decision ∈ decisions, ∀ authorizationId,
    decision.outcome.authorizationId = some authorizationId → authorizationId ∈ replay.issuedIds

variable {document : Document} {mission : Mission}
  {decisions : List DecisionRecord} {replay noted next : Replay}
  {decision : DecisionRecord}

theorem replayInv_initial (document : Document) (mission : Mission) :
    ReplayInv document mission [] initialReplay where
  positive := Nat.le_refl 1
  state_mem := by simp [initialReplay, decisionStates]
  nodup := List.nodup_nil
  dormant := by simp [initialReplay]
  authorized := by simp [initialReplay]
  revoked := by simp [initialReplay]
  revoked_issued := by simp [initialReplay]
  expired_eq := rfl
  expired_issued := by simp [initialReplay]
  held := by simp [initialReplay]
  outcomes := by simp

/-- The live ids of a replay are issued ones. -/
theorem ReplayInv.live_issued (h : ReplayInv document mission decisions replay)
    {authorizationId : String} (hlive : authorizationId ∈ replay.live.keys) :
    authorizationId ∈ replay.issuedIds := by
  by_cases hstate : replay.state = .authorized
  · obtain ⟨last, _, hlast, hentries, _⟩ := h.authorized hstate
    simp only [Dict.keys, hentries, List.map_cons, List.map_nil, List.mem_singleton] at hlive
    exact hlive ▸ List.mem_of_getLast? hlast
  · simp [Dict.keys, h.dormant hstate] at hlive

theorem ReplayInv.note (h : ReplayInv document mission decisions replay)
    (hnoted : foldChecked (noteExpired document.authorizations
      decision.decidedAt) replay (sortedBy id replay.live.keys) = .ok noted) :
    ReplayInv document mission decisions noted := by
  obtain ⟨expired, expectedLedger, rfl, hderived, hmem⟩ :=
    noteExpired_fold_frame hnoted h.expired_eq
  exact {
    positive := h.positive
    state_mem := h.state_mem
    nodup := h.nodup
    dormant := h.dormant
    authorized := h.authorized
    revoked := h.revoked
    revoked_issued := h.revoked_issued
    expired_eq := hderived
    expired_issued := fun id hid => (hmem id hid).elim (h.expired_issued id)
      fun hlive => h.live_issued ((mem_sortedBy ..).mp hlive)
    held := h.held
    outcomes := h.outcomes }

theorem ReplayInv.approve (h : ReplayInv document mission decisions replay)
    (happroves : decision.decision = .approve) (hrevision : decision.revision = replay.revision)
    (hnext : replayApprove document mission replay decision = .ok next) :
    ReplayInv document mission (decisions ++ [decision]) next := by
  obtain ⟨hstate, authorizationId, authorization, entry, hnames, hheld, hfresh,
    hentry, hrequested, hagrees, rfl⟩ := (replayApprove_eq_ok ..).mp hnext
  have hlive : replay.live.entries = [] := h.dormant (by simp [hstate])
  have hentries : (replay.live.set authorizationId replay.revision).entries =
      [(authorizationId, replay.revision)] := by
    rw [Dict.entries_set_of_fresh replay.revision (by
      simp [Dict.get?, hlive, Dict.lookupEntries]), hlive, List.nil_append]
  have hbound : authorization.missionId = mission.missionId :=
    ((authorizationAgrees_eq_ok ..).mp hagrees).1
  refine {
    positive := h.positive
    state_mem := by simp [decisionStates]
    nodup := by
      simp only [List.nodup_append, h.nodup, List.nodup_singleton, true_and]
      rintro id hid other hother rfl
      exact hfresh (List.mem_singleton.mp hother ▸ hid)
    dormant := by simp
    authorized := fun _ => ⟨authorizationId, decision, by simp, hentries,
      by simp, happroves, hnames, hrevision, authorization, entry, hheld,
      hentry, hrequested, hagrees⟩
    revoked := fun id hid => ?_
    revoked_issued := fun id hid =>
      List.mem_append_left _ (h.revoked_issued id hid)
    expired_eq := by
      simp [h.expired_eq, expiredIn]
    expired_issued := fun id hid =>
      List.mem_append_left _ (h.expired_issued id hid)
    held := fun id hid => ?_
    outcomes := fun other hother id hid => ?_ }
  · simp only [Dict.keys, hentries, List.map_cons, List.map_nil, List.mem_singleton]
    rcases List.mem_append.mp hid with hissued | hnew
    · have hne : id ≠ authorizationId := fun heq => hfresh (heq ▸ hissued)
      have hdead := h.revoked id hissued
      simp only [Dict.keys, hlive, List.map_nil, List.not_mem_nil, iff_false] at hdead
      simp [hdead, hne]
    · rw [List.mem_singleton.mp hnew]
      simp only [iff_true]
      by_contra hrevoked
      exact hfresh (h.revoked_issued authorizationId hrevoked)
  · rcases List.mem_append.mp hid with hissued | hnew
    · exact h.held id hissued
    · rw [List.mem_singleton.mp hnew]
      exact ⟨authorization, hheld, hbound⟩
  · rcases List.mem_append.mp hother with hold | hnew
    · exact List.mem_append_left _ (h.outcomes other hold id hid)
    · rw [List.mem_singleton.mp hnew, hnames] at hid
      simp [Option.some.inj hid]

/-- A decision that records no authority and keeps what was issued. -/
theorem ReplayInv.settle (h : ReplayInv document mission decisions replay)
    {target : MissionState} (facts : List LedgerFact) (hawaiting : replay.state = .awaitingDecision)
    (htarget : target ∈ decisionStates) (hdormant : target ≠ .authorized)
    (hfacts : expiredIn facts = []) (hnone : decision.outcome.authorizationId = none) :
    ReplayInv document mission (decisions ++ [decision]) { replay with
      state := target
      expectedLedger := replay.expectedLedger ++ facts } where
  positive := h.positive
  state_mem := htarget
  nodup := h.nodup
  dormant := fun _ => h.dormant (by simp [hawaiting])
  authorized := fun hstate => absurd hstate hdormant
  revoked := h.revoked
  revoked_issued := h.revoked_issued
  expired_eq := by simp [expiredIn_append, h.expired_eq, hfacts]
  expired_issued := h.expired_issued
  held := h.held
  outcomes := fun other hother id hid => by
    rcases List.mem_append.mp hother with hold | hnew
    · exact h.outcomes other hold id hid
    · rw [List.mem_singleton.mp hnew, hnone] at hid
      cases hid

/-- What an edit does to the live authorization of the superseded revision. -/
def invalidated (decision : DecisionRecord) (replay : Replay) : Replay :=
  (liveAt replay replay.revision).foldl
    (replayInvalidation decision replay.revision) replay

theorem liveAt_of_authorized {authorizationId : String}
    (h : replay.live.entries = [(authorizationId, replay.revision)]) :
    liveAt replay replay.revision = [authorizationId] := by
  simp [liveAt, h, sortedBy]

theorem liveAt_of_dormant (h : replay.live.entries = []) (revision : Nat) :
    liveAt replay revision = [] := by
  simp [liveAt, h]

theorem invalidated_of_dormant (h : replay.live.entries = []) :
    invalidated decision replay = replay := by
  simp [invalidated, liveAt_of_dormant h]

theorem invalidated_of_authorized {authorizationId : String}
    (h : replay.live.entries = [(authorizationId, replay.revision)]) : invalidated decision replay =
      replayInvalidation decision replay.revision replay authorizationId := by
  simp [invalidated, liveAt_of_authorized h]

theorem ReplayInv.edit (h : ReplayInv document mission decisions replay)
    (hnext : replayEdit mission replay decision = .ok next) :
    ReplayInv document mission (decisions ++ [decision]) next := by
  obtain ⟨-, hnone, rfl⟩ := (replayEdit_eq_ok ..).mp hnext
  have houtcomes : ∀ other ∈ decisions ++ [decision], ∀ authorizationId,
      other.outcome.authorizationId = some authorizationId →
        authorizationId ∈ replay.issuedIds := by
    intro other hother id hid
    rcases List.mem_append.mp hother with hold | hnew
    · exact h.outcomes other hold id hid
    · rw [List.mem_singleton.mp hnew, hnone] at hid
      cases hid
  change ReplayInv document mission (decisions ++ [decision])
    { invalidated decision replay with
      state := .awaitingDecision, revision := replay.revision + 1 }
  by_cases hstate : replay.state = .authorized
  · obtain ⟨authorizationId, last, hlast, hentries, -⟩ := h.authorized hstate
    rw [invalidated_of_authorized hentries]
    have herased : (replay.live.erase authorizationId).entries = [] := by
      simp [Dict.erase, hentries]
    refine {
      positive := Nat.le_add_left 1 _
      state_mem := by simp [decisionStates]
      nodup := h.nodup
      dormant := fun _ => herased
      authorized := by simp
      revoked := fun id hid => ?_
      revoked_issued := fun id hid => ?_
      expired_eq := by
        simp [replayInvalidation, h.expired_eq, expiredIn]
      expired_issued := h.expired_issued
      held := h.held
      outcomes := houtcomes }
    · simp only [replayInvalidation, Dict.keys, herased, List.map_nil,
        List.not_mem_nil, iff_false, Dict.get?_set]
      split
      · simp
      · rename_i hne
        have hdead := h.revoked id hid
        simpa [Dict.keys, hentries, hne] using hdead
    · simp only [replayInvalidation, Dict.get?_set] at hid
      split at hid
      · rename_i heq
        rw [heq]
        exact List.mem_of_getLast? hlast
      · exact h.revoked_issued id hid
  · have hlive := h.dormant hstate
    rw [invalidated_of_dormant hlive]
    exact {
      positive := Nat.le_add_left 1 _
      state_mem := by simp [decisionStates]
      nodup := h.nodup
      dormant := fun _ => hlive
      authorized := by simp
      revoked := h.revoked
      revoked_issued := h.revoked_issued
      expired_eq := h.expired_eq
      expired_issued := h.expired_issued
      held := h.held
      outcomes := houtcomes }

theorem ReplayInv.step (h : ReplayInv document mission decisions replay)
    (hnext : replayDecision document mission replay decision = .ok next) :
    ReplayInv document mission (decisions ++ [decision]) next := by
  obtain ⟨-, -, hrevision, noted, hnoted, invalidated, hkind, -⟩ :=
    (replayDecision_eq_ok ..).mp hnext
  have hinv := h.note hnoted
  obtain ⟨_, _, hframe, -⟩ := noteExpired_fold_frame hnoted h.expired_eq
  have hrevision : decision.revision = noted.revision := by
    rw [hrevision, hframe]
  cases hdecision : decision.decision with
  | approve =>
      simp only [replayKind, hdecision, bind_eq_ok, pure_eq_ok, Prod.mk.injEq] at hkind
      obtain ⟨result, hresult, rfl, -⟩ := hkind
      exact hinv.approve hdecision hrevision hresult
  | deny =>
      simp only [replayKind, hdecision, bind_eq_ok, pure_eq_ok, Prod.mk.injEq] at hkind
      obtain ⟨result, hresult, rfl, -⟩ := hkind
      obtain ⟨hawaiting, hnone, rfl⟩ := (replayDeny_eq_ok ..).mp hresult
      exact hinv.settle _ hawaiting (by simp [decisionStates]) (by simp)
        (by simp [expiredIn]) hnone
  | reject =>
      simp only [replayKind, hdecision, bind_eq_ok, pure_eq_ok, Prod.mk.injEq] at hkind
      obtain ⟨result, hresult, rfl, -⟩ := hkind
      obtain ⟨hawaiting, hnone, rfl⟩ := (replayAttested_eq_ok ..).mp hresult
      simpa using hinv.settle [] hawaiting
        (by simp [decisionStates]) (by simp) rfl hnone
  | requestChanges =>
      simp only [replayKind, hdecision, bind_eq_ok, pure_eq_ok, Prod.mk.injEq] at hkind
      obtain ⟨result, hresult, rfl, -⟩ := hkind
      obtain ⟨hawaiting, hnone, rfl⟩ := (replayAttested_eq_ok ..).mp hresult
      simpa using hinv.settle [] hawaiting
        (by simp [decisionStates]) (by simp) rfl hnone
  | edit =>
      simp only [replayKind, hdecision, bind_eq_ok, pure_eq_ok, Prod.mk.injEq] at hkind
      obtain ⟨result, hresult, rfl, -⟩ := hkind
      exact hinv.edit hresult

/-- A successful replay of a history keeps the invariant of a replay. -/
theorem replayHistory_inv (h : replayHistory document mission = .ok replay) :
    ReplayInv document mission mission.decisions replay := by
  have hrun := foldChecked_invariant (ReplayInv document mission)
    (fun _ _ _ _ hinv hstep => hinv.step hstep)
    (replayInv_initial document mission) h
  simpa using hrun

/-- The outcome of the last decision of a replayed history. -/
theorem outcome_of_replayHistory {earlier : List DecisionRecord}
    {decision : DecisionRecord} {replay : Replay}
    (hreplay : replayHistory document mission = .ok replay)
    (hlast : mission.decisions = earlier ++ [decision]) :
    ∃ invalidated, OutcomeAgrees mission decision replay invalidated := by
  rw [replayHistory, hlast, foldChecked_snoc_eq_ok] at hreplay
  obtain ⟨middle, -, hstep⟩ := hreplay
  obtain ⟨-, -, -, noted, -, invalidated, -, houtcome⟩ :=
    (replayDecision_eq_ok ..).mp hstep
  exact ⟨invalidated, houtcome⟩

/-! ## What a reconciled Mission stores -/

/-- Everything a Mission stores is what the replay of its decisions gives. -/
structure Replayed (document : Document) (mission : Mission)
    (replay : Replay) : Prop where
  run : mission.run ≠ none → replay.state = .authorized
  intent : ∀ intent, mission.runIntent = some intent →
    requireIntentBinding document replay intent = .ok ()
  state : replayedState mission replay = mission.state
  revision : replay.revision = mission.currentRevision
  length : replay.revision = mission.revisions.length
  authorizations : mission.authorizationIds = replay.issuedIds
  revocations : ∀ authorizationId ∈ replay.issuedIds, ∃ authorization,
    document.authorizations.get? authorizationId = some authorization ∧ authorization.revocation =
        (replay.revokedBy.get? authorizationId).map fun editor =>
          { revokedAt := editor.decidedAt, reason := .supersededByEdit }
  unrevokedKind : ∀ entry ∈ missionLedger document.authorityLedger
    mission.missionId, entry.kind ≠ .revoked
  ledger : (missionLedger document.authorityLedger mission.missionId).map
    LedgerEntry.fact = replay.expectedLedger

theorem requireReplayed_eq_ok (passed : Unit) :
    requireReplayed document mission replay = .ok passed ↔
      Replayed document mission replay := by
  simp only [requireReplayed, requireLedger, requireRevocation, bind_eq_ok,
    exists_passed, failIf_eq_ok, checkPresent_eq_ok, checkAll_eq_ok,
    orFail_eq_ok, not_and, not_or, not_not, not_exists, ne_eq]
  constructor
  · rintro ⟨hrun, hintent, hstate, ⟨hrevision, hlength⟩, hauthorizations,
      hrevocations, hkinds, hledger⟩
    exact ⟨hrun, hintent, hstate, hrevision, hlength, hauthorizations,
      hrevocations, hkinds, hledger⟩
  · rintro ⟨hrun, hintent, hstate, hrevision, hlength, hauthorizations,
      hrevocations, hkinds, hledger⟩
    exact ⟨hrun, hintent, hstate, ⟨hrevision, hlength⟩, hauthorizations,
      hrevocations, hkinds, hledger⟩

theorem reconcileMissionHistory_eq_ok (passed : Unit) :
    reconcileMissionHistory document mission = .ok passed ↔
      ∃ first replay, mission.revisions.head? = some first ∧
        reservationAgrees document mission.requestId .request mission.missionId
          first.provenance = .ok () ∧ replayHistory document mission = .ok replay ∧
        Replayed document mission replay := by
  simp only [reconcileMissionHistory, Mission.firstRevision, bind_eq_ok,
    exists_passed, orFail_eq_ok, requireReplayed_eq_ok]
  constructor
  · rintro ⟨first, hfirst, hrequest, replay, hreplay, hreplayed⟩
    exact ⟨first, replay, hfirst, hrequest, hreplay, hreplayed⟩
  · rintro ⟨first, replay, hfirst, hrequest, hreplay, hreplayed⟩
    exact ⟨first, hfirst, hrequest, replay, hreplay, hreplayed⟩

/-- An unrevoked authorization of a reconciled Mission is the one its last
decision approved. -/
theorem Replayed.live (h : Replayed document mission replay)
    (hinv : ReplayInv document mission decisions replay)
    {authorizationId : String} {authorization : Authorization}
    (hissued : authorizationId ∈ mission.authorizationIds)
    (hheld : document.authorizations.get? authorizationId = some authorization)
    (hunrevoked : authorization.revocation = none) : replay.state = .authorized ∧
      replay.issuedIds.getLast? = some authorizationId ∧
      ∃ decision, decisions.getLast? = some decision ∧
        Approved document mission decision replay.revision authorizationId := by
  rw [h.authorizations] at hissued
  obtain ⟨held, hheld', hrevocation⟩ := h.revocations authorizationId hissued
  rw [hheld, Option.some.injEq] at hheld'
  subst hheld'
  rw [hunrevoked, eq_comm, Option.map_eq_none_iff] at hrevocation
  have hlive := (hinv.revoked authorizationId hissued).mp hrevocation
  have hstate : replay.state = .authorized := by
    by_contra hdormant
    simp [Dict.keys, hinv.dormant hdormant] at hlive
  obtain ⟨last, decision, hlast, hentries, hdecision, happroved⟩ :=
    hinv.authorized hstate
  simp only [Dict.keys, hentries, List.map_cons, List.map_nil, List.mem_singleton] at hlive
  subst hlive
  exact ⟨hstate, hlast, decision, hdecision, happroved⟩

end DodgingInfinity.MissionCore
