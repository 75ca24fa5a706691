import DodgingInfinity.MissionCore.Shape

/-!
# A later document replays an earlier history alike

A replay reads consumed reservations, authority halves and stored revisions
alone.  A document that still holds them replays the recorded decisions to the
same end.
-/

namespace DodgingInfinity.MissionCore

open Checked

/-- A later document and a later record of a Mission still hold everything the
replay of its decisions read. -/
structure Extends (document next : Document) (mission changed : Mission) :
    Prop where
  keyed : changed.missionId = mission.missionId
  revisions : mission.revisions <+: changed.revisions
  consumed : ∀ reservedId reservation, document.reservations.get? reservedId = some reservation →
    reservation.consumedBy ≠ none → next.reservations.get? reservedId = some reservation
  authorities : ∀ authorizationId authorization,
    document.authorizations.get? authorizationId = some authorization →
    authorization.missionId = mission.missionId → ∃ held,
      next.authorizations.get? authorizationId = some held ∧
      held.toAuthorityHalf = authorization.toAuthorityHalf

variable {document next : Document} {mission changed : Mission}
  {replay result : Replay} {decision : DecisionRecord}
  {decisions : List DecisionRecord}

variable {index : Nat}

theorem getElem?_of_prefix {α : Type} {first second : List α}
    {item : α} (hleading : first <+: second) (h : first[index]? = some item) :
    second[index]? = some item := by
  obtain ⟨rest, rfl⟩ := hleading
  rw [List.getElem?_append_left (List.getElem?_eq_some_iff.mp h).1, h]

theorem Extends.revision (h : Extends document next mission changed) {entry : RevisionEntry}
    (hentry : mission.revisions[index]? = some entry) :
    changed.revisions[index]? = some entry :=
  getElem?_of_prefix h.revisions hentry

theorem Extends.reservation_agrees (h : Extends document next mission changed)
    {reservedId consumedBy : String} {kind : ReferenceKind}
    {provenance : Provenance} (hagrees : reservationAgrees document reservedId kind consumedBy
      provenance = .ok ()) :
    reservationAgrees next reservedId kind consumedBy provenance = .ok () := by
  rw [reservationAgrees_eq_ok] at hagrees ⊢
  obtain ⟨reservation, hheld, hkind, hconsumed, hcontext⟩ := hagrees
  exact ⟨reservation, h.consumed reservedId reservation hheld
    (by simp [hconsumed]), hkind, hconsumed, hcontext⟩

/-- The expiries a decision notes are read off authority halves alone. -/
theorem Extends.expiry_noted (h : Extends document next mission changed)
    {decidedAt : Nat} {authorizationId : String} (howned : ∃ authorization,
      document.authorizations.get? authorizationId = some authorization ∧
        authorization.missionId = mission.missionId)
    (hnoted : noteExpired document.authorizations decidedAt replay
      authorizationId = .ok result) :
    noteExpired next.authorizations decidedAt replay authorizationId =
      .ok result := by
  rw [noteExpired_eq_ok] at hnoted ⊢
  obtain ⟨owned, howner, hmission⟩ := howned
  obtain ⟨authorization, hheld, rfl⟩ := hnoted
  obtain rfl := Option.some.inj (hheld.symm.trans howner)
  obtain ⟨later, hlater, hhalf⟩ := h.authorities authorizationId authorization hheld hmission
  have hexpires : later.expiresAt = authorization.expiresAt :=
    congrArg AuthorityHalf.expiresAt hhalf
  have hrevision : later.revision = authorization.revision :=
    congrArg AuthorityHalf.revision hhalf
  exact ⟨later, hlater, by rw [hexpires, hrevision]⟩

theorem Extends.approval_replays (h : Extends document next mission changed)
    (happroved : replayApprove document mission replay decision = .ok result) :
    replayApprove next changed replay decision = .ok result := by
  rw [replayApprove_eq_ok] at happroved ⊢
  obtain ⟨hstate, authorizationId, authorization, entry, hnames, hheld, hfresh,
    hentry, hrequested, hagrees, rfl⟩ := happroved
  have howner := ((authorizationAgrees_eq_ok ..).mp hagrees).1
  obtain ⟨later, hlater, hhalf⟩ := h.authorities authorizationId authorization hheld howner
  exact ⟨hstate, authorizationId, later, entry, hnames, hlater, hfresh,
    h.revision hentry, hrequested, by rw [hhalf, h.keyed, hagrees], rfl⟩

theorem Extends.edit_replays (h : Extends document next mission changed)
    (hedited : replayEdit mission replay decision = .ok result) :
    replayEdit changed replay decision = .ok result := by
  rw [replayEdit_eq_ok] at hedited ⊢
  obtain ⟨⟨entry, context, hentry, hreference, hcontext, hprovenance, hdigest,
    hcreated⟩, hnone, rfl⟩ := hedited
  exact ⟨⟨entry, context, h.revision hentry, hreference, hcontext,
    by rw [h.keyed, hprovenance], hdigest, hcreated⟩, hnone, rfl⟩

variable {invalidated : List String}

theorem Extends.kind_replays (h : Extends document next mission changed)
    (hkind : replayKind document mission replay decision =
      .ok (result, invalidated)) :
    replayKind next changed replay decision = .ok (result, invalidated) := by
  cases hdecision : decision.decision with
  | approve =>
      simp only [replayKind, hdecision, bind_eq_ok, pure_eq_ok]
        at hkind ⊢
      obtain ⟨approved, happroved, hresult⟩ := hkind
      exact ⟨approved, h.approval_replays happroved, hresult⟩
  | edit =>
      simp only [replayKind, hdecision, bind_eq_ok, pure_eq_ok]
        at hkind ⊢
      obtain ⟨edited, hedited, hresult⟩ := hkind
      exact ⟨edited, h.edit_replays hedited, hresult⟩
  | deny =>
      simpa only [replayKind, hdecision] using hkind
  | reject =>
      simpa only [replayKind, hdecision] using hkind
  | requestChanges =>
      simpa only [replayKind, hdecision] using hkind

theorem OutcomeAgrees.extend (houtcome : OutcomeAgrees mission decision result invalidated)
    (h : Extends document next mission changed) :
    OutcomeAgrees changed decision result invalidated := by
  obtain ⟨hstate, hrevision, hinvalidated, entry, hentry, hdigest⟩ := houtcome
  exact ⟨hstate, hrevision, hinvalidated, entry, h.revision hentry, hdigest⟩

theorem Extends.decision_replays (h : Extends document next mission changed)
    (hinv : ReplayInv document mission decisions replay)
    (hreplayed : replayDecision document mission replay decision =
      .ok result) :
    replayDecision next changed replay decision = .ok result := by
  rw [replayDecision_eq_ok] at hreplayed ⊢
  obtain ⟨hreserved, hstate, hrevision, noted, hnoted, invalidated, hkind, houtcome⟩ := hreplayed
  refine ⟨h.reservation_agrees hreserved, hstate, hrevision, noted, ?_,
    invalidated, h.kind_replays hkind, houtcome.extend h⟩
  refine foldChecked_agree (fun authorizationId hlive _ _ hstep => ?_) hnoted
  exact h.expiry_noted (hinv.held authorizationId
    (hinv.live_issued ((mem_sortedBy ..).mp hlive))) hstep

/-- The recorded decisions replay to the same end. -/
theorem Extends.history_replays (h : Extends document next mission changed)
    (hreplay : foldChecked (replayDecision document mission) initialReplay
      decisions = .ok replay) : foldChecked (replayDecision next changed) initialReplay decisions =
      .ok replay :=
  foldChecked_transfer (ReplayInv document mission) (fun _ _ _ _ hinv hstep => hinv.step hstep)
    (fun _ _ _ _ hinv hstep => h.decision_replays hinv hstep)
    (replayInv_initial document mission) hreplay

/-- For one Mission, a later document that also holds the same authorizations,
revocations and ledger. -/
structure Agrees (document next : Document) (missionId : String) : Prop where
  consumed : ∀ reservedId reservation, document.reservations.get? reservedId = some reservation →
    reservation.consumedBy ≠ none → next.reservations.get? reservedId = some reservation
  authorities : ∀ authorizationId authorization,
    document.authorizations.get? authorizationId = some authorization →
    authorization.missionId = missionId →
      next.authorizations.get? authorizationId = some authorization
  ledger : missionLedger next.authorityLedger missionId =
    missionLedger document.authorityLedger missionId

theorem Agrees.extends (h : Agrees document next mission.missionId)
    (hkeyed : changed.missionId = mission.missionId)
    (hrevisions : mission.revisions <+: changed.revisions) :
    Extends document next mission changed where
  keyed := hkeyed
  revisions := hrevisions
  consumed := h.consumed
  authorities := fun authorizationId authorization hheld howner =>
    ⟨authorization, h.authorities authorizationId authorization hheld howner, rfl⟩

/-- A reconciled Mission whose decisions, revisions and authorizations are as
they were is reconciled in the later document, when its run and its state
agree with the replay. -/
theorem Agrees.reconciled (h : Agrees document next mission.missionId)
    (hkeyed : changed.missionId = mission.missionId)
    (hrequest : changed.requestId = mission.requestId)
    (hrevisions : changed.revisions = mission.revisions)
    (hcurrent : changed.currentRevision = mission.currentRevision)
    (hdecisions : changed.decisions = mission.decisions)
    (hauthorizations : changed.authorizationIds = mission.authorizationIds)
    (hreconciled : reconcileMissionHistory document mission = .ok ())
    (hrun : ∀ replay, replayHistory document mission = .ok replay →
      Replayed document mission replay → (changed.run ≠ none → replay.state = .authorized) ∧
      (∀ intent, changed.runIntent = some intent →
        requireIntentBinding document replay intent = .ok ()) ∧
      replayedState changed replay = changed.state) :
    reconcileMissionHistory next changed = .ok () := by
  rw [reconcileMissionHistory_eq_ok] at hreconciled ⊢
  obtain ⟨first, replay, hfirst, hrequested, hreplay, hreplayed⟩ := hreconciled
  have hextends := h.extends hkeyed (hrevisions ▸ List.prefix_rfl)
  have hinv := replayHistory_inv hreplay
  obtain ⟨hauthorized, hintent, hstate⟩ := hrun replay hreplay hreplayed
  -- the issued authorizations are the Mission's own, so they are as they were
  have hissued : ∀ authorizationId ∈ replay.issuedIds, next.authorizations.get? authorizationId =
        document.authorizations.get? authorizationId := by
    intro authorizationId hid
    obtain ⟨authorization, hheld, howner⟩ := hinv.held authorizationId hid
    rw [h.authorities authorizationId authorization hheld howner, hheld]
  refine ⟨first, replay, hrevisions ▸ hfirst, ?_, ?_, ?_⟩
  · rw [hrequest, hkeyed]
    exact hextends.reservation_agrees hrequested
  · rw [replayHistory, hdecisions]
    exact hextends.history_replays hreplay
  · exact {
      run := hauthorized
      intent := fun intent hheld => by
        have hbinding := hintent intent hheld
        simp only [requireIntentBinding, bind_eq_ok, exists_passed,
          failIf_eq_ok, orFail_eq_ok, not_not, ne_eq] at hbinding ⊢
        obtain ⟨hlast, hrest⟩ := hbinding
        rw [hissued _ (List.mem_of_getLast? hlast)]
        exact ⟨hlast, hrest⟩
      state := hstate
      revision := hreplayed.revision.trans hcurrent.symm
      length := by rw [hrevisions]; exact hreplayed.length
      authorizations := hauthorizations.trans hreplayed.authorizations
      revocations := fun authorizationId hid => by
        rw [hissued authorizationId hid]
        exact hreplayed.revocations authorizationId hid
      unrevokedKind := by
        rw [hkeyed, h.ledger]
        exact hreplayed.unrevokedKind
      ledger := by
        rw [hkeyed, h.ledger]
        exact hreplayed.ledger }

/-- A Mission no change touches stays reconciled. -/
theorem Agrees.reconciled_same (h : Agrees document next mission.missionId)
    (hreconciled : reconcileMissionHistory document mission = .ok ()) :
    reconcileMissionHistory next mission = .ok () :=
  h.reconciled rfl rfl rfl rfl rfl rfl hreconciled fun _ _ hreplayed =>
    ⟨hreplayed.run, hreplayed.intent, hreplayed.state⟩

end DodgingInfinity.MissionCore

/-!
## Authority that stands

In a reconciled document the ledger and the authorizations belong to stored
Missions, and one authorization of a Mission at most is neither revoked nor
superseded.  Noting expiries and revoking for an edit come down to that one.
-/

namespace DodgingInfinity.MissionCore

open Checked

/-- Every Mission is reconciled, every ledger entry is a stored Mission's, and
every authorization is issued by the Mission it names. -/
structure Consistent (document : Document) : Prop where
  reconciled : ∀ missionId mission, document.missions.get? missionId = some mission →
      reconcileMissionHistory document mission = .ok ()
  ledgered : ∀ entry ∈ document.authorityLedger, ∃ mission,
    document.missions.get? entry.missionId = some mission
  owned : ∀ authorizationId authorization,
    document.authorizations.get? authorizationId = some authorization →
      ∃ mission, document.missions.get? authorization.missionId =
        some mission ∧ authorizationId ∈ mission.authorizationIds

/-- The replay of one Mission, with all that is known of it. -/
structure Stands (document : Document) (mission : Mission) (replay : Replay) :
    Prop where
  requested : ∃ first, mission.revisions.head? = some first ∧
    reservationAgrees document mission.requestId .request mission.missionId
      first.provenance = .ok ()
  replay_eq : replayHistory document mission = .ok replay
  inv : ReplayInv document mission mission.decisions replay
  replayed : Replayed document mission replay

variable {env : Env} {document next noted effected : Document}
  {missionId decisionId : String} {mission changed : Mission}
  {replay : Replay} {decision : DecisionRecord}

theorem reconciled_iff_stands : reconcileMissionHistory document mission = .ok () ↔
      ∃ replay, Stands document mission replay := by
  rw [reconcileMissionHistory_eq_ok]
  constructor
  · rintro ⟨first, replay, hfirst, hrequested, hreplay, hreplayed⟩
    exact ⟨replay, ⟨first, hfirst, hrequested⟩, hreplay, replayHistory_inv hreplay, hreplayed⟩
  · rintro ⟨replay, ⟨first, hfirst, hrequested⟩, hreplay, -, hreplayed⟩
    exact ⟨first, replay, hfirst, hrequested, hreplay, hreplayed⟩

theorem Consistent.stands (h : Consistent document)
    (hheld : document.missions.get? missionId = some mission) :
    ∃ replay, Stands document mission replay :=
  reconciled_iff_stands.mp (h.reconciled missionId mission hheld)

/-! ## The one live authorization -/

/-- Before any run a Mission is in the state its decisions left it. -/
theorem Stands.state_eq (h : Stands document mission replay)
    (hlifecycle : mission.lifecycle = none) : replay.state = mission.state := by
  have hstate := h.replayed.state
  rwa [replayedState, Mission.lifecycleEvents, hlifecycle] at hstate

variable {authorizationId : String}

theorem Stands.issued_held (h : Stands document mission replay)
    (hid : authorizationId ∈ replay.issuedIds) : ∃ authorization,
      document.authorizations.get? authorizationId = some authorization ∧
      authorization.missionId = mission.missionId ∧ authorization.revocation =
        (replay.revokedBy.get? authorizationId).map fun editor =>
          { revokedAt := editor.decidedAt, reason := .supersededByEdit } := by
  obtain ⟨authorization, hheld, hrevocation⟩ :=
    h.replayed.revocations authorizationId hid
  obtain ⟨owned, howned, hmission⟩ := h.inv.held authorizationId hid
  obtain rfl := Option.some.inj (hheld.symm.trans howned)
  exact ⟨authorization, hheld, hmission, hrevocation⟩

variable {authorization : Authorization}

/-- An issued authorization is unrevoked exactly when the replay has it
live. -/
theorem Stands.unrevoked_iff (h : Stands document mission replay)
    (hid : authorizationId ∈ replay.issuedIds)
    (hheld : document.authorizations.get? authorizationId = some authorization) :
    authorization.revocation = none ↔ authorizationId ∈ replay.live.keys := by
  obtain ⟨held, hheld', -, hrevocation⟩ := h.issued_held hid
  obtain rfl := Option.some.inj (hheld.symm.trans hheld')
  rw [hrevocation, Option.map_eq_none_iff]
  exact h.inv.revoked authorizationId hid

/-- Away from AUTHORIZED, everything issued is revoked. -/
theorem Stands.revoked_of_dormant (h : Stands document mission replay)
    (hdormant : replay.state ≠ .authorized) (hid : authorizationId ∈ replay.issuedIds)
    (hheld : document.authorizations.get? authorizationId =
      some authorization) : authorization.revocation ≠ none := by
  rw [ne_eq, h.unrevoked_iff hid hheld]
  simp [Dict.keys, h.inv.dormant hdormant]

/-- In AUTHORIZED, the issued authorizations are the revoked ones and then the
one the last decision approved. -/
structure OneLive (document : Document) (mission : Mission) (replay : Replay)
    (earlier : List String) (last : String) (authorization : Authorization) :
    Prop where
  issued : replay.issuedIds = earlier ++ [last]
  live : replay.live.entries = [(last, replay.revision)]
  fresh : last ∉ earlier
  held : document.authorizations.get? last = some authorization
  unrevoked : authorization.revocation = none
  owned : authorization.missionId = mission.missionId
  revision_eq : authorization.revision = replay.revision
  digest : ∃ entry, mission.revisions[replay.revision - 1]? = some entry ∧
    authorization.proposalDigestSha256 = entry.proposalDigestSha256
  revoked : ∀ authorizationId ∈ earlier, ∀ superseded,
    document.authorizations.get? authorizationId = some superseded → superseded.revocation ≠ none

theorem Stands.oneLive (h : Stands document mission replay) (hstate : replay.state = .authorized) :
    ∃ earlier last authorization,
      OneLive document mission replay earlier last authorization := by
  obtain ⟨last, decision, hlast, hlive, hdecision, happroved⟩ :=
    h.inv.authorized hstate
  obtain ⟨authorization, entry, hheld, hentry, hrequested, hagrees⟩ :=
    happroved.issued
  obtain ⟨howner, hrevision, hdigest, -⟩ :=
    (authorizationAgrees_eq_ok ..).mp hagrees
  obtain ⟨earlier, hissued⟩ := List.getLast?_eq_some_iff.mp hlast
  have hnodup := h.inv.nodup
  rw [hissued] at hnodup
  have hfresh : last ∉ earlier := fun hmem =>
    List.disjoint_of_nodup_append hnodup hmem (List.mem_singleton_self last)
  have hmem : last ∈ replay.issuedIds := List.mem_of_getLast? hlast
  refine ⟨earlier, last, authorization, hissued, hlive, hfresh, hheld, ?_,
    howner, hrevision.trans happroved.revision_eq, ⟨entry, hentry, hdigest⟩, ?_⟩
  · rw [h.unrevoked_iff hmem hheld]
    simp [Dict.keys, hlive]
  · intro authorizationId hearlier superseded hsuperseded
    have hid : authorizationId ∈ replay.issuedIds := by
      rw [hissued]
      exact List.mem_append_left _ hearlier
    rw [ne_eq, h.unrevoked_iff hid hsuperseded]
    simp only [Dict.keys, hlive, List.map_cons, List.map_nil, List.mem_singleton]
    rintro rfl
    exact hfresh hearlier

/-! ## Expiries -/

theorem mem_expiredIn {facts : List LedgerFact} :
    authorizationId ∈ expiredIn facts ↔ ∃ fact ∈ facts,
      fact.kind = .expired ∧ fact.authorizationId = some authorizationId := by
  simp [expiredIn, and_assoc]

theorem mem_recordedExpirations : authorizationId ∈ recordedExpirations document ↔
      ∃ entry ∈ document.authorityLedger, entry.kind = .expired ∧
        entry.authorizationId = some authorizationId := by
  simp [recordedExpirations, and_assoc]

/-- The expired authorizations of a replay are those of the Mission's
ledger. -/
theorem Stands.mem_expired (h : Stands document mission replay) : authorizationId ∈ replay.expired ↔
      ∃ entry ∈ document.authorityLedger,
        entry.missionId = mission.missionId ∧ entry.kind = .expired ∧
        entry.authorizationId = some authorizationId := by
  rw [h.inv.expired_eq, ← h.replayed.ledger, mem_expiredIn]
  constructor
  · rintro ⟨fact, hfact, hkind, hid⟩
    obtain ⟨entry, hentry, rfl⟩ := List.mem_map.mp hfact
    obtain ⟨hmem, howner⟩ := List.mem_filter.mp hentry
    exact ⟨entry, hmem, of_decide_eq_true howner, hkind, hid⟩
  · rintro ⟨entry, hmem, howner, hkind, hid⟩
    exact ⟨entry.fact, List.mem_map_of_mem (List.mem_filter.mpr
      ⟨hmem, decide_eq_true howner⟩), hkind, hid⟩

/-- No other Mission's ledger records the expiry of an authorization. -/
theorem Consistent.recorded_iff (h : Consistent document) (hwell : AllWellFormed document)
    (hstands : Stands document mission replay) (hid : authorizationId ∈ replay.issuedIds) :
    authorizationId ∈ recordedExpirations document ↔
      authorizationId ∈ replay.expired := by
  rw [mem_recordedExpirations, hstands.mem_expired]
  constructor
  · rintro ⟨entry, hmem, hkind, hnames⟩
    refine ⟨entry, hmem, ?_, hkind, hnames⟩
    obtain ⟨other, hother⟩ := h.ledgered entry hmem
    obtain ⟨otherReplay, hotherStands⟩ := h.stands hother
    have hkeyed := (hwell _ other hother).keyed
    have hexpired := hotherStands.mem_expired.mpr ⟨entry, hmem, hkeyed.symm, hkind, hnames⟩
    obtain ⟨first, hfirst, howner, -⟩ := hotherStands.issued_held
      (hotherStands.inv.expired_issued _ hexpired)
    obtain ⟨second, hsecond, howned, -⟩ := hstands.issued_held hid
    obtain rfl := Option.some.inj (hfirst.symm.trans hsecond)
    rw [← howned, howner, hkeyed]
  · rintro ⟨entry, hmem, -, hkind, hnames⟩
    exact ⟨entry, hmem, hkind, hnames⟩

/-- The expiries a decision on a Mission notes. -/
def dueExpiries (document : Document) (mission : Mission) (now : Nat) : List LedgerFact :=
  mission.authorizationIds.filterMap (dueExpiry document (recordedExpirations document) now)

/-- A replay that has noted some expiries. -/
def notedReplay (replay : Replay) (facts : List LedgerFact) : Replay :=
  { replay with
    expired := replay.expired ++ facts.filterMap LedgerFact.authorizationId
    expectedLedger := replay.expectedLedger ++ facts }

theorem dueExpiry_of_revoked {recorded : List String} {now : Nat}
    (hheld : document.authorizations.get? authorizationId = some authorization)
    (hrevoked : authorization.revocation ≠ none) :
    dueExpiry document recorded now authorizationId = none := by
  simp [dueExpiry, hheld, hrevoked]

theorem Stands.dueExpiries_of_dormant (h : Stands document mission replay)
    (hdormant : replay.state ≠ .authorized) (now : Nat) :
    dueExpiries document mission now = [] := by
  rw [dueExpiries, List.filterMap_eq_nil_iff, h.replayed.authorizations]
  intro authorizationId hid
  obtain ⟨authorization, hheld, -⟩ := h.issued_held hid
  exact dueExpiry_of_revoked hheld (h.revoked_of_dormant hdormant hid hheld)

theorem Stands.dueExpiries_of_live (h : Stands document mission replay)
    {earlier : List String} {last : String}
    (hlive : OneLive document mission replay earlier last authorization) (now : Nat) :
    dueExpiries document mission now =
      (dueExpiry document (recordedExpirations document) now last).toList := by
  have hearlier : earlier.filterMap
      (dueExpiry document (recordedExpirations document) now) = [] := by
    rw [List.filterMap_eq_nil_iff]
    intro authorizationId hid
    have hissued : authorizationId ∈ replay.issuedIds := by
      rw [hlive.issued]
      exact List.mem_append_left _ hid
    obtain ⟨superseded, hheld, -⟩ := h.issued_held hissued
    exact dueExpiry_of_revoked hheld (hlive.revoked authorizationId hid superseded hheld)
  rw [dueExpiries, h.replayed.authorizations, hlive.issued,
    List.filterMap_append, hearlier, List.nil_append]
  cases hdue : dueExpiry document (recordedExpirations document) now last with
  | none => simp [hdue]
  | some fact => simp [hdue]

/-- The replay of a decision notes exactly the expiries the service noted. -/
theorem Consistent.expiries_replay (h : Consistent document) (hwell : AllWellFormed document)
    (hstands : Stands document mission replay) (now : Nat) :
    foldChecked (noteExpired document.authorizations now) replay (sortedBy id replay.live.keys) =
      .ok (notedReplay replay (dueExpiries document mission now)) := by
  by_cases hstate : replay.state = .authorized
  · obtain ⟨earlier, last, authorization, hlive⟩ := hstands.oneLive hstate
    have hid : last ∈ replay.issuedIds := by
      rw [hlive.issued]
      exact List.mem_append_right _ (List.mem_singleton_self last)
    rw [hstands.dueExpiries_of_live hlive]
    simp only [Dict.keys, hlive.live, List.map_cons, List.map_nil,
      sortedBy_singleton, foldChecked_cons_eq_ok, foldChecked_nil,
      Except.ok.injEq, exists_eq_right, noteExpired_eq_ok]
    refine ⟨authorization, hlive.held, ?_⟩
    simp only [dueExpiry, hlive.held, Option.bind_some, hlive.unrevoked,
      true_and, h.recorded_iff hwell hstands hid]
    split <;> simp [notedReplay]
  · rw [hstands.dueExpiries_of_dormant hstate]
    simp [Dict.keys, hstands.inv.dormant hstate, notedReplay]

/-! ## Revocations -/

/-- The revocations of an edit over a list of authorizations: which are
revoked, and the ledger entries that say so. -/
structure Revoked (env : Env) (mission : Mission) (decisionId : String)
    (document : Document) (ids revoked : List String) (next : Document) :
    Prop where
  live : revoked = ids.filter fun authorizationId =>
    (document.authorizations.get? authorizationId).any
      (liveUnder mission.currentRevision)
  authorizations : ∀ authorizationId, next.authorizations.get? authorizationId =
      if authorizationId ∈ revoked then
        (document.authorizations.get? authorizationId).map fun held =>
          revoke held env.now .supersededByEdit
      else document.authorizations.get? authorizationId
  ledger : ∃ notes, next.authorityLedger = document.authorityLedger ++ notes ∧
    (∀ entry ∈ notes, entry.missionId = mission.missionId) ∧
    notes.map LedgerEntry.fact = revoked.map
      (invalidationFact mission.currentRevision env.now decisionId)

theorem revokeSuperseded_revoked {found collected ids : List String} (hnodup : ids.Nodup)
    (h : foldChecked (revokeSuperseded env mission decisionId)
      (document, found) ids = .ok (next, collected)) : ∃ revoked, collected = found ++ revoked ∧
      Revoked env mission decisionId document ids revoked next := by
  induction ids generalizing document found with
  | nil =>
      obtain ⟨rfl, rfl⟩ := Prod.mk.inj (Except.ok.inj h)
      exact ⟨[], by simp, rfl, by simp, [], by simp⟩
  | cons first rest ih =>
      obtain ⟨⟨middle, gathered⟩, hfirst, hrest⟩ :=
        (foldChecked_cons_eq_ok ..).mp h
      obtain ⟨hfresh, hnodup⟩ := List.nodup_cons.mp hnodup
      obtain ⟨revoked, rfl, hrevoked⟩ := ih hnodup hrest
      obtain ⟨authorization, hheld, hcases⟩ := revokeSuperseded_eq_ok hfirst
      rcases hcases with ⟨hlive, hledger, rfl⟩ | ⟨hdead, rfl, rfl⟩
      · -- the first id is revoked; none of the rest is looked up differently
        have hmiddle : ∀ authorizationId, authorizationId ≠ first →
            middle.authorizations.get? authorizationId =
              document.authorizations.get? authorizationId := by
          intro authorizationId hne
          rw [hledger.authorizations, Dict.get?_set_of_ne _ _ hne]
        have hsame : (rest.filter fun authorizationId =>
            (middle.authorizations.get? authorizationId).any
              (liveUnder mission.currentRevision)) =
            rest.filter fun authorizationId =>
              (document.authorizations.get? authorizationId).any
                (liveUnder mission.currentRevision) := by
          refine List.filter_congr fun authorizationId hid => ?_
          rw [hmiddle authorizationId fun heq => hfresh (heq ▸ hid)]
        have hunlisted : first ∉ revoked := fun hmem => by
          rw [hrevoked.live] at hmem
          exact hfresh (List.mem_filter.mp hmem).1
        refine ⟨first :: revoked, by simp, ?_, ?_, ?_⟩
        · rw [List.filter_cons_of_pos (by simp [hheld, hlive]), ← hsame,
            hrevoked.live]
        · intro authorizationId
          rw [hrevoked.authorizations]
          by_cases hne : authorizationId = first
          · subst hne
            simp [hunlisted, hledger.authorizations, hheld]
          · simp [hmiddle authorizationId hne, hne]
        · obtain ⟨notes, rfl, hnotes, hfacts⟩ := hledger.appended
          obtain ⟨more, hmore, hmoreNotes, hmoreFacts⟩ := hrevoked.ledger
          refine ⟨notes ++ more, by simp [hmore], fun entry hentry => ?_, ?_⟩
          · rcases List.mem_append.mp hentry with hold | hnew
            · exact hnotes entry hold
            · exact hmoreNotes entry hnew
          · simp [hfacts, hmoreFacts]
      · refine ⟨revoked, rfl, ?_, hrevoked.authorizations, hrevoked.ledger⟩
        rw [List.filter_cons_of_neg (by simp [hheld, hdead]), hrevoked.live]

/-- An edit revokes what the replay has live at the superseded revision. -/
theorem Stands.revoked_eq (h : Stands document mission replay)
    (hcurrent : replay.revision = mission.currentRevision) :
    (mission.authorizationIds.filter fun authorizationId =>
      (document.authorizations.get? authorizationId).any
        (liveUnder mission.currentRevision)) =
      liveAt replay replay.revision := by
  rw [h.replayed.authorizations]
  by_cases hstate : replay.state = .authorized
  · obtain ⟨earlier, last, authorization, hlive⟩ := h.oneLive hstate
    have hearlier : earlier.filter (fun authorizationId =>
        (document.authorizations.get? authorizationId).any
          (liveUnder mission.currentRevision)) = [] := by
      rw [List.filter_eq_nil_iff]
      intro authorizationId hid
      cases hheld : document.authorizations.get? authorizationId with
      | none => simp
      | some superseded =>
          simp [liveUnder, hlive.revoked authorizationId hid superseded hheld]
    rw [liveAt_of_authorized hlive.live, hlive.issued, List.filter_append, hearlier]
    simp [hlive.held, liveUnder, hlive.unrevoked, hlive.revision_eq, hcurrent]
  · rw [liveAt_of_dormant (h.inv.dormant hstate), List.filter_eq_nil_iff]
    intro authorizationId hid
    obtain ⟨authorization, hheld, -⟩ := h.issued_held hid
    simp [hheld, liveUnder, h.revoked_of_dormant hstate hid hheld]

end DodgingInfinity.MissionCore
