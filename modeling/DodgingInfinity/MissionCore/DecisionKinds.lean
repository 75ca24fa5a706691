import DodgingInfinity.MissionCore.Standing

/-!
# A new decision replays to what it left

The service writes the outcome, the authorizations and the ledger of a decision
step by step.  Replaying the history with that decision appended derives
exactly the same.
-/

namespace DodgingInfinity.MissionCore

open Checked

variable {env : Env} {document next noted effected : Document}
  {missionId decisionId : String} {mission changed final : Mission}
  {replay result : Replay} {decision : DecisionRecord}
  {facts more : List LedgerFact} {ledger middle later : List LedgerEntry}

/-! ## A ledger that grows -/

/-- A ledger that gained entries of one Mission. -/
def Grown (ledger : List LedgerEntry) (missionId : String)
    (facts : List LedgerFact) (later : List LedgerEntry) : Prop :=
  ∃ notes, later = ledger ++ notes ∧ (∀ entry ∈ notes, entry.missionId = missionId) ∧
    notes.map LedgerEntry.fact = facts

theorem Grown.refl (ledger : List LedgerEntry) (missionId : String) :
    Grown ledger missionId [] ledger :=
  ⟨[], by simp⟩

theorem Grown.trans (hfirst : Grown ledger missionId facts middle)
    (hsecond : Grown middle missionId more later) :
    Grown ledger missionId (facts ++ more) later := by
  obtain ⟨notes, rfl, hnotes, rfl⟩ := hfirst
  obtain ⟨others, rfl, hothers, rfl⟩ := hsecond
  refine ⟨notes ++ others, by simp, fun entry hentry => ?_, by simp⟩
  rcases List.mem_append.mp hentry with hold | hnew
  · exact hnotes entry hold
  · exact hothers entry hnew

theorem Ledgered.grown (h : Ledgered document missionId facts next) :
    Grown document.authorityLedger missionId facts next.authorityLedger := by
  obtain ⟨notes, rfl, hnotes, hfacts⟩ := h.appended
  exact ⟨notes, rfl, hnotes, hfacts⟩

/-- The Mission's own ledger gains the facts. -/
theorem Grown.own (h : Grown ledger missionId facts later) :
    (missionLedger later missionId).map LedgerEntry.fact =
      (missionLedger ledger missionId).map LedgerEntry.fact ++ facts := by
  obtain ⟨notes, rfl, hnotes, rfl⟩ := h
  have hall : missionLedger notes missionId = notes :=
    List.filter_eq_self.mpr fun entry hentry =>
      decide_eq_true (hnotes entry hentry)
  rw [missionLedger, List.filter_append, List.map_append]
  exact congrArg _ (congrArg _ hall)

/-- Every other Mission's ledger is as it was. -/
theorem Grown.other (h : Grown ledger missionId facts later) {other : String}
    (hne : other ≠ missionId) :
    missionLedger later other = missionLedger ledger other := by
  obtain ⟨notes, rfl, hnotes, -⟩ := h
  have hnone : missionLedger notes other = [] :=
    List.filter_eq_nil_iff.mpr fun entry hentry => by
      simp [hnotes entry hentry, Ne.symm hne]
  rw [missionLedger, List.filter_append]
  exact (congrArg _ hnone).trans (List.append_nil _)

theorem Grown.missionId_of_mem (h : Grown ledger missionId facts later)
    {entry : LedgerEntry} (hentry : entry ∈ later) :
    entry ∈ ledger ∨ entry.missionId = missionId := by
  obtain ⟨notes, rfl, hnotes, -⟩ := h
  exact (List.mem_append.mp hentry).imp_right (hnotes entry)

/-! ## What replaying a history demands at its end -/

/-- Before any run, only the decisions speak. -/
theorem replayed_of_unrun (hrun : final.run = none) (hlifecycle : final.lifecycle = none)
    (hstate : result.state = final.state) (hrevision : result.revision = final.currentRevision)
    (hlength : final.currentRevision = final.revisions.length)
    (hauthorizations : final.authorizationIds = result.issuedIds)
    (hrevocations : ∀ authorizationId ∈ result.issuedIds, ∃ authorization,
      next.authorizations.get? authorizationId = some authorization ∧ authorization.revocation =
          (result.revokedBy.get? authorizationId).map fun editor =>
            { revokedAt := editor.decidedAt, reason := .supersededByEdit })
    (hledger : (missionLedger next.authorityLedger final.missionId).map
      LedgerEntry.fact = result.expectedLedger)
    (hkinds : ∀ fact ∈ result.expectedLedger, fact.kind ≠ .revoked) :
    Replayed next final result where
  run := fun hnone => absurd hrun hnone
  intent := by simp [Mission.runIntent, hrun]
  state := by simpa [replayedState, Mission.lifecycleEvents, hlifecycle]
  revision := hrevision
  length := hrevision.trans hlength
  authorizations := hauthorizations
  revocations := hrevocations
  unrevokedKind := fun entry hentry => by
    rw [← hledger] at hkinds
    exact hkinds entry.fact (List.mem_map_of_mem hentry)
  ledger := hledger

/-- The facts a reconciled Mission's ledger holds are never revocations by
another name. -/
theorem Stands.kinds (h : Stands document mission replay) :
    ∀ fact ∈ replay.expectedLedger, fact.kind ≠ .revoked := by
  rw [← h.replayed.ledger]
  intro fact hfact
  obtain ⟨entry, hentry, rfl⟩ := List.mem_map.mp hfact
  exact h.replayed.unrevokedKind entry hentry

theorem dueExpiry_kind {recorded : List String} {now : Nat}
    {authorizationId : String} {fact : LedgerFact}
    (h : dueExpiry document recorded now authorizationId = some fact) :
    fact.kind = .expired := by
  obtain ⟨authorization, -, hfact⟩ := Option.bind_eq_some_iff.mp h
  split at hfact
  · obtain rfl := Option.some.inj hfact
    rfl
  · cases hfact

theorem dueExpiries_kind {now : Nat} :
    ∀ fact ∈ dueExpiries document mission now, fact.kind ≠ .revoked := by
  intro fact hfact
  obtain ⟨authorizationId, -, hdue⟩ := List.mem_filterMap.mp hfact
  simp [dueExpiry_kind hdue]

/-- A history with one more decision stands where that decision leads, once the
later document extends the earlier one. -/
theorem Stands.decide (h : Stands document mission replay)
    (hextends : Extends document next mission final)
    (hrequest : final.requestId = mission.requestId)
    (hdecisions : final.decisions = mission.decisions ++ [decision])
    (hreserved : reservationAgrees next decision.decisionId .decision
      decision.decisionId decision.provenance = .ok ()) (hstate : replay.state ≠ .rejected)
    (hrevision : decision.revision = replay.revision)
    {settled : Replay} {invalidated : List String}
    (hnoted : foldChecked (noteExpired document.authorizations
      decision.decidedAt) replay (sortedBy id replay.live.keys) = .ok settled)
    (hkind : replayKind next final settled decision =
      .ok (result, invalidated)) (houtcome : OutcomeAgrees final decision result invalidated)
    (hreplayed : Replayed next final result) : Stands next final result := by
  have hreplay : replayHistory next final = .ok result := by
    rw [replayHistory, hdecisions, foldChecked_snoc_eq_ok]
    refine ⟨replay, hextends.history_replays h.replay_eq, ?_⟩
    rw [replayDecision_eq_ok]
    refine ⟨hreserved, hstate, hrevision, settled, ?_, invalidated, hkind, houtcome⟩
    refine foldChecked_agree (fun authorizationId hlive _ _ hstep => ?_) hnoted
    exact hextends.expiry_noted (h.inv.held authorizationId
      (h.inv.live_issued ((mem_sortedBy ..).mp hlive))) hstep
  obtain ⟨first, hfirst, hrequested⟩ := h.requested
  refine ⟨⟨first, ?_, ?_⟩, hreplay, replayHistory_inv hreplay, hreplayed⟩
  · rw [List.head?_eq_getElem?] at hfirst ⊢
    exact hextends.revision hfirst
  · rw [hrequest, hextends.keyed]
    exact hextends.reservation_agrees hrequested

/-! ## The authorizations and the ledger of a decision -/

/-- The ledger facts each kind of decision adds. -/
def effectFacts (mission : Mission) (decision : DecisionRecord) (now : Nat) : List LedgerFact :=
  match decision.decision with
  | .approve => [{
      kind := .issued
      authorizationId := decision.outcome.authorizationId
      decisionId := some decision.decisionId
      revision := mission.currentRevision
      recordedAt := now }]
  | .deny => [{
      kind := .denied
      authorizationId := none
      decisionId := some decision.decisionId
      revision := mission.currentRevision
      recordedAt := now }]
  | .edit => decision.outcome.invalidatedAuthorizationIds.map
      (invalidationFact mission.currentRevision now decision.decisionId)
  | _ => []

theorem effectFacts_kind {now : Nat} :
    ∀ fact ∈ effectFacts mission decision now, fact.kind ≠ .revoked := by
  intro fact hfact
  unfold effectFacts at hfact
  cases hdecision : decision.decision with
  | approve => simp_all
  | deny => simp_all
  | reject => simp_all
  | requestChanges => simp_all
  | edit =>
      simp only [hdecision, List.mem_map] at hfact
      obtain ⟨authorizationId, -, rfl⟩ := hfact
      simp [invalidationFact]

variable [JsonDigest]

theorem DecisionEffected.grown (h : DecisionEffected env noted mission decision effected changed)
    (hnumbered : Numbered missionId mission) (hnodup : mission.authorizationIds.Nodup) :
    Grown noted.authorityLedger mission.missionId
      (effectFacts mission decision env.now) effected.authorityLedger := by
  cases h with
  | approved entry authorization _ hkind _ hentry _ _ _ _ _ _ hledger
      houtcome =>
      have hgrown := hledger.grown
      rw [hnumbered.current entry hentry] at hgrown
      simpa [effectFacts, hkind, houtcome] using hgrown
  | denied _ _ hkind _ _ hledger =>
      simpa [effectFacts, hkind] using hledger.grown
  | settled _ target hkind =>
      rcases hkind with ⟨hkind, -⟩ | ⟨hkind, -⟩ <;> simpa [effectFacts, hkind] using Grown.refl _ _
  | edited entry _ invalidated hkind hrevoked _ _ _ _ houtcome _ =>
      obtain ⟨revoked, hcollected, hgone⟩ :=
        revokeSuperseded_revoked hnodup hrevoked
      obtain rfl : invalidated = revoked := hcollected
      simp only [effectFacts, hkind, houtcome]
      exact hgone.ledger

/-- A decision adds an authorization or revokes the Mission's own; every
authority half stays. -/
theorem DecisionEffected.authorities
    (h : DecisionEffected env noted mission decision effected changed)
    (hnodup : mission.authorizationIds.Nodup) {authorizationId : String}
    {authorization : Authorization}
    (hheld : noted.authorizations.get? authorizationId = some authorization) :
    ∃ held, effected.authorizations.get? authorizationId = some held ∧
      held.toAuthorityHalf = authorization.toAuthorityHalf ∧
      (authorizationId ∉ mission.authorizationIds → held = authorization) := by
  cases h with
  | approved entry issued _ _ _ _ hfresh _ _ _ _ _ hledger =>
      have hne : authorizationId ≠ issued.authorizationId := by
        rintro rfl
        rw [hfresh] at hheld
        cases hheld
      refine ⟨authorization, ?_, rfl, fun _ => rfl⟩
      rw [hledger.authorizations, Dict.get?_set_of_ne _ _ hne, hheld]
  | denied _ _ _ _ _ hledger =>
      exact ⟨authorization, by rw [hledger.authorizations, hheld], rfl,
        fun _ => rfl⟩
  | settled => exact ⟨authorization, hheld, rfl, fun _ => rfl⟩
  | edited entry _ invalidated _ hrevoked =>
      obtain ⟨revoked, -, hgone⟩ := revokeSuperseded_revoked hnodup hrevoked
      rw [hgone.authorizations]
      split
      · rename_i hmem
        rw [hgone.live] at hmem
        exact ⟨revoke authorization env.now .supersededByEdit,
          by rw [hheld]; rfl, rfl,
          fun hother => absurd (List.mem_filter.mp hmem).1 hother⟩
      · exact ⟨authorization, hheld, rfl, fun _ => rfl⟩

omit [JsonDigest] in
/-- A consumption leaves every consumed reservation. -/
theorem consumed_of_set {reservations : Dict String Reservation}
    {reservedId : String} {reservation stored : Reservation}
    (hheld : reservations.get? reservedId = some reservation)
    (hunconsumed : reservation.consumedBy = none) {other : String}
    {held : Reservation} (hother : reservations.get? other = some held)
    (hconsumed : held.consumedBy ≠ none) :
    (reservations.set reservedId stored).get? other = some held := by
  have hne : other ≠ reservedId := by
    rintro rfl
    obtain rfl := Option.some.inj (hheld.symm.trans hother)
    exact hconsumed hunconsumed
  rw [Dict.get?_set_of_ne _ _ hne, hother]

/-! ## A decision on a reconciled Mission -/

/-- The Mission a decision leaves. -/
def decidedMission (mission changed : Mission) (decision : DecisionRecord) (now : Nat) : Mission :=
  { changed with
    decisions := mission.decisions ++ [decision]
    updatedAt := now }

/-- A decision on a Mission that stands, between the document it was made on
and the one it leaves. -/
structure Deciding (env : Env) (document noted effected next : Document)
    (missionId : String) (mission changed : Mission)
    (decision : DecisionRecord) (replay : Replay) : Prop where
  stands : Stands document mission replay
  shape : WellFormed missionId mission
  running : mission.state ∉ MissionState.terminal
  unrun : mission.run = none
  revision_eq : decision.revision = mission.currentRevision
  decidedAt_eq : decision.decidedAt = env.now
  expiries : foldChecked (noteExpired document.authorizations env.now) replay
    (sortedBy id replay.live.keys) =
      .ok (notedReplay replay (dueExpiries document mission env.now))
  noting : Ledgered document mission.missionId
    (dueExpiries document mission env.now) noted
  effect : DecisionEffected env noted mission decision effected changed
  authorizations : next.authorizations = effected.authorizations
  ledger : next.authorityLedger = effected.authorityLedger
  consumed : ∀ reservedId reservation, document.reservations.get? reservedId = some reservation →
    reservation.consumedBy ≠ none → next.reservations.get? reservedId = some reservation
  reserved : reservationAgrees next decision.decisionId .decision
    decision.decisionId decision.provenance = .ok ()

namespace Deciding

variable (h : Deciding env document noted effected next missionId mission changed decision replay)

include h

theorem nodup : mission.authorizationIds.Nodup := by
  rw [h.stands.replayed.authorizations]
  exact h.stands.inv.nodup

theorem lifecycle : mission.lifecycle = none := h.shape.unrun h.unrun

theorem state_eq : replay.state = mission.state :=
  h.stands.state_eq h.lifecycle

theorem replayRevision : replay.revision = mission.currentRevision :=
  h.stands.replayed.revision

/-- The current revision is the last one. -/
theorem currentEntry {entry : RevisionEntry} (hentry : mission.revisions.getLast? = some entry) :
    mission.revisions[replay.revision - 1]? = some entry := by
  rw [h.stands.replayed.length, ← List.getLast?_eq_getElem?]
  exact hentry

theorem authorities {authorizationId : String} {authorization : Authorization}
    (hheld : document.authorizations.get? authorizationId = some authorization) :
    ∃ held, next.authorizations.get? authorizationId = some held ∧
      held.toAuthorityHalf = authorization.toAuthorityHalf ∧
      (authorizationId ∉ mission.authorizationIds → held = authorization) := by
  rw [h.authorizations]
  refine h.effect.authorities h.nodup ?_
  rw [h.noting.authorizations, hheld]

theorem grown : Grown document.authorityLedger mission.missionId
    (dueExpiries document mission env.now ++
      effectFacts mission decision env.now) next.authorityLedger := by
  rw [h.ledger]
  exact h.noting.grown.trans (h.effect.grown h.shape.toNumbered h.nodup)

theorem ledger_eq : (missionLedger next.authorityLedger mission.missionId).map
    LedgerEntry.fact = replay.expectedLedger ++ dueExpiries document mission env.now ++
        effectFacts mission decision env.now := by
  rw [h.grown.own, h.stands.replayed.ledger, List.append_assoc]

theorem kinds : ∀ fact ∈ replay.expectedLedger ++ dueExpiries document mission env.now ++
      effectFacts mission decision env.now, fact.kind ≠ .revoked := by
  intro fact hfact
  rcases List.mem_append.mp hfact with hnoted | heffect
  · rcases List.mem_append.mp hnoted with hold | hdue
    · exact h.stands.kinds fact hold
    · exact dueExpiries_kind fact hdue
  · exact effectFacts_kind fact heffect

theorem extension (hkeyed : changed.missionId = mission.missionId)
    (hrevisions : mission.revisions <+: changed.revisions) : Extends document next mission
      (decidedMission mission changed decision env.now) where
  keyed := hkeyed
  revisions := hrevisions
  consumed := h.consumed
  authorities := fun _ _ hheld _ => by
    obtain ⟨held, hnext, hhalf, -⟩ := h.authorities hheld
    exact ⟨held, hnext, hhalf⟩

/-- What an issued authorization is revoked by, where the decision revokes
nothing. -/
theorem revocations_kept (hsame : ∀ authorizationId authorization,
      document.authorizations.get? authorizationId = some authorization →
        next.authorizations.get? authorizationId = some authorization) :
    ∀ authorizationId ∈ replay.issuedIds, ∃ authorization,
      next.authorizations.get? authorizationId = some authorization ∧ authorization.revocation =
          (replay.revokedBy.get? authorizationId).map fun editor =>
            { revokedAt := editor.decidedAt, reason := .supersededByEdit } := by
  intro authorizationId hid
  obtain ⟨authorization, hheld, -, hrevocation⟩ := h.stands.issued_held hid
  exact ⟨authorization, hsame authorizationId authorization hheld, hrevocation⟩

/-- The decision replays, once its own kind does. -/
theorem stands_of_kind (invalidated : List String) {result : Replay}
    (hkeyed : changed.missionId = mission.missionId)
    (hrequest : changed.requestId = mission.requestId)
    (hrevisions : mission.revisions <+: changed.revisions)
    (hkind : replayKind next (decidedMission mission changed decision env.now)
      (notedReplay replay (dueExpiries document mission env.now)) decision =
        .ok (result, invalidated)) (houtcome : OutcomeAgrees
      (decidedMission mission changed decision env.now) decision result
      invalidated) (hreplayed : Replayed next
      (decidedMission mission changed decision env.now) result) :
    Stands next (decidedMission mission changed decision env.now) result := by
  refine h.stands.decide (h.extension hkeyed hrevisions) hrequest rfl
    h.reserved ?_ (h.revision_eq.trans h.replayRevision.symm) ?_ hkind
    houtcome hreplayed
  · rw [h.state_eq]
    intro hrejected
    exact h.running (by simp [hrejected, MissionState.terminal])
  · rw [h.decidedAt_eq]
    exact h.expiries

end Deciding

end DodgingInfinity.MissionCore

/-!
## Each kind of decision, replayed

For each kind of decision, the replay state the recorded history leads to, and
that everything the service stored agrees with it.
-/

namespace DodgingInfinity.MissionCore

open Checked Relation

variable [JsonDigest] {env : Env}
  {document noted effected next : Document} {missionId : String}
  {mission changed : Mission} {decision : DecisionRecord} {replay : Replay}

omit [JsonDigest] in
/-- Only an awaiting Mission may be decided into one of these states. -/
theorem awaiting_of_transition {state target : MissionState}
    (htarget : target = .authorized ∨ target = .denied ∨
      target = .rejected ∨ target = .changesRequested)
    (h : target ∈ state.allowedTransitions) : state = .awaitingDecision := by
  rcases htarget with rfl | rfl | rfl | rfl <;> cases state <;>
    simp_all [MissionState.allowedTransitions]

omit [JsonDigest] in
theorem outcomeAgrees_last {outcome : RecordedOutcome} {entry : RevisionEntry}
    {result : Replay} (hshape : WellFormed missionId mission)
    (hentry : mission.revisions.getLast? = some entry) (houtcome : decision.outcome = outcome)
    (hstate : outcome.resultingState = result.state)
    (hrevision : outcome.resultingRevision = result.revision)
    (hnone : outcome.invalidatedAuthorizationIds = [])
    (hdigest : outcome.proposalDigestSha256 = entry.proposalDigestSha256)
    (hcurrent : result.revision = mission.currentRevision)
    (hrevisions : changed.revisions = mission.revisions) :
    OutcomeAgrees changed decision result [] := by
  subst houtcome
  refine ⟨hstate, hrevision, by simp [hnone], entry, ?_, hdigest⟩
  rw [hrevisions, hcurrent, hshape.current, ← List.getLast?_eq_getElem?]
  exact hentry

theorem Deciding.approved_stands {entry : RevisionEntry}
    {authorization : Authorization} (h : Deciding env document noted effected next missionId mission
      { mission with
        authorizationIds :=
          mission.authorizationIds ++ [authorization.authorizationId]
        state := .authorized } decision replay)
    (hkind : decision.decision = .approve)
    (htransition : .authorized ∈ mission.state.allowedTransitions)
    (hentry : mission.revisions.getLast? = some entry)
    (hfresh : noted.authorizations.get? authorization.authorizationId = none)
    (hunrevoked : authorization.revocation = none)
    (hagrees : authorizationAgrees authorization.toAuthorityHalf decision
      entry mission.missionId = .ok ())
    (hrequested : requireRequested decision entry.proposal = .ok ())
    (hstored : effected.authorizations = noted.authorizations.set
      authorization.authorizationId authorization)
    (houtcome : decision.outcome = {
      resultingState := .authorized
      resultingRevision := entry.revision
      proposalDigestSha256 := entry.proposalDigestSha256
      authorizationId := some authorization.authorizationId
      invalidatedAuthorizationIds := [] }) :
    ∃ result, Stands next (decidedMission mission { mission with
      authorizationIds :=
        mission.authorizationIds ++ [authorization.authorizationId]
      state := .authorized } decision env.now) result := by
  have hrevision := h.shape.toNumbered.current entry hentry
  have hdocument : document.authorizations.get?
      authorization.authorizationId = none := by
    rw [← h.noting.authorizations, hfresh]
  have hnext : next.authorizations.get? authorization.authorizationId =
      some authorization := by
    rw [h.authorizations, hstored, Dict.get?_set_self]
  -- no issued id is the new one: every issued one was held before
  have hunissued : authorization.authorizationId ∉ replay.issuedIds := by
    intro hid
    obtain ⟨_, hheld, -⟩ := h.stands.issued_held hid
    rw [hdocument] at hheld
    cases hheld
  have hkept : ∀ authorizationId held, document.authorizations.get? authorizationId = some held →
        next.authorizations.get? authorizationId = some held := by
    intro authorizationId held hheld
    have hne : authorizationId ≠ authorization.authorizationId := by
      rintro rfl
      rw [hdocument] at hheld
      cases hheld
    rw [h.authorizations, hstored, Dict.get?_set_of_ne _ _ hne, h.noting.authorizations, hheld]
  let settled := notedReplay replay (dueExpiries document mission env.now)
  let result : Replay := { settled with
    state := .authorized
    issuedIds := replay.issuedIds ++ [authorization.authorizationId]
    live := replay.live.set authorization.authorizationId replay.revision
    expectedLedger := settled.expectedLedger ++ [{
      kind := .issued
      authorizationId := some authorization.authorizationId
      decisionId := some decision.decisionId
      revision := replay.revision
      recordedAt := decision.decidedAt }] }
  have hledger : result.expectedLedger = replay.expectedLedger ++
      dueExpiries document mission env.now ++
        effectFacts mission decision env.now := by
    simp [result, settled, notedReplay, effectFacts, hkind, houtcome,
      h.replayRevision, h.decidedAt_eq]
  refine ⟨result, h.stands_of_kind [] rfl rfl List.prefix_rfl ?_ ?_ ?_⟩
  · simp only [replayKind, hkind, bind_eq_ok, pure_eq_ok, Prod.mk.injEq, and_true, exists_eq_right]
    rw [replayApprove_eq_ok]
    exact ⟨h.state_eq.trans (awaiting_of_transition (.inl rfl) htransition),
      authorization.authorizationId, authorization, entry, by rw [houtcome],
      hnext, hunissued, h.currentEntry hentry, hrequested, hagrees, rfl⟩
  · exact outcomeAgrees_last h.shape hentry houtcome rfl
      (hrevision.trans h.replayRevision.symm) rfl rfl h.replayRevision rfl
  · refine replayed_of_unrun h.unrun h.lifecycle rfl h.replayRevision
      h.shape.current (by
        simp [decidedMission, result, h.stands.replayed.authorizations]) ?_
      (h.ledger_eq.trans hledger.symm) (hledger ▸ h.kinds)
    intro authorizationId hid
    rcases List.mem_append.mp hid with hold | hnew
    · exact h.revocations_kept hkept authorizationId hold
    · obtain rfl := List.mem_singleton.mp hnew
      have hunrevokedBy : replay.revokedBy.get?
          authorization.authorizationId = none := by
        by_contra hrevoked
        exact hunissued (h.stands.inv.revoked_issued _ hrevoked)
      refine ⟨authorization, hnext, ?_⟩
      rw [hunrevoked]
      simp [result, settled, notedReplay, hunrevokedBy]

theorem Deciding.denied_stands {entry : RevisionEntry}
    (h : Deciding env document noted effected next missionId mission
      { mission with state := .denied } decision replay) (hkind : decision.decision = .deny)
    (htransition : .denied ∈ mission.state.allowedTransitions)
    (hentry : mission.revisions.getLast? = some entry)
    (hstored : effected.authorizations = noted.authorizations) (houtcome : decision.outcome = {
      resultingState := .denied
      resultingRevision := mission.currentRevision
      proposalDigestSha256 := entry.proposalDigestSha256
      authorizationId := none
      invalidatedAuthorizationIds := [] }) :
    ∃ result, Stands next (decidedMission mission
      { mission with state := .denied } decision env.now) result := by
  have hkept : ∀ authorizationId held, document.authorizations.get? authorizationId = some held →
        next.authorizations.get? authorizationId = some held := by
    intro authorizationId held hheld
    rw [h.authorizations, hstored, h.noting.authorizations, hheld]
  let settled := notedReplay replay (dueExpiries document mission env.now)
  let result : Replay := { settled with
    state := .denied
    expectedLedger := settled.expectedLedger ++ [{
      kind := .denied
      authorizationId := none
      decisionId := some decision.decisionId
      revision := replay.revision
      recordedAt := decision.decidedAt }] }
  have hledger : result.expectedLedger = replay.expectedLedger ++
      dueExpiries document mission env.now ++
        effectFacts mission decision env.now := by
    simp [result, settled, notedReplay, effectFacts, hkind, h.replayRevision, h.decidedAt_eq]
  refine ⟨result, h.stands_of_kind [] rfl rfl List.prefix_rfl ?_ ?_ ?_⟩
  · simp only [replayKind, hkind, bind_eq_ok, pure_eq_ok, Prod.mk.injEq, and_true, exists_eq_right]
    rw [replayDeny_eq_ok]
    exact ⟨h.state_eq.trans (awaiting_of_transition (.inr (.inl rfl)) htransition),
      by rw [houtcome], rfl⟩
  · exact outcomeAgrees_last h.shape hentry houtcome rfl
      h.replayRevision.symm rfl rfl h.replayRevision rfl
  · exact replayed_of_unrun h.unrun h.lifecycle rfl h.replayRevision
      h.shape.current h.stands.replayed.authorizations
      (h.revocations_kept hkept) (h.ledger_eq.trans hledger.symm)
      (hledger ▸ h.kinds)

theorem Deciding.settled_stands {entry : RevisionEntry}
    {target : MissionState} (h : Deciding env document noted effected next missionId mission
      { mission with state := target } decision replay)
    (hkind : (decision.decision = .reject ∧ target = .rejected) ∨
      (decision.decision = .requestChanges ∧ target = .changesRequested))
    (htransition : target ∈ mission.state.allowedTransitions)
    (hentry : mission.revisions.getLast? = some entry) (hstored : effected = noted)
    (houtcome : decision.outcome = {
      resultingState := target
      resultingRevision := entry.revision
      proposalDigestSha256 := entry.proposalDigestSha256
      authorizationId := none
      invalidatedAuthorizationIds := [] }) :
    ∃ result, Stands next (decidedMission mission
      { mission with state := target } decision env.now) result := by
  have hrevision := h.shape.toNumbered.current entry hentry
  have hkept : ∀ authorizationId held, document.authorizations.get? authorizationId = some held →
        next.authorizations.get? authorizationId = some held := by
    intro authorizationId held hheld
    rw [h.authorizations, hstored, h.noting.authorizations, hheld]
  let settled := notedReplay replay (dueExpiries document mission env.now)
  let result : Replay := { settled with state := target }
  have hfacts : effectFacts mission decision env.now = [] := by
    rcases hkind with ⟨hkind, -⟩ | ⟨hkind, -⟩ <;> simp [effectFacts, hkind]
  have hledger : result.expectedLedger = replay.expectedLedger ++
      dueExpiries document mission env.now ++
        effectFacts mission decision env.now := by
    simp [result, settled, notedReplay, hfacts]
  have hawaiting : replay.state = .awaitingDecision := by
    rw [h.state_eq]
    refine awaiting_of_transition (.inr (.inr ?_)) htransition
    exact hkind.imp And.right And.right
  refine ⟨result, h.stands_of_kind [] rfl rfl List.prefix_rfl ?_ ?_ ?_⟩
  · have hreplayed : replayAttested settled decision target = .ok result := by
      rw [replayAttested_eq_ok]
      exact ⟨hawaiting, by rw [houtcome], rfl⟩
    rcases hkind with ⟨hkind, rfl⟩ | ⟨hkind, rfl⟩ <;>
      · simp only [replayKind, hkind, bind_eq_ok, pure_eq_ok, Prod.mk.injEq,
          and_true, exists_eq_right]
        exact hreplayed
  · exact outcomeAgrees_last h.shape hentry houtcome rfl
      (hrevision.trans h.replayRevision.symm) rfl rfl h.replayRevision rfl
  · exact replayed_of_unrun h.unrun h.lifecycle rfl h.replayRevision
      h.shape.current h.stands.replayed.authorizations
      (h.revocations_kept hkept) (h.ledger_eq.trans hledger.symm)
      (hledger ▸ h.kinds)

omit [JsonDigest] in
/-- The revocations of a replayed edit, over a list of live authorizations. -/
theorem replayInvalidation_fold (decision : DecisionRecord) (superseded : Nat)
    (ids : List String) (replay : Replay) :
    (ids.foldl (replayInvalidation decision superseded) replay).issuedIds = replay.issuedIds ∧
      (ids.foldl (replayInvalidation decision superseded)
          replay).expectedLedger = replay.expectedLedger ++ ids.map (invalidationFact superseded
          decision.decidedAt decision.decisionId) ∧ ∀ authorizationId,
        (ids.foldl (replayInvalidation decision superseded)
            replay).revokedBy.get? authorizationId =
          if authorizationId ∈ ids then some decision
          else replay.revokedBy.get? authorizationId := by
  induction ids generalizing replay with
  | nil => simp
  | cons first rest ih =>
      obtain ⟨hissued, hledger, hrevoked⟩ :=
        ih (replayInvalidation decision superseded replay first)
      refine ⟨hissued, ?_, fun authorizationId => ?_⟩
      · rw [List.foldl_cons, hledger]
        simp [replayInvalidation, invalidationFact]
      · rw [List.foldl_cons, hrevoked]
        by_cases hrest : authorizationId ∈ rest
        · simp [hrest]
        · by_cases hfirst : authorizationId = first
          · simp [replayInvalidation, hfirst]
          · simp [replayInvalidation, hrest, hfirst, Dict.get?_set]

theorem Deciding.edited_stands {entry : RevisionEntry}
    {invalidated : List String} (h : Deciding env document noted effected next missionId mission
      { mission with
        revisions := mission.revisions ++ [entry]
        currentRevision := mission.currentRevision + 1
        state := .awaitingDecision
        updatedAt := env.now } decision replay)
    (hkind : decision.decision = .edit)
    (hrevoked : foldChecked (revokeSuperseded env mission
      decision.decisionId) (noted, []) mission.authorizationIds = .ok (effected, invalidated))
    (hrevision : entry.revision = mission.currentRevision + 1)
    (hcreated : entry.createdAt = env.now)
    (hprovenance : ∃ context, provenanceContext decision.provenance =
        .ok context ∧ provenanceRecord context decision.receivedAt .decision
        decision.decisionId mission.missionId (mission.currentRevision + 1) = .ok entry.provenance)
    (hdigest : decision.proposalDigestSha256 = some entry.proposalDigestSha256)
    (houtcome : decision.outcome = {
      resultingState := .awaitingDecision
      resultingRevision := entry.revision
      proposalDigestSha256 := entry.proposalDigestSha256
      authorizationId := none
      invalidatedAuthorizationIds := invalidated }) :
    ∃ result, Stands next (decidedMission mission { mission with
      revisions := mission.revisions ++ [entry]
      currentRevision := mission.currentRevision + 1
      state := .awaitingDecision
      updatedAt := env.now } decision env.now) result := by
  obtain ⟨context, hcontext, hrecorded⟩ := hprovenance
  obtain ⟨revoked, hcollected, hgone⟩ :=
    revokeSuperseded_revoked h.nodup hrevoked
  obtain rfl : invalidated = revoked := hcollected
  have hlive : invalidated = liveAt replay replay.revision := by
    rw [hgone.live, h.noting.authorizations]
    exact h.stands.revoked_eq h.replayRevision
  let settled := notedReplay replay (dueExpiries document mission env.now)
  obtain ⟨hissued, hfacts, hrevokedBy⟩ :=
    replayInvalidation_fold decision replay.revision invalidated settled
  let result : Replay := { invalidated.foldl
      (replayInvalidation decision replay.revision) settled with
    state := .awaitingDecision
    revision := replay.revision + 1 }
  have hledger : result.expectedLedger = replay.expectedLedger ++
      dueExpiries document mission env.now ++
        effectFacts mission decision env.now := by
    rw [effectFacts, hkind, houtcome]
    exact hfacts.trans (by
      rw [h.replayRevision, h.decidedAt_eq]
      rfl)
  have hlast : (mission.revisions ++ [entry])[replay.revision]? =
      some entry := by
    rw [h.stands.replayed.length]
    exact List.getElem?_concat_length
  refine ⟨result, h.stands_of_kind invalidated rfl rfl (List.prefix_append ..) ?_ ?_ ?_⟩
  · simp only [replayKind, hkind, bind_eq_ok, pure_eq_ok, Prod.mk.injEq]
    refine ⟨result, ?_, rfl, hlive.symm⟩
    rw [replayEdit_eq_ok]
    refine ⟨⟨entry, context, hlast, ?_, hcontext, ?_, hdigest.symm,
      hcreated.trans h.decidedAt_eq.symm⟩, by rw [houtcome], ?_⟩
    · rw [provenanceRecord_eq_ok hrecorded]
    · exact (congrArg (provenanceRecord context decision.receivedAt .decision
        decision.decisionId mission.missionId) (congrArg (· + 1) h.replayRevision)).trans hrecorded
    · simp only [result, hlive]
      rfl
  · refine ⟨by rw [houtcome], ?_, ?_, entry, hlast, by rw [houtcome]⟩
    · rw [houtcome]
      exact hrevision.trans (congrArg (· + 1) h.replayRevision.symm)
    · rw [houtcome, hlive]
      exact sortedBy_sortedBy ..
  · refine replayed_of_unrun h.unrun h.lifecycle rfl (congrArg (· + 1) h.replayRevision)
      (by simp [decidedMission, h.shape.current])
      (h.stands.replayed.authorizations.trans hissued.symm) ?_
      (h.ledger_eq.trans hledger.symm) (hledger ▸ h.kinds)
    intro authorizationId hid
    have hold : authorizationId ∈ replay.issuedIds := hissued ▸ hid
    obtain ⟨authorization, hheld, -, hrevocation⟩ := h.stands.issued_held hold
    rw [h.authorizations, hgone.authorizations, h.noting.authorizations, hheld]
    change ∃ held, _ ∧ _ = ((invalidated.foldl
      (replayInvalidation decision replay.revision) settled).revokedBy.get?
        authorizationId).map _
    rw [hrevokedBy]
    split
    · refine ⟨_, rfl, ?_⟩
      simp [revoke, h.decidedAt_eq]
    · exact ⟨authorization, rfl, hrevocation⟩

/-- Whatever the decision, the Mission stands afterwards. -/
theorem Deciding.stands_next
    (h : Deciding env document noted effected next missionId mission changed
      decision replay) : ∃ result, Stands next
      (decidedMission mission changed decision env.now) result := by
  have heffect := h.effect
  cases heffect with
  | approved entry authorization _ hkind htransition hentry hfresh _ hunrevoked
      _ hagrees hrequested hledger houtcome =>
      exact h.approved_stands hkind htransition hentry hfresh hunrevoked
        hagrees hrequested hledger.authorizations houtcome
  | denied entry _ hkind htransition hentry hledger houtcome =>
      exact h.denied_stands hkind htransition hentry hledger.authorizations houtcome
  | settled entry target hkind htransition hentry houtcome =>
      exact h.settled_stands hkind htransition hentry rfl houtcome
  | edited entry _ invalidated hkind hrevoked hrevision hcreated hprovenance
      hdigest houtcome _ =>
      exact h.edited_stands hkind hrevoked hrevision hcreated hprovenance hdigest houtcome

end DodgingInfinity.MissionCore
