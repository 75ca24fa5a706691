import DodgingInfinity.MissionCore.Change

/-!
# What a change leaves of the Missions

A change of the document stores at most one Mission record: a new one, or a
changed one in its place.
-/

namespace DodgingInfinity.MissionCore

open Checked Relation

variable {env : Env} {document next effected : Document}
  {missionId decisionId : String} {mission changed : Mission}
  {decision : DecisionRecord}

/-! ## The effect of a decision on the document -/

/-- The same Missions, reservations and state records: only the ledger and the
authorizations may differ. -/
structure AuthorityOnly (document next : Document) : Prop where
  missions : next.missions = document.missions
  reservations : next.reservations = document.reservations
  missionState : next.missionState = document.missionState

theorem AuthorityOnly.refl (document : Document) : AuthorityOnly document document :=
  ⟨rfl, rfl, rfl⟩

theorem AuthorityOnly.trans {middle : Document} (hfirst : AuthorityOnly document middle)
    (hsecond : AuthorityOnly middle next) : AuthorityOnly document next :=
  ⟨hsecond.missions.trans hfirst.missions, hsecond.reservations.trans hfirst.reservations,
    hsecond.missionState.trans hfirst.missionState⟩

theorem Ledgered.authorityOnly {facts : List LedgerFact}
    (h : Ledgered document missionId facts next) :
    AuthorityOnly document next := by
  obtain ⟨notes, rfl, -, -⟩ := h.appended
  exact ⟨rfl, rfl, rfl⟩

theorem Ledgered.authorizations {facts : List LedgerFact}
    (h : Ledgered document missionId facts next) :
    next.authorizations = document.authorizations := by
  obtain ⟨notes, rfl, -, -⟩ := h.appended
  rfl

/-- The ledger fact of a revocation by an edit. -/
def invalidationFact (revision recordedAt : Nat) (decisionId : String)
    (authorizationId : String) : LedgerFact where
  kind := .invalidatedByEdit
  authorizationId := some authorizationId
  decisionId := some decisionId
  revision := revision
  recordedAt := recordedAt

/-- One step of the revocations of an edit. -/
theorem revokeSuperseded_eq_ok {found collected : List String}
    {authorizationId : String} (h : revokeSuperseded env mission decisionId (document, found)
      authorizationId = .ok (next, collected)) : ∃ authorization,
      document.authorizations.get? authorizationId = some authorization ∧
      ((liveUnder mission.currentRevision authorization = true ∧
          Ledgered { document with
            authorizations := document.authorizations.set authorizationId
              (revoke authorization env.now .supersededByEdit) }
            mission.missionId [invalidationFact mission.currentRevision env.now
              decisionId authorizationId] next ∧ collected = found ++ [authorizationId]) ∨
        (liveUnder mission.currentRevision authorization = false ∧
          next = document ∧ collected = found)) := by
  simp only [revokeSuperseded, bind_eq_ok, orFail_eq_ok] at h
  obtain ⟨authorization, hheld, h⟩ := h
  refine ⟨authorization, hheld, ?_⟩
  split at h
  · rename_i hlive
    simp only [bind_eq_ok, pure_eq_ok, Prod.mk.injEq] at h
    obtain ⟨recorded, hrecorded, rfl, rfl⟩ := h
    exact .inl ⟨hlive, Ledgered.ofAppend hrecorded, rfl⟩
  · rename_i hdead
    obtain ⟨rfl, rfl⟩ := Prod.mk.inj ((pure_eq_ok ..).mp h)
    exact .inr ⟨Bool.not_eq_true _ ▸ hdead, rfl, rfl⟩

theorem revokeSuperseded_authorityOnly {found collected : List String}
    {ids : List String} (h : foldChecked (revokeSuperseded env mission decisionId)
      (document, found) ids = .ok (next, collected)) :
    AuthorityOnly document next := by
  induction ids generalizing document found with
  | nil =>
      obtain ⟨rfl, -⟩ := Prod.mk.inj (Except.ok.inj h)
      exact AuthorityOnly.refl document
  | cons first rest ih =>
      obtain ⟨⟨middle, gathered⟩, hfirst, hrest⟩ :=
        (foldChecked_cons_eq_ok ..).mp h
      refine AuthorityOnly.trans ?_ (ih hrest)
      obtain ⟨authorization, -, hcases⟩ := revokeSuperseded_eq_ok hfirst
      rcases hcases with ⟨-, hledger, -⟩ | ⟨-, rfl, -⟩
      · exact ⟨hledger.authorityOnly.missions,
          hledger.authorityOnly.reservations, hledger.authorityOnly.missionState⟩
      · exact AuthorityOnly.refl _

variable [JsonDigest]

theorem DecisionEffected.authorityOnly
    (h : DecisionEffected env document mission decision effected changed) :
    AuthorityOnly document effected := by
  cases h with
  | approved entry authorization _ _ _ _ _ _ _ _ _ _ hledger _ =>
      exact ⟨hledger.authorityOnly.missions, hledger.authorityOnly.reservations,
        hledger.authorityOnly.missionState⟩
  | denied _ _ _ _ _ hledger _ => exact hledger.authorityOnly
  | settled => exact AuthorityOnly.refl document
  | edited _ _ _ _ hrevoked => exact revokeSuperseded_authorityOnly hrevoked

/-! ## The one Mission a change stores -/

/-- What a change does to a stored Mission. -/
inductive MissionChange (document : Document) (missionId : String)
    (mission : Mission) : Mission → Prop
  | withdrawn (withdrawal : Withdrawal) (now : Nat)
      (hfirst : mission.withdrawal = none) (hstate : mission.state = .awaitingDecision)
      (hdecisions : mission.decisions = []) (hauthorizations : mission.authorizationIds = []) :
      MissionChange document missionId mission { mission with
        withdrawal := some withdrawal, updatedAt := now }
  | decided (env : Env) (noted effected : Document) (changed : Mission)
      (decision : DecisionRecord)
      (hopen : mission.state ∉ MissionState.terminal)
      (hunrun : mission.run = none)
      (hstanding : mission.withdrawal = none)
      (heffected : DecisionEffected env noted mission decision effected
        changed) :
      MissionChange document missionId mission { changed with
        decisions := mission.decisions ++ [decision], updatedAt := env.now }
  | ran (changed : Mission)
      (h : RunChange document missionId mission changed) :
      MissionChange document missionId mission changed
  | reclaimed (run : Run) (reclaimedAt : Nat) (outcome : ReclaimOutcome)
      (hrun : mission.run = some run)
      (hstate : mission.state ∈ reclaimableStates) :
      MissionChange document missionId mission { mission with
        run := some (reclaimedRun run reclaimedAt outcome) }

/-- The Mission a change stores under an id: a new one, or one changed in its
place. -/
inductive MissionWritten (document : Document) (missionId : String) : Mission → Prop
  | created (env : Env) (call : ProposeCall) (clean : Proposal)
      (entry : RevisionEntry) (mission : Mission) (hfresh : document.missions.get? missionId = none)
      (hnew : NewMission missionId call clean env.now entry mission) :
      MissionWritten document missionId mission
  | changed (mission changed : Mission)
      (hheld : document.missions.get? missionId = some mission)
      (h : MissionChange document missionId mission changed) :
      MissionWritten document missionId changed

theorem Decided.missions_eq (h : Decided env document next missionId mission decision) :
    ∃ changed, next.missions = document.missions.set missionId changed ∧
      MissionChange document missionId mission changed := by
  obtain ⟨noted, effected, changed, reservation, hnoted, heffected, -, -, -, -, rfl⟩ := h.effect
  refine ⟨_, ?_, .decided env noted effected changed decision h.running h.unrun
    h.standing heffected⟩
  simp only [Document.consume, Document.setMission, heffected.authorityOnly.missions,
    (noteExpirations_eq_ok hnoted).authorityOnly.missions]

/-- A decision touches no state record. -/
theorem Decided.missionState_eq (h : Decided env document next missionId mission decision) :
    next.missionState = document.missionState := by
  obtain ⟨noted, effected, changed, reservation, hnoted, heffected, -, -, -, -, hnext⟩ := h.effect
  rw [hnext]
  simp only [Document.consume, Document.setMission, heffected.authorityOnly.missionState,
    (noteExpirations_eq_ok hnoted).authorityOnly.missionState]

variable [ReconciliationPlanner]

/-- A state operation of an unconsumed id, applied to its record. -/
structure OperationApplied (env : Env) (document : Document)
    (invocation : StateInvocation) (finished : StateRecord) : Prop where
  unconsumed : ∃ reservation, document.reservations.get? invocation.operationId = some reservation ∧
      reservation.consumedBy = none
  applied : ∃ entry call effected body, Applied env document invocation
    (stateOrNew (document.missionState.get? invocation.missionId)
      invocation.missionId env.now) entry call effected body finished

/-- A change stores at most one state record, that of an applied operation. -/
theorem Change.missionState_eq (h : Change document next) :
    next.missionState = document.missionState ∨ ∃ env invocation finished,
        OperationApplied env document invocation finished ∧ next.missionState =
          document.missionState.set invocation.missionId finished := by
  cases h with
  | reserved => exact .inl rfl
  | created => exact .inl rfl
  | withdrawn => exact .inl rfl
  | decided _ _ _ _ _ hdecided => exact .inl hdecided.missionState_eq
  | ran => exact .inl rfl
  | applied env invocation mission reservation entry call effected finished body
      hreserved hunconsumed _ _ _ happlied =>
      exact .inr ⟨env, invocation, finished, ⟨⟨reservation, hreserved.held, hunconsumed⟩,
          ⟨entry, call, effected, body, happlied⟩⟩, rfl⟩
  | reclaimed => exact .inl rfl

/-- A change stores at most one Mission. -/
theorem Change.missions_eq (h : Change document next) : next.missions = document.missions ∨
      ∃ missionId changed, next.missions = document.missions.set missionId changed ∧
        MissionWritten document missionId changed := by
  cases h with
  | reserved => exact .inl rfl
  | created env call clean missionId mission entry reservation _ _ hfresh
      hnew =>
      exact .inr ⟨missionId, mission, rfl, .created env call clean entry mission hfresh hnew⟩
  | withdrawn missionId mission withdrawal now hheld hfirst hstate hdecisions
      hauthorizations =>
      exact .inr ⟨missionId, _, rfl, .changed mission _ hheld
        (.withdrawn withdrawal now hfirst hstate hdecisions hauthorizations)⟩
  | decided env _ missionId mission decision hdecided =>
      obtain ⟨changed, hnext, hchange⟩ := hdecided.missions_eq
      exact .inr ⟨missionId, changed, hnext, .changed mission changed hdecided.held hchange⟩
  | ran missionId mission changed hheld hchange =>
      exact .inr ⟨missionId, changed, rfl, .changed mission changed hheld (.ran changed hchange)⟩
  | applied => exact .inl rfl
  | reclaimed missionId mission run reclaimedAt outcome hheld hrun hstate =>
      exact .inr ⟨missionId, _, rfl, .changed mission _ hheld
        (.reclaimed run reclaimedAt outcome hrun hstate)⟩

/-- A Mission after a change is the one before it, a new one, or the changed
one. -/
theorem Change.mission_of_next (h : Change document next)
    (hheld : next.missions.get? missionId = some changed) :
    document.missions.get? missionId = some changed ∨
      MissionWritten document missionId changed := by
  rcases h.missions_eq with hsame | ⟨written, stored, hnext, hwritten⟩
  · exact .inl (hsame ▸ hheld)
  · rw [hnext, Dict.get?_set] at hheld
    split at hheld
    · rename_i hid
      subst hid
      obtain rfl := Option.some.inj hheld
      exact .inr hwritten
    · exact .inl hheld

/-- A stored Mission stays, or is changed in its place. -/
theorem Change.mission_of_held (h : Change document next)
    (hheld : document.missions.get? missionId = some mission) :
    ∃ changed, next.missions.get? missionId = some changed ∧
      (changed = mission ∨ MissionChange document missionId mission changed) := by
  rcases h.missions_eq with hsame | ⟨written, stored, hnext, hwritten⟩
  · exact ⟨mission, hsame ▸ hheld, .inl rfl⟩
  · rw [hnext, Dict.get?_set]
    split
    · rename_i hid
      subst hid
      refine ⟨stored, rfl, .inr ?_⟩
      cases hwritten with
      | created _ _ _ _ _ hfresh =>
          rw [hfresh] at hheld
          cases hheld
      | changed before _ hbefore hchange =>
          obtain rfl := Option.some.inj (hbefore.symm.trans hheld)
          exact hchange
    · exact ⟨mission, hheld, .inl rfl⟩

end DodgingInfinity.MissionCore
