import DodgingInfinity.MissionCore.DecisionKinds

/-!
# Every change keeps every Mission reconciled

Decisions replay to what they left, run writes stay behind the history they
run on, and no change of one Mission is read by the replay of another.
-/

namespace DodgingInfinity.MissionCore

open Checked Relation

variable [JsonDigest] {env : Env}
  {document noted effected next : Document} {missionId : String}
  {mission changed : Mission} {decision : DecisionRecord} {replay : Replay}

/-! ## Run writes -/

/-- The part of a Mission that no run write touches. -/
structure SameHistory (mission changed : Mission) : Prop where
  keyed : changed.missionId = mission.missionId
  request : changed.requestId = mission.requestId
  revisions : changed.revisions = mission.revisions
  current : changed.currentRevision = mission.currentRevision
  decisions : changed.decisions = mission.decisions
  authorizationIds : changed.authorizationIds = mission.authorizationIds

theorem RunChange.sameHistory (h : RunChange document missionId mission changed) :
    SameHistory mission changed := by
  cases h <;> exact ⟨rfl, rfl, rfl, rfl, rfl, rfl⟩

omit [JsonDigest] in
/-- A Mission with a run, or in AUTHORIZED, was decided to be AUTHORIZED. -/
theorem Stands.authorized_of (h : Stands document mission replay)
    (hshape : WellFormed missionId mission)
    (hheld : mission.run ≠ none ∨ mission.state = .authorized) :
    replay.state = .authorized := by
  by_cases hrun : mission.run = none
  · rw [h.state_eq (hshape.unrun hrun)]
    exact hheld.resolve_left (not_not.mpr hrun)
  · exact h.replayed.run hrun

variable {run : Run}

/-- The intent a write stores is the one before it, or one whose authority was
checked. -/
theorem RunStored.intent (h : RunStored document missionId mission run) :
    run.intent = mission.runIntent ∨ ∃ intent, run.intent = some intent ∧
      Intended document missionId mission intent := by
  have hheld : ∀ held, mission.run = some held →
      held.intent = mission.runIntent := by
    intro held hrun
    simp [Mission.runIntent, hrun]
  cases h with
  | bound => exact .inl (runIntent_runOf mission)
  | prepared => exact .inl (runIntent_runOf mission)
  | refused => exact .inl (runIntent_runOf mission)
  | intended intent _ hintended => exact .inr ⟨intent, rfl, hintended⟩
  | received held _ hafter => exact .inl (hheld held hafter.held)
  | counted held _ hafter => exact .inl (hheld held hafter.held)
  | resolved held _ hrun => exact .inl (hheld held hrun)
  | paused => exact .inl (runIntent_runOf mission)
  | resumed held _ hrun => exact .inl (hheld held hrun)
  | pending held _ hrun => exact .inl (hheld held hrun)
  | cancelCompleted held _ _ _ _ hrun => exact .inl (hheld held hrun)

theorem RunMoves.intent {target : MissionState}
    {reason : RunReason} (h : RunMoves document missionId mission run target reason) :
    run.intent = mission.runIntent := by
  have hheld : ∀ held, mission.run = some held →
      held.intent = mission.runIntent := by
    intro held hrun
    simp [Mission.runIntent, hrun]
  cases h with
  | observed _ _ _ hrun => exact hheld run hrun
  | stopped held _ _ hafter => exact hheld held hafter.held
  | exhausted held _ hafter => exact hheld held hafter.held
  | cancelled => exact runIntent_runOf mission
  | verified held _ hrun => exact hheld held hrun
  | failed held _ _ hrun => exact hheld held hrun

/-- A checked authority is the one the replay issued last. -/
theorem Stands.intent_bound (h : Stands document mission replay)
    {intent : RunIntent} (hintended : Intended document missionId mission intent) :
    requireIntentBinding document replay intent = .ok () := by
  obtain ⟨authorization, hchecked, hactions, htargets⟩ := hintended.authority
  obtain ⟨-, hlast, -⟩ := h.replayed.live h.inv hchecked.listed
    hchecked.authorization_held hchecked.unrevoked
  have hissued := List.mem_of_getLast? hlast
  have hlive := (h.unrevoked_iff hissued hchecked.authorization_held).mp hchecked.unrevoked
  have hunrevoked := (h.inv.revoked _ hissued).mpr hlive
  have hrevision : intent.revision = replay.revision := by
    have hcurrent := hchecked.current
    rw [h.replayed.revision]
    omega
  simp only [requireIntentBinding, bind_eq_ok, exists_passed, failIf_eq_ok,
    orFail_eq_ok, not_not, ne_eq, Bool.not_eq_true, Dict.contains_eq_false_iff]
  exact ⟨hlast, hrevision, hunrevoked, authorization,
    hchecked.authorization_held, hactions, htargets⟩

/-- A run write agrees with the replay of the decisions behind it. -/
theorem RunChange.agrees (h : RunChange document missionId mission changed)
    (hshape : WellFormed missionId mission) (hstands : Stands document mission replay) :
    (changed.run ≠ none → replay.state = .authorized) ∧ (∀ intent, changed.runIntent = some intent →
        requireIntentBinding document replay intent = .ok ()) ∧
      replayedState changed replay = changed.state := by
  cases h with
  | kept =>
      exact ⟨hstands.replayed.run, hstands.replayed.intent, hstands.replayed.state⟩
  | stored run now hstored =>
      refine ⟨fun _ => hstands.authorized_of hshape (hstored.held hshape),
        fun intent hintent => ?_, hstands.replayed.state⟩
      have hrun : run.intent = some intent := hintent
      rcases hstored.intent with hsame | ⟨held, hheld, hintended⟩
      · exact hstands.replayed.intent intent (hsame ▸ hrun)
      · obtain rfl := Option.some.inj (hheld.symm.trans hrun)
        exact hstands.intent_bound hintended
  | moved run target reason now hmoves hwired =>
      refine ⟨fun _ => hstands.authorized_of hshape ?_, fun intent hintent => ?_, ?_⟩
      · have hstate : mission.state = .authorized ∨
            mission.state = .running := by
          simp only [MissionState.runTransitions, List.mem_cons,
            Prod.mk.injEq, List.not_mem_nil, or_false] at hwired
          tauto
        refine hstate.symm.imp_left fun hrunning => ?_
        obtain ⟨held, hheld, -⟩ := hshape.started (.inl hrunning)
        simp [hheld]
      · have hrun : run.intent = some intent := hintent
        exact hstands.replayed.intent intent (hmoves.intent ▸ hrun)
      · simp [replayedState, Mission.lifecycleEvents, movedMission]

omit [JsonDigest] in
/-- A Mission whose history is as it was stays reconciled, when its run and its
state agree with the replay. -/
theorem Stands.reconciled_changed (h : Stands document mission replay)
    (hagrees : Agrees document next mission.missionId) (hsame : SameHistory mission changed)
    (hrun : (changed.run ≠ none → replay.state = .authorized) ∧
      (∀ intent, changed.runIntent = some intent →
        requireIntentBinding document replay intent = .ok ()) ∧
      replayedState changed replay = changed.state) :
    reconcileMissionHistory next changed = .ok () :=
  hagrees.reconciled hsame.keyed hsame.request hsame.revisions hsame.current
    hsame.decisions hsame.authorizationIds
    (reconciled_iff_stands.mpr ⟨replay, h⟩)
    fun other hother _ => by
      obtain rfl := Except.ok.inj (h.replay_eq.symm.trans hother)
      exact hrun

/-! ## Every change -/

omit [JsonDigest] in
/-- A change that leaves the authorizations and the ledger, and keeps the
Missions it stores reconciled. -/
theorem Consistent.write (h : Consistent document)
    (hauthorizations : next.authorizations = document.authorizations)
    (hledger : next.authorityLedger = document.authorityLedger)
    (hconsumed : ∀ reservedId reservation,
      document.reservations.get? reservedId = some reservation → reservation.consumedBy ≠ none →
        next.reservations.get? reservedId = some reservation) (hmissions : ∀ missionId mission,
      next.missions.get? missionId = some mission →
        document.missions.get? missionId = some mission ∨
          reconcileMissionHistory next mission = .ok ()) (hheld : ∀ missionId mission,
      document.missions.get? missionId = some mission → ∃ changed,
        next.missions.get? missionId = some changed ∧
          changed.authorizationIds = mission.authorizationIds) :
    Consistent next where
  reconciled := fun missionId mission hnext => by
    rcases hmissions missionId mission hnext with hold | hreconciled
    · have hagrees : Agrees document next mission.missionId :=
        ⟨hconsumed, fun _ _ hheld _ => by rw [hauthorizations, hheld],
          by rw [hledger]⟩
      exact hagrees.reconciled_same (h.reconciled missionId mission hold)
    · exact hreconciled
  ledgered := fun entry hentry => by
    rw [hledger] at hentry
    obtain ⟨mission, hmission⟩ := h.ledgered entry hentry
    obtain ⟨changed, hchanged, -⟩ := hheld _ mission hmission
    exact ⟨changed, hchanged⟩
  owned := fun authorizationId authorization hnext => by
    rw [hauthorizations] at hnext
    obtain ⟨mission, hmission, hlisted⟩ :=
      h.owned authorizationId authorization hnext
    obtain ⟨changed, hchanged, hids⟩ := hheld _ mission hmission
    exact ⟨changed, hchanged, hids ▸ hlisted⟩

omit [JsonDigest] in
/-- A change of one Mission alone, behind its history. -/
theorem Consistent.setMission (h : Consistent document)
    (hheld : document.missions.get? missionId = some mission) (hsame : SameHistory mission changed)
    (hagrees : ∀ replay, Stands document mission replay →
      (changed.run ≠ none → replay.state = .authorized) ∧
      (∀ intent, changed.runIntent = some intent →
        requireIntentBinding document replay intent = .ok ()) ∧
      replayedState changed replay = changed.state) :
    Consistent (document.setMission missionId changed) := by
  obtain ⟨replay, hstands⟩ := h.stands hheld
  refine h.write rfl rfl (fun _ _ hreserved _ => hreserved) ?_ ?_
  · intro other held hnext
    simp only [Document.setMission, Dict.get?_set] at hnext
    split at hnext
    · obtain rfl := Option.some.inj hnext
      exact .inr (hstands.reconciled_changed
        ⟨fun _ _ hreserved _ => hreserved, fun _ _ hissued _ => hissued, rfl⟩
        hsame (hagrees replay hstands))
    · exact .inl hnext
  · intro other held hother
    simp only [Document.setMission, Dict.get?_set]
    split
    · rename_i heq
      subst heq
      obtain rfl := Option.some.inj (hheld.symm.trans hother)
      exact ⟨changed, rfl, hsame.authorizationIds⟩
    · exact ⟨held, hother, rfl⟩

variable {reservation : Reservation}

omit [JsonDigest] in
theorem Consistent.reserved {reservedId : String}
    (h : Consistent document) (hfresh : document.reservations.get? reservedId = none) :
    Consistent { document with
      reservations := document.reservations.set reservedId reservation } :=
  h.write rfl rfl (fun other held hother _ => by
      have hne : other ≠ reservedId := by
        rintro rfl
        rw [hfresh] at hother
        cases hother
      exact (Dict.get?_set_of_ne _ _ hne).trans hother)
    (fun _ _ hheld => .inl hheld) fun _ mission hheld => ⟨mission, hheld, rfl⟩

variable {call : ProposeCall} {clean : Proposal} {createdAt : Nat} {entry : RevisionEntry}

/-- A new Mission has decided nothing, and its id names nothing yet. -/
theorem NewMission.reconciled (h : NewMission missionId call clean createdAt entry mission)
    (hconsistent : Consistent document) (hfresh : document.missions.get? missionId = none)
    (hreserved : Reserved document call.requestId .request call.context
      reservation) : reconcileMissionHistory ((document.setMission missionId mission).consume
      call.requestId reservation missionId) mission = .ok () := by
  have hledger : missionLedger document.authorityLedger missionId = [] := by
    refine List.filter_eq_nil_iff.mpr fun held hheld => ?_
    obtain ⟨owner, howner⟩ := hconsistent.ledgered held hheld
    have hne : held.missionId ≠ missionId := by
      rintro heq
      rw [heq, hfresh] at howner
      cases howner
    simp [hne]
  have hrevision := h.revision_eq
  have hcontext := h.context_eq
  have hrecord := h.record
  subst hrecord
  rw [reconcileMissionHistory_eq_ok]
  refine ⟨entry, initialReplay, rfl, ?_, rfl, ?_⟩
  · rw [reservationAgrees_eq_ok]
    exact ⟨{ reservation with consumedBy := some missionId },
      by simp [Document.consume], hreserved.kind_eq, rfl, hreserved.context_eq.trans hcontext.symm⟩
  · refine replayed_of_unrun rfl rfl rfl rfl rfl rfl ?_ ?_ ?_
    · simp [initialReplay]
    · exact congrArg (List.map LedgerEntry.fact) hledger
    · simp [initialReplay]

theorem Consistent.created (h : Consistent document)
    (hreserved : Reserved document call.requestId .request call.context
      reservation) (hunconsumed : reservation.consumedBy = none)
    (hfresh : document.missions.get? missionId = none)
    (hnew : NewMission missionId call clean createdAt entry mission) :
    Consistent ((document.setMission missionId mission).consume
      call.requestId reservation missionId) := by
  refine h.write rfl rfl (fun _ _ hother hconsumed => consumed_of_set hreserved.held hunconsumed
      hother hconsumed) ?_ ?_
  · intro other held hnext
    simp only [Document.consume, Document.setMission, Dict.get?_set] at hnext
    split at hnext
    · obtain rfl := Option.some.inj hnext
      exact .inr (hnew.reconciled h hfresh hreserved)
    · exact .inl hnext
  · intro other held hother
    have hne : other ≠ missionId := by
      rintro rfl
      rw [hfresh] at hother
      cases hother
    exact ⟨held, (Dict.get?_set_of_ne _ _ hne).trans hother, rfl⟩

/-- A decision, between its document and the one it leaves. -/
theorem Decided.deciding (h : Decided env document next missionId mission decision)
    (hwell : AllWellFormed document) (hconsistent : Consistent document) :
    ∃ noted effected changed replay reservation,
      Deciding env document noted effected next missionId mission changed
        decision replay ∧ document.reservations.get? decision.decisionId = some reservation ∧
      reservation.kind = .decision ∧ reservation.consumedBy = none ∧
      next.missions = document.missions.set missionId
        (decidedMission mission changed decision env.now) ∧
      next.reservations = document.reservations.set decision.decisionId
        { reservation with consumedBy := some decision.decisionId } ∧
      next.missionState = document.missionState := by
  obtain ⟨noted, effected, changed, reservation, hnoted, heffected, hheld,
    hkind, hunconsumed, hcontext, hnext⟩ := h.effect
  obtain ⟨replay, hstands⟩ := hconsistent.stands h.held
  have hshape := hwell missionId mission h.held
  have hnoting := noteExpirations_eq_ok hnoted
  have hreservations : next.reservations = document.reservations.set decision.decisionId
        { reservation with consumedBy := some decision.decisionId } := by
    rw [hnext]
    simp only [Document.consume, Document.setMission,
      heffected.authorityOnly.reservations, hnoting.authorityOnly.reservations]
  refine ⟨noted, effected, changed, replay, reservation, ?_, hheld, hkind,
    hunconsumed, ?_, hreservations, ?_⟩
  · exact {
      stands := hstands
      shape := hshape
      running := h.running
      unrun := h.unrun
      revision_eq := h.revision_eq
      decidedAt_eq := h.decidedAt_eq
      expiries := hconsistent.expiries_replay hwell hstands env.now
      noting := hnoting
      effect := heffected
      authorizations := by rw [hnext]; rfl
      ledger := by rw [hnext]; rfl
      consumed := fun other held hother hconsumed => by
        rw [hreservations]
        exact consumed_of_set hheld hunconsumed hother hconsumed
      reserved := by
        rw [reservationAgrees_eq_ok, hreservations]
        exact ⟨_, Dict.get?_set_self .., hkind, rfl, hcontext⟩ }
  · rw [hnext]
    simp only [Document.consume, Document.setMission, decidedMission,
      heffected.authorityOnly.missions, hnoting.authorityOnly.missions]
  · rw [hnext]
    simp only [Document.consume, Document.setMission,
      heffected.authorityOnly.missionState, hnoting.authorityOnly.missionState]

/-- The Mission keeps the authorizations it lists, and gains the issued one. -/
theorem DecisionEffected.lists (h : DecisionEffected env noted mission decision effected changed)
    (hnodup : mission.authorizationIds.Nodup) :
    mission.authorizationIds ⊆ changed.authorizationIds ∧ ∀ authorizationId held,
        effected.authorizations.get? authorizationId = some held → (∃ authorization,
            noted.authorizations.get? authorizationId = some authorization ∧
              held.missionId = authorization.missionId) ∨ (held.missionId = mission.missionId ∧
            authorizationId ∈ changed.authorizationIds) := by
  cases h with
  | approved entry issued _ _ _ _ _ _ _ _ hagrees _ hledger =>
      refine ⟨fun _ hid => List.mem_append_left _ hid, fun authorizationId held hheld => ?_⟩
      rw [hledger.authorizations, Dict.get?_set] at hheld
      split at hheld
      · rename_i heq
        obtain rfl := Option.some.inj hheld
        exact .inr ⟨((authorizationAgrees_eq_ok ..).mp hagrees).1, by
          simp [heq]⟩
      · exact .inl ⟨held, hheld, rfl⟩
  | denied _ _ _ _ _ hledger =>
      exact ⟨fun _ hid => hid, fun _ held hheld =>
        .inl ⟨held, hledger.authorizations ▸ hheld, rfl⟩⟩
  | settled =>
      exact ⟨fun _ hid => hid, fun _ held hheld => .inl ⟨held, hheld, rfl⟩⟩
  | edited entry _ invalidated _ hrevoked =>
      refine ⟨fun _ hid => hid, fun authorizationId held hheld => ?_⟩
      obtain ⟨revoked, -, hgone⟩ := revokeSuperseded_revoked hnodup hrevoked
      rw [hgone.authorizations] at hheld
      split at hheld
      · obtain ⟨authorization, hbefore, rfl⟩ := Option.map_eq_some_iff.mp hheld
        exact .inl ⟨authorization, hbefore, rfl⟩
      · exact .inl ⟨held, hheld, rfl⟩

/-- What a decision on one Mission leaves of every other one. -/
theorem Deciding.others (h : Deciding env document noted effected next missionId mission changed
      decision replay) {other : String} (hne : other ≠ mission.missionId) :
    Agrees document next other where
  consumed := h.consumed
  authorities := fun authorizationId authorization hheld howner => by
    obtain ⟨held, hnext, -, hsame⟩ := h.authorities hheld
    rw [hnext, hsame]
    intro hid
    rw [h.stands.replayed.authorizations] at hid
    obtain ⟨issued, hissued, hmission, -⟩ := h.stands.issued_held hid
    obtain rfl := Option.some.inj (hheld.symm.trans hissued)
    exact hne (howner.symm.trans hmission)
  ledger := h.grown.other hne

theorem Consistent.decided (hconsistent : Consistent document) (hwell : AllWellFormed document)
    (h : Decided env document next missionId mission decision) :
    Consistent next := by
  obtain ⟨noted, effected, changed, replay, reservation, hdeciding, -, -, -,
    hmissions, -, -⟩ := h.deciding hwell hconsistent
  have hkeyed := hdeciding.shape.keyed
  obtain ⟨hkept, hlists⟩ := hdeciding.effect.lists hdeciding.nodup
  have hstored : next.missions.get? missionId =
      some (decidedMission mission changed decision env.now) := by
    rw [hmissions, Dict.get?_set_self]
  have hheld : ∀ other held, document.missions.get? other = some held →
      ∃ later, next.missions.get? other = some later ∧
        held.authorizationIds ⊆ later.authorizationIds := by
    intro other held hother
    rw [hmissions, Dict.get?_set]
    split
    · rename_i heq
      subst heq
      obtain rfl := Option.some.inj (h.held.symm.trans hother)
      exact ⟨_, rfl, hkept⟩
    · exact ⟨held, hother, fun _ hid => hid⟩
  refine ⟨fun other held hother => ?_, fun entry hentry => ?_,
    fun authorizationId held hissued => ?_⟩
  · rw [hmissions, Dict.get?_set] at hother
    split at hother
    · obtain rfl := Option.some.inj hother
      exact reconciled_iff_stands.mpr hdeciding.stands_next
    · rename_i hne
      have hother_keyed := (hwell other held hother).keyed
      have hdifferent : held.missionId ≠ mission.missionId := by
        rw [hother_keyed, hkeyed]
        exact hne
      have hagrees := hdeciding.others hdifferent
      exact hagrees.reconciled_same (hconsistent.reconciled other held hother)
  · rcases hdeciding.grown.missionId_of_mem hentry with hold | hown
    · obtain ⟨owner, howner⟩ := hconsistent.ledgered entry hold
      obtain ⟨later, hlater, -⟩ := hheld _ owner howner
      exact ⟨later, hlater⟩
    · rw [hown, hkeyed]
      exact ⟨_, hstored⟩
  · rw [hdeciding.authorizations] at hissued
    rcases hlists authorizationId held hissued with
      ⟨before, hbefore, hsame⟩ | ⟨hown, hlisted⟩
    · rw [hdeciding.noting.authorizations] at hbefore
      obtain ⟨owner, howner, hid⟩ :=
        hconsistent.owned authorizationId before hbefore
      obtain ⟨later, hlater, hsub⟩ := hheld _ owner howner
      exact ⟨later, hsame ▸ hlater, hsub hid⟩
    · rw [hown, hkeyed]
      exact ⟨_, hstored, hlisted⟩

variable [ReconciliationPlanner]

/-- Every change keeps every Mission reconciled. -/
theorem Change.consistent (h : Change document next)
    (hwell : AllWellFormed document) (hconsistent : Consistent document) :
    Consistent next := by
  cases h with
  | reserved _ _ _ _ hfresh => exact hconsistent.reserved hfresh
  | created _ _ _ _ _ _ _ hreserved hunconsumed hfresh hnew =>
      exact hconsistent.created hreserved hunconsumed hfresh hnew
  | withdrawn _ mission withdrawal now hheld =>
      exact hconsistent.setMission hheld ⟨rfl, rfl, rfl, rfl, rfl, rfl⟩
        fun _ hstands => ⟨hstands.replayed.run, hstands.replayed.intent, hstands.replayed.state⟩
  | decided _ _ _ _ _ hdecided => exact hconsistent.decided hwell hdecided
  | ran missionId mission changed hheld hchange =>
      exact hconsistent.setMission hheld hchange.sameHistory
        fun _ hstands => hchange.agrees (hwell missionId mission hheld) hstands
  | applied _ _ _ _ _ _ _ _ _ hreserved hunconsumed =>
      exact hconsistent.write rfl rfl
        (fun _ _ hother hconsumed => consumed_of_set hreserved.held hunconsumed
          hother hconsumed)
        (fun _ _ hheld => .inl hheld)
        fun _ mission hheld => ⟨mission, hheld, rfl⟩
  | reclaimed _ mission run reclaimedAt outcome hheld hrun =>
      refine hconsistent.setMission hheld ⟨rfl, rfl, rfl, rfl, rfl, rfl⟩
        fun _ hstands => ⟨fun _ => hstands.replayed.run (by simp [hrun]),
          fun intent hintent => hstands.replayed.intent intent ?_, hstands.replayed.state⟩
      simpa [Mission.runIntent, hrun, reclaimedRun] using hintent

omit [JsonDigest] [ReconciliationPlanner] in
theorem consistent_default : Consistent defaultDocument where
  reconciled := by simp [defaultDocument]
  ledgered := by simp [defaultDocument]
  owned := by simp [defaultDocument]

theorem Reachable.consistent (h : Reachable document) : Consistent document :=
  (h.invariant (p := Consistent) consistent_default
    fun _ _ hwell hconsistent hchange =>
      hchange.consistent hwell hconsistent).2

end DodgingInfinity.MissionCore
