import DodgingInfinity.Library.Transition
import DodgingInfinity.MissionCore.StateChange
import DodgingInfinity.MissionCore.System

/-!
# The changes a run of the system is made of

Every operation that is not refused leaves the document as it was or makes one
of a few changes.  A retention sweep is a chain of them, one for each Mission
it reduces.
-/

namespace DodgingInfinity.MissionCore

open Checked Relation

variable [JsonDigest] [ReconciliationPlanner]

/-- The documents the operations reach from the empty one. -/
def Reachable (document : Document) : Prop :=
  Transition.Reachable Step defaultDocument document

/-- A later document of some run. -/
def Runs (document later : Document) : Prop :=
  ReflTransGen Step document later

/-- One change of the document. -/
inductive Change (document : Document) : Document → Prop
  | reserved (env : Env) (reservedId : String) (kind : ReferenceKind)
      (context : Context) (hfresh : document.reservations.get? reservedId = none) :
      Change document { document with
        reservations := document.reservations.set reservedId
          (newReservation env kind context) }
  | created (env : Env) (call : ProposeCall) (clean : Proposal)
      (missionId : String) (mission : Mission) (entry : RevisionEntry)
      (reservation : Reservation)
      (hreserved : Reserved document call.requestId .request call.context
        reservation)
      (hunconsumed : reservation.consumedBy = none)
      (hfresh : document.missions.get? missionId = none)
      (hnew : NewMission missionId call clean env.now entry mission) :
      Change document ((document.setMission missionId mission).consume
        call.requestId reservation missionId)
  | withdrawn (missionId : String) (mission : Mission)
      (withdrawal : Withdrawal) (now : Nat)
      (hheld : document.missions.get? missionId = some mission)
      (hfirst : mission.withdrawal = none)
      (hstate : mission.state = .awaitingDecision)
      (hdecisions : mission.decisions = [])
      (hauthorizations : mission.authorizationIds = []) :
      Change document (document.setMission missionId { mission with
        withdrawal := some withdrawal, updatedAt := now })
  | decided (env : Env) (next : Document) (missionId : String)
      (mission : Mission) (decision : DecisionRecord)
      (h : Decided env document next missionId mission decision) :
      Change document next
  | ran (missionId : String) (mission changed : Mission)
      (hheld : document.missions.get? missionId = some mission)
      (h : RunChange document missionId mission changed) :
      Change document (document.setMission missionId changed)
  | applied (env : Env) (invocation : StateInvocation) (mission : Mission)
      (reservation : Reservation) (entry : AppliedOperation)
      (call : StateCall) (effected finished : StateRecord)
      (body : OutcomeBody)
      (hreserved : Reserved document invocation.operationId .stateOperation
        invocation.context reservation)
      (hunconsumed : reservation.consumedBy = none)
      (hheld : document.missions.get? invocation.missionId = some mission)
      (hmission : call.mission = mission)
      (hguard : mission.state ∈ MissionState.terminal →
        invocation.operation.isDeliveryReceipt = true ∧ mission.state = .completed)
      (happlied : Applied env document invocation
        (stateOrNew (document.missionState.get? invocation.missionId)
          invocation.missionId env.now) entry call effected body finished) :
      Change document ((document.setState invocation.missionId
        finished).consume invocation.operationId reservation
          invocation.operationId)
  | reclaimed (missionId : String) (mission : Mission) (run : Run)
      (reclaimedAt : Nat) (outcome : ReclaimOutcome)
      (hheld : document.missions.get? missionId = some mission)
      (hrun : mission.run = some run)
      (hstate : mission.state ∈ reclaimableStates) :
      Change document (document.setMission missionId { mission with
        run := some (reclaimedRun run reclaimedAt outcome) })

/-- Every stored record is numbered and keyed as the operations rely on. -/
def AllNumbered (document : Document) : Prop :=
  ∀ missionId mission, document.missions.get? missionId = some mission → Numbered missionId mission

variable {env : Env} {document next : Document}

/-! ## Every operation, inverted -/

/-- One Mission reduced by a retention sweep. -/
def Reclaim (document next : Document) : Prop :=
  ∃ missionId mission run reclaimedAt outcome, document.missions.get? missionId = some mission ∧
    mission.run = some run ∧ mission.state ∈ reclaimableStates ∧
    next = document.setMission missionId { mission with
      run := some (reclaimedRun run reclaimedAt outcome) }

theorem Reclaim.change (h : Reclaim document next) : Change document next := by
  obtain ⟨missionId, mission, run, reclaimedAt, outcome, hheld, hrun, hstate, rfl⟩ := h
  exact .reclaimed missionId mission run reclaimedAt outcome hheld hrun hstate

omit [JsonDigest] [ReconciliationPlanner] in
theorem reclaimRunDiagnostics_reclaims (missionIds : List String)
    (reclaimedAt : Nat) (outcome : ReclaimOutcome) : ReflTransGen Reclaim document
      (reclaimRunDiagnostics document missionIds reclaimedAt outcome) := by
  induction missionIds generalizing document with
  | nil => exact ReflTransGen.refl
  | cons missionId rest ih =>
      refine ReflTransGen.trans ?_ ih
      unfold reclaimMission
      split
      · exact ReflTransGen.refl
      · rename_i mission hheld
        split
        · exact ReflTransGen.refl
        · rename_i run hrun
          split
          · exact ReflTransGen.refl
          · rename_i hreclaims
            rw [not_or, not_not] at hreclaims
            exact ReflTransGen.single ⟨missionId, mission, run, reclaimedAt,
              outcome, hheld, hrun, hreclaims.1, rfl⟩

theorem RunWritten.change (h : RunWritten document next) :
    Change document next := by
  obtain ⟨missionId, mission, changed, hheld, hchange, rfl⟩ := h
  exact .ran missionId mission changed hheld hchange

theorem propose_change {call : ProposeCall} {outcome : ProposeOutcome}
    (h : propose env document call = .ok (next, outcome)) :
    next = document ∨ Change document next := by
  obtain ⟨clean, digest, reservation, -, -, hreserved, hcases⟩ :=
    propose_eq_ok h
  rcases hcases with ⟨consumedBy, -, hreplay⟩ | ⟨hunconsumed, hcreate⟩
  · obtain ⟨_, _, -, -, -, -, -, -, rfl⟩ := replayPropose_eq_ok.mp hreplay
    exact .inl rfl
  · obtain ⟨missionId, mission, entry, hfresh, hnew, -, rfl⟩ :=
      createMission_eq_ok hcreate
    exact .inr (.created env call clean missionId mission entry reservation
      hreserved hunconsumed hfresh hnew)

theorem applyHumanDecision_change {envelope : HumanDecisionEnvelope}
    {answer : DecisionOutcome} (hnumbered : AllNumbered document)
    (h : applyHumanDecision env document envelope = .ok (next, answer)) :
    next = document ∨ Change document next := by
  obtain ⟨digest, reservation, mission, -, hreserved, hheld, hcases⟩ :=
    applyHumanDecision_eq_ok h
  rcases hcases with ⟨-, hreplay⟩ | ⟨hunconsumed, hdecide⟩
  · obtain ⟨_, -, -, -, -, -, rfl⟩ := replayHumanDecision_eq_ok.mp hreplay
    exact .inl rfl
  · obtain ⟨decision, _, -, hdecided, -⟩ := decideHuman_eq_ok
      (hnumbered _ mission hheld) hheld hreserved hunconsumed hdecide
    exact .inr (.decided env next _ mission decision hdecided)

theorem applyAttestedOutcome_change {call : AttestedCall}
    {answer : DecisionOutcome} (hnumbered : AllNumbered document)
    (h : applyAttestedOutcome env document call = .ok (next, answer)) :
    next = document ∨ Change document next := by
  obtain ⟨reservation, mission, hreserved, hheld, hcases⟩ :=
    applyAttestedOutcome_eq_ok h
  rcases hcases with ⟨-, hreplay⟩ | ⟨hunconsumed, hdecide⟩
  · obtain ⟨_, -, -, -, -, -, rfl⟩ := replayAttestedOutcome_eq_ok.mp hreplay
    exact .inl rfl
  · obtain ⟨decision, entry, -, -, -, -, hdecided, -⟩ := decideAttested_eq_ok
      (hnumbered _ mission hheld) hheld hreserved hunconsumed hdecide
    exact .inr (.decided env next _ mission decision hdecided)

theorem applyStateOperation_change {invocation : StateInvocation}
    {answer : StateAnswer} (h : applyStateOperation env document invocation = .ok (next, answer)) :
    next = document ∨ Change document next := by
  obtain ⟨reservation, mission, hreserved, hheld, hcases⟩ :=
    applyStateOperation_eq_ok h
  rcases hcases with ⟨-, hreplay⟩ | ⟨hunconsumed, hnew⟩
  · obtain ⟨_, _, -, -, -, -, rfl⟩ := replayOperation_eq_ok.mp hreplay
    exact .inl rfl
  · obtain ⟨entry, call, effected, body, finished, outcome, hmission, hguard,
      happlied, -, -, rfl⟩ := applyNew_eq_ok hnew
    exact .inr (.applied env invocation mission reservation entry call effected
      finished body hreserved hunconsumed hheld hmission hguard happlied)

theorem reconcile_change {observed : Document}
    {missionId operationId : String} {expectedSequence : Nat}
    {call : ReconcileCall} {context : Context} {answer : ReconcileAnswer}
    (h : reconcile env observed document missionId operationId expectedSequence
      call context = .ok (next, answer)) :
    next = document ∨ Change document next := by
  simp only [reconcile, bind_eq_ok, exists_passed] at h
  obtain ⟨-, -, -, -, _, -, _, -, plan, -, h⟩ := h
  split at h
  · exact .inl (Prod.mk.inj ((pure_eq_ok ..).mp h)).1.symm
  · simp only [bind_eq_ok, pure_eq_ok, Prod.exists, Prod.mk.injEq] at h
    obtain ⟨applied, recorded, happlied, rfl, -⟩ := h
    exact applyStateOperation_change happlied

/-- What one call leaves: the document itself, one change of it, or the chain
of a sweep. -/
inductive Left (document : Document) : Document → Prop
  | same : Left document document
  | changed (next : Document) (h : Change document next) : Left document next
  | swept (next : Document) (h : ReflTransGen Reclaim document next) :
      Left document next

theorem Left.changes (h : Left document next) :
    ReflTransGen Change document next := by
  cases h with
  | same => exact ReflTransGen.refl
  | changed _ hchange => exact ReflTransGen.single hchange
  | swept _ hchain =>
      exact ReflTransGen.mono (fun _ _ hreclaim => Reclaim.change hreclaim) _ _ hchain

theorem perform_left {call : ServiceCall} (hnumbered : AllNumbered document)
    (h : perform env document call = .ok next) : Left document next := by
  have hone : next = document ∨ Change document next → Left document next := by
    rintro (rfl | hchange)
    · exact .same
    · exact .changed next hchange
  cases call with
  | mint kind context =>
      obtain ⟨⟨_, reservedId⟩, hcall, rfl⟩ := (map_eq_ok ..).mp h
      obtain ⟨hfresh, rfl⟩ := reserve_eq_ok hcall
      exact hone (.inr (.reserved env reservedId kind context hfresh))
  | propose call =>
      obtain ⟨_, hcall, rfl⟩ := (map_eq_ok ..).mp h
      exact hone (propose_change hcall)
  | withdraw missionId requestId withdrawalKey context =>
      obtain ⟨⟨_, answer⟩, hcall, rfl⟩ := (map_eq_ok ..).mp h
      rcases withdrawProposal_eq_ok hcall with hsame | ⟨mission, withdrawal,
        hheld, hfirst, hstate, hdecisions, hauthorizations, hnext⟩
      · exact hone (.inl hsame)
      · subst hnext
        exact hone (.inr (.withdrawn missionId mission withdrawal env.now hheld
          hfirst hstate hdecisions hauthorizations))
  | decide envelope =>
      obtain ⟨_, hcall, rfl⟩ := (map_eq_ok ..).mp h
      exact hone (applyHumanDecision_change hnumbered hcall)
  | edit missionId expectedRevision proposal decisionId context =>
      obtain ⟨_, hcall, rfl⟩ := (map_eq_ok ..).mp h
      exact hone (applyHumanDecision_change hnumbered hcall)
  | attestedApproval context decisionId missionId revision digest actions
      targets expiresAt =>
      obtain ⟨_, hcall, rfl⟩ := (map_eq_ok ..).mp h
      simp only [applyOperatorAttestedApproval, bind_eq_ok, exists_passed] at hcall
      exact hone (applyHumanDecision_change hnumbered hcall.2)
  | attested call =>
      obtain ⟨_, hcall, rfl⟩ := (map_eq_ok ..).mp h
      exact hone (applyAttestedOutcome_change hnumbered hcall)
  | workspaceBinding missionId path repository url baseline context =>
      obtain ⟨_, hcall, rfl⟩ := (map_eq_ok ..).mp h
      exact hone (.inr (recordWorkspaceBinding_written hcall).change)
  | workspacePrepared missionId digest context =>
      obtain ⟨_, hcall, rfl⟩ := (map_eq_ok ..).mp h
      exact hone (.inr (recordWorkspacePrepared_written hcall).change)
  | workspaceRefusal missionId problem detail context =>
      obtain ⟨_, hcall, rfl⟩ := (map_eq_ok ..).mp h
      exact hone (.inr (recordWorkspaceRefusal_written hcall).change)
  | runIntent missionId call context =>
      obtain ⟨_, hcall, rfl⟩ := (map_eq_ok ..).mp h
      exact hone (.inr (recordRunIntent_written hcall).change)
  | runReceipt missionId taskId source group context =>
      obtain ⟨_, hcall, rfl⟩ := (map_eq_ok ..).mp h
      exact hone (.inr (recordRunReceipt_written hcall).change)
  | observedRunning missionId taskId alreadyStopped context =>
      obtain ⟨_, hcall, rfl⟩ := (map_eq_ok ..).mp h
      exact hone (.inr (recordObservedRunning_written hcall).change)
  | runStop missionId stop taskId context =>
      obtain ⟨_, hcall, rfl⟩ := (map_eq_ok ..).mp h
      exact hone (.inr (recordRunStop_written hcall).change)
  | reconcileUnobserved missionId context =>
      obtain ⟨_, hcall, rfl⟩ := (map_eq_ok ..).mp h
      exact hone (.inr (recordReconcileUnobserved_written hcall).change)
  | lateResolution missionId taskId status context =>
      obtain ⟨_, hcall, rfl⟩ := (map_eq_ok ..).mp h
      exact hone (.inr (recordLateResolution_written hcall).change)
  | verification missionId call context =>
      obtain ⟨_, hcall, rfl⟩ := (map_eq_ok ..).mp h
      exact hone (.inr (recordVerification_written hcall).change)
  | pause missionId authorizationId context =>
      obtain ⟨_, hcall, rfl⟩ := (map_eq_ok ..).mp h
      exact hone (.inr (recordPause_written hcall).change)
  | resume missionId authorizationId context =>
      obtain ⟨_, hcall, rfl⟩ := (map_eq_ok ..).mp h
      exact hone (.inr (recordResume_written hcall).change)
  | cancel missionId achieved authorizationId context =>
      obtain ⟨_, hcall, rfl⟩ := (map_eq_ok ..).mp h
      exact hone (.inr (recordCancel_written hcall).change)
  | completeCancel missionId control quiescence authorizationId context =>
      obtain ⟨_, hcall, rfl⟩ := (map_eq_ok ..).mp h
      exact hone (.inr (completeCancel_written hcall).change)
  | state invocation =>
      obtain ⟨_, hcall, rfl⟩ := (map_eq_ok ..).mp h
      exact hone (applyStateOperation_change hcall)
  | attestReceipt missionId operationId expectedSequence attestation context =>
      obtain ⟨_, hcall, rfl⟩ := (map_eq_ok ..).mp h
      simp only [attestReceipt, bind_eq_ok, exists_passed] at hcall
      exact hone (applyStateOperation_change hcall.2.2)
  | reconcile observed missionId operationId expectedSequence call context =>
      obtain ⟨_, hcall, rfl⟩ := (map_eq_ok ..).mp h
      exact hone (reconcile_change hcall)
  | reclaim missionIds reclaimedAt outcome =>
      obtain rfl := Except.ok.inj h
      exact .swept _ (reclaimRunDiagnostics_reclaims missionIds reclaimedAt outcome)

end DodgingInfinity.MissionCore
