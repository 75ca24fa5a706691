import DodgingInfinity.MissionCore.Ledger

/-!
# What the contracts in force allowed a Mission

Every attempt and the completion of a record were allowed, when they were recorded, by a
contract in force there.
-/

namespace DodgingInfinity.MissionCore

open Checked Relation

variable {call : StateCall} {kind : OperationKind} {state finished effected : StateRecord}
  {body : OutcomeBody} {entry : AppliedOperation} {missionId : String} {document : Document}

theorem ClosureAdmitted.complete {closure : Closure}
    (h : ClosureAdmitted call kind closure.progress closure.reason)
    (hcompleted : closure.progress = .completed) :
    kind = .complete ∧ closure.reason = .proofComplete ∧ ∃ bound, call.bound = some bound ∧
      closureFailures bound.contract call.state bound.activation.activationId call.now
        (registryView call.document) = [] := by
  obtain ⟨progress, reason, _, _, _, _⟩ := closure
  cases h with
  | completed bound hbound hproved => exact ⟨rfl, rfl, bound, hbound, hproved⟩
  | unsuccessful => cases hcompleted
  | abandoned => cases hcompleted

variable [JsonDigest]

/-- Of the record the contract in force reads the latest activation. -/
theorem boundContract_congr {mission : Mission} {now : Nat} {deliveryReceipt : Bool}
    (h : latestActivation finished = latestActivation state) :
    boundContract document mission finished now deliveryReceipt =
      boundContract document mission state now deliveryReceipt := by
  simp only [boundContract, h]

variable [ReconciliationPlanner] {env : Env} {next : Document}
  {invocation : StateInvocation}

/-! ## The budget -/

/-- Some earlier step of the run. -/
def Earlier (document : Document) (step : Document → Document → Prop) : Prop :=
  ∃ before after, Reachable before ∧ Step before after ∧ Runs after document ∧ step before after

theorem Earlier.kept {step : Document → Document → Prop} (h : Earlier document step)
    (hstep : Step document next) : Earlier next step := by
  obtain ⟨before, after, hbefore, hfirst, hrun, hholds⟩ := h
  exact ⟨before, after, hbefore, hfirst, hrun.tail hstep, hholds⟩

/-- The step recorded an attempt under a contract in force there that allowed it. -/
def Attempts (missionId : String) (index : Nat) (before after : Document) : Prop :=
  ∃ now mission held attempted activation contract, before.missions.get? missionId = some mission ∧
    held = stateOrNew (before.missionState.get? missionId) missionId now ∧
    after.missionState.get? missionId = some attempted ∧
    held.continuations.length = index ∧ attempted.continuations.length = index + 1 ∧
    boundContract before mission held now false = .ok (activation, contract) ∧
    index < contract.continuationBudget.maxAttempts

theorem Reachable.attempted (h : Reachable document)
    (hheld : document.missionState.get? missionId = some state) :
    ∀ index < state.continuations.length, Earlier document (Attempts missionId index) := by
  refine h.history (fun document missionId state => ∀ index < state.continuations.length,
    Earlier document (Attempts missionId index)) ?_ ?_ ?_ _ _ hheld
  · exact fun _ _ _ _ hstep hgood index hindex => (hgood index hindex).kept hstep
  · intro document missionId now index hindex
    cases hindex
  · intro document next env invocation state entry call effected body finished hreached hstep
      hstate hgood hmission happlied hstored index hindex
    rcases happlied.attempts with ⟨hsame, -⟩ | ⟨_, bound, hadded, -, -, hforce, hallowed⟩
    · exact (hgood index (hsame ▸ hindex)).kept hstep
    · have hgrown : finished.continuations.length = state.continuations.length + 1 := by
        simp [hadded]
      have hlength := congrArg List.length (hstate ▸ hreached.ledgerKept_stateOrNew _ _ :
        LedgerKept state).attempts
      rw [List.length_map, List.length_range'] at hlength
      rcases Nat.lt_succ_iff_lt_or_eq.mp (hgrown ▸ hindex) with hold | rfl
      · exact (hgood index hold).kept hstep
      · exact ⟨document, next, hreached, hstep, .refl, env.now, call.mission, state, finished,
          bound.activation, bound.contract, hmission, hstate, hstored, rfl, hgrown, hforce,
          hlength ▸ hallowed⟩

/-- In every reachable document the attempts of a record are numbered from 1 by the ledger,
each was allowed by the contract in force when it was recorded, and no later operation
takes one back. -/
theorem budget_kept (document : Document) (h : Reachable document) (missionId : String)
    (state : StateRecord) (hheld : document.missionState.get? missionId = some state) :
    state.continuations.map Continuation.attempt =
      List.range' 1 (countOperations state .recordContinuation) ∧
    (∀ index < state.continuations.length, Earlier document (Attempts missionId index)) ∧
    ∀ later, Runs document later → ∃ after, later.missionState.get? missionId = some after ∧
      state.continuations <+: after.continuations := by
  refine ⟨(h.ledgerKept hheld).attempts, h.attempted hheld, fun later hrun => ?_⟩
  obtain ⟨after, hafter, hextends⟩ := h.extended hrun hheld
  exact ⟨after, hafter, hextends.continuations⟩

omit [JsonDigest] [ReconciliationPlanner] in
theorem budget_kept_sample : letI := sampleRunDigest
    letI := samplePlanner
    ∃ state, sampleRun.missionState.get? sampleMissionId = some state ∧
      state.continuations.map Continuation.attempt = [1] ∧
      Earlier sampleRun (Attempts sampleMissionId 0) := by
  have hheld : (sampleRun.missionState.get? sampleMissionId).any
      (fun state => countOperations state .recordContinuation = 1) = true := by
    decide +kernel
  obtain ⟨state, hstate, hcount⟩ := Option.any_eq_true _ _ |>.mp hheld
  obtain ⟨hattempts, hallowed, -⟩ := @budget_kept sampleRunDigest samplePlanner
    sampleRun sampleRun_reachable sampleMissionId state hstate
  rw [of_decide_eq_true hcount] at hattempts
  have hlength := congrArg List.length hattempts
  rw [List.length_map, List.length_range'] at hlength
  exact ⟨state, hstate, hattempts, hallowed 0 (by omega)⟩

/-! ## Completion -/

/-- The step left the completed record, on a contract in force before it that the record
as it stands proves. -/
def Completes (missionId : String) (state : StateRecord) (before after : Document) : Prop :=
  ∃ mission activation contract closure, before.missions.get? missionId = some mission ∧
    after.missionState.get? missionId = some state ∧
    boundContract before mission state closure.closedAt false = .ok (activation, contract) ∧
    state.closure = some closure ∧ closure.reason = .proofComplete ∧
    closureFailures contract state activation.activationId closure.closedAt
      (registryView before) = []

theorem Applied.completes (hkept : LedgerKept state)
    (hmission : document.missions.get? invocation.missionId = some call.mission)
    (hstored : next.missionState.get? invocation.missionId = some finished)
    (h : Applied env document invocation state entry call effected body finished)
    (hcompleted : finished.progress = .completed) :
    Completes invocation.missionId finished document next := by
  obtain ⟨_, snapshot, _, -, rfl, -⟩ := h.finish
  have hopen : call.state.closure = none := by
    by_contra hclosed
    rw [h.state_eq] at hclosed
    exact h.running (hkept.closed hclosed)
  have hended : effected.progress = .completed := hcompleted
  obtain ⟨closure, rfl, hadmitted, hclosed⟩ :=
    h.effect.progress (by rw [h.state_eq]; exact h.running) hopen (.inr (by rw [hended]; decide))
  obtain ⟨hkind, hreason, bound, hbound, hproved⟩ := hadmitted.complete hcompleted
  refine ⟨call.mission, bound.activation, bound.contract, closure, hmission, hstored, ?_, rfl,
    hreason, ?_⟩
  · rw [hclosed, h.now_eq, ← h.inForce hbound (by simp [hkind])]
    refine boundContract_congr ?_
    rw [h.state_eq]
    rfl
  · rw [hclosed, ← h.document_eq]
    exact hproved

/-- In every reachable document a completed record was completed in one step, on a contract
in force there that the record as it stands proved; and no later operation of any kind
changes the record again. -/
theorem completion_earned (document : Document) (h : Reachable document) (missionId : String)
    (state : StateRecord) (hheld : document.missionState.get? missionId = some state)
    (hcompleted : state.progress = .completed) :
    Earlier document (Completes missionId state) ∧ ∀ later, Runs document later →
      later.missionState.get? missionId = some state := by
  constructor
  · refine h.history (fun document missionId state => state.progress = .completed →
      Earlier document (Completes missionId state)) ?_ ?_ ?_ _ _ hheld hcompleted
    · exact fun _ _ _ _ hstep hearned hcompleted => (hearned hcompleted).kept hstep
    · intro document missionId now hcompleted
      cases hcompleted
    · intro document next env invocation state entry call effected body finished hreached
        hstep hstate _ hmission happlied hstored hcompleted
      exact ⟨document, next, hreached, hstep, .refl, happlied.completes
        (hstate ▸ hreached.ledgerKept_stateOrNew _ _) hmission hstored hcompleted⟩
  · intro later hrun
    obtain ⟨after, hafter, hextends⟩ := h.extended hrun hheld
    rw [hafter, hextends.final (by rw [hcompleted]; decide)]

omit [JsonDigest] [ReconciliationPlanner] in
theorem completion_earned_sample : letI := sampleRunDigest
    letI := samplePlanner
    ∃ state, sampleRun.missionState.get? sampleMissionId = some state ∧
      Earlier sampleRun (Completes sampleMissionId state) := by
  have hheld : (sampleRun.missionState.get? sampleMissionId).any
      (fun state => state.progress = .completed) = true := by
    decide +kernel
  obtain ⟨state, hstate, hcompleted⟩ := Option.any_eq_true _ _ |>.mp hheld
  obtain ⟨hearned, -⟩ := @completion_earned sampleRunDigest samplePlanner
    sampleRun sampleRun_reachable sampleMissionId state hstate (of_decide_eq_true hcompleted)
  exact ⟨state, hstate, hearned⟩

end DodgingInfinity.MissionCore
