import DodgingInfinity.Library.Counting
import DodgingInfinity.MissionCore.Registry

/-!
# The ledger of a Mission's state over whole runs

An operation writes its one effect under the stamp of its ledger entry, and no later
operation takes either back.
-/

namespace DodgingInfinity.MissionCore

open Checked Relation

/-! ## What a record holds of its operations -/

def AppliedOperation.stamp (entry : AppliedOperation) : Stamp where
  provenance := entry.provenance
  operationId := entry.operationId
  sequence := entry.sequence

/-- The effect an operation leaves: a bind to the reference already bound
leaves none. -/
def OutcomeBody.effects (kind : OperationKind) (stamp : Stamp) :
    OutcomeBody → List (OperationKind × Stamp)
  | dependencyBound _ _ _ false =>
      if kind = .bindDependency then [] else [(kind, stamp)]
  | _ => [(kind, stamp)]

def AppliedOperation.effects (entry : AppliedOperation) :
    List (OperationKind × Stamp) :=
  entry.outcome.toList.flatMap fun outcome =>
    outcome.body.effects entry.kind entry.stamp

def Artifact.effect (artifact : Artifact) : OperationKind × Stamp :=
  (if artifact.receiptAttestation = none then .recordArtifact
    else .attestDeliveryReceipt, artifact.stamp)

def Evidence.effects (evidence : Evidence) : List (OperationKind × Stamp) :=
  (.submitEvidence, evidence.stamp) ::
    (evidence.acceptance.toList.map fun event => (.acceptEvidence, event.stamp)) ++
    evidence.invalidation.toList.map fun event =>
      (.invalidateEvidence, event.stamp)

def Blocker.effects (blocker : Blocker) : List (OperationKind × Stamp) :=
  (.openBlocker, blocker.stamp) ::
    blocker.resolution.toList.map fun event => (.resolveBlocker, event.stamp)

def Dependency.effects (dependency : Dependency) :
    List (OperationKind × Stamp) :=
  (.bindDependency, dependency.stamp) ::
    dependency.resolution.toList.map fun event =>
      (.resolveDependency, event.stamp)

/-- The operation that closes with each progress. -/
def Closure.effect (closure : Closure) : OperationKind × Stamp :=
  (match closure.progress with
    | .completed => .complete
    | .closedUnsuccessful => .closeUnsuccessful
    | _ => .abandon, closure.stamp)

/-- Every effect in the collections of a record, with the kind of operation
that alone writes there. -/
def StateRecord.effects (state : StateRecord) : List (OperationKind × Stamp) :=
  (state.contractActivations.map fun held => (.activateContract, held.stamp)) ++
    (state.claims.map fun held => (.recordClaim, held.stamp)) ++
    state.artifacts.map Artifact.effect ++
    state.evidence.flatMap Evidence.effects ++
    state.blockers.flatMap Blocker.effects ++
    state.dependencies.flatMap Dependency.effects ++
    (state.resourceReadiness.map fun held =>
      (.observeResourceReadiness, held.stamp)) ++
    (state.continuations.map fun held => (.recordContinuation, held.stamp)) ++
    (state.checkpoints.map fun held => (.recordCheckpoint, held.stamp)) ++
    state.closure.toList.map Closure.effect ++
    state.reconciliations.map fun held => (.reconcile, held.stamp)

/-- No two records of a collection that is annotated share an id. -/
structure DistinctIds (state : StateRecord) : Prop where
  evidence : (state.evidence.map Evidence.evidenceId).Nodup
  blockers : (state.blockers.map Blocker.blockerId).Nodup
  dependencies : (state.dependencies.map Dependency.dependencyId).Nodup

/-- The ledger of a record is numbered and answered, and its effects are those
the record holds. -/
structure LedgerKept (state : StateRecord) : Prop where
  numbered : state.appliedOperations.map AppliedOperation.sequence =
    List.range' 1 state.sequence
  answered : ∀ entry ∈ state.appliedOperations, ∃ outcome,
    entry.outcome = some outcome ∧ outcome.operationId = entry.operationId ∧
      outcome.sequence = entry.sequence
  effects : (state.appliedOperations.flatMap AppliedOperation.effects).Perm
    state.effects
  attempts : state.continuations.map Continuation.attempt =
    List.range' 1 (countOperations state .recordContinuation)
  distinct : DistinctIds state
  closed : state.closure ≠ none → state.progress ∈ Progress.terminal

/-- The later record keeps the ledger, and is the same one once closed. -/
structure LedgerExtends (state after : StateRecord) : Prop where
  operations : state.appliedOperations <+: after.appliedOperations
  continuations : state.continuations <+: after.continuations
  final : state.progress ∈ Progress.terminal → after = state

theorem LedgerExtends.refl (state : StateRecord) : LedgerExtends state state :=
  ⟨List.prefix_refl _, List.prefix_refl _, fun _ => rfl⟩

theorem LedgerExtends.trans {first second third : StateRecord}
    (hfirst : LedgerExtends first second) (hsecond : LedgerExtends second third) :
    LedgerExtends first third where
  operations := hfirst.operations.trans hsecond.operations
  continuations := hfirst.continuations.trans hsecond.continuations
  final := fun hclosed => by
    obtain rfl := hfirst.final hclosed
    exact hsecond.final hclosed

/-! ## One effect -/

variable {call : StateCall} {kind : OperationKind} {state finished effected : StateRecord}
  {body : OutcomeBody} {entry : AppliedOperation} {missionId : String}

theorem effects_of_ne (hkind : kind ≠ .bindDependency) (stamp : Stamp) :
    body.effects kind stamp = [(kind, stamp)] := by
  unfold OutcomeBody.effects
  split <;> simp [hkind]

theorem ClosureAdmitted.effect {closure : Closure}
    (h : ClosureAdmitted call kind closure.progress closure.reason) :
    closure.effect = (kind, closure.stamp) ∧ kind ≠ .bindDependency ∧
      closure.progress ∈ Progress.terminal := by
  obtain ⟨progress, reason, _, _, _, _⟩ := closure
  cases h <;> simp [Closure.effect, Progress.terminal]

theorem isDeliveryReceipt_eq_false {operation : StateOperation}
    (h : operation.kind ≠ .attestDeliveryReceipt) : operation.isDeliveryReceipt = false := by
  cases operation with
  | attestDeliveryReceipt => exact absurd rfl h
  | _ => rfl

theorem ite_running {next progress : Progress} {changes : Prop} [Decidable changes]
    (hnext : next ∉ Progress.terminal) (hrunning : progress ∉ Progress.terminal) :
    (if changes then next else progress) ∉ Progress.terminal := by
  split
  · exact hnext
  · exact hrunning

theorem countOperations_append
    (hoperations : finished.appliedOperations = state.appliedOperations ++ [entry]) :
    countOperations finished kind =
      countOperations state kind + if entry.kind = kind then 1 else 0 := by
  unfold countOperations
  rw [hoperations, List.filter_append, List.length_append]
  by_cases hkind : entry.kind = kind <;> simp [hkind]

theorem ledgerKept_new (missionId : String) (now : Nat) :
    LedgerKept (newStateRecord missionId now) where
  numbered := rfl
  answered := by simp [newStateRecord]
  effects := .refl _
  attempts := rfl
  distinct := ⟨List.nodup_nil, List.nodup_nil, List.nodup_nil⟩
  closed := by simp [newStateRecord]

theorem LedgerKept.sequence_eq (h : LedgerKept state) :
    state.sequence = state.appliedOperations.length := by
  have hlength := congrArg List.length h.numbered
  rw [List.length_map, List.length_range'] at hlength
  exact hlength.symm

variable [JsonDigest]

/-- An effect adds its own mark to those of the record, and no other. -/
theorem RecordEffect.count_effects (h : RecordEffect call kind effected body)
    (hdistinct : DistinctIds call.state) (hclosure : call.state.closure = none)
    (mark : OperationKind × Stamp) :
    effected.effects.count mark = call.state.effects.count mark +
      (body.effects kind call.stamp).count mark := by
  cases h with
  | accepted _ evidence acceptance _ hheld hopen _ hstamp =>
      have hcount := count_flatMap_update Evidence.effects
        (fun held => { held with acceptance := some acceptance }) hdistinct.evidence
        (List.mem_of_find?_eq_some hheld) (show _ = _ ++ [(.acceptEvidence, call.stamp)] by
          simp [Evidence.effects, hopen, hstamp]) mark
      rw [effects_of_ne (by decide)]
      simp only [StateRecord.effects, updateEvidence, List.count_append] at hcount ⊢
      omega
  | invalidated evidence invalidation hheld hopen hstamp =>
      have hcount := count_flatMap_update Evidence.effects
        (fun held => { held with invalidation := some invalidation }) hdistinct.evidence
        (List.mem_of_find?_eq_some hheld) (show _ = _ ++ [(.invalidateEvidence, call.stamp)] by
          simp [Evidence.effects, hopen, hstamp]) mark
      rw [effects_of_ne (by decide)]
      simp only [StateRecord.effects, updateEvidence, List.count_append] at hcount ⊢
      omega
  | cleared blocker resolution hheld hopen hstamp =>
      have hcount := count_flatMap_update Blocker.effects
        (fun held => { held with resolution := some resolution }) hdistinct.blockers
        (List.mem_of_find?_eq_some hheld) (show _ = _ ++ [(.resolveBlocker, call.stamp)] by
          simp [Blocker.effects, hopen, hstamp]) mark
      rw [effects_of_ne (by decide)]
      simp only [StateRecord.effects, resolveBlockerIn, List.count_append] at hcount ⊢
      omega
  | resolved dependency resolution hheld hopen hstamp =>
      have hcount := count_flatMap_update Dependency.effects
        (fun held => { held with resolution := some resolution }) hdistinct.dependencies
        (List.mem_of_find?_eq_some hheld) (show _ = _ ++ [(.resolveDependency, call.stamp)] by
          simp [Dependency.effects, hopen, hstamp]) mark
      rw [effects_of_ne (by decide)]
      simp only [StateRecord.effects, resolveDependencyIn, List.count_append] at hcount ⊢
      omega
  | bound _ hstamp hopen _ _ hbody =>
      obtain ⟨reference, rfl⟩ := hbody
      simp [StateRecord.effects, List.count_append, List.count_cons, OutcomeBody.effects,
        Dependency.effects, hstamp, hopen]
      omega
  | rebound _ _ _ hbody =>
      obtain ⟨reference, rfl⟩ := hbody
      simp [OutcomeBody.effects]
  | closed _ closure hadmitted hstamp =>
      obtain ⟨heffect, hkind, -⟩ := hadmitted.effect
      simp [StateRecord.effects, List.count_append, List.count_cons, effects_of_ne hkind,
        heffect, hstamp, hclosure]
      omega
  | reconciled _ hstamp =>
      simp [StateRecord.effects, List.count_append, List.count_cons, effects_of_ne, hstamp,
        Nat.add_assoc]
  | activated _ hbinds =>
      simp [StateRecord.effects, List.count_append, List.count_cons, effects_of_ne, hbinds.stamp_eq]
      omega
  | _ =>
      -- one record appended, under the stamp of the call
      simp [StateRecord.effects, List.count_append, List.count_cons, effects_of_ne,
        Artifact.effect, Evidence.effects, Blocker.effects, *]
      omega

theorem RecordEffect.distinct (h : RecordEffect call kind effected body)
    (hdistinct : DistinctIds call.state) : DistinctIds effected := by
  obtain ⟨hevidence, hblockers, hdependencies⟩ := hdistinct
  cases h with
  | submitted _ _ _ _ _ hfresh =>
      exact ⟨nodup_map_append hevidence hfresh, hblockers, hdependencies⟩
  | accepted | invalidated =>
      refine ⟨nodup_map_update hevidence ?_ _, hblockers, hdependencies⟩
      exact fun _ => rfl
  | opened _ _ _ _ _ hfresh =>
      exact ⟨hevidence, nodup_map_append hblockers hfresh, hdependencies⟩
  | cleared =>
      refine ⟨hevidence, nodup_map_update hblockers ?_ _, hdependencies⟩
      exact fun _ => rfl
  | bound _ _ _ hfresh =>
      exact ⟨hevidence, hblockers, nodup_map_append hdependencies hfresh⟩
  | resolved =>
      refine ⟨hevidence, hblockers, nodup_map_update hdependencies ?_ _⟩
      exact fun _ => rfl
  | _ => exact ⟨hevidence, hblockers, hdependencies⟩

/-- An effect keeps the attempts, or adds the next one the ledger counts while the
contract allows it. -/
theorem RecordEffect.attempts (h : RecordEffect call kind effected body) :
    kind ≠ .recordContinuation ∧ effected.continuations = call.state.continuations ∨
    kind = .recordContinuation ∧ ∃ continuation bound, call.bound = some bound ∧
      effected.continuations = call.state.continuations ++ [continuation] ∧
      continuation.attempt = countOperations call.state .recordContinuation - 1 + 1 ∧
      countOperations call.state .recordContinuation - 1 <
        bound.contract.continuationBudget.maxAttempts := by
  cases h with
  | closed _ closure hadmitted =>
      obtain ⟨progress, reason, _, _, _, _⟩ := closure
      cases hadmitted <;> exact .inl ⟨by simp, rfl⟩
  | continued bound continuation hbound _ _ hattempt hbudget =>
      exact .inr ⟨rfl, continuation, bound, hbound, rfl, hattempt, hbudget⟩
  | _ => exact .inl ⟨by simp, rfl⟩

/-- Only a closure ends the progress of a record. -/
theorem RecordEffect.progress (h : RecordEffect call kind effected body)
    (hrunning : call.state.progress ∉ Progress.terminal) (hopen : call.state.closure = none) :
    effected.closure ≠ none ∨ effected.progress ∈ Progress.terminal →
      ∃ closure, effected = { call.state with
          progress := closure.progress, closure := some closure } ∧
        ClosureAdmitted call kind closure.progress closure.reason ∧
        closure.closedAt = call.now := by
  have hstarted : startedProgress call.state.progress ∉ Progress.terminal :=
    ite_running (by decide) hrunning
  have hblocked : ∀ severity, blockedProgress severity call.state.progress ∉ Progress.terminal :=
    fun _ => ite_running (by decide) hrunning
  have hunblocked : ∀ hard, unblockedProgress hard call.state.progress ∉ Progress.terminal :=
    fun _ => ite_running (by decide) hrunning
  cases h with
  | closed _ closure hadmitted _ hclosed =>
      exact fun _ => ⟨closure, rfl, hadmitted, hclosed⟩
  | _ => simp [updateEvidence, hopen, hrunning, hstarted, hblocked, hunblocked]

/-! ## One applied operation -/

variable [ReconciliationPlanner] {env : Env} {document next later : Document}
  {invocation : StateInvocation}

/-- The ledger entry an operation leaves, with its outcome. -/
theorem Applied.recorded
    (h : Applied env document invocation state entry call effected body finished) :
    ∃ outcome, outcome.body = body ∧ outcome.operationId = entry.operationId ∧
      outcome.sequence = entry.sequence ∧
      finished.appliedOperations =
        state.appliedOperations ++ [{ entry with outcome := some outcome }] ∧
      finished.sequence = state.sequence + 1 := by
  obtain ⟨outcome, snapshot, contract, rfl, hfinished, -⟩ := h.finish
  refine ⟨_, rfl, rfl, rfl, by rw [hfinished]; rfl, ?_⟩
  rw [hfinished]
  exact h.effect.frame.2.1.trans (by rw [h.state_eq]; rfl)

/-- The contract in force for an operation other than the receipt of a delivery. -/
theorem Applied.inForce {bound : BoundContract}
    (h : Applied env document invocation state entry call effected body finished)
    (hbound : call.bound = some bound)
    (hkind : invocation.operation.kind ≠ .attestDeliveryReceipt) :
    boundContract document call.mission state env.now false =
      .ok (bound.activation, bound.contract) := by
  have hforce := h.bound bound hbound
  rwa [isDeliveryReceipt_eq_false hkind] at hforce

/-- While its effect runs, an operation counts itself. -/
theorem Applied.counts (kind : OperationKind)
    (h : Applied env document invocation state entry call effected body finished) :
    countOperations call.state kind = countOperations state kind +
        (if invocation.operation.kind = kind then 1 else 0) ∧
      countOperations finished kind = countOperations call.state kind := by
  obtain ⟨outcome, -, -, -, hoperations, -⟩ := h.recorded
  have hcalled : countOperations call.state kind =
      countOperations state kind + if entry.kind = kind then 1 else 0 := by
    rw [h.state_eq]
    exact countOperations_append rfl
  rw [← h.entry_kind]
  exact ⟨hcalled, (countOperations_append hoperations).trans hcalled.symm⟩

/-- An operation keeps the attempts, or adds the next one. -/
theorem Applied.attempts
    (h : Applied env document invocation state entry call effected body finished) :
    finished.continuations = state.continuations ∧ countOperations finished .recordContinuation =
        countOperations state .recordContinuation ∨
    ∃ (continuation : Continuation) (bound : BoundContract),
      finished.continuations = state.continuations ++ [continuation] ∧
      continuation.attempt = countOperations state .recordContinuation + 1 ∧
      countOperations finished .recordContinuation = countOperations state .recordContinuation + 1 ∧
      boundContract document call.mission state env.now false =
        .ok (bound.activation, bound.contract) ∧
      countOperations state .recordContinuation <
        bound.contract.continuationBudget.maxAttempts := by
  obtain ⟨hcalled, hfinal⟩ := h.counts .recordContinuation
  have hheld : call.state.continuations = state.continuations := by
    rw [h.state_eq]
    rfl
  obtain ⟨_, snapshot, _, -, rfl, -⟩ := h.finish
  rcases h.effect.attempts with ⟨hkind, hsame⟩ |
    ⟨hkind, continuation, bound, hbound, hadded, hattempt, hallowed⟩
  · rw [if_neg hkind] at hcalled
    exact .inl ⟨hsame.trans hheld, hfinal.trans hcalled⟩
  · rw [if_pos hkind] at hcalled
    rw [hcalled, Nat.add_sub_cancel] at hattempt hallowed
    exact .inr ⟨continuation, bound, hheld ▸ hadded, hattempt, hfinal.trans hcalled,
      h.inForce hbound (by simp [hkind]), hallowed⟩

theorem Applied.extends
    (h : Applied env document invocation state entry call effected body finished) :
    LedgerExtends state finished := by
  obtain ⟨outcome, -, -, -, hoperations, -⟩ := h.recorded
  refine ⟨⟨_, hoperations.symm⟩, ?_, fun hclosed => absurd hclosed h.running⟩
  rcases h.attempts with ⟨hsame, -⟩ | ⟨_, _, hadded, -⟩
  · exact ⟨[], by rw [List.append_nil, hsame]⟩
  · exact ⟨_, hadded.symm⟩

theorem LedgerKept.applied (hkept : LedgerKept state)
    (h : Applied env document invocation state entry call effected body finished) :
    LedgerKept finished := by
  obtain ⟨outcome, hbody, hid, hsequence, hoperations, hlength⟩ := h.recorded
  obtain ⟨_, snapshot, _, -, hfinished, -⟩ := h.finish
  have hopen : state.closure = none := by
    by_contra hclosed
    exact h.running (hkept.closed hclosed)
  have hdistinct : DistinctIds call.state := by
    rw [h.state_eq]
    exact ⟨hkept.distinct.evidence, hkept.distinct.blockers, hkept.distinct.dependencies⟩
  have hcalled : call.state.closure = none := by
    rw [h.state_eq]
    exact hopen
  have hentry : ({ entry with outcome := some outcome } : AppliedOperation).effects =
      body.effects invocation.operation.kind call.stamp := by
    rw [AppliedOperation.effects, Option.toList_some, List.flatMap_singleton, hbody,
      h.stamp_eq, ← h.entry_kind]
    rfl
  have heffects : call.state.effects = state.effects := by
    rw [h.state_eq]
    rfl
  refine ⟨?_, ?_, ?_, ?_, ?_, ?_⟩
  · rw [hoperations, hlength, List.map_append, hkept.numbered, List.range'_1_concat,
      List.map_singleton, h.entry_sequence, Nat.add_comm 1]
  · intro applied happlied
    rw [hoperations] at happlied
    rcases List.mem_append.mp happlied with hold | hnew
    · exact hkept.answered applied hold
    · obtain rfl := List.mem_singleton.mp hnew
      exact ⟨outcome, rfl, hid, hsequence⟩
  · rw [List.perm_iff_count]
    intro mark
    have hmark := h.effect.count_effects hdistinct hcalled mark
    rw [hoperations, List.flatMap_append, List.flatMap_singleton, List.count_append, hentry,
      hkept.effects.count_eq]
    rw [heffects] at hmark
    rw [hfinished]
    exact hmark.symm
  · rcases h.attempts with ⟨hsame, hcount⟩ | ⟨continuation, _, hadded, hattempt, hcount, -⟩
    · rw [hsame, hcount, hkept.attempts]
    · rw [hadded, hcount, List.map_append, hkept.attempts, List.range'_1_concat,
        List.map_singleton, hattempt, Nat.add_comm 1]
  · have heffected := h.effect.distinct hdistinct
    rw [hfinished]
    exact ⟨heffected.evidence, heffected.blockers, heffected.dependencies⟩
  · intro hclosed
    rw [hfinished] at hclosed
    obtain ⟨closure, heffected, hadmitted, -⟩ :=
      h.effect.progress (by rw [h.state_eq]; exact h.running) hcalled (.inl hclosed)
    rw [hfinished, heffected]
    exact hadmitted.effect.2.2

/-! ## Whole runs -/

/-- What a step does to the state records: nothing, or one applied operation. -/
inductive StateStep (document next : Document) : Prop
  | kept (h : next.missionState = document.missionState)
  | applied (env : Env) (invocation : StateInvocation) (entry : AppliedOperation)
      (call : StateCall) (effected finished : StateRecord) (body : OutcomeBody)
      (hheld : document.missions.get? invocation.missionId = some call.mission)
      (h : Applied env document invocation
        (stateOrNew (document.missionState.get? invocation.missionId)
          invocation.missionId env.now) entry call effected body finished)
      (hnext : next.missionState =
        document.missionState.set invocation.missionId finished)

theorem Reachable.stateStep (h : Reachable document) (hstep : Step document next) :
    StateStep document next := by
  cases h.left hstep with
  | same => exact .kept rfl
  | changed _ hchange =>
      cases hchange with
      | applied env invocation mission reservation entry call effected finished body _ _
          hheld hmission _ happlied =>
          exact .applied env invocation entry call effected finished body
            (hmission ▸ hheld) happlied rfl
      | decided _ _ _ _ _ hdecided => exact .kept hdecided.missionState_eq
      | _ => exact .kept rfl
  | swept _ hchain =>
      refine .kept ?_
      clear hstep
      induction hchain with
      | refl => rfl
      | tail _ hlast ih =>
          obtain ⟨_, _, _, _, _, -, -, -, rfl⟩ := hlast
          exact ih

/-- What a new record has, every applied operation keeps and no other step loses, a
state record has in every reachable document. -/
theorem Reachable.history (good : Document → String → StateRecord → Prop)
    (hkept : ∀ document next missionId state, Step document next →
      good document missionId state → good next missionId state)
    (hnew : ∀ document missionId now, good document missionId (newStateRecord missionId now))
    (happlied : ∀ document next env invocation state entry call effected body finished,
      Reachable document → Step document next →
      state = stateOrNew (document.missionState.get? invocation.missionId)
        invocation.missionId env.now →
      good document invocation.missionId state →
      document.missions.get? invocation.missionId = some call.mission →
      Applied env document invocation state entry call effected body finished →
      next.missionState.get? invocation.missionId = some finished →
        good next invocation.missionId finished)
    (h : Reachable document) : ∀ missionId state,
      document.missionState.get? missionId = some state → good document missionId state := by
  induction h with
  | refl =>
      intro missionId state hheld
      simp [defaultDocument] at hheld
  | @tail document next hleading hlast ih =>
      intro missionId state hheld
      have hreached : Reachable document := hleading
      cases hreached.stateStep hlast with
      | kept hsame => exact hkept _ _ _ _ hlast (ih _ _ (hsame ▸ hheld))
      | applied env invocation entry call effected finished body hmission hoperation hnext =>
          have hstored : next.missionState.get? invocation.missionId = some finished := by
            rw [hnext, Dict.get?_set_self]
          rw [hnext, Dict.get?_set] at hheld
          split at hheld
          · rename_i heq
            obtain rfl := Option.some.inj hheld
            subst heq
            refine happlied _ _ _ _ _ _ _ _ _ _ hreached hlast rfl ?_ hmission hoperation hstored
            cases hbefore : document.missionState.get? invocation.missionId with
            | none => exact hnew _ _ _
            | some before => exact ih _ _ hbefore
          · exact hkept _ _ _ _ hlast (ih _ _ hheld)

theorem Reachable.ledgerKept (h : Reachable document)
    (hheld : document.missionState.get? missionId = some state) : LedgerKept state :=
  h.history (fun _ _ => LedgerKept) (fun _ _ _ _ _ hkept => hkept) (fun _ => ledgerKept_new)
    (fun _ _ _ _ _ _ _ _ _ _ _ _ _ hkept _ happlied _ => hkept.applied happlied) _ _ hheld

theorem Reachable.ledgerKept_stateOrNew (h : Reachable document) (missionId : String) (now : Nat) :
    LedgerKept (stateOrNew (document.missionState.get? missionId) missionId now) := by
  cases hheld : document.missionState.get? missionId with
  | none => exact ledgerKept_new missionId now
  | some state => exact h.ledgerKept hheld

/-- A record is extended by every later run. -/
theorem Reachable.extended (h : Reachable document) (hrun : Runs document later)
    (hheld : document.missionState.get? missionId = some state) : ∃ after,
      later.missionState.get? missionId = some after ∧ LedgerExtends state after := by
  induction hrun with
  | refl => exact ⟨state, hheld, .refl state⟩
  | tail hleading hlast ih =>
      obtain ⟨middle, hmiddle, hextends⟩ := ih
      have hreached : Reachable _ := h.run hleading
      cases hreached.stateStep hlast with
      | kept hsame => exact ⟨middle, hsame ▸ hmiddle, hextends⟩
      | applied _ invocation _ _ _ finished _ _ hoperation hnext =>
          rw [hnext, Dict.get?_set]
          split
          · rename_i heq
            subst heq
            rw [hmiddle] at hoperation
            exact ⟨finished, rfl, hextends.trans hoperation.extends⟩
          · exact ⟨middle, hmiddle, hextends⟩

/-! ## Compare and set -/

/-- The sequence an operation on a Mission has to expect. -/
def heldSequence (document : Document) (missionId : String) : Nat :=
  (document.missionState.get? missionId).elim 0 StateRecord.sequence

/-- A call answered as new was applied at the sequence it expected. -/
theorem applied_of_new {answer : StateAnswer}
    (h : applyStateOperation env document invocation = .ok (next, answer))
    (hnew : answer.idempotent = false) :
    Step document next ∧ heldSequence document invocation.missionId = invocation.expectedSequence ∧
      ∃ after, next.missionState.get? invocation.missionId = some after ∧
        after.sequence = invocation.expectedSequence + 1 := by
  have hstep : Step document next := ⟨env, .state invocation, (map_eq_ok ..).mpr ⟨_, h, rfl⟩⟩
  obtain ⟨reservation, mission, -, -, ⟨-, hreplay⟩ | ⟨-, happly⟩⟩ :=
    applyStateOperation_eq_ok h
  · obtain ⟨_, _, -, -, -, rfl, -⟩ := replayOperation_eq_ok.mp hreplay
    cases hnew
  · obtain ⟨entry, call, effected, body, finished, outcome, -, -, happlied, -, -, rfl⟩ :=
      applyNew_eq_ok happly
    obtain ⟨_, -, -, -, -, hsequence⟩ := happlied.recorded
    refine ⟨hstep, ?_, finished, Dict.get?_set_self .., by rw [hsequence, happlied.expected]⟩
    rw [happlied.expected, heldSequence]
    cases document.missionState.get? invocation.missionId <;> rfl

/-- In every reachable document the ledger of a record is numbered from 1 to its sequence
and matches the effects of the record one to one; and of all new operations on a Mission,
in any order of calls, each expected a greater sequence than the one before it. -/
theorem operations_serialized (document : Document) (h : Reachable document) :
    (∀ missionId state, document.missionState.get? missionId = some state →
      state.appliedOperations.map AppliedOperation.sequence = List.range' 1 state.sequence ∧
      (∀ entry ∈ state.appliedOperations, ∃ outcome, entry.outcome = some outcome ∧
        outcome.operationId = entry.operationId ∧ outcome.sequence = entry.sequence) ∧
      (state.appliedOperations.flatMap AppliedOperation.effects).Perm state.effects) ∧
    ∀ env invocation next answer, applyStateOperation env document invocation = .ok (next, answer) →
      answer.idempotent = false →
      heldSequence document invocation.missionId = invocation.expectedSequence ∧
      ∀ later env' invocation' last answer', Runs next later →
        applyStateOperation env' later invocation' = .ok (last, answer') →
        answer'.idempotent = false → invocation'.missionId = invocation.missionId →
          invocation.expectedSequence < invocation'.expectedSequence := by
  constructor
  · intro missionId state hheld
    have hkept := h.ledgerKept hheld
    exact ⟨hkept.numbered, hkept.answered, hkept.effects⟩
  · intro env invocation next answer hcall hnew
    obtain ⟨hstep, hexpected, after, hafter, hsequence⟩ := applied_of_new hcall hnew
    refine ⟨hexpected, fun later env' invocation' last answer' hrun hsecond hother hsame => ?_⟩
    have hnext : Reachable next := h.tail hstep
    have hlater : Reachable later := hnext.run hrun
    obtain ⟨-, hread, -⟩ := applied_of_new hsecond hother
    obtain ⟨held, hheld, hextends⟩ := hnext.extended hrun hafter
    rw [hsame, heldSequence, hheld, Option.elim_some,
      (hlater.ledgerKept hheld).sequence_eq] at hread
    have hlength := hextends.operations.length_le
    rw [← (hnext.ledgerKept hafter).sequence_eq] at hlength
    omega

omit [JsonDigest] [ReconciliationPlanner] in
theorem operations_serialized_sample : ∃ state,
    sampleRun.missionState.get? sampleMissionId = some state ∧
      state.appliedOperations.map AppliedOperation.sequence = List.range' 1 10 ∧
      (state.appliedOperations.flatMap AppliedOperation.effects).Perm state.effects := by
  have hheld : (sampleRun.missionState.get? sampleMissionId).any
      (fun state => state.sequence = 10) = true := by
    decide +kernel
  obtain ⟨state, hstate, hsequence⟩ := Option.any_eq_true _ _ |>.mp hheld
  obtain ⟨hledger, -⟩ := @operations_serialized sampleRunDigest samplePlanner
    sampleRun sampleRun_reachable
  obtain ⟨hnumbered, -, heffects⟩ := hledger sampleMissionId state hstate
  exact ⟨state, hstate, of_decide_eq_true hsequence ▸ hnumbered, heffects⟩

end DodgingInfinity.MissionCore
