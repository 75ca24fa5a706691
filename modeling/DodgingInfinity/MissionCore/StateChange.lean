import DodgingInfinity.MissionCore.DecisionChange
import DodgingInfinity.MissionCore.Service.Pipeline

/-!
# What a state operation does to its record

Every effect appends one record or annotates one, under the stamp of its
operation, and may move the progress.  The one operation without an effect is
a bind to the reference already bound.
-/

namespace DodgingInfinity.MissionCore

open Checked

/-! ## The moves of the progress -/

/-- The progress after an activation. -/
def startedProgress (progress : Progress) : Progress :=
  if progress = .notStarted then .inProgress else progress

/-- The progress after a blocker is opened. -/
def blockedProgress (severity : BlockerSeverity) (progress : Progress) : Progress :=
  if severity = .hard ∧ progress = .inProgress then .blocked else progress

/-- The progress after a blocker is resolved, with the HARD ones left. -/
def unblockedProgress (hard : List Blocker) (progress : Progress) : Progress :=
  if progress = .blocked ∧ hard = [] then .inProgress else progress

variable {state next : StateRecord}

theorem progressTransition_eq_ok {target : Progress}
    (h : progressTransition state target = .ok next) :
    next = { state with progress := target } := by
  unfold progressTransition at h
  split at h
  · simp only [bind_eq_ok, exists_passed, pure_eq_ok] at h
    exact h.2.symm
  · exact (Except.ok.inj h).symm

theorem startProgress_eq_ok (h : startProgress state = .ok next) :
    next = { state with progress := startedProgress state.progress } := by
  unfold startProgress at h
  split at h
  · rename_i hnew
    rw [progressTransition_eq_ok h, startedProgress, if_pos hnew]
  · rename_i hstarted
    rw [startedProgress, if_neg hstarted, Except.ok.inj h]

theorem blockProgress_eq_ok
    {severity : BlockerSeverity} (h : blockProgress state severity = .ok next) :
    next = { state with
      progress := blockedProgress severity state.progress } := by
  unfold blockProgress at h
  split at h
  · rename_i hblocks
    rw [progressTransition_eq_ok h, blockedProgress, if_pos hblocks]
  · rename_i hpasses
    rw [blockedProgress, if_neg hpasses, Except.ok.inj h]

theorem unblockProgress_eq_ok (h : unblockProgress state = .ok next) :
    next = { state with
      progress :=
        unblockedProgress (activeHardBlockers state) state.progress } := by
  unfold unblockProgress at h
  split at h
  · rename_i hfree
    rw [progressTransition_eq_ok h, unblockedProgress, if_pos hfree]
  · rename_i hheld
    rw [unblockedProgress, if_neg hheld, Except.ok.inj h]

/-! ## The effects -/

/-- Change the blocker of an id. -/
def resolveBlockerIn (blockers : List Blocker) (blockerId : String)
    (resolution : Resolution) : List Blocker :=
  blockers.map fun held =>
    if held.blockerId = blockerId then
      { held with resolution := some resolution }
    else held

/-- Change the dependency of an id. -/
def resolveDependencyIn (dependencies : List Dependency) (dependencyId : String)
    (resolution : Resolution) : List Dependency :=
  dependencies.map fun held =>
    if held.dependencyId = dependencyId then
      { held with resolution := some resolution }
    else held

variable [JsonDigest]

/-- What an activation binds: the current revision, its contract and the
authorization live right now. -/
structure ActivationBinds (call : StateCall) (activation : Activation) :
    Prop where
  stamp_eq : activation.stamp = call.stamp
  fresh : activation.activationId ∉
    call.state.contractActivations.map Activation.activationId
  contract : ∃ entry contract, call.mission.revisions.getLast? = some entry ∧
    entry.proposal.proofContract = some contract ∧
    proofContractDigest contract = .ok activation.contractDigestSha256 ∧
    activation.revision = entry.revision ∧
    activation.proposalDigestSha256 = entry.proposalDigestSha256
  authorized : ∃ authorization, liveAuthorization call.document call.mission call.now =
      some authorization ∧ activation.authorizationId = authorization.authorizationId ∧
    activation.authorizationDigestSha256 = authorization.authorizationDigestSha256

/-- Why a closure of each progress is admitted. -/
inductive ClosureAdmitted (call : StateCall) : OperationKind → Progress → ClosureReason → Prop
  | completed (bound : BoundContract) (hbound : call.bound = some bound)
      (hproved : closureFailures bound.contract call.state
        bound.activation.activationId call.now (registryView call.document) = []) :
      ClosureAdmitted call .complete .completed .proofComplete
  | unsuccessful (reason : ClosureReason)
      (hreason : reason ∈ ClosureReason.admittedBy .closedUnsuccessful)
      (hprovable : requireProvableClosure reason call = .ok ()) :
      ClosureAdmitted call .closeUnsuccessful .closedUnsuccessful reason
  | abandoned : ClosureAdmitted call .abandon .abandoned .callerAbandoned

/-- The authority an attestation names and is admitted under. -/
structure Attests (call : StateCall) (marker : ReceiptAttestation)
    (authorization : Authorization) : Prop where
  found : findAuthorizationByDigest call.document
    marker.authorizationDigestSha256 = some authorization
  owned : authorization.missionId = call.mission.missionId
  names : marker.authorizationId = authorization.authorizationId
  valid : (validateDeliveryParentUse call.document authorization.authorizationId
    call.mission.missionId authorization.revision call.now
      DeliveryTarget.githubPr.text).valid = true

/-- What the effect of an operation of each kind leaves of the record. -/
inductive RecordEffect (call : StateCall) : OperationKind → StateRecord → OutcomeBody → Prop
  | activated (activation : Activation)
      (hbinds : ActivationBinds call activation) (body : OutcomeBody) :
      RecordEffect call .activateContract { call.state with
        contractActivations := call.state.contractActivations ++ [activation]
        progress := startedProgress call.state.progress } body
  | claimed (bound : BoundContract) (claim : Claim)
      (hbound : call.bound = some bound) (hstamp : claim.stamp = call.stamp)
      (body : OutcomeBody) :
      RecordEffect call .recordClaim
        { call.state with claims := call.state.claims ++ [claim] } body
  | recorded (bound : BoundContract) (artifact : Artifact)
      (hbound : call.bound = some bound) (hstamp : artifact.stamp = call.stamp)
      (hplain : artifact.receiptAttestation = none)
      (hfresh : artifact.artifactId ∉
        call.state.artifacts.map Artifact.artifactId) (body : OutcomeBody) :
      RecordEffect call .recordArtifact
        { call.state with artifacts := call.state.artifacts ++ [artifact] } body
  | attested (artifact : Artifact) (marker : ReceiptAttestation)
      (authorization : Authorization) (hstamp : artifact.stamp = call.stamp)
      (hmarked : artifact.receiptAttestation = some marker)
      (hrecorded : artifact.recordedAt = call.now)
      (hattests : Attests call marker authorization)
      (hfresh : artifact.artifactId ∉
        call.state.artifacts.map Artifact.artifactId) (body : OutcomeBody) :
      RecordEffect call .attestDeliveryReceipt
        { call.state with artifacts := call.state.artifacts ++ [artifact] } body
  | submitted (bound : BoundContract) (evidence : Evidence)
      (hbound : call.bound = some bound) (hstamp : evidence.stamp = call.stamp)
      (hopen : evidence.acceptance = none ∧ evidence.invalidation = none)
      (hfresh : evidence.evidenceId ∉
        call.state.evidence.map Evidence.evidenceId) (body : OutcomeBody) :
      RecordEffect call .submitEvidence
        { call.state with evidence := call.state.evidence ++ [evidence] } body
  | accepted (bound : BoundContract) (evidence : Evidence)
      (acceptance : Acceptance) (hbound : call.bound = some bound)
      (hheld : evidenceById call.state evidence.evidenceId = some evidence)
      (hopen : evidence.acceptance = none ∧ evidence.invalidation = none)
      (hkind : evidence.kind.satisfying = true)
      (hstamp : acceptance.stamp = call.stamp) (body : OutcomeBody) :
      RecordEffect call .acceptEvidence
        (updateEvidence call.state evidence.evidenceId fun held =>
          { held with acceptance := some acceptance }) body
  | invalidated (evidence : Evidence) (invalidation : Invalidation)
      (hheld : evidenceById call.state evidence.evidenceId = some evidence)
      (hopen : evidence.invalidation = none)
      (hstamp : invalidation.stamp = call.stamp) (body : OutcomeBody) :
      RecordEffect call .invalidateEvidence
        (updateEvidence call.state evidence.evidenceId fun held =>
          { held with invalidation := some invalidation }) body
  | opened (bound : BoundContract) (blocker : Blocker)
      (hbound : call.bound = some bound) (hstamp : blocker.stamp = call.stamp)
      (hopen : blocker.resolution = none)
      (hfresh : blocker.blockerId ∉ call.state.blockers.map Blocker.blockerId)
      (body : OutcomeBody) :
      RecordEffect call .openBlocker { call.state with
        blockers := call.state.blockers ++ [blocker]
        progress := blockedProgress blocker.severity call.state.progress } body
  | cleared (blocker : Blocker) (resolution : Resolution)
      (hheld : call.state.blockers.find? (fun held =>
        held.blockerId = blocker.blockerId) = some blocker)
      (hopen : blocker.resolution = none)
      (hstamp : resolution.stamp = call.stamp) (body : OutcomeBody) :
      RecordEffect call .resolveBlocker { call.state with
        blockers := resolveBlockerIn call.state.blockers blocker.blockerId
          resolution
        progress := unblockedProgress (activeHardBlockers { call.state with
          blockers := resolveBlockerIn call.state.blockers blocker.blockerId
            resolution }) call.state.progress } body
  | bound (dependency : Dependency) (hstamp : dependency.stamp = call.stamp)
      (hopen : dependency.resolution = none)
      (hfresh : dependency.dependencyId ∉
        call.state.dependencies.map Dependency.dependencyId)
      (body : OutcomeBody)
      (hbody : ∃ reference, body = .dependencyBound dependency.dependencyId
        dependency.key reference true)
      (hacyclic : dependency.kind = .mission →
        dependencyGraphProblem (call.document.missionState.set
          call.state.missionId { call.state with
            dependencies := call.state.dependencies ++ [dependency] }) = none) :
      RecordEffect call .bindDependency { call.state with
        dependencies := call.state.dependencies ++ [dependency] } body
  | rebound (existing : Dependency) (body : OutcomeBody)
      (hheld : existing ∈ call.state.dependencies)
      (hbody : ∃ key, body = .dependencyBound existing.dependencyId key
        existing.reference false) :
      RecordEffect call .bindDependency call.state body
  | resolved (dependency : Dependency) (resolution : Resolution)
      (hheld : call.state.dependencies.find? (fun held =>
        held.dependencyId = dependency.dependencyId) = some dependency)
      (hopen : dependency.resolution = none)
      (hstamp : resolution.stamp = call.stamp) (body : OutcomeBody) :
      RecordEffect call .resolveDependency { call.state with
        dependencies := resolveDependencyIn call.state.dependencies
          dependency.dependencyId resolution } body
  | observed (observation : ReadinessObservation)
      (hstamp : observation.stamp = call.stamp) (body : OutcomeBody) :
      RecordEffect call .observeResourceReadiness { call.state with
        resourceReadiness :=
          call.state.resourceReadiness ++ [observation] } body
  | continued (bound : BoundContract) (continuation : Continuation)
      (hbound : call.bound = some bound)
      (hstamp : continuation.stamp = call.stamp)
      (hprogress : call.state.progress = .inProgress)
      (hattempt : continuation.attempt = countOperations call.state .recordContinuation - 1 + 1)
      (hbudget : countOperations call.state .recordContinuation - 1 <
        bound.contract.continuationBudget.maxAttempts) (body : OutcomeBody) :
      RecordEffect call .recordContinuation { call.state with
        continuations := call.state.continuations ++ [continuation] } body
  | checkpointed (bound : BoundContract) (checkpoint : Checkpoint)
      (hbound : call.bound = some bound)
      (hstamp : checkpoint.stamp = call.stamp)
      (hactivation : checkpoint.activationId = bound.activation.activationId)
      (hrecorded : checkpoint.recordedAt = call.now)
      (hbudget : call.state.checkpoints.length <
        bound.contract.continuationBudget.maxCheckpoints)
      (hderived : checkpoint.derived = deriveCheckpointFields bound.contract
        call.state bound.activation.activationId call.now)
      (body : OutcomeBody) :
      RecordEffect call .recordCheckpoint { call.state with
        checkpoints := call.state.checkpoints ++ [checkpoint] } body
  | closed (kind : OperationKind) (closure : Closure)
      (hadmitted : ClosureAdmitted call kind closure.progress closure.reason)
      (hstamp : closure.stamp = call.stamp)
      (hclosed : closure.closedAt = call.now)
      (hactivation : closure.activationId =
        (latestActivation call.state).map Activation.activationId)
      (body : OutcomeBody) :
      RecordEffect call kind { call.state with
        progress := closure.progress, closure := some closure } body
  | reconciled (record : ReconciliationRecord)
      (hstamp : record.stamp = call.stamp) (body : OutcomeBody) :
      RecordEffect call .reconcile { call.state with
        reconciliations := call.state.reconciliations ++ [record] } body

/-! ## Each effect, inverted -/

variable {env : Env} {call : StateCall} {effected : StateRecord}
  {body : OutcomeBody}

omit [JsonDigest] in
theorem requireBound_eq_ok {bound : BoundContract} :
    call.requireBound = .ok bound ↔ call.bound = some bound := by
  simp only [StateCall.requireBound, orFail_eq_ok]

variable {evidenceId : String}

omit [JsonDigest] in
theorem evidence_eq_ok {evidence : Evidence} (h : call.evidence evidenceId = .ok evidence) :
    evidenceById call.state evidence.evidenceId = some evidence ∧
      evidence.evidenceId = evidenceId := by
  simp only [StateCall.evidence, bind_eq_ok, exists_passed, orFail_eq_ok] at h
  have hid := List.find?_some h.2
  simp only [decide_eq_true_eq] at hid
  exact ⟨by rw [hid]; exact h.2, hid⟩

theorem activateProofContract_effect (h : activateProofContract env call = .ok (effected, body)) :
    RecordEffect call .activateContract effected body := by
  simp only [activateProofContract, Mission.currentRevisionEntry, bind_eq_ok,
    exists_passed, orFail_eq_ok, failIf_eq_ok, pure_eq_ok, Prod.mk.injEq] at h
  obtain ⟨entry, hentry, contract, hcontract, authorization, hauthorization, -,
    activationId, hfresh, digest, hdigest, started, hstarted, rfl, -⟩ := h
  rw [startProgress_eq_ok hstarted]
  exact .activated _ {
    stamp_eq := rfl
    fresh := (freshId_eq_ok hfresh).2
    contract := ⟨entry, contract, hentry, hcontract, hdigest, rfl, rfl⟩
    authorized := ⟨authorization, hauthorization, rfl, rfl⟩ } _

variable {requirementKey : String}

variable {statement : String}

omit [JsonDigest] in
theorem recordClaim_eq_ok (h : recordClaim env requirementKey statement call =
      .ok (effected, body)) : ∃ bound claim, call.bound = some bound ∧ claim.stamp = call.stamp ∧
      effected =
        { call.state with claims := call.state.claims ++ [claim] } := by
  simp only [recordClaim, bind_eq_ok, requireBound_eq_ok, pure_eq_ok, Prod.mk.injEq] at h
  obtain ⟨bound, hbound, _, -, claimId, -, rfl, -⟩ := h
  exact ⟨bound, _, hbound, rfl, rfl⟩

theorem recordClaim_effect (h : recordClaim env requirementKey statement call =
      .ok (effected, body)) :
    RecordEffect call .recordClaim effected body := by
  obtain ⟨bound, claim, hbound, hstamp, rfl⟩ := recordClaim_eq_ok h
  exact .claimed bound claim hbound hstamp body

theorem recordArtifact_effect {artifact : ArtifactCall}
    (h : recordArtifact env artifact call = .ok (effected, body)) :
    RecordEffect call .recordArtifact effected body := by
  simp only [recordArtifact, bind_eq_ok, exists_passed, requireBound_eq_ok,
    pure_eq_ok, Prod.mk.injEq] at h
  obtain ⟨bound, hbound, -, links, -, artifactId, hfresh, rfl, -⟩ := h
  exact .recorded bound _ hbound rfl rfl (freshId_eq_ok hfresh).2 body

theorem attestDeliveryReceipt_effect {attestation : AttestationInput}
    (h : attestDeliveryReceipt env attestation call = .ok (effected, body)) :
    RecordEffect call .attestDeliveryReceipt effected body := by
  simp only [attestDeliveryReceipt, bind_eq_ok, exists_passed, orFail_eq_ok,
    failIf_eq_ok, pure_eq_ok, Prod.mk.injEq] at h
  obtain ⟨authorization, hfound, howned, hvalid, -, artifactId, hfresh, rfl, -⟩ := h
  exact .attested _ _ authorization rfl rfl rfl {
    found := hfound
    owned := not_not.mp howned
    names := rfl
    valid := by simpa using hvalid } (freshId_eq_ok hfresh).2 body

variable {contentDigestSha256 : String}

theorem submitEvidence_effect
    {kind : EvidenceKind} {artifactIds : List String}
    (h : submitEvidence env requirementKey kind contentDigestSha256 artifactIds
      call = .ok (effected, body)) :
    RecordEffect call .submitEvidence effected body := by
  simp only [submitEvidence, bind_eq_ok, requireBound_eq_ok, pure_eq_ok, Prod.mk.injEq] at h
  obtain ⟨bound, hbound, _, -, links, -, evidenceId, hfresh, rfl, -⟩ := h
  exact .submitted bound _ hbound rfl ⟨rfl, rfl⟩ (freshId_eq_ok hfresh).2 body

theorem acceptEvidence_effect (h : acceptEvidence evidenceId contentDigestSha256 call =
      .ok (effected, body)) :
    RecordEffect call .acceptEvidence effected body := by
  simp only [acceptEvidence, bind_eq_ok, exists_passed, requireBound_eq_ok,
    failIf_eq_ok, pure_eq_ok, Prod.mk.injEq, not_not, ne_eq, Bool.not_eq_false] at h
  obtain ⟨bound, hbound, evidence, hevidence, -, hvalid, hopen, hkind, _, -, -, -, -, rfl, -⟩ := h
  obtain ⟨hheld, rfl⟩ := evidence_eq_ok hevidence
  exact .accepted bound evidence _ hbound hheld ⟨hopen, hvalid⟩ hkind rfl body

variable {reason : String}

theorem invalidateEvidence_effect
    (h : invalidateEvidence evidenceId reason call = .ok (effected, body)) :
    RecordEffect call .invalidateEvidence effected body := by
  simp only [invalidateEvidence, bind_eq_ok, exists_passed, failIf_eq_ok,
    pure_eq_ok, Prod.mk.injEq, not_not, ne_eq] at h
  obtain ⟨evidence, hevidence, hopen, rfl, -⟩ := h
  obtain ⟨hheld, rfl⟩ := evidence_eq_ok hevidence
  exact .invalidated evidence _ hheld hopen rfl body

theorem openBlocker_effect {key description : String}
    (h : openBlocker env key description call = .ok (effected, body)) :
    RecordEffect call .openBlocker effected body := by
  simp only [openBlocker, bind_eq_ok, exists_passed, requireBound_eq_ok,
    pure_eq_ok, Prod.mk.injEq] at h
  obtain ⟨bound, hbound, -, blockerId, hfresh, held, hheld, rfl, -⟩ := h
  rw [blockProgress_eq_ok hheld]
  exact .opened bound {
    blockerId := blockerId
    activationId := bound.activation.activationId
    key := key
    severity := blockerSeverity bound.contract key
    description := description
    openedAt := call.now
    resolution := none
    stamp := call.stamp } hbound rfl rfl (freshId_eq_ok hfresh).2 body

theorem resolveBlocker_effect {blockerId : String}
    (h : resolveBlocker blockerId evidenceId call = .ok (effected, body)) :
    RecordEffect call .resolveBlocker effected body := by
  simp only [resolveBlocker, bind_eq_ok, exists_passed, orFail_eq_ok,
    failIf_eq_ok, pure_eq_ok, Prod.mk.injEq, not_not, ne_eq] at h
  obtain ⟨-, blocker, hblocker, hopen, _, -, unblocked, hunblocked, rfl, -⟩ := h
  have hid := List.find?_some hblocker
  simp only [decide_eq_true_eq] at hid
  subst hid
  rw [unblockProgress_eq_ok hunblocked]
  exact .cleared blocker (newResolution call evidenceId) hblocker hopen rfl body

variable {kind : DependencyKind}

omit [JsonDigest] in
theorem requireAcyclic_eq_ok :
    requireAcyclic call kind state = .ok () ↔ (kind = .mission → dependencyGraphProblem
        (call.document.missionState.set state.missionId state) = none) := by
  unfold requireAcyclic
  split
  · rename_i hmission
    split
    · rename_i hnone
      simp only [true_iff]
      exact fun _ => hnone
    · rename_i problem hproblem
      simp [refuse, hmission, hproblem]
  · rename_i hother
    simp only [true_iff]
    exact fun hmission => absurd hmission hother

variable {reference : String}

variable {dependencyId : String}

omit [JsonDigest] in
theorem appendDependency_eq_ok {key : Option String}
    (h : appendDependency env call key kind reference =
      .ok (effected, dependencyId)) : ∃ dependency, dependency.stamp = call.stamp ∧
      dependency.resolution = none ∧ dependency.dependencyId = dependencyId ∧ dependency.key = key ∧
      dependency.dependencyId ∉ call.state.dependencies.map Dependency.dependencyId ∧
      (dependency.kind = .mission → dependencyGraphProblem
        (call.document.missionState.set effected.missionId effected) = none) ∧
      effected = { call.state with
        dependencies := call.state.dependencies ++ [dependency] } := by
  simp only [appendDependency, bind_eq_ok, exists_passed, requireAcyclic_eq_ok,
    pure_eq_ok, Prod.mk.injEq] at h
  obtain ⟨bound, -, minted, hfresh, hacyclic, rfl, rfl⟩ := h
  exact ⟨_, rfl, rfl, rfl, rfl, (freshId_eq_ok hfresh).2, hacyclic, rfl⟩

theorem bindDependency_effect {slotKey : String}
    (h : bindDependency env slotKey reference call = .ok (effected, body)) :
    RecordEffect call .bindDependency effected body := by
  simp only [bindDependency, bind_eq_ok, exists_passed, requireBound_eq_ok, orFail_eq_ok] at h
  obtain ⟨bound, hbound, slot, hslot, -, h⟩ := h
  split at h
  · rename_i existing hexisting
    simp only [rebindDependency, bind_eq_ok, exists_passed, failIf_eq_ok,
      pure_eq_ok, Prod.mk.injEq, not_not, ne_eq] at h
    obtain ⟨hsame, rfl, rfl⟩ := h
    exact .rebound existing _ (List.mem_of_find?_eq_some hexisting)
      ⟨some slotKey, by rw [hsame]⟩
  · simp only [bindSlot, bind_eq_ok, exists_passed, pure_eq_ok, Prod.exists, Prod.mk.injEq] at h
    obtain ⟨-, state, dependencyId, happended, rfl, rfl⟩ := h
    obtain ⟨dependency, hstamp, hopen, rfl, hkey, hfresh, hacyclic, rfl⟩ :=
      appendDependency_eq_ok happended
    have hslotKey := List.find?_some hslot
    simp only [decide_eq_true_eq] at hslotKey
    exact .bound dependency hstamp hopen hfresh _
      ⟨reference, by rw [hkey, hslotKey]⟩ hacyclic

theorem declareDependency_effect
    (h : declareDependency env kind reference call = .ok (effected, body)) :
    RecordEffect call .bindDependency effected body := by
  simp only [declareDependency, bind_eq_ok, exists_passed, pure_eq_ok,
    Prod.exists, Prod.mk.injEq] at h
  obtain ⟨-, state, dependencyId, happended, rfl, rfl⟩ := h
  obtain ⟨dependency, hstamp, hopen, rfl, hkey, hfresh, hacyclic, rfl⟩ :=
    appendDependency_eq_ok happended
  exact .bound dependency hstamp hopen hfresh _ ⟨reference, by rw [hkey]⟩ hacyclic

theorem resolveDependency_effect (h : resolveDependency dependencyId evidenceId call =
      .ok (effected, body)) :
    RecordEffect call .resolveDependency effected body := by
  simp only [resolveDependency, bind_eq_ok, exists_passed, orFail_eq_ok,
    failIf_eq_ok, pure_eq_ok, Prod.mk.injEq, not_not, ne_eq] at h
  obtain ⟨_, -, -, dependency, hdependency, hopen, _, -, -, rfl, -⟩ := h
  have hid := List.find?_some hdependency
  simp only [decide_eq_true_eq] at hid
  subst hid
  exact .resolved dependency (newResolution call evidenceId) hdependency hopen rfl body

theorem observeResourceReadiness_effect {resourceKey : String}
    {status : ReadinessStatus} {observedAt : Nat}
    (h : observeResourceReadiness resourceKey status observedAt call =
      .ok (effected, body)) :
    RecordEffect call .observeResourceReadiness effected body := by
  simp only [observeResourceReadiness, bind_eq_ok, exists_passed, pure_eq_ok, Prod.mk.injEq] at h
  obtain ⟨-, -, rfl, -⟩ := h
  exact .observed _ rfl body

theorem recordContinuation_effect (h : recordContinuation reason call = .ok (effected, body)) :
    RecordEffect call .recordContinuation effected body := by
  simp only [recordContinuation, bind_eq_ok, exists_passed, requireBound_eq_ok,
    failIf_eq_ok, pure_eq_ok, Prod.mk.injEq, not_not, ne_eq, ge_iff_le, not_le] at h
  obtain ⟨bound, hbound, hprogress, continued, hcontinued, hbudget, rfl, -⟩ := h
  rw [progressTransition_eq_ok hcontinued, ← hprogress]
  exact .continued bound _ hbound rfl hprogress rfl hbudget body

theorem recordCheckpoint_effect {checkpoint : CheckpointCall}
    (h : recordCheckpoint env checkpoint call = .ok (effected, body)) :
    RecordEffect call .recordCheckpoint effected body := by
  simp only [recordCheckpoint, bind_eq_ok, exists_passed, requireBound_eq_ok,
    failIf_eq_ok, pure_eq_ok, Prod.mk.injEq, ge_iff_le, not_le] at h
  obtain ⟨bound, hbound, hbudget, checkpointId, -, rfl, -⟩ := h
  exact .checkpointed bound _ hbound rfl rfl rfl hbudget rfl body

variable {detail : String}

theorem close_effect {kind : OperationKind} {progress : Progress}
    {reason : ClosureReason} (hadmitted : ClosureAdmitted call kind progress reason)
    (h : close call progress reason detail = .ok (effected, body)) :
    RecordEffect call kind effected body := by
  simp only [close, bind_eq_ok, pure_eq_ok, Prod.mk.injEq] at h
  obtain ⟨moved, hmoved, rfl, -⟩ := h
  rw [progressTransition_eq_ok hmoved]
  exact .closed kind {
    progress := progress
    reason := reason
    detail := detail
    closedAt := call.now
    activationId := (latestActivation call.state).map Activation.activationId
    stamp := call.stamp } hadmitted rfl rfl rfl body

theorem completeSuccessfully_effect (h : completeSuccessfully detail call = .ok (effected, body)) :
    RecordEffect call .complete effected body := by
  simp only [completeSuccessfully, bind_eq_ok, requireBound_eq_ok] at h
  obtain ⟨bound, hbound, h⟩ := h
  split at h
  · simp at h
  · rename_i hproved
    exact close_effect (.completed bound hbound hproved) h

theorem closeUnsuccessful_effect {reason : ClosureReason}
    (h : closeUnsuccessful reason detail call = .ok (effected, body)) :
    RecordEffect call .closeUnsuccessful effected body := by
  simp only [closeUnsuccessful, bind_eq_ok, exists_passed, failIf_eq_ok, not_not] at h
  obtain ⟨hreason, hprovable, h⟩ := h
  exact close_effect (.unsuccessful reason hreason hprovable) h

theorem abandon_effect
    (h : abandon detail call = .ok (effected, body)) : RecordEffect call .abandon effected body :=
  close_effect .abandoned h

theorem recordReconciliation_effect [ReconciliationPlanner]
    {reconcile : ReconcileCall} (h : recordReconciliation reconcile call = .ok (effected, body)) :
    RecordEffect call .reconcile effected body := by
  simp only [recordReconciliation, bind_eq_ok, exists_passed, pure_eq_ok, Prod.mk.injEq] at h
  obtain ⟨-, _, -, _, -, -, -, _, -, rfl, -⟩ := h
  exact .reconciled _ rfl body

variable {operation : StateOperation}

/-- Every operation has an effect of its own kind. -/
theorem operation_effect [ReconciliationPlanner]
    (h : operation.effect env call = .ok (effected, body)) :
    RecordEffect call operation.kind effected body := by
  cases operation with
  | activateProofContract => exact activateProofContract_effect h
  | recordClaim => exact recordClaim_effect h
  | recordArtifact => exact recordArtifact_effect h
  | attestDeliveryReceipt => exact attestDeliveryReceipt_effect h
  | submitEvidence => exact submitEvidence_effect h
  | acceptEvidence => exact acceptEvidence_effect h
  | invalidateEvidence => exact invalidateEvidence_effect h
  | openBlocker => exact openBlocker_effect h
  | resolveBlocker => exact resolveBlocker_effect h
  | bindDependency => exact bindDependency_effect h
  | declareDependency => exact declareDependency_effect h
  | resolveDependency => exact resolveDependency_effect h
  | observeResourceReadiness => exact observeResourceReadiness_effect h
  | recordContinuation => exact recordContinuation_effect h
  | recordCheckpoint => exact recordCheckpoint_effect h
  | completeSuccessfully => exact completeSuccessfully_effect h
  | closeUnsuccessful => exact closeUnsuccessful_effect h
  | abandon => exact abandon_effect h
  | reconcile => exact recordReconciliation_effect h

/-! ## The pipeline, inverted -/

/-- The record with the ledger entry of one operation appended. -/
def appendedState (state : StateRecord) (entry : AppliedOperation) : StateRecord :=
  { state with
    appliedOperations := state.appliedOperations ++ [entry]
    sequence := state.sequence + 1
    updatedAt := entry.appliedAt }

/-- The record an operation leaves once its outcome and the snapshot of the
new head are set. -/
def finishedState (effected : StateRecord) (operations : List AppliedOperation)
    (entry : AppliedOperation) (snapshot : Snapshot) : StateRecord :=
  { effected with
    appliedOperations := operations ++ [entry]
    snapshot := some snapshot }

/-- One newly applied operation: the ledger entry it appended, the call its
effect worked against, and the record it left. -/
structure Applied [ReconciliationPlanner] (env : Env) (document : Document)
    (invocation : StateInvocation) (state : StateRecord)
    (entry : AppliedOperation) (call : StateCall) (effected : StateRecord)
    (body : OutcomeBody) (finished : StateRecord) : Prop where
  document_eq : call.document = document
  now_eq : call.now = env.now
  expected : invocation.expectedSequence = state.sequence
  running : state.progress ∉ Progress.terminal
  entry_id : entry.operationId = invocation.operationId
  entry_kind : entry.kind = invocation.operation.kind
  entry_digest : entry.contentDigestSha256 = invocationDigest invocation
  entry_sequence : entry.sequence = state.sequence + 1
  entry_at : entry.appliedAt = env.now
  entry_revision : entry.provenance.revision = call.mission.currentRevision
  entry_open : entry.outcome = none
  state_eq : call.state = appendedState state entry
  stamp_eq : call.stamp = {
    provenance := entry.provenance
    operationId := entry.operationId
    sequence := entry.sequence }
  bound : ∀ bound, call.bound = some bound → boundContract document call.mission state env.now
      invocation.operation.isDeliveryReceipt =
        .ok (bound.activation, bound.contract)
  performed : invocation.operation.effect env call = .ok (effected, body)
  effect : RecordEffect call invocation.operation.kind effected body
  finish : ∃ outcome snapshot contract, outcome = {
      body := body
      missionId := call.mission.missionId
      operationId := entry.operationId
      sequence := entry.sequence
      progress := effected.progress } ∧ finished = finishedState effected state.appliedOperations
      { entry with outcome := some outcome } snapshot ∧
    latestContract call.mission { finished with snapshot := none } =
      .ok contract ∧
    newSnapshot { finished with snapshot := none } contract = .ok snapshot

omit [JsonDigest] in
theorem setLastOutcome_append (operations : List AppliedOperation)
    (entry : AppliedOperation) (outcome : OperationOutcome) :
    setLastOutcome (operations ++ [entry]) outcome =
      operations ++ [{ entry with outcome := some outcome }] := by
  simp [setLastOutcome]

variable {now : Nat}

omit [JsonDigest] in
theorem appendOperation_eq_ok {appended : StateRecord}
    {operationId digest : String} {kind : OperationKind}
    {provenance : Provenance} (h : appendOperation state operationId kind digest now provenance =
      .ok appended) : appended = appendedState state {
      operationId := operationId
      kind := kind
      contentDigestSha256 := digest
      appliedAt := now
      provenance := provenance
      outcome := none
      sequence := state.sequence + 1 } := by
  unfold appendOperation at h
  split at h
  · rename_i appended happended
    obtain rfl := Except.ok.inj h
    simp only [appendAppliedOperation, bind_eq_ok, exists_passed, pure_eq_ok] at happended
    exact happended.2.symm
  · split at h <;> simp at h

/-- An effect touches neither the ledger nor the identity of its record. -/
theorem RecordEffect.frame {kind : OperationKind} (h : RecordEffect call kind effected body) :
    effected.appliedOperations = call.state.appliedOperations ∧
      effected.sequence = call.state.sequence ∧ effected.updatedAt = call.state.updatedAt ∧
      effected.createdAt = call.state.createdAt ∧ effected.missionId = call.state.missionId ∧
      effected.schemaVersion = call.state.schemaVersion := by
  cases h <;> exact ⟨rfl, rfl, rfl, rfl, rfl, rfl⟩

variable {mission : Mission}

theorem contractFor_eq_ok {document : Document}
    {bound : Option BoundContract}
    (h : contractFor document mission state now operation = .ok bound) : ∀ held, bound = some held →
      boundContract document mission state now operation.isDeliveryReceipt =
        .ok (held.activation, held.contract) := by
  rintro held rfl
  unfold contractFor at h
  split at h
  · simp only [bind_eq_ok, pure_eq_ok, Prod.exists, Option.some.injEq] at h
    obtain ⟨activation, contract, hbound, rfl⟩ := h
    exact hbound
  · cases h

theorem finishOperation_eq_ok
    {finished : StateRecord} {outcome : OperationOutcome}
    (h : finishOperation mission state outcome = .ok finished) : ∃ snapshot contract,
      finished = { state with
        appliedOperations := setLastOutcome state.appliedOperations outcome
        snapshot := some snapshot } ∧
      latestContract mission { finished with snapshot := none } = .ok contract ∧
      newSnapshot { finished with snapshot := none } contract =
        .ok snapshot := by
  simp only [finishOperation, bind_eq_ok, pure_eq_ok] at h
  obtain ⟨contract, hcontract, snapshot, hsnapshot, rfl⟩ := h
  exact ⟨snapshot, contract, rfl, hcontract, hsnapshot⟩

variable [ReconciliationPlanner] {document next : Document}
  {invocation : StateInvocation} {mission : Mission} {state finished : StateRecord}
  {outcome : OperationOutcome} {reservation : Reservation}

theorem applyToRecord_eq_ok (h : applyToRecord env document mission state invocation =
      .ok (finished, outcome)) : ∃ entry call effected body, call.mission = mission ∧
      Applied env document invocation state entry call effected body finished ∧ outcome = {
        body := body
        missionId := mission.missionId
        operationId := entry.operationId
        sequence := entry.sequence
        progress := effected.progress } := by
  simp only [applyToRecord, requireOpen, bind_eq_ok, exists_passed,
    failIf_eq_ok, pure_eq_ok, Prod.exists, Prod.mk.injEq, not_not, ne_eq] at h
  obtain ⟨⟨hexpected, hrunning⟩, bound, hbound, provenance, hprovenance,
    appended, happended, effected, body, heffect, result, hresult, rfl, rfl⟩ :=
    h
  have happended := appendOperation_eq_ok happended
  have hchange := operation_effect heffect
  obtain ⟨hoperations, -⟩ := hchange.frame
  obtain ⟨snapshot, contract, hfinished, hcontract, hsnapshot⟩ :=
    finishOperation_eq_ok hresult
  subst happended
  dsimp only [appendedState] at hoperations
  rw [hoperations, setLastOutcome_append] at hfinished
  exact ⟨_, _, effected, body, rfl, {
    document_eq := rfl
    now_eq := rfl
    expected := hexpected
    running := hrunning
    entry_id := rfl
    entry_kind := rfl
    entry_digest := rfl
    entry_sequence := rfl
    entry_at := rfl
    entry_revision := by rw [provenanceRecord_eq_ok hprovenance]
    entry_open := rfl
    state_eq := rfl
    stamp_eq := rfl
    bound := contractFor_eq_ok hbound
    performed := heffect
    effect := hchange
    finish := ⟨_, snapshot, contract, rfl, hfinished, hcontract, hsnapshot⟩ }, rfl⟩

variable {answer : StateAnswer}

/-- A newly applied operation as a document: its record replaced and its id
consumed. -/
theorem applyNew_eq_ok (h : applyNew env document mission reservation invocation =
      .ok (next, answer)) : ∃ entry call effected body finished outcome, call.mission = mission ∧
      (mission.state ∈ MissionState.terminal → invocation.operation.isDeliveryReceipt = true ∧
          mission.state = .completed) ∧ Applied env document invocation
        (stateOrNew (document.missionState.get? invocation.missionId)
          invocation.missionId env.now) entry call effected body finished ∧ outcome = {
        body := body
        missionId := mission.missionId
        operationId := entry.operationId
        sequence := entry.sequence
        progress := effected.progress } ∧ answer = { outcome := outcome, idempotent := false } ∧
      next = (document.setState invocation.missionId finished).consume
        invocation.operationId reservation invocation.operationId := by
  simp only [applyNew, bind_eq_ok, exists_passed, pure_eq_ok, Prod.exists, Prod.mk.injEq] at h
  obtain ⟨hguard, finished, outcome, hrecord, hnext, hanswer⟩ := h
  obtain ⟨entry, call, effected, body, hmission, happlied, houtcome⟩ :=
    applyToRecord_eq_ok hrecord
  refine ⟨entry, call, effected, body, finished, outcome, hmission, ?_,
    happlied, houtcome, hanswer.symm, hnext.symm⟩
  intro hterminal
  unfold refuseTerminalUnless at hguard
  split at hguard
  · rename_i hreceipt
    exact hreceipt
  · simp only [refuseTerminal, failIf_eq_ok] at hguard
    exact absurd hterminal hguard

/-- A state operation repeats the outcome of a consumed id, or is applied. -/
theorem applyStateOperation_eq_ok
    (h : applyStateOperation env document invocation = .ok (next, answer)) : ∃ reservation mission,
      Reserved document invocation.operationId .stateOperation invocation.context reservation ∧
      document.missions.get? invocation.missionId = some mission ∧ ((reservation.consumedBy ≠ none ∧
          replayOperation document invocation = .ok (next, answer)) ∨
        (reservation.consumedBy = none ∧ applyNew env document mission reservation invocation =
            .ok (next, answer))) := by
  simp only [applyStateOperation, bind_eq_ok, exists_passed,
    lookupReservation_eq_ok, lookupMission_eq_ok] at h
  obtain ⟨-, -, -, reservation, hreserved, mission, ⟨-, hheld⟩, h⟩ := h
  refine ⟨reservation, mission, hreserved, hheld, ?_⟩
  split at h
  · rename_i hconsumed
    exact .inl ⟨hconsumed, h⟩
  · rename_i hconsumed
    exact .inr ⟨not_not.mp hconsumed, h⟩

omit [ReconciliationPlanner] in
theorem replayOperation_eq_ok : replayOperation document invocation = .ok (next, answer) ↔
      ∃ applied outcome, appliedOperation document invocation.operationId =
          some (invocation.missionId, applied) ∧
        applied.contentDigestSha256 = invocationDigest invocation ∧ applied.outcome = some outcome ∧
        answer = { outcome := outcome, idempotent := true } ∧
        next = document := by
  simp only [replayOperation, bind_eq_ok, exists_passed, orFail_eq_ok,
    failIf_eq_ok, pure_eq_ok, Prod.exists, Prod.mk.injEq, not_or, not_not, ne_eq]
  constructor
  · rintro ⟨missionId, applied, hfound, ⟨rfl, hdigest⟩, outcome, houtcome, rfl, rfl⟩
    exact ⟨applied, outcome, hfound, hdigest, houtcome, rfl, rfl⟩
  · rintro ⟨applied, outcome, hfound, hdigest, houtcome, rfl, rfl⟩
    exact ⟨_, applied, hfound, ⟨rfl, hdigest⟩, outcome, houtcome, rfl, rfl⟩

end DodgingInfinity.MissionCore
