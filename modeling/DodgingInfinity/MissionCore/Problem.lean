import DodgingInfinity.Library.Checked

/-!
# Refusals

A refusal carries the distinct problem code of the check that failed and, for
a validator, the path of the field it was looking at.
-/

namespace DodgingInfinity.MissionCore

/-- The problem codes of the Mission modules. -/
inductive Problem where
  -- record
  | notAnObject
  | idGrammar
  | badType
  | badValue
  | tooLarge
  | unknownKey
  | missingKey
  | repositoryIdentity
  | actionScope
  | deliveryTarget
  | unknownState
  | invalidTransition
  | provenance
  | unauthenticatedPrincipal
  | attestedApproval
  | attestedOutcome
  | changeRequestReason
  | missionTerminal
  | run
  | runAlreadyRecorded
  | runRecorded
  | runPaused
  | runWorkspaceBound
  | runWorkspacePreserved
  | runWorkspaceConflict
  | runWorkspaceUnprepared
  | proofContract
  | contractIncoherent
  -- decision and manifest
  | decision
  | malformedState
  | revisionsFull
  | decisionsFull
  -- authorization
  | unknownMission
  | unknownAuthorization
  | authorizationTampered
  | wrongMission
  | wrongRevision
  | wrongManifestDigest
  | expired
  | revoked
  | denied
  | actionOutsideScope
  | targetOutsideScope
  | ledgerInconsistent
  | storeUnreadable
  | notAuthorized
  | ledger
  | historyInconsistent
  | decisionMismatch
  -- service
  | unknownRequestId
  | requestIdConflict
  | requestContextConflict
  | unknownDecisionId
  | decisionIdConflict
  | decisionContextConflict
  | staleRevision
  | proposalWithdrawn
  | notWithdrawable
  | withdrawalContextConflict
  | withdrawalKey
  | withdrawalKeyExpired
  | proposalDigestMismatch
  | storeFull
  -- state
  | progressUnknown
  | progressTransition
  | progressTerminal
  | progressDisagrees
  | sequence
  | operationBinding
  | activationBinding
  | activationOrder
  | evidenceDigest
  | evidenceKindNotSatisfying
  | evidenceNotAccepted
  | unknownArtifact
  | unknownEvidence
  | unknownBlocker
  | unknownDependency
  | artifactDerivation
  | dependencySelf
  | dependencyRebind
  | continuationOrder
  | checkpointStep
  | checkpointRefs
  | closure
  | stateFull
  | budgetExhausted
  | authorityWindow
  | timeInconsistent
  | effectInconsistent
  | outcomeMalformed
  | evidenceInvalidated
  | provenanceMismatch
  | invocationMismatch
  | acceptanceAfterInvalidation
  | acceptanceActivationMismatch
  | historyImpossible
  | revisionImpossible
  | revisionRegressed
  | revisionIdentityMalformed
  | receiptAttestation
  -- state service
  | unknownStateOperationId
  | stateOperationContextConflict
  | stateOperationConflict
  | staleSequence
  | noProofContract
  | stateNotAuthorized
  | contractAlreadyActive
  | contractStale
  | noActiveContract
  | unknownRequirement
  | evidenceAlreadyAccepted
  | evidenceKindNotDeclared
  | blockerAlreadyResolved
  | unknownDependencySlot
  | dependencyUnknownMission
  | dependencyAlreadyResolved
  | checkpointBudgetExhausted
  | artifactRoleMismatch
  | receiptAttestationAuthority
  | receiptAlreadyAttested
  | receiptAttestationConflict
  -- progress
  | proofNotSatisfied
  | hardBlockerActive
  | dependencyUnresolved
  | dependencyTargetMismatch
  | prerequisiteNotComplete
  | prerequisiteDrifted
  | requiredArtifactUnavailable
  | resourceNotReady
  | dependencyCycle
  | checkpointDisagrees
  | closureNotProvable
  -- journal
  | journalPosition
  | cursorMismatch
  | snapshotBinding
  | snapshotDisagrees
  | snapshotStale
  | journalPageBound
  -- reconciliation
  | reconciliationMalformed
  | reconciliationBinding
  | reconciliationDisagrees
  | reconciliationUnchanged
  | reconciliationMoved
  | reconciliationFull
  | sourceMalformed
  | observationInput
  -- a lookup Python answers with an uncaught KeyError or IndexError
  | uncaught
  deriving DecidableEq

/-- The code of a problem, as the source spells it. -/
def Problem.code : Problem → String
  | notAnObject => "mission_not_an_object"
  | idGrammar => "mission_id_grammar"
  | badType => "mission_bad_type"
  | badValue => "mission_bad_value"
  | tooLarge => "mission_too_large"
  | unknownKey => "mission_unknown_key"
  | missingKey => "mission_missing_key"
  | repositoryIdentity => "mission_repository_identity"
  | actionScope => "mission_action_scope"
  | deliveryTarget => "mission_delivery_target"
  | unknownState => "mission_unknown_state"
  | invalidTransition => "mission_invalid_transition"
  | provenance => "mission_provenance"
  | unauthenticatedPrincipal => "mission_unauthenticated_principal"
  | attestedApproval => "mission_attested_approval"
  | attestedOutcome => "mission_attested_outcome"
  | changeRequestReason => "mission_change_request_reason"
  | missionTerminal => "mission_terminal"
  | run => "mission_run"
  | runAlreadyRecorded => "mission_run_already_recorded"
  | runRecorded => "mission_run_recorded"
  | runPaused => "mission_run_paused"
  | runWorkspaceBound => "mission_run_workspace_bound"
  | runWorkspacePreserved => "mission_run_workspace_preserved"
  | runWorkspaceConflict => "mission_run_workspace_conflict"
  | runWorkspaceUnprepared => "mission_run_workspace_unprepared"
  | proofContract => "mission_proof_contract"
  | contractIncoherent => "mission_state_contract_incoherent"
  | decision => "mission_decision"
  | malformedState => "mission_malformed_state"
  | revisionsFull => "mission_revisions_full"
  | decisionsFull => "mission_decisions_full"
  | unknownMission => "mission_unknown_mission"
  | unknownAuthorization => "mission_unknown_authorization"
  | authorizationTampered => "mission_authorization_digest_mismatch"
  | wrongMission => "mission_authorization_wrong_mission"
  | wrongRevision => "mission_authorization_wrong_revision"
  | wrongManifestDigest => "mission_authorization_wrong_manifest_digest"
  | expired => "mission_authorization_expired"
  | revoked => "mission_authorization_revoked"
  | denied => "mission_denied"
  | actionOutsideScope => "mission_action_outside_scope"
  | targetOutsideScope => "mission_delivery_target_outside_scope"
  | ledgerInconsistent => "mission_ledger_inconsistent"
  | storeUnreadable => "mission_store_unreadable"
  | notAuthorized => "mission_not_authorized"
  | ledger => "mission_ledger_entry"
  | historyInconsistent => "mission_history_inconsistent"
  | decisionMismatch => "mission_authorization_decision_mismatch"
  | unknownRequestId => "mission_unknown_request_id"
  | requestIdConflict => "mission_request_id_conflict"
  | requestContextConflict => "mission_request_context_conflict"
  | unknownDecisionId => "mission_unknown_decision_id"
  | decisionIdConflict => "mission_decision_id_conflict"
  | decisionContextConflict => "mission_decision_context_conflict"
  | staleRevision => "mission_stale_revision"
  | proposalWithdrawn => "mission_proposal_withdrawn"
  | notWithdrawable => "mission_not_withdrawable"
  | withdrawalContextConflict => "mission_withdrawal_context_conflict"
  | withdrawalKey => "mission_withdrawal_key_mismatch"
  | withdrawalKeyExpired => "mission_withdrawal_key_expired"
  | proposalDigestMismatch => "mission_proposal_digest_mismatch"
  | storeFull => "mission_store_full"
  | progressUnknown => "mission_state_unknown_progress"
  | progressTransition => "mission_state_invalid_transition"
  | progressTerminal => "mission_state_terminal"
  | progressDisagrees => "mission_state_progress_disagrees"
  | sequence => "mission_state_sequence"
  | operationBinding => "mission_state_operation_binding"
  | activationBinding => "mission_state_activation_binding"
  | activationOrder => "mission_state_activation_order"
  | evidenceDigest => "mission_state_evidence_digest_mismatch"
  | evidenceKindNotSatisfying => "mission_state_evidence_kind_not_satisfying"
  | evidenceNotAccepted => "mission_state_evidence_not_accepted"
  | unknownArtifact => "mission_state_unknown_artifact"
  | unknownEvidence => "mission_state_unknown_evidence"
  | unknownBlocker => "mission_state_unknown_blocker"
  | unknownDependency => "mission_state_unknown_dependency"
  | artifactDerivation => "mission_state_artifact_derivation"
  | dependencySelf => "mission_state_dependency_self_reference"
  | dependencyRebind => "mission_state_dependency_rebind_refused"
  | continuationOrder => "mission_state_continuation_order"
  | checkpointStep => "mission_state_checkpoint_step"
  | checkpointRefs => "mission_state_checkpoint_refs"
  | closure => "mission_state_closure"
  | stateFull => "mission_state_full"
  | budgetExhausted => "mission_state_budget_exhausted"
  | authorityWindow => "mission_state_authority_window"
  | timeInconsistent => "mission_state_time_inconsistent"
  | effectInconsistent => "mission_state_effect_inconsistent"
  | outcomeMalformed => "mission_state_outcome_malformed"
  | evidenceInvalidated => "mission_state_evidence_invalidated"
  | provenanceMismatch => "mission_state_provenance_mismatch"
  | invocationMismatch => "mission_state_invocation_mismatch"
  | acceptanceAfterInvalidation => "mission_state_acceptance_after_invalidation"
  | acceptanceActivationMismatch => "mission_state_acceptance_activation_mismatch"
  | historyImpossible => "mission_state_history_impossible"
  | revisionImpossible => "mission_state_revision_impossible"
  | revisionRegressed => "mission_state_revision_regressed"
  | revisionIdentityMalformed => "mission_state_revision_identity_malformed"
  | receiptAttestation => "mission_state_receipt_attestation"
  | unknownStateOperationId => "mission_unknown_state_operation_id"
  | stateOperationContextConflict => "mission_state_operation_context_conflict"
  | stateOperationConflict => "mission_state_operation_conflict"
  | staleSequence => "mission_state_stale_sequence"
  | noProofContract => "mission_state_no_proof_contract"
  | stateNotAuthorized => "mission_state_not_authorized"
  | contractAlreadyActive => "mission_state_contract_already_active"
  | contractStale => "mission_state_contract_stale"
  | noActiveContract => "mission_state_no_active_contract"
  | unknownRequirement => "mission_state_unknown_requirement"
  | evidenceAlreadyAccepted => "mission_state_evidence_already_accepted"
  | evidenceKindNotDeclared => "mission_state_evidence_kind_not_declared"
  | blockerAlreadyResolved => "mission_state_blocker_already_resolved"
  | unknownDependencySlot => "mission_state_unknown_dependency_slot"
  | dependencyUnknownMission => "mission_state_dependency_unknown_mission"
  | dependencyAlreadyResolved => "mission_state_dependency_already_resolved"
  | checkpointBudgetExhausted => "mission_state_checkpoint_budget_exhausted"
  | artifactRoleMismatch => "mission_state_artifact_role_mismatch"
  | receiptAttestationAuthority => "mission_state_receipt_attestation_authority"
  | receiptAlreadyAttested => "mission_state_receipt_already_attested"
  | receiptAttestationConflict => "mission_state_receipt_attestation_conflict"
  | proofNotSatisfied => "mission_state_proof_not_satisfied"
  | hardBlockerActive => "mission_state_hard_blocker_active"
  | dependencyUnresolved => "mission_state_dependency_unresolved"
  | dependencyTargetMismatch => "mission_state_dependency_target_mismatch"
  | prerequisiteNotComplete => "mission_state_prerequisite_not_complete"
  | prerequisiteDrifted => "mission_state_prerequisite_drifted"
  | requiredArtifactUnavailable => "mission_state_required_artifact_unavailable"
  | resourceNotReady => "mission_state_resource_not_ready"
  | dependencyCycle => "mission_state_dependency_cycle"
  | checkpointDisagrees => "mission_state_checkpoint_disagrees"
  | closureNotProvable => "mission_state_closure_not_provable"
  | journalPosition => "mission_journal_position"
  | cursorMismatch => "mission_journal_cursor_mismatch"
  | snapshotBinding => "mission_journal_snapshot_binding"
  | snapshotDisagrees => "mission_journal_snapshot_disagrees"
  | snapshotStale => "mission_journal_snapshot_stale"
  | journalPageBound => "mission_journal_page_bound"
  | reconciliationMalformed => "mission_reconciliation_malformed"
  | reconciliationBinding => "mission_reconciliation_binding"
  | reconciliationDisagrees => "mission_reconciliation_disagrees"
  | reconciliationUnchanged => "mission_reconciliation_unchanged"
  | reconciliationMoved => "mission_reconciliation_moved"
  | reconciliationFull => "mission_reconciliation_full"
  | sourceMalformed => "mission_reconciliation_source_malformed"
  | observationInput => "mission_observation_input"
  | uncaught => ""

/-- A refusal: its problem, and the field path a validator names. -/
structure MissionError where
  problem : Problem
  location : String
  deriving DecidableEq

/-- What a checked step of the Mission modules returns. -/
abbrev Checks (α : Type) := Except MissionError α

/-- Refuse with `problem` at the field `location` when `bad` holds. -/
def failAt (bad : Prop) [Decidable bad] (problem : Problem) (location : String) : Checks Unit :=
  Checked.failIf bad ⟨problem, location⟩

/-- Refuse with `problem`, naming no field, when `bad` holds. -/
def failIf (bad : Prop) [Decidable bad] (problem : Problem) : Checks Unit :=
  failAt bad problem ""

/-- The value of an optional, or the refusal `problem`. -/
def orFail {α : Type} (value : Option α) (problem : Problem) : Checks α :=
  Checked.orFail value ⟨problem, ""⟩

/-- The value of an optional, or the refusal `problem` at a field. -/
def orFailAt {α : Type} (value : Option α) (problem : Problem) (location : String) : Checks α :=
  Checked.orFail value ⟨problem, location⟩

/-- Refuse with `problem`. -/
def refuse {α : Type} (problem : Problem) : Checks α :=
  .error ⟨problem, ""⟩

/-- The path of one element of a list field. -/
def elementAt (location : String) (index : Nat) : String :=
  location ++ "[" ++ toString index ++ "]"

/-- Check every element of a list field, in order, at its own path. -/
def checkElements {α : Type} (check : α → String → Checks Unit)
    (location : String) (index : Nat) : List α → Checks Unit
  | [] => .ok ()
  | item :: rest => do
      check item (elementAt location index)
      checkElements check location (index + 1) rest

@[simp] theorem failAt_eq_ok (bad : Prop) [Decidable bad] (problem : Problem)
    (location : String) (passed : Unit) :
    failAt bad problem location = .ok passed ↔ ¬ bad :=
  Checked.failIf_eq_ok bad _ passed

@[simp] theorem failIf_eq_ok (bad : Prop) [Decidable bad] (problem : Problem)
    (passed : Unit) : failIf bad problem = .ok passed ↔ ¬ bad :=
  Checked.failIf_eq_ok bad _ passed

@[simp] theorem orFail_eq_ok {α : Type} (value : Option α) (problem : Problem)
    (held : α) : orFail value problem = .ok held ↔ value = some held :=
  Checked.orFail_eq_ok value _ held

@[simp] theorem refuse_ne_ok {α : Type} (problem : Problem) (result : α) :
    (refuse problem : Checks α) = .ok result ↔ False := by
  simp [refuse]

theorem checkElements_eq_ok {α : Type} (check : α → String → Checks Unit)
    (location : String) (index : Nat) (items : List α) (passed : Unit) :
    checkElements check location index items = .ok passed ↔ ∀ entry ∈ items.zipIdx index,
        check entry.1 (elementAt location entry.2) = .ok () := by
  induction items generalizing index with
  | nil => simp [checkElements]
  | cons item rest ih => simp [checkElements, ih]

/-- An element of a list field that passed its checks passed its own. -/
theorem exists_check_of_checkElements {α : Type}
    {check : α → String → Checks Unit} {location : String} {index : Nat}
    {items : List α} {passed : Unit}
    (h : checkElements check location index items = .ok passed) {item : α}
    (hitem : item ∈ items) : ∃ path, check item path = .ok () := by
  obtain ⟨position, hposition⟩ := List.mem_iff_getElem?.mp hitem
  exact ⟨_, (checkElements_eq_ok ..).mp h (item, index + position)
    (by simp [List.mem_zipIdx_iff_le_and_getElem?_sub, hposition])⟩

theorem checkElements_of_forall {α : Type} {check : α → String → Checks Unit}
    (location : String) (index : Nat) {items : List α}
    (h : ∀ item ∈ items, ∀ path, check item path = .ok ()) :
    checkElements check location index items = .ok () := by
  refine (checkElements_eq_ok ..).mpr fun entry hentry => ?_
  exact h entry.1 (List.fst_mem_of_mem_zipIdx hentry) _

end DodgingInfinity.MissionCore
