import DodgingInfinity.MissionCore.Service.Decisions
import DodgingInfinity.MissionCore.Service.Pipeline
import DodgingInfinity.MissionCore.Service.Verification

/-!
# The Mission store under all its operations

Every operation that can change the store document, as one closed set, and the
documents they reach from the empty one in any order, with any clock readings
and any minted ids.  A refused operation leaves the document as it was; so does
one whose document the store refuses to save, and leaving that refusal out
only makes more documents reachable here.
-/

namespace DodgingInfinity.MissionCore

/-- One call of an operation. -/
inductive ServiceCall where
  | mint (kind : ReferenceKind) (context : Context)
  | propose (call : ProposeCall)
  | withdraw (missionId requestId : String) (withdrawalKey : Option String)
      (context : Context)
  | decide (envelope : HumanDecisionEnvelope)
  | edit (missionId : String) (expectedRevision : Nat) (proposal : Proposal)
      (decisionId : String) (context : Context)
  | attestedApproval (context : Context) (decisionId missionId : String)
      (revision : Nat) (proposalDigestSha256 : Option String)
      (approvedActionScope : List ActionScope)
      (approvedDeliveryTargets : List DeliveryTarget)
      (expiresAt : Option Nat)
  | attested (call : AttestedCall)
  | workspaceBinding (missionId pathRealpath repositoryRealpath
      targetRepositoryUrl baselineCommitSha : String) (context : Context)
  | workspacePrepared (missionId bindingDigestSha256 : String)
      (context : Context)
  | workspaceRefusal (missionId problem detail : String) (context : Context)
  | runIntent (missionId : String) (call : IntentCall) (context : Context)
  | runReceipt (missionId : String) (taskId : Option String)
      (source : RunIdentitySource) (ownedProcessGroup : Option Int)
      (context : Context)
  | observedRunning (missionId taskId : String) (alreadyStopped : Bool)
      (context : Context)
  | runStop (missionId : String) (stop : ReconcileStop)
      (taskId : Option String) (context : Context)
  | reconcileUnobserved (missionId : String) (context : Context)
  | lateResolution (missionId taskId observedTaskStatus : String)
      (context : Context)
  | verification (missionId : String) (call : VerificationCall)
      (context : Context)
  | pause (missionId authorizationId : String) (context : Context)
  | resume (missionId authorizationId : String) (context : Context)
  | cancel (missionId : String) (achieved : CancelAchieved)
      (authorizationId : String) (context : Context)
  | completeCancel (missionId : String) (control : Option CancelControl)
      (quiescence : Option CancelQuiescence) (authorizationId : String)
      (context : Context)
  | state (invocation : StateInvocation)
  | attestReceipt (missionId operationId : String) (expectedSequence : Nat)
      (attestation : AttestationInput) (context : Context)
  | reconcile (observed : Document) (missionId operationId : String)
      (expectedSequence : Nat) (call : ReconcileCall) (context : Context)
  | reclaim (missionIds : List String) (reclaimedAt : Nat)
      (outcome : ReclaimOutcome)

/-- The document an operation leaves. -/
def perform [JsonDigest] [ReconciliationPlanner] (env : Env)
    (document : Document) : ServiceCall → Checks Document
  | .mint kind context => Prod.fst <$> reserve env document kind context
  | .propose call => Prod.fst <$> propose env document call
  | .withdraw missionId requestId withdrawalKey context =>
      Prod.fst <$> withdrawProposal env document missionId requestId withdrawalKey context
  | .decide envelope => Prod.fst <$> applyHumanDecision env document envelope
  | .edit missionId expectedRevision proposal decisionId context =>
      Prod.fst <$> editMission env document missionId expectedRevision proposal decisionId context
  | .attestedApproval context decisionId missionId revision digest actions
      targets expiresAt =>
      Prod.fst <$> applyOperatorAttestedApproval env document context
        decisionId missionId revision digest actions targets expiresAt
  | .attested call => Prod.fst <$> applyAttestedOutcome env document call
  | .workspaceBinding missionId path repository url baseline context =>
      Prod.fst <$> recordWorkspaceBinding env document missionId path
        repository url baseline context
  | .workspacePrepared missionId digest context =>
      Prod.fst <$> recordWorkspacePrepared env document missionId digest context
  | .workspaceRefusal missionId problem detail context =>
      Prod.fst <$> recordWorkspaceRefusal env document missionId problem detail context
  | .runIntent missionId call context =>
      Prod.fst <$> recordRunIntent env document missionId call context
  | .runReceipt missionId taskId source group context =>
      Prod.fst <$> recordRunReceipt env document missionId taskId source group context
  | .observedRunning missionId taskId alreadyStopped context =>
      Prod.fst <$> recordObservedRunning env document missionId taskId alreadyStopped context
  | .runStop missionId stop taskId context =>
      Prod.fst <$> recordRunStop env document missionId stop taskId context
  | .reconcileUnobserved missionId context =>
      Prod.fst <$> recordReconcileUnobserved env document missionId context
  | .lateResolution missionId taskId status context =>
      Prod.fst <$> recordLateResolution env document missionId taskId status context
  | .verification missionId call context =>
      Prod.fst <$> recordVerification env document missionId call context
  | .pause missionId authorizationId context =>
      Prod.fst <$> recordPause env document missionId authorizationId context
  | .resume missionId authorizationId context =>
      Prod.fst <$> recordResume env document missionId authorizationId context
  | .cancel missionId achieved authorizationId context =>
      Prod.fst <$> recordCancel env document missionId achieved authorizationId context
  | .completeCancel missionId control quiescence authorizationId context =>
      Prod.fst <$> completeCancel env document missionId control quiescence authorizationId context
  | .state invocation => Prod.fst <$> applyStateOperation env document invocation
  | .attestReceipt missionId operationId expectedSequence attestation context =>
      Prod.fst <$> attestReceipt env document missionId operationId
        expectedSequence attestation context
  | .reconcile observed missionId operationId expectedSequence call context =>
      Prod.fst <$> reconcile env observed document missionId operationId
        expectedSequence call context
  | .reclaim missionIds reclaimedAt outcome =>
      .ok (reclaimRunDiagnostics document missionIds reclaimedAt outcome)

/-- One call of an operation that was not refused. -/
def Step [JsonDigest] [ReconciliationPlanner] (document next : Document) : Prop :=
  ∃ env call, perform env document call = .ok next

end DodgingInfinity.MissionCore
