import DodgingInfinity.Canonical
import DodgingInfinity.Json

/-!
# The PR Delivery Authorization record

The authority half is what the human authorized and never changes; it is held
here as validated when it was minted.  The state half is the durable state of
the steps, and every save validates it again.
-/

namespace DodgingInfinity.PrDelivery

open Checked Canonical

abbrev Time := Nat
abbrev Oid := String
abbrev Digest := String

inductive Mode where
  | pullRequest
  | prUpdate
  deriving DecidableEq, Repr

inductive Step where
  | baseRefresh
  | commit
  | push
  | prCreate
  deriving DecidableEq, Repr

inductive Phase where
  | authorized
  | baseCurrent
  | committed
  | pushed
  | prOpened
  | complete
  | blocked
  | revoked
  deriving DecidableEq, Repr

inductive StepState where
  | pending
  | notNeeded
  | executing
  | succeeded
  | failedRetryable
  | blocked
  deriving DecidableEq, Repr

inductive ReceiptState where
  | derived
  | executing
  | succeeded
  | void
  | failedRetryable
  deriving DecidableEq, Repr

def steps : List Step := [.baseRefresh, .commit, .push, .prCreate]

/-- The steps a `prUpdate` record never runs. -/
def prUpdateExcludedSteps : List Step := [.baseRefresh, .prCreate]

def terminalPhases : List Phase := [.complete, .blocked, .revoked]

def allowedTransitions : Phase → List Phase
  | .authorized => [.baseCurrent, .blocked, .revoked]
  | .baseCurrent => [.committed, .blocked, .revoked]
  | .committed => [.pushed, .blocked, .revoked]
  | .pushed => [.prOpened, .blocked, .revoked]
  | .prOpened => [.complete, .blocked, .revoked]
  | .complete => []
  | .blocked => []
  | .revoked => []

def prUpdateAllowedTransitions : Phase → List Phase
  | .authorized => [.committed, .blocked, .revoked]
  | .baseCurrent => []
  | .committed => [.pushed, .blocked, .revoked]
  | .pushed => [.complete, .blocked, .revoked]
  | .prOpened => []
  | .complete => []
  | .blocked => []
  | .revoked => []

def allowedTransitionsByMode : Mode → Phase → List Phase
  | .pullRequest => allowedTransitions
  | .prUpdate => prUpdateAllowedTransitions

/-- The step a phase permits next; a `prUpdate` record at `pushed` has none,
it is only observed. -/
def stepForPhase : Mode → Phase → Option Step
  | .pullRequest, .authorized => some .baseRefresh
  | .pullRequest, .baseCurrent => some .commit
  | .pullRequest, .committed => some .push
  | .pullRequest, .pushed => some .prCreate
  | .prUpdate, .authorized => some .commit
  | .prUpdate, .committed => some .push
  | _, _ => none

/-- The problem codes of the delivery modules. -/
inductive Problem where
  -- authorization
  | badValue
  | tooLarge
  | receiptDigest
  | refGrammar
  | candidateIdentity
  | unknownPhase
  | invalidTransition
  | stepState
  -- candidate
  | candidateRawFormat
  | candidateStatus
  | candidateSubmodule
  | candidatePath
  | candidateDuplicate
  | candidateEmpty
  | candidateTooMany
  | candidatePathMissing
  | candidatePathExtra
  | candidateStatusChanged
  | candidateModeChanged
  | candidateContentChanged
  | worktreeEntry
  | worktreeOverlap
  -- receipts
  | stepNotAllowed
  | phaseForbidsStep
  | expired
  | revoked
  | attemptsExhausted
  | receiptBinding
  | evidenceStale
  -- machine
  | wrongRepository
  | branchNotCheckedOut
  | wrongRemote
  | headNotAtBase
  | candidateUnstaged
  | baseRefMissing
  | baseNotFastForward
  | baseOverlap
  | baseCiRed
  | reverificationFailed
  | unexpectedRefMovement
  | commitResultMismatch
  | prAmbiguous
  | prNotOpen
  | prResultMismatch
  | baseAdvancedOverlappingAfterCommit
  | missingRecord
  | prClosed
  | prMerged
  | prHeadBranchMismatch
  | prBaseBranchMismatch
  | prHeadDrift
  | prRefMismatch
  | prIdentityUnsupported
  | stagedHashMismatch
  | pendingMerge
  | commitParents
  | expectedStepRefused
  deriving DecidableEq, Repr

inductive CandidateStatus where
  | added
  | modified
  | deleted
  deriving DecidableEq, Repr

/-- One path of the reviewed candidate. -/
structure CandidateEntry where
  path : String
  status : CandidateStatus
  mode : String
  blob : Oid
  deriving DecidableEq, Repr

structure Candidate where
  entries : List CandidateEntry
  identityDigest : Digest
  deriving DecidableEq, Repr

/-- What the machine reads of a recorded piece of evidence: what it is bound
to. -/
structure EvidenceReference where
  name : String
  candidateIdentityDigest : Digest
  baseOid : Oid
  deriving DecidableEq, Repr

structure Repository where
  realpath : String
  gitDirRealpath : String
  owner : String
  repo : String
  repositoryUrl : String
  deriving DecidableEq, Repr

structure Remote where
  name : String
  urlExact : String
  urlFetch : String
  urlPush : String
  deriving DecidableEq, Repr

structure Branch where
  branch : String
  ref : String
  deriving DecidableEq, Repr

structure Baseline where
  ref : String
  commitSha : Oid
  deriving DecidableEq, Repr

structure Committer where
  name : String
  email : String
  deriving DecidableEq, Repr

/-- The texts the delivery renders, as their digests. -/
structure PrText where
  titleSha256 : Digest
  bodySha256 : Digest
  messageSha256 : Digest
  deriving DecidableEq, Repr

/-- What a `prUpdate` authorizes besides: the open pull request by number and
the staged hash. -/
structure PrUpdateAuthority where
  pullRequestNumber : Nat
  stagedSha256 : Digest
  deriving DecidableEq, Repr

/-- The kind of the delivery, with what only that kind authorizes. -/
inductive Kind where
  | pullRequest
  | prUpdate (authority : PrUpdateAuthority)
  deriving DecidableEq, Repr

def Kind.mode : Kind → Mode
  | pullRequest => .pullRequest
  | prUpdate _ => .prUpdate

/-- The immutable half of a record. -/
structure Authority where
  deliveryId : String
  revision : Nat
  kind : Kind
  repository : Repository
  remote : Remote
  source : Branch
  targetBase : Branch
  originalBaseline : Baseline
  candidate : Candidate
  evidence : List EvidenceReference
  allowedActions : List Step
  committer : Committer
  argv : List String
  prText : PrText
  expiresAt : Time
  authorityDigest : Digest
  deriving DecidableEq, Repr

structure BaseRefreshBinding where
  repositoryRealpath : String
  gitDirRealpath : String
  remoteName : String
  remoteUrlExact : String
  remoteUrlFetch : String
  sourceRef : String
  baseRef : String
  oldBaseOid : Oid
  newBaseOid : Oid
  fastForward : Bool
  baseChangedPathsDigest : Digest
  candidateIdentityDigest : Digest
  deriving DecidableEq, Repr

structure CommitBinding where
  repositoryRealpath : String
  gitDirRealpath : String
  branch : String
  sourceRef : String
  headBefore : Oid
  stagedSha256 : Digest
  candidateIdentityDigest : Digest
  expectedTreeOid : Oid
  committerName : String
  committerEmail : String
  messageSha256 : Digest
  deriving DecidableEq, Repr

structure PushBinding where
  repositoryRealpath : String
  remoteName : String
  remoteUrlExact : String
  remoteUrlPush : String
  sourceRef : String
  sourceCommit : Oid
  destinationRef : String
  expectedRemoteOldOid : Oid
  candidateIdentityDigest : Digest
  deriving DecidableEq, Repr

structure PrCreateBinding where
  owner : String
  repo : String
  remoteUrlExact : String
  headBranch : String
  headSha : Oid
  baseBranch : String
  titleSha256 : Digest
  bodySha256 : Digest
  candidateIdentityDigest : Digest
  deriving DecidableEq, Repr

/-- The exact live facts one receipt is bound to, by its step. -/
inductive Binding where
  | baseRefresh (binding : BaseRefreshBinding)
  | commit (binding : CommitBinding)
  | push (binding : PushBinding)
  | prCreate (binding : PrCreateBinding)
  deriving DecidableEq, Repr

def Binding.step : Binding → Step
  | baseRefresh _ => .baseRefresh
  | commit _ => .commit
  | push _ => .push
  | prCreate _ => .prCreate

inductive BaseCi where
  | green
  | pending
  | none
  deriving DecidableEq, Repr

structure Reverification where
  exitStatus : Int
  logSha256 : Digest
  logBytes : Nat
  logTruncated : Bool
  deriving DecidableEq, Repr

/-- What was observed of a step's effect. -/
inductive Observed where
  | error
  | baseRefreshed (reverification : Reverification) (baseCi : BaseCi)
      (newBaseOid : Oid)
  | committed (commitOid : Oid)
  | pushed (reconciled : Bool) (remoteOid : Oid)
  | prOpened (reconciled : Bool) (number : Nat) (url : String)
  deriving DecidableEq, Repr

/-- A receipt: one execution attempt of one step. -/
structure Receipt where
  receiptId : String
  step : Step
  deliveryId : String
  parentAuthorityDigest : Digest
  derivedAt : Time
  attempt : Nat
  state : ReceiptState
  binding : Binding
  observed : Option Observed
  receiptDigest : Digest
  deriving DecidableEq, Repr

structure StepEntry where
  state : StepState
  receipt : Option Receipt
  voided : List String
  deriving DecidableEq, Repr

def StepEntry.pending : StepEntry := ⟨.pending, none, []⟩

def StepEntry.notNeeded : StepEntry := ⟨.notNeeded, none, []⟩

/-- The entry of every step. -/
structure StepEntries where
  baseRefresh : StepEntry
  commit : StepEntry
  push : StepEntry
  prCreate : StepEntry
  deriving DecidableEq, Repr

def StepEntries.get (entries : StepEntries) : Step → StepEntry
  | .baseRefresh => entries.baseRefresh
  | .commit => entries.commit
  | .push => entries.push
  | .prCreate => entries.prCreate

def StepEntries.set (entries : StepEntries) (step : Step) (entry : StepEntry) : StepEntries :=
  match step with
  | .baseRefresh => { entries with baseRefresh := entry }
  | .commit => { entries with commit := entry }
  | .push => { entries with push := entry }
  | .prCreate => { entries with prCreate := entry }

@[simp] theorem StepEntries.get_set_self (entries : StepEntries) (step : Step)
    (entry : StepEntry) : (entries.set step entry).get step = entry := by
  cases step <;> rfl

theorem StepEntries.get_set_of_ne (entries : StepEntries) {step other : Step}
    (entry : StepEntry) (h : other ≠ step) :
    (entries.set step entry).get other = entries.get other := by
  cases step <;> cases other <;> first | rfl | exact absurd rfl h

structure BaseAdvance where
  oldBaseOid : Oid
  newBaseOid : Oid
  recordedAt : Time
  deriving DecidableEq, Repr

structure BaseState where
  currentBaseOid : Oid
  refreshedAt : Option Time
  advanceAfterCommit : Option BaseAdvance
  deriving DecidableEq, Repr

/-- A revocation; a record without one is not revoked. -/
structure Revocation where
  revokedAt : Time
  revokedBy : String
  reason : String
  deriving DecidableEq, Repr

/-- What stopped a step for good; its text is not kept. -/
structure Blocker where
  problem : Problem
  recordedAt : Time
  deriving DecidableEq, Repr

structure PullRequest where
  number : Nat
  url : String
  headSha : Oid
  baseRef : String
  deriving DecidableEq, Repr

/-- One delivery record. -/
structure Record where
  authority : Authority
  phase : Phase
  steps : StepEntries
  baseState : BaseState
  revocation : Option Revocation
  blocker : Option Blocker
  pullRequest : Option PullRequest
  updatedAt : Time
  deriving DecidableEq, Repr

def Record.deliveryId (record : Record) : String := record.authority.deliveryId

def Record.mode (record : Record) : Mode := record.authority.kind.mode

def isExpired (record : Record) (now : Time) : Bool :=
  record.authority.expiresAt ≤ now

def isRevoked (record : Record) : Bool := record.revocation.isSome

/-- A validation that failed, and where. -/
structure AuthorizationError where
  problem : Problem
  location : String
  deriving DecidableEq, Repr

def maxStepAttempts : Nat := 8
def maxEvidenceTextChars : Nat := 4000
def maxBindingTextChars : Nat := 4096
def maxIdChars : Nat := 128

def workflowIdAlphabet : List Char :=
  "abcdefghijklmnopqrstuvwxyz0123456789-".toList

def hexDigits : List Char := "0123456789abcdef".toList

def zeroOid : Oid := String.ofList (List.replicate 40 '0')

def isHex (value : String) (length : Nat) : Bool :=
  value.toList.length = length ∧ ∀ digit ∈ value.toList, digit ∈ hexDigits

/-- No control character and no line terminator of any form. -/
def isLineFree (value : String) : Bool :=
  ∀ character ∈ value.toList, ¬ (character.toNat < 0x20 ∨
    character.toNat = 0x7F ∨ character.toNat ∈ [0x85, 0x2028, 0x2029])

/-- Refuse with a problem, naming the field it was looking at. -/
def failAt (bad : Prop) [Decidable bad] (problem : Problem)
    (location : String) : Except AuthorizationError Unit :=
  failIf bad ⟨problem, location⟩

def requireId (value : String) (location : String) :
    Except AuthorizationError Unit := do
  failAt (value.toList = []) .badValue location
  failAt (value.toList.length > maxIdChars) .tooLarge location
  failAt (∃ character ∈ value.toList, character ∉ workflowIdAlphabet) .badValue location

def requireHex (value : String) (length : Nat) (location : String) :
    Except AuthorizationError Unit := do
  failAt (value.toList = []) .badValue location
  failAt (value.toList.length > length) .tooLarge location
  failAt (isHex value length = false) .badValue location

/-- A text of at most so many characters; it may be empty. -/
def requireStr (value : String) (maxChars : Nat) (location : String) :
    Except AuthorizationError Unit :=
  failAt (value.toList.length > maxChars) .tooLarge location

def requireLineFreeStr (value : String) (maxChars : Nat) (location : String) :
    Except AuthorizationError Unit := do
  failAt (value.toList = []) .badValue location
  requireStr value maxChars location
  failAt (isLineFree value = false) .badValue location

def refForbiddenChars : List Char := "~^:?*[\\".toList

/-- White space as Python's `str.isspace` has it, and the line terminators. -/
def isRefSpace (character : Char) : Bool :=
  character.toNat ∈ [0x20, 0x85, 0xA0, 0x1680, 0x2028, 0x2029, 0x202F, 0x205F,
    0x3000] ∨ (0x2000 ≤ character.toNat ∧ character.toNat ≤ 0x200A)

/-- The displayed ref grammar. -/
def isBaselineRef (value : String) : Bool :=
  value.toList ≠ [] ∧ (∀ character ∈ value.toList, ¬ (character.toNat < 0x20 ∨
    character.toNat = 0x7F ∨ isRefSpace character = true ∨ character ∈ refForbiddenChars)) ∧
  countStarts "..".toList value.toList = 0 ∧
  value.toList.head? ≠ some '/' ∧ value.toList.getLast? ≠ some '/' ∧
  ¬ ".lock".toList.isSuffixOf value.toList

def requireRef (value : String) (location : String) :
    Except AuthorizationError Unit := do
  failAt (value.toList = []) .badValue location
  requireStr value 512 location
  failAt (isBaselineRef value = false) .refGrammar location
  failAt (¬ "refs/heads/".toList.isPrefixOf value.toList) .refGrammar location

def Step.name : Step → String
  | baseRefresh => "BASE_REFRESH"
  | commit => "COMMIT"
  | push => "PUSH"
  | prCreate => "PR_CREATE"

/-- The fields of a binding, under the names the source gives them. -/
def Binding.fields : Binding → List (String × Json)
  | baseRefresh binding => [
      ("repository_realpath", .text binding.repositoryRealpath),
      ("git_dir_realpath", .text binding.gitDirRealpath), ("remote_name", .text binding.remoteName),
      ("remote_url_exact", .text binding.remoteUrlExact),
      ("remote_url_fetch", .text binding.remoteUrlFetch), ("source_ref", .text binding.sourceRef),
      ("base_ref", .text binding.baseRef), ("old_base_oid", .text binding.oldBaseOid),
      ("new_base_oid", .text binding.newBaseOid), ("fast_forward", .bool binding.fastForward),
      ("base_changed_paths_digest", .text binding.baseChangedPathsDigest),
      ("candidate_identity_digest", .text binding.candidateIdentityDigest)]
  | commit binding => [
      ("repository_realpath", .text binding.repositoryRealpath),
      ("git_dir_realpath", .text binding.gitDirRealpath), ("branch", .text binding.branch),
      ("source_ref", .text binding.sourceRef), ("head_before", .text binding.headBefore),
      ("staged_sha256", .text binding.stagedSha256),
      ("candidate_identity_digest", .text binding.candidateIdentityDigest),
      ("expected_tree_oid", .text binding.expectedTreeOid),
      ("committer_name", .text binding.committerName),
      ("committer_email", .text binding.committerEmail),
      ("message_sha256", .text binding.messageSha256)]
  | push binding => [
      ("repository_realpath", .text binding.repositoryRealpath),
      ("remote_name", .text binding.remoteName), ("remote_url_exact", .text binding.remoteUrlExact),
      ("remote_url_push", .text binding.remoteUrlPush), ("source_ref", .text binding.sourceRef),
      ("source_commit", .text binding.sourceCommit),
      ("destination_ref", .text binding.destinationRef),
      ("expected_remote_old_oid", .text binding.expectedRemoteOldOid),
      ("candidate_identity_digest", .text binding.candidateIdentityDigest)]
  | prCreate binding => [
      ("owner", .text binding.owner), ("repo", .text binding.repo),
      ("remote_url_exact", .text binding.remoteUrlExact), ("head_branch", .text binding.headBranch),
      ("head_sha", .text binding.headSha), ("base_branch", .text binding.baseBranch),
      ("title_sha256", .text binding.titleSha256), ("body_sha256", .text binding.bodySha256),
      ("candidate_identity_digest", .text binding.candidateIdentityDigest)]

/-- The digest of a receipt over everything but its state, what was observed
and the digest itself. -/
def Receipt.digest [JsonDigest] (receipt : Receipt) : Digest :=
  jsonDigest (.object [("attempt", .ofNat receipt.attempt),
    ("binding", .object (sortedBy Prod.fst receipt.binding.fields)),
    ("delivery_id", .text receipt.deliveryId), ("derived_at", .ofNat receipt.derivedAt),
    ("parent_authority_digest_sha256", .text receipt.parentAuthorityDigest),
    ("receipt_id", .text receipt.receiptId), ("step", .text receipt.step.name)])

def requireBindingField (location : String) : String × Json → Except AuthorizationError Unit
  | (key, .text value) =>
      requireLineFreeStr value maxBindingTextChars (location ++ "." ++ key)
  | _ => .ok ()

/-- The texts among what was observed. -/
def Observed.texts : Observed → List (String × String)
  | error => []
  | baseRefreshed reverification _ newBaseOid =>
      [("reverification_log_sha256", reverification.logSha256), ("new_base_oid", newBaseOid)]
  | committed commitOid => [("commit_oid", commitOid)]
  | pushed _ remoteOid => [("remote_oid", remoteOid)]
  | prOpened _ _ url => [("url", url)]

def validateObserved (location : String) : Option Observed → Except AuthorizationError Unit
  | none => .ok ()
  | some observed => checkAll (fun item : String × String =>
      requireStr item.2 maxEvidenceTextChars (location ++ "." ++ item.1))
      observed.texts

/-- One stored receipt: its shape, its parent and its own digest. -/
def validateReceipt [JsonDigest] (receipt : Receipt) (step : Step)
    (authority : Authority) (location : String) :
    Except AuthorizationError Unit := do
  requireId receipt.receiptId (location ++ ".receipt_id")
  failAt (receipt.step ≠ step) .badValue (location ++ ".step")
  failAt (receipt.deliveryId ≠ authority.deliveryId) .badValue (location ++ ".delivery_id")
  requireHex receipt.parentAuthorityDigest 64 (location ++ ".parent_authority_digest_sha256")
  failAt (receipt.parentAuthorityDigest ≠ authority.authorityDigest) .receiptDigest location
  failAt (receipt.attempt < 1) .badValue (location ++ ".attempt")
  failAt (receipt.attempt > maxStepAttempts) .tooLarge (location ++ ".attempt")
  failAt (receipt.binding.step ≠ step) .badValue (location ++ ".binding")
  checkAll (requireBindingField (location ++ ".binding")) receipt.binding.fields
  validateObserved (location ++ ".observed") receipt.observed
  requireHex receipt.receiptDigest 64 (location ++ ".receipt_digest_sha256")
  failAt (receipt.digest ≠ receipt.receiptDigest) .receiptDigest
    (location ++ ".receipt_digest_sha256")

/-- The receipt state a step state stands for, where it stands for one. -/
def expectedReceiptState : StepState → Option ReceiptState
  | .executing => some .executing
  | .succeeded => some .succeeded
  | .failedRetryable => some .failedRetryable
  | _ => none

def validateStepReceipt [JsonDigest] (entry : StepEntry) (step : Step)
    (authority : Authority) (location : String) : Except AuthorizationError Unit :=
  match entry.receipt with
  | none =>
      failAt (entry.state ∈ [.executing, .succeeded, .failedRetryable]) .stepState
        (location ++ ".state")
  | some receipt => do
      validateReceipt receipt step authority (location ++ ".receipt")
      failAt (expectedReceiptState entry.state ≠ none ∧
        expectedReceiptState entry.state ≠ some receipt.state) .stepState
        (location ++ ".state")

def validateStep [JsonDigest] (record : Record) (step : Step) :
    Except AuthorizationError Unit := do
  let entry := record.steps.get step
  let location := "steps." ++ step.name
  failAt (entry.voided.length > maxStepAttempts) .tooLarge (location ++ ".voided")
  checkAll (fun item => requireId item (location ++ ".voided")) entry.voided
  validateStepReceipt entry step record.authority location

/-- The steps a `prUpdate` never runs stay as they were minted. -/
def validateExcludedStep (record : Record) (step : Step) : Except AuthorizationError Unit :=
  failAt (record.mode = .prUpdate ∧ record.steps.get step ≠ .notNeeded)
    .stepState ("steps." ++ step.name)

def validateSteps [JsonDigest] (record : Record) :
    Except AuthorizationError Unit := do
  checkAll (validateExcludedStep record) prUpdateExcludedSteps
  checkAll (validateStep record) steps

def validateBaseAdvance : Option BaseAdvance → Except AuthorizationError Unit
  | none => .ok ()
  | some advance => do
      requireHex advance.oldBaseOid 40 "base_state.advance_after_commit.old_base_oid"
      requireHex advance.newBaseOid 40 "base_state.advance_after_commit.new_base_oid"

def validateBaseState (baseState : BaseState) :
    Except AuthorizationError Unit := do
  requireHex baseState.currentBaseOid 40 "base_state.current_base_oid"
  validateBaseAdvance baseState.advanceAfterCommit

def validateRevocation : Option Revocation → Except AuthorizationError Unit
  | none => .ok ()
  | some revocation => do
      requireLineFreeStr revocation.revokedBy 255 "revocation.revoked_by"
      requireStr revocation.reason maxEvidenceTextChars "revocation.reason"

/-- The URL names exactly this pull request. -/
def namesPullRequest (pullRequest : PullRequest) : Bool :=
  match canonicalizeTargetUrl pullRequest.url with
  | .ok target => target.kind = some .pullRequest ∧
      target.number = some pullRequest.number
  | .error _ => false

def validatePullRequest : Option PullRequest → Except AuthorizationError Unit
  | none => .ok ()
  | some pullRequest => do
      failAt (pullRequest.number < 1) .badValue "pull_request.number"
      failAt (namesPullRequest pullRequest = false) .badValue "pull_request.url"
      requireHex pullRequest.headSha 40 "pull_request.head_sha"
      requireRef pullRequest.baseRef "pull_request.base_ref"

/-- What a `prUpdate` record may never come to: a phase of the other kind, a
refreshed base, another pull request. -/
def validatePrUpdateState (record : Record) (number : Nat) :
    Except AuthorizationError Unit := do
  failAt (record.phase = .baseCurrent ∨ record.phase = .prOpened) .unknownPhase "phase"
  failAt (record.baseState ≠ ⟨record.authority.originalBaseline.commitSha, none, none⟩) .badValue
    "base_state"
  failAt (∃ pullRequest ∈ record.pullRequest, pullRequest.number ≠ number ∨
    pullRequest.baseRef ≠ record.authority.targetBase.ref) .badValue
    "pull_request"

def validateKindState (record : Record) : Except AuthorizationError Unit :=
  match record.authority.kind with
  | .pullRequest => .ok ()
  | .prUpdate authority => validatePrUpdateState record authority.pullRequestNumber

/-- Validate the state half of one record, failing closed on the first
problem. -/
def validateAuthorization [JsonDigest] (record : Record) :
    Except AuthorizationError Unit := do
  validateSteps record
  validateBaseState record.baseState
  validateRevocation record.revocation
  validatePullRequest record.pullRequest
  validateKindState record
  failAt (record.phase = .revoked ∧ isRevoked record = false) .badValue "phase"
  failAt (record.phase = .blocked ∧ record.blocker = none) .badValue "phase"

def validateTransition (current new : Phase) (mode : Mode) : Except AuthorizationError Unit :=
  failAt (new ∉ allowedTransitionsByMode mode current) .invalidTransition "phase"

/-- A phase change, refused unless the kind's table allows it. -/
def applyTransition (record : Record) (new : Phase) (now : Time) :
    Except AuthorizationError Record := do
  validateTransition record.phase new record.mode
  pure { record with phase := new, updatedAt := now }

theorem applyTransition_eq_ok {record after : Record} {new : Phase}
    {now : Time} : applyTransition record new now = .ok after ↔
      new ∈ allowedTransitionsByMode record.mode record.phase ∧
        after = { record with phase := new, updatedAt := now } := by
  simp only [applyTransition, validateTransition, failAt, bind_eq_ok,
    exists_passed, failIf_eq_ok, not_not, pure_eq_ok, eq_comm (a := after)]

/-- A fresh record of an authority: every authorized step pending, the base at
the original baseline. -/
def newAuthorization (authority : Authority) (now : Time) : Record where
  authority := authority
  phase := .authorized
  steps := match authority.kind with
    | .pullRequest => ⟨.pending, .pending, .pending, .pending⟩
    | .prUpdate _ => ⟨.notNeeded, .pending, .pending, .notNeeded⟩
  baseState := ⟨authority.originalBaseline.commitSha, none, none⟩
  revocation := none
  blocker := none
  pullRequest := none
  updatedAt := now

end DodgingInfinity.PrDelivery

/-!
## The candidate and its comparisons

A live candidate is compared with the bound one path by path, and a base
advance is disjoint from it when no path of either is the other or lies under
it.
-/

namespace DodgingInfinity.PrDelivery

/-- A raw diff as its two readers take it: the ordered candidate entries, or
only the paths it names. -/
structure RawDiff where
  entries : Except Problem (List CandidateEntry)
  paths : Except Problem (List String)

/-- The entry a path has; the last one where a path comes twice. -/
def entryAt (entries : List CandidateEntry) (path : String) : Option CandidateEntry :=
  entries.reverse.find? fun entry => entry.path = path

/-- The first way the live entry of a path differs from the bound one. -/
def differenceAt (bound live : List CandidateEntry) (path : String) : Option Problem :=
  match entryAt live path, entryAt bound path with
  | none, _ => some .candidatePathMissing
  | some _, none => some .candidatePathExtra
  | some actual, some expected =>
      if expected.status ≠ actual.status then some .candidateStatusChanged
      else if expected.mode ≠ actual.mode then some .candidateModeChanged
      else if expected.blob ≠ actual.blob then some .candidateContentChanged
      else none

/-- The first difference in path order, if the live candidate is not the bound
one. -/
def compare (bound live : List CandidateEntry) : Option Problem :=
  (sortedBy id ((bound ++ live).map CandidateEntry.path).dedup).findSome?
    (differenceAt bound live)

/-- One path is the other, or a directory the other lies in. -/
def conflicts (mine theirs : String) : Bool :=
  mine = theirs ∨ (mine ++ "/").toList.isPrefixOf theirs.toList ∨
    (theirs ++ "/").toList.isPrefixOf mine.toList

/-- Every conflicting pair of a candidate path and a changed path. -/
def overlaps (candidatePaths changedPaths : List String) : List (String × String) :=
  candidatePaths.flatMap fun mine =>
    (changedPaths.filter (conflicts mine)).map fun theirs => (mine, theirs)

def Candidate.paths (candidate : Candidate) : List String :=
  candidate.entries.map CandidateEntry.path

/-- The first porcelain line that is not a fully staged added, modified or
deleted entry. -/
def porcelainUnstaged (lines : List String) : Option String :=
  lines.find? fun line => match line.toList with
    | first :: second :: _ :: _ =>
        (first = '?' ∧ second = '?') ∨ first ∉ "AMD".toList ∨ second ≠ ' '
    | _ => false

end DodgingInfinity.PrDelivery
