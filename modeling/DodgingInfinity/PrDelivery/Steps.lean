import DodgingInfinity.PrDelivery.Machine

/-!
# Live facts

What the machine reads of the repository, the remote and the pull request
before and after an effect, and what it requires of them.
-/

namespace DodgingInfinity.PrDelivery

/-- The working tree is the authorized repository with its authorized remote
and, where required, its source branch checked out. -/
def checkRepository (requireBranch : Bool) : Act Unit := do
  let record ← read
  let authority := record.authority
  let toplevel : String ← ask .toplevel
  blockIf (toplevel ≠ authority.repository.realpath) .wrongRepository
  let gitDir : String ← ask .gitDir
  blockIf (gitDir ≠ authority.repository.gitDirRealpath) .wrongRepository
  let configured : Option String ← ask .remoteUrl
  let fetched : Option String ← ask .remoteFetchUrl
  let pushed : Option String ← ask .remotePushUrl
  blockIf (configured ≠ some authority.remote.urlExact) .wrongRemote
  blockIf (fetched ≠ some authority.remote.urlFetch) .wrongRemote
  blockIf (pushed ≠ some authority.remote.urlPush) .wrongRemote
  if requireBranch then do
    let headRef : Option String ← ask .symbolicRefHead
    blockIf (headRef ≠ some authority.source.ref) .branchNotCheckedOut
  else pure ()

/-- The staged candidate, with nothing left unstaged. -/
def liveCandidate (baseOid : Oid) : Act (List CandidateEntry) := do
  let lines : List String ← ask .statusPorcelain
  blockIf (porcelainUnstaged lines ≠ none) .candidateUnstaged
  let raw : RawDiff ← ask (.diffIndexRaw baseOid)
  parsed raw.entries

def requireCandidateMatches (entries : List CandidateEntry) : Act Unit := do
  let record ← read
  match compare record.authority.candidate.entries entries with
  | some problem => stop (.block problem)
  | none => pure ()

/-- The working-tree rule of a `prUpdate`: the staged index is the candidate,
and every dirty path is disjoint from it. -/
def requireUpdateCandidate (baseOid : Oid) : Act Unit := do
  let status : Except Problem (List String) ← ask .worktreeStatusZ
  let dirty ← parsed status
  let raw : RawDiff ← ask (.diffIndexRaw baseOid)
  let entries ← parsed raw.entries
  requireCandidateMatches entries
  let record ← read
  blockIf (overlaps record.authority.candidate.paths dirty ≠ []) .worktreeOverlap

/-- The first way the live pull request is not exactly the authorized one. -/
def prUpdateIdentityProblem (viewed : Option PrView) (authority : Authority)
    (number : Nat) (expectedHead : Oid) : Option Problem :=
  match viewed with
  | some ⟨some shown, some url, some state, some headRefName, some baseRefName,
      some headRefOid, some isCrossRepository⟩ =>
      if shown ≠ number then some .prIdentityUnsupported
      else if isHex headRefOid 40 = false then some .prIdentityUnsupported
      else match Canonical.canonicalizeTargetUrl url,
          Canonical.canonicalizeTargetUrl authority.repository.repositoryUrl with
        | .ok target, .ok repository =>
            if target.kind ≠ some .pullRequest ∨ target.number ≠ some number ∨
                Canonical.sameRepositoryIdentity target repository = false then
              some .prIdentityUnsupported
            else if isCrossRepository then some .prIdentityUnsupported
            else if state = "MERGED" then some .prMerged
            else if state = "CLOSED" then some .prClosed
            else if state ≠ "OPEN" then some .prIdentityUnsupported
            else if headRefName ≠ authority.source.branch then
              some .prHeadBranchMismatch
            else if baseRefName ≠ authority.targetBase.branch then
              some .prBaseBranchMismatch
            else if headRefOid ≠ expectedHead then some .prHeadDrift
            else none
        | _, _ => some .prIdentityUnsupported
  | _ => some .prIdentityUnsupported

/-- The number of the pull request a `prUpdate` is authorized for. -/
def prUpdateAuthority : Act PrUpdateAuthority := do
  let record ← read
  match record.authority.kind with
  | .prUpdate authority => pure authority
  | .pullRequest => stop .typeError

/-- The live pull request is the authorized one at this head, and so is the
live remote head ref. -/
def requirePrUpdateIdentity (expectedHead : Oid) : Act Unit := do
  let record ← read
  let authority ← prUpdateAuthority
  let viewed : Option PrView ← ask (.ghPrView authority.pullRequestNumber)
  match prUpdateIdentityProblem viewed record.authority
      authority.pullRequestNumber expectedHead with
  | some problem => stop (.block problem)
  | none => do
      let remoteHead : Option Oid ← ask (.lsRemote record.authority.source.ref)
      blockIf (remoteHead ≠ some expectedHead) .prRefMismatch

def pendingHistoryRefs : List String :=
  ["MERGE_HEAD", "CHERRY_PICK_HEAD", "REVERT_HEAD"]

/-- The first of these pseudo-refs that exists. -/
def pendingAmong : List String → Act (Option String)
  | [] => pure none
  | name :: rest => do
      let found : Option Oid ← ask (.revParse name)
      if found.isSome then pure (some name) else pendingAmong rest

def pendingHistory : Act (Option String) := pendingAmong pendingHistoryRefs

def requireNoPendingHistory : Act Unit := do
  let pending ← pendingHistory
  blockIf (pending ≠ none) .pendingMerge

/-- The commit's complete parent list is exactly this parent. -/
def requireOneNewCommit (commitOid : Option Oid) (parentOid : Oid) :
    Act Unit := do
  let parents : List Oid ← ask (.commitParents commitOid)
  blockIf (parents ≠ [parentOid]) .commitParents

def remoteBase : Act Oid := do
  let record ← read
  let oid : Option Oid ← ask (.lsRemote record.authority.targetBase.ref)
  orBlock .baseRefMissing oid

/-- The SHA-256 digest of a list of byte strings, each framed by its length. -/
class FramedDigest where
  framedDigest : List String → String

export FramedDigest (framedDigest)

/-- Fetch the new base, prove that it is a fast-forward and that it is disjoint
from the candidate. -/
def proveDisjointAdvance [FramedDigest] (oldOid newOid : Oid) : Act Digest := do
  let record ← read
  let _fetched : Unit ← ask (.fetchRef record.authority.targetBase.ref)
  let present : Option Oid ← ask (.revParse newOid)
  blockIf (present ≠ some newOid) .baseRefMissing
  let ancestor : Bool ← ask (.isAncestor oldOid newOid)
  blockIf (ancestor = false) .baseNotFastForward
  let raw : RawDiff ← ask (.diffTreeRaw oldOid newOid)
  let changed ← parsed raw.paths
  blockIf (overlaps record.authority.candidate.paths changed ≠ []) .baseOverlap
  pure (framedDigest (sortedBy id changed))

def redConclusions : List String :=
  ["failure", "timed_out", "cancelled", "action_required", "startup_failure"]

def CheckRun.isRed (run : CheckRun) : Bool :=
  ∃ conclusion ∈ run.conclusion, conclusion ∈ redConclusions

def baseCi (oid : Oid) : Act BaseCi := do
  let runs : List CheckRun ← orRetry (ask (.ghCheckRuns oid))
  if runs = [] then pure .none
  else do
    blockIf (∃ run ∈ runs, run.isRed = true) .baseCiRed
    pure (if ∃ run ∈ runs, run.status ≠ "completed" then .pending else .green)

def reverify : Act Reverification := do
  let record ← read
  let observed : Reverification ← ask (.runReverification record.authority.argv)
  blockIf (observed.exitStatus ≠ 0) .reverificationFailed
  pure observed

end DodgingInfinity.PrDelivery

/-!
## The steps of a delivery

Each step settles a receipt that an earlier attempt left, or derives a fresh
one, performs its effect and records what it observed.
-/

namespace DodgingInfinity.PrDelivery

variable [JsonDigest] [FramedDigest]

/-- A receipt that an earlier attempt left without a proven result. -/
def leftReceipt (step : Step) : Act (Option Receipt) := do
  let record ← read
  pure ((record.steps.get step).receipt.filter fun receipt =>
    receipt.state = .executing ∨ receipt.state = .failedRetryable)

/-! ## Base refresh -/

def finishBaseRefresh (newBase : Oid) : Act Unit := do
  let entries ← liveCandidate newBase
  requireCandidateMatches entries
  let ci ← baseCi newBase
  let observed ← reverify
  let now ← clock
  change fun record => { record with
    baseState := { record.baseState with
      currentBaseOid := newBase
      refreshedAt := some now } }
  succeed .baseRefresh (.baseRefreshed observed ci newBase) .baseCurrent

/-- The index against a base is exactly the candidate. -/
def indexMatches (baseOid : Oid) : Act Bool := do
  let record ← read
  let raw : RawDiff ← ask (.diffIndexRaw baseOid)
  let entries ← parsed raw.entries
  pure (compare record.authority.candidate.entries entries = none)

def reconcileBaseRefresh (binding : BaseRefreshBinding) : Act Unit := do
  let record ← read
  let head : Option Oid ← ask .headOid
  if head = some binding.newBaseOid then do
    setReceiptState .baseRefresh .executing
    finishBaseRefresh binding.newBaseOid
  else do
    blockIf (head ≠ some binding.oldBaseOid) .unexpectedRefMovement
    -- the ref is still at the old base; the index tells whether the tree moved
    let moved ← indexMatches binding.newBaseOid
    if moved then do
      setReceiptState .baseRefresh .executing
      let _swapped : Unit ← orRetry (ask (.updateRef record.authority.source.ref
        binding.newBaseOid binding.oldBaseOid))
      finishBaseRefresh binding.newBaseOid
    else do
      let kept ← indexMatches binding.oldBaseOid
      if kept then do
        void .baseRefresh
        persist
      else stop (.block .candidateIdentity)

def deriveBaseRefresh : Act Unit := do
  let record ← read
  let authority := record.authority
  let current := record.baseState.currentBaseOid
  let head : Option Oid ← ask .headOid
  blockIf (head ≠ some current) .headNotAtBase
  let entries ← liveCandidate current
  requireCandidateMatches entries
  let newBase ← remoteBase
  if newBase = current then do
    modifyEntry .baseRefresh ({ · with state := .notNeeded })
    transition .baseCurrent
    persist
  else do
    let changed ← proveDisjointAdvance current newBase
    start .baseRefresh (.baseRefresh {
      repositoryRealpath := authority.repository.realpath
      gitDirRealpath := authority.repository.gitDirRealpath
      remoteName := authority.remote.name
      remoteUrlExact := authority.remote.urlExact
      remoteUrlFetch := authority.remote.urlFetch
      sourceRef := authority.source.ref
      baseRef := authority.targetBase.ref
      oldBaseOid := current
      newBaseOid := newBase
      fastForward := true
      baseChangedPathsDigest := changed
      candidateIdentityDigest := authority.candidate.identityDigest })
    let _merged : Unit ← orRetry (ask (.readTreeTwoWay current newBase))
    let _swapped : Unit ← orRetry (ask (.updateRef authority.source.ref newBase
      current))
    finishBaseRefresh newBase

def stepBaseRefresh : Act Unit := do
  checkRepository true
  let left ← leftReceipt .baseRefresh
  match left with
  | none => deriveBaseRefresh
  | some receipt =>
      match receipt.binding with
      | .baseRefresh binding => reconcileBaseRefresh binding
      | _ => stop .typeError

/-! ## Commit -/

/-- A `prUpdate` commit is one new commit on the approved head. -/
def requireUpdateCommit (commitOid : Option Oid) : Act Unit := do
  let record ← read
  if record.mode = .prUpdate then
    requireOneNewCommit commitOid record.authority.originalBaseline.commitSha
  else pure ()

def observeCommit (binding : CommitBinding) : Act Unit := do
  let newHead : Option Oid ← ask .headOid
  let found : Option Oid × Option Oid ← ask (.commitParentAndTree newHead)
  blockIf (found.1 ≠ some binding.headBefore ∨
    found.2 ≠ some binding.expectedTreeOid) .commitResultMismatch
  requireUpdateCommit newHead
  match newHead with
  | none => stop .typeError
  | some commitOid => do
      let raw : RawDiff ← ask (.diffTreeRaw binding.headBefore commitOid)
      let entries ← parsed raw.entries
      requireCandidateMatches entries
      succeed .commit (.committed commitOid) .committed

/-- Whether the left receipt is settled; otherwise it was voided and a fresh
derivation may proceed. -/
def reconcileCommit (binding : CommitBinding) : Act Bool := do
  let head : Option Oid ← ask .headOid
  if head = some binding.headBefore then do
    void .commit
    persist
    pure false
  else do
    let found : Option Oid × Option Oid ← ask (.commitParentAndTree head)
    blockIf (found.1 ≠ some binding.headBefore ∨
      found.2 ≠ some binding.expectedTreeOid) .unexpectedRefMovement
    requireUpdateCommit head
    setReceiptState .commit .executing
    observeCommit binding
    pure true

/-- A commit call that failed: a pending operation that appeared after the
check is a refusal, anything else may be retried. -/
def commitFailed (update : Bool) (current : Oid) : Act Unit := do
  if update then do
    let head : Option Oid ← ask .headOid
    if head = some current then do
      let pending ← pendingHistory
      match pending with
      | some _ => do
          void .commit
          stop (.block .pendingMerge)
      | none => stop .retry
    else stop .retry
  else stop .retry

/-- The staged hash of a `prUpdate` is the approved one. -/
def requireStaged (staged : Digest) : Act Unit := do
  let record ← read
  match record.authority.kind with
  | .pullRequest => pure ()
  | .prUpdate authority =>
      blockIf (staged ≠ authority.stagedSha256) .stagedHashMismatch

def requireStagedCandidate (current : Oid) : Act Unit := do
  let record ← read
  if record.mode = .prUpdate then do
    requireNoPendingHistory
    requirePrUpdateIdentity current
    requireUpdateCandidate current
  else do
    let entries ← liveCandidate current
    requireCandidateMatches entries

def deriveCommit : Act Unit := do
  let record ← read
  let authority := record.authority
  let current := record.baseState.currentBaseOid
  let head : Option Oid ← ask .headOid
  blockIf (head ≠ some current) .headNotAtBase
  requireStagedCandidate current
  let staged : Digest ← ask .stagedDiffSha256
  requireStaged staged
  let tree : Oid ← ask .writeTree
  let binding : CommitBinding := {
    repositoryRealpath := authority.repository.realpath
    gitDirRealpath := authority.repository.gitDirRealpath
    branch := authority.source.branch
    sourceRef := authority.source.ref
    headBefore := current
    stagedSha256 := staged
    candidateIdentityDigest := authority.candidate.identityDigest
    expectedTreeOid := tree
    committerName := authority.committer.name
    committerEmail := authority.committer.email
    messageSha256 := authority.prText.messageSha256 }
  start .commit (.commit binding)
  onTransportError (ask .commit) (commitFailed (authority.kind.mode = .prUpdate) current)
  observeCommit binding

def stepCommit : Act Unit := do
  checkRepository true
  let left ← leftReceipt .commit
  match left with
  | none => deriveCommit
  | some receipt =>
      match receipt.binding with
      | .commit binding => do
          let settled ← reconcileCommit binding
          if settled then pure () else deriveCommit
      | _ => stop .typeError

/-! ## Base advances after the commit -/

/-- An overlap found after the commit has a problem of its own. -/
def afterCommit {α : Type} (first : Act α) : Act α :=
  first.onFault fun
    | .block .baseOverlap => stop (.block .baseAdvancedOverlappingAfterCommit)
    | fault => stop fault

def handlePostCommitAdvance (commitOid : Oid) : Act Unit := do
  let record ← read
  let current := record.baseState.currentBaseOid
  let newBase ← remoteBase
  if newBase = current then pure ()
  else do
    let _changed ← afterCommit (proveDisjointAdvance current newBase)
    let raw : RawDiff ← ask (.diffTreeRaw current commitOid)
    let entries ← parsed raw.entries
    requireCandidateMatches entries
    let _ci ← baseCi newBase
    let now ← clock
    change fun record => { record with
      baseState := { record.baseState with
        currentBaseOid := newBase
        advanceAfterCommit := some ⟨current, newBase, now⟩ } }
    persist

/-! ## Push -/

/-- The commit that the record says was made. -/
def recordedCommit (record : Record) : Option Oid :=
  match (record.steps.get .commit).receipt with
  | some ⟨_, _, _, _, _, _, _, _, some (.committed oid), _⟩ =>
      if oid.toList.length = 40 then some oid else none
  | _ => none

def commitOid : Act Oid := do
  let record ← read
  orBlock .commitResultMismatch (recordedCommit record)

def observePush (binding : PushBinding) : Act Unit := do
  let remoteOid : Option Oid ← ask (.lsRemote binding.destinationRef)
  blockIf (remoteOid ≠ some binding.sourceCommit) .unexpectedRefMovement
  succeed .push (.pushed false binding.sourceCommit) .pushed

/-- Whether the left receipt is settled; otherwise it was voided and a fresh
derivation may proceed. -/
def reconcilePush (binding : PushBinding) : Act Bool := do
  let remoteOid : Option Oid ← ask (.lsRemote binding.destinationRef)
  if remoteOid = some binding.sourceCommit then do
    setReceiptState .push .executing
    succeed .push (.pushed true binding.sourceCommit) .pushed
    pure true
  else do
    blockIf (remoteOid.getD zeroOid ≠ binding.expectedRemoteOldOid) .unexpectedRefMovement
    void .push
    persist
    pure false

/-- What the destination holds before the push, which the push may only
fast-forward. -/
def pushOldOid (commit : Oid) : Act Oid := do
  let record ← read
  handlePostCommitAdvance commit
  let held : Option Oid ← ask (.lsRemote record.authority.source.ref)
  match held with
  | none => pure zeroOid
  | some oid =>
      if oid = commit then pure oid
      else do
        let ancestor : Bool ← ask (.isAncestor oid commit)
        blockIf (ancestor = false) .unexpectedRefMovement
        pure oid

/-- A `prUpdate` pushes onto exactly the approved head. -/
def prUpdatePushOldOid (commit : Oid) : Act Oid := do
  let record ← read
  let expected := record.authority.originalBaseline.commitSha
  requireOneNewCommit (some commit) expected
  requirePrUpdateIdentity expected
  pure expected

def expectedRemoteOld (commit : Oid) : Act Oid := do
  let record ← read
  if record.mode = .prUpdate then prUpdatePushOldOid commit
  else pushOldOid commit

def derivePush (commit : Oid) : Act Unit := do
  let record ← read
  let authority := record.authority
  let head : Option Oid ← ask .headOid
  blockIf (head ≠ some commit) .unexpectedRefMovement
  let expectedOld ← expectedRemoteOld commit
  let binding : PushBinding := {
    repositoryRealpath := authority.repository.realpath
    remoteName := authority.remote.name
    remoteUrlExact := authority.remote.urlExact
    remoteUrlPush := authority.remote.urlPush
    sourceRef := authority.source.ref
    sourceCommit := commit
    destinationRef := authority.source.ref
    expectedRemoteOldOid := expectedOld
    candidateIdentityDigest := authority.candidate.identityDigest }
  start .push (.push binding)
  -- already on the remote exactly: adopted, never pushed again
  if expectedOld = commit then
    succeed .push (.pushed true commit) .pushed
  else do
    let _pushed : Unit ← orRetry (ask (.push authority.source.ref
      authority.source.ref))
    observePush binding

def stepPush : Act Unit := do
  checkRepository true
  let commit ← commitOid
  let left ← leftReceipt .push
  match left with
  | none => derivePush commit
  | some receipt =>
      match receipt.binding with
      | .push binding => do
          let settled ← reconcilePush binding
          if settled then pure () else derivePush commit
      | _ => stop .typeError

/-! ## Pull request -/

/-- The open state, in any case. -/
def PrView.isOpen (view : PrView) : Bool :=
  (view.state.getD "").toUpper = "OPEN"

/-- The listed pull requests of exactly this head and base branch. -/
def sameRefs (authority : Authority) (listed : List (Option PrView)) : List PrView :=
  (listed.filterMap id).filter fun view =>
    view.headRefName = some authority.source.branch ∧
      view.baseRefName = some authority.targetBase.branch

/-- Adopt the one exact open pull request, report absence, or block. -/
def prDisposition (headSha : Oid) : Act (Option PrView) := do
  let record ← read
  let listed : List (Option PrView) ← ask .ghPrList
  let matching := sameRefs record.authority listed
  let exact_ := matching.filter fun view =>
    view.headRefOid = some headSha ∧ view.isOpen = true
  let other := matching.filter fun view =>
    view.headRefOid ≠ some headSha ∧ view.isOpen = true
  let exactNotOpen := matching.filter fun view =>
    view.headRefOid = some headSha ∧ view.isOpen = false
  blockIf (exactNotOpen ≠ []) .prNotOpen
  match exact_, other with
  | [view], [] => pure (some view)
  | [], [] => pure none
  | _, _ => stop (.block .prAmbiguous)

def recordPullRequest (view : PrView) : Act Unit := do
  let record ← read
  match Canonical.canonicalizeTargetUrl (view.url.getD "None") with
  | .error _ => stop (.block .prResultMismatch)
  | .ok target =>
      match Canonical.canonicalizeRepositoryUrl
          record.authority.repository.repositoryUrl with
      | .error _ =>
          if target.kind ≠ some .pullRequest then
            stop (.block .prResultMismatch)
          else stop .typeError
      | .ok repository => do
          blockIf (target.kind ≠ some .pullRequest ∨
            Canonical.sameRepositoryIdentity target repository = false)
            .prResultMismatch
          change fun record => { record with
            pullRequest := some {
              number := target.number.getD 0
              url := target.canonicalUrl
              headSha := view.headRefOid.getD "None"
              baseRef := record.authority.targetBase.ref } }

def adoptPr (item : PrView) (reconciled : Bool) : Act Unit := do
  match item.number with
  | none => stop .typeError
  | some number => do
      let viewed : Option PrView ← ask (.ghPrView number)
      let record ← read
      match viewed, (record.steps.get .prCreate).receipt with
      | some view, some ⟨_, _, _, _, _, _, _, .prCreate binding, _, _⟩ => do
          blockIf (view.headRefOid ≠ some binding.headSha ∨
            view.baseRefName ≠ some binding.baseBranch ∨
            view.headRefName ≠ some binding.headBranch) .prResultMismatch
          recordPullRequest view
          let record ← read
          match record.pullRequest with
          | none => stop .typeError
          | some pullRequest => do
              succeed .prCreate (.prOpened reconciled pullRequest.number pullRequest.url) .prOpened
              transition .complete
              persist
      | _, _ => stop .typeError

/-- Whether the left receipt is settled; otherwise it was voided and a fresh
derivation may proceed. -/
def reconcilePrCreate (binding : PrCreateBinding) : Act Bool := do
  let existing ← prDisposition binding.headSha
  match existing with
  | some view => do
      setReceiptState .prCreate .executing
      adoptPr view true
      pure true
  | none => do
      void .prCreate
      persist
      pure false

def createPr (headSha : Oid) : Act Unit := do
  let record ← read
  let _created : Unit ← orRetry (ask (.ghPrCreate record.authority.source.branch
    record.authority.targetBase.branch))
  let created ← prDisposition headSha
  let view ← orBlock .prResultMismatch created
  adoptPr view false

def derivePrCreate (headSha : Oid) : Act Unit := do
  handlePostCommitAdvance headSha
  let record ← read
  let authority := record.authority
  let remoteOid : Option Oid ← ask (.lsRemote authority.source.ref)
  blockIf (remoteOid ≠ some headSha) .unexpectedRefMovement
  start .prCreate (.prCreate {
    owner := authority.repository.owner
    repo := authority.repository.repo
    remoteUrlExact := authority.remote.urlExact
    headBranch := authority.source.branch
    headSha := headSha
    baseBranch := authority.targetBase.branch
    titleSha256 := authority.prText.titleSha256
    bodySha256 := authority.prText.bodySha256
    candidateIdentityDigest := authority.candidate.identityDigest })
  let existing ← prDisposition headSha
  match existing with
  | some view => adoptPr view true
  | none => createPr headSha

def stepPrCreate : Act Unit := do
  checkRepository false
  let headSha ← commitOid
  let left ← leftReceipt .prCreate
  match left with
  | none => derivePrCreate headSha
  | some receipt =>
      match receipt.binding with
      | .prCreate binding => do
          let settled ← reconcilePrCreate binding
          if settled then pure () else derivePrCreate headSha
      | _ => stop .typeError

/-- From pushed to complete for a `prUpdate`: an observation without effect.
A pull request still at the approved head is retried, never assumed. -/
def observePrUpdate : Act Unit := do
  checkRepository false
  let commit ← commitOid
  let record ← read
  let remoteHead : Option Oid ← ask (.lsRemote record.authority.source.ref)
  blockIf (remoteHead ≠ some commit) .unexpectedRefMovement
  let authority ← prUpdateAuthority
  let viewed : Option PrView ← ask (.ghPrView authority.pullRequestNumber)
  match prUpdateIdentityProblem viewed record.authority
      authority.pullRequestNumber commit, viewed with
  | none, some view => do
      recordPullRequest view
      transition .complete
      persist
  | some problem, some view =>
      if problem = .prHeadDrift ∧ view.headRefOid =
          some record.authority.originalBaseline.commitSha then stop .retry
      else stop (.block problem)
  | some problem, none => stop (.block problem)
  | none, none => stop .typeError

end DodgingInfinity.PrDelivery
