import DodgingInfinity.Library.Dict
import DodgingInfinity.Library.Program
import DodgingInfinity.PrDelivery.Record

/-!
# Deriving receipts

A receipt is derived from a still-valid record for exactly the step its phase
permits, within the attempt bound.  A git hook accepts nothing but an executing
receipt of its repository and step, bound to the facts it observes.
-/

namespace DodgingInfinity.PrDelivery

open Checked

/-- The number of attempts a step has had. -/
def attempts (entry : StepEntry) : Nat :=
  entry.voided.length + if entry.receipt.isSome then 1 else 0

/-- One evidence reference is bound to the candidate and the original base. -/
def requireEvidence (record : Record) (item : EvidenceReference) :
    Except Problem Unit := do
  failIf (item.candidateIdentityDigest ≠ record.authority.candidate.identityDigest) .evidenceStale
  failIf (item.baseOid ≠ record.authority.originalBaseline.commitSha) .evidenceStale

/-- Refuse with the first reason a receipt for the step may not be derived
now. -/
def preconditionProblem (record : Record) (step : Step) (now : Time) :
    Except Problem Unit := do
  failIf (step ∉ record.authority.allowedActions) .stepNotAllowed
  failIf (stepForPhase record.mode record.phase ≠ some step) .phaseForbidsStep
  failIf (isRevoked record = true) .revoked
  failIf (isExpired record now = true) .expired
  failIf (attempts (record.steps.get step) ≥ maxStepAttempts) .attemptsExhausted
  checkAll (requireEvidence record) record.authority.evidence

/-- The receipt of one attempt, under an identifier of its own. -/
def receiptOf [JsonDigest] (record : Record) (step : Step) (binding : Binding)
    (now : Time) (token : String) : Receipt :=
  let receipt : Receipt := {
    receiptId := "rcpt-" ++ token
    step := step
    deliveryId := record.deliveryId
    parentAuthorityDigest := record.authority.authorityDigest
    derivedAt := now
    attempt := (record.steps.get step).voided.length + 1
    state := .derived
    binding := binding
    observed := none
    receiptDigest := String.ofList (List.replicate 64 '0')
  }
  { receipt with receiptDigest := receipt.digest }

/-! ## The guard path -/

/-- The binding fields a git hook observes for itself; no hook observes the
creation of a pull request. -/
def liveFactFields : Step → Option (List String)
  | .commit => some ["repository_realpath", "git_dir_realpath", "branch",
      "source_ref", "head_before", "staged_sha256"]
  | .baseRefresh => some ["repository_realpath", "source_ref", "old_base_oid",
      "new_base_oid"]
  | .push => some ["repository_realpath", "remote_name", "remote_url_exact",
      "remote_url_push", "source_ref", "source_commit", "destination_ref",
      "expected_remote_old_oid"]
  | .prCreate => none

/-- What a hook observed: texts by binding field name, and the complete parent
list of the commit about to land, where the hook reads it; an unreadable list
is none. -/
structure LiveFacts where
  facts : Dict String String
  proposedParents : Option (Option (List Oid))

inductive GuardRefusal where
  | notCovered
  | noReceipt
  | ambiguous
  | revoked
  | expired
  | notAllowed
  | binding (field : String)
  | proposedParents
  deriving DecidableEq, Repr

/-- The executing receipt a record holds for a step. -/
def executingReceipt (record : Record) (step : Step) : Option Receipt :=
  if (record.steps.get step).state = .executing then
    (record.steps.get step).receipt.filter fun receipt =>
      receipt.state = .executing
  else none

/-- The deliveries of this repository that hold an executing receipt for the
step. -/
def executingReceiptsFor (records : List Record) (repoRoot : String)
    (step : Step) : List (Record × Receipt) :=
  (records.filter fun record =>
    record.authority.repository.realpath = repoRoot ∧
      record.phase ∉ terminalPhases).filterMap fun record =>
    (executingReceipt record step).map fun receipt => (record, receipt)

/-- The text a binding has under a field's name. -/
def Binding.field (binding : Binding) (name : String) : Option String :=
  match binding.fields.lookup name with
  | some (.text value) => some value
  | _ => none

/-- The first field whose live value is absent or another. -/
def bindingMismatch (receipt : Receipt) (live : LiveFacts) (fields : List String) : Option String :=
  fields.find? fun field =>
    (live.facts.get? field).isNone ||
      live.facts.get? field ≠ receipt.binding.field field

/-- A `prUpdate` commit may only land on the approved head. -/
def requireProposedParents (record : Record) (receipt : Receipt)
    (live : LiveFacts) : Except GuardRefusal Unit :=
  match record.mode, receipt.binding, live.proposedParents with
  | .prUpdate, .commit binding, some parents =>
      failIf (parents ≠ some [binding.headBefore]) .proposedParents
  | _, _, _ => .ok ()

def requireBinding (receipt : Receipt) (live : LiveFacts)
    (fields : List String) : Except GuardRefusal Unit :=
  match bindingMismatch receipt live fields with
  | some field => .error (.binding field)
  | none => .ok ()

/-- The decision on the one receipt that was found. -/
def judgeReceipt (record : Record) (receipt : Receipt) (step : Step)
    (live : LiveFacts) (fields : List String) (now : Time) :
    Except GuardRefusal Receipt := do
  failIf (isRevoked record = true) .revoked
  failIf (isExpired record now = true) .expired
  failIf (step ∉ record.authority.allowedActions) .notAllowed
  requireBinding receipt live fields
  requireProposedParents record receipt live
  pure receipt

/-- The decision of a git hook for one step, over the stored deliveries. -/
def guardDecision (records : List Record) (repoRoot : String) (step : Step)
    (live : LiveFacts) (now : Time) : Except GuardRefusal Receipt :=
  match liveFactFields step with
  | none => .error .notCovered
  | some fields =>
      match executingReceiptsFor records repoRoot step with
      | [] => .error .noReceipt
      | [(record, receipt)] => judgeReceipt record receipt step live fields now
      | _ => .error .ambiguous

end DodgingInfinity.PrDelivery

/-!
## The questions of the delivery machine

Everything the machine does outside its working copy of the record is a
question: a read of the store, a save under its lock, the clock, a random
token, or a verb of the transport.  Between two questions another process may
do anything.
-/

namespace DodgingInfinity.PrDelivery

/-- A pull request as GitHub shows it; a field that is absent or of another
type is none. -/
structure PrView where
  number : Option Int
  url : Option String
  state : Option String
  headRefName : Option String
  baseRefName : Option String
  headRefOid : Option Oid
  isCrossRepository : Option Bool
  deriving DecidableEq

structure CheckRun where
  name : String
  status : String
  conclusion : Option String
  deriving DecidableEq

/-- The closed verb set of the transport. -/
inductive Verb where
  -- reads
  | toplevel
  | gitDir
  | remoteUrl
  | remoteFetchUrl
  | remotePushUrl
  | symbolicRefHead
  | headOid
  | revParse (spec : String)
  | statusPorcelain
  | worktreeStatusZ
  | diffIndexRaw (baseOid : Oid)
  | diffTreeRaw (oldOid newOid : Oid)
  | stagedDiffSha256
  | writeTree
  | commitParentAndTree (oid : Option Oid)
  | commitParents (oid : Option Oid)
  | lsRemote (ref : String)
  | isAncestor (oldOid newOid : Oid)
  | ghPrList
  | ghPrView (number : Int)
  | ghCheckRuns (oid : Oid)
  -- writes
  | fetchRef (ref : String)
  | readTreeTwoWay (oldOid newOid : Oid)
  | updateRef (ref : String) (newOid oldOid : Oid)
  | commit
  | push (sourceRef destinationRef : String)
  | ghPrCreate (headBranch baseBranch : String)
  | runReverification (argv : List String)
  deriving DecidableEq

/-- What a verb answers when its call does not fail.  Directories come
resolved, as the machine resolves them at once. -/
def Verb.Answer : Verb → Type
  | toplevel | gitDir => String
  | remoteUrl | remoteFetchUrl | remotePushUrl | symbolicRefHead =>
      Option String
  | headOid | revParse _ => Option Oid
  | statusPorcelain => List String
  | worktreeStatusZ => Except Problem (List String)
  | diffIndexRaw _ | diffTreeRaw _ _ => RawDiff
  | stagedDiffSha256 => Digest
  | writeTree => Oid
  | commitParentAndTree _ => Option Oid × Option Oid
  | commitParents _ => List Oid
  | lsRemote _ => Option Oid
  | isAncestor _ _ => Bool
  | ghPrList => List (Option PrView)
  | ghPrView _ => Option PrView
  | ghCheckRuns _ => List CheckRun
  | runReverification _ => Reverification
  | fetchRef _ | readTreeTwoWay _ _ | updateRef _ _ _ | commit | push _ _
  | ghPrCreate _ _ => Unit

/-- A question of the machine. -/
inductive Call where
  | load (deliveryId : String)
  | save (record : Record)
  | clock
  | tokenHex
  | transport (verb : Verb)

/-- A store that could not be read, or has no such record; a save that did not
happen; a transport call that failed or returned unusable output. -/
inductive Failure where
  | store
  | missingRecord
  | transport
  deriving DecidableEq

/-- The answer to a question.  A read answers a record under its own
identifier, or the whole read is refused. -/
def Call.Answer : Call → Type
  | load deliveryId =>
      Except Failure { record : Record // record.deliveryId = deliveryId }
  | save _ => Except Failure Unit
  | clock => Time
  | tokenHex => String
  | transport verb => Except Failure verb.Answer

/-- What ends a step early. -/
inductive Fault where
  -- stop the step durably with a named problem
  | block (problem : Problem)
  -- the step's transport failed in a way that may be retried
  | retry
  | receipt (problem : Problem)
  | candidate (problem : Problem)
  | transport
  -- nothing catches these: a refused save or phase change, a store that fails
  | authorization (error : AuthorizationError)
  | store (failure : Failure)
  | expectedStep
  | typeError
  deriving DecidableEq

/-- A piece of the machine, over its working copy of one record. -/
abbrev Act (α : Type) : Type := Procedure Call Call.Answer Record Fault α

export Procedure (stop read change)

def question (call : Call) : Act call.Answer := Procedure.put call

def clock : Act Time := question .clock

def tokenHex : Act String := question .tokenHex

/-- Call the transport. -/
def ask (verb : Verb) : Act verb.Answer := do
  let answer : Except Failure verb.Answer ← question (.transport verb)
  match answer with
  | .ok answer => pure answer
  | .error _ => stop .transport

/-- Go on only with what was accepted. -/
def check {α : Type} : Except AuthorizationError α → Act α
  | .ok value => pure value
  | .error error => stop (.authorization error)

def blockIf (bad : Prop) [Decidable bad] (problem : Problem) : Act Unit :=
  if bad then stop (.block problem) else pure ()

/-- What a reader of raw output made of it. -/
def parsed {α : Type} : Except Problem α → Act α
  | .ok value => pure value
  | .error problem => stop (.candidate problem)

/-- A value that is there, or the block `problem`. -/
def orBlock {α : Type} (problem : Problem) : Option α → Act α
  | some value => pure value
  | none => stop (.block problem)

/-- Answer a failed transport call with something else. -/
def onTransportError {α : Type} (first handler : Act α) : Act α :=
  first.onFault fun
    | .transport => handler
    | fault => stop fault

/-- A failed transport call may be retried later. -/
def orRetry {α : Type} (first : Act α) : Act α :=
  onTransportError first (stop .retry)

def modifyEntry (step : Step) (f : StepEntry → StepEntry) : Act Unit :=
  change fun record =>
    { record with steps := record.steps.set step (f (record.steps.get step)) }

def setReceiptState (step : Step) (state : ReceiptState) : Act Unit :=
  modifyEntry step fun entry =>
    { entry with receipt := entry.receipt.map ({ · with state := state }) }

/-- A phase change of the working copy. -/
def transition (new : Phase) : Act Unit := do
  let now ← clock
  let record ← read
  let after ← check (applyTransition record new now)
  change fun _ => after

end DodgingInfinity.PrDelivery
