import DodgingInfinity.Library.Numerals
import DodgingInfinity.TargetBroker.Receipts

/-!
# Owned roots

A spawn leaves a directory that names its nonce, its process group and the
start time of the group's leader.  Recovery reads the directories that are
there and kills a group only where the start time it finds now is the one that
was recorded.
-/

namespace DodgingInfinity.ProcessOwnership

open TargetBroker (strip)

/-! ## The process table -/

/-- What a process group does when it is killed. -/
inductive Fate where
  | refuses
  | lingers
  | dies (polls : Nat)
  deriving DecidableEq

/-- The process table as a process asks it. -/
structure ProcessTable where
  /-- The groups with a live member. -/
  groups : Int → Option Fate
  /-- What `ps` prints as the start of a process, where it answers. -/
  started : Int → Option (List Char)
  /-- The groups that were sent a `SIGKILL`. -/
  killed : List Int

/-- What a call ends with that handles none of it. -/
inductive Raised where
  | undecodable
  | overflow
  deriving DecidableEq

inductive Verdict where
  | reaped
  | alreadyGone
  | refused
  deriving DecidableEq

/-- The system call takes a C integer. -/
def isGroupArgument (pgid : Int) : Prop := -2 ^ 31 ≤ pgid ∧ pgid < 2 ^ 31

instance (pgid : Int) : Decidable (isGroupArgument pgid) :=
  inferInstanceAs (Decidable (_ ∧ _))

/-- `killpg(pgid, 0)`: a group nobody may signal counts as alive. -/
def groupAlive (table : ProcessTable) (pgid : Int) : Except Raised Bool :=
  if isGroupArgument pgid then .ok (table.groups pgid).isSome else .error .overflow

/-- The start time `ps` prints for a process, or none. -/
def leaderStartTime (table : ProcessTable) (pid : Int) : Option (List Char) :=
  if pid ≤ 1 then none
  else match table.started pid with
    | none => none
    | some printed => if strip printed = [] then none else some (strip printed)

/-- Time passes for a group that was killed, and its leader is waited for. -/
def ProcessTable.waited (table : ProcessTable) (pgid : Int) : ProcessTable where
  groups := match table.groups pgid with
    | some (.dies 0) => Function.update table.groups pgid none
    | some (.dies (polls + 1)) => Function.update table.groups pgid (some (.dies polls))
    | _ => table.groups
  started := table.started
  killed := table.killed

/-- A `SIGKILL` for a group. -/
def ProcessTable.kill (table : ProcessTable) (pgid : Int) : ProcessTable where
  groups := table.groups
  started := table.started
  killed := table.killed ++ [pgid]

/-- Poll until the group is gone, as often as the time to settle allows. -/
def settle (pgid : Int) : Nat → ProcessTable → Bool × ProcessTable
  | 0, table => (false, table)
  | polls + 1, table =>
      let later := table.waited pgid
      if (later.groups pgid).isSome then settle pgid polls later else (true, later)

/-- What follows a `SIGKILL` that was delivered: a reap by the ledger looks once
more when the time is over, a reap by a root does not. -/
def awaitEnd (polls : Nat) (last : Bool) (pgid : Int) (table : ProcessTable) :
    Verdict × ProcessTable :=
  let outcome := settle pgid polls table
  if outcome.1 then (.reaped, outcome.2)
  else if last then
    let later := outcome.2.waited pgid
    (if (later.groups pgid).isSome then .refused else .reaped, later)
  else (.refused, outcome.2)

/-- Kill a group and wait for its end. -/
def killAndWait (polls : Nat) (last : Bool) (pgid : Int) (table : ProcessTable) :
    Verdict × ProcessTable :=
  match table.groups pgid with
  | none => (.alreadyGone, table)
  | some .refuses => (.refused, table.kill pgid)
  | some _ => awaitEnd polls last pgid (table.kill pgid)

def reapGroupByRecordedRoot (polls : Nat) (pgid : Int) (table : ProcessTable) :
    Except Raised Verdict × ProcessTable :=
  if isGroupArgument pgid then
    (.ok (killAndWait polls false pgid table).1, (killAndWait polls false pgid table).2)
  else (.error .overflow, table)

/-! ## The directories -/

/-- A file as a reader of text finds it. -/
inductive Reading where
  | absent
  | unreadable
  | undecodable
  | text (content : List Char)
  deriving DecidableEq

/-- A directory under the owned roots. -/
structure Root where
  name : List Char
  nonceFile : Reading
  startFile : Reading
  pgidFile : Reading
  deriving DecidableEq

/-- What a root durably claims. -/
structure OwnedRecord where
  nonce : Option (List Char)
  pgid : Option Int
  leaderStart : Option (List Char)
  deriving DecidableEq

/-- The stripped text of a file; bytes that are no text are not handled. -/
def readText (file : Reading) : Except Raised (Option (List Char)) :=
  match file with
  | .absent => .ok none
  | .unreadable => .ok none
  | .undecodable => .error .undecodable
  | .text content => .ok (some (strip content))

/-- A text that says something. -/
def nonempty (text : List Char) : Option (List Char) := if text = [] then none else some text

/-- A number that is not zero. -/
def nonzero (number : Int) : Option Int := if number = 0 then none else some number

def ownedRootRecord (root : Root) : Except Raised OwnedRecord := do
  let nonce ← readText root.nonceFile
  let start ← readText root.startFile
  let pgid ← readText root.pgidFile
  pure {
    nonce := nonce.bind nonempty
    pgid := (pgid.bind Numerals.readInteger).bind nonzero
    leaderStart := start.bind nonempty }

/-- Why a live group is left alone. -/
inductive Reason where
  | noNonce
  | nonceMismatch
  | noStart
  | startMismatch
  deriving DecidableEq

/-- What the record of a root says of a group: it is ours; it is not shown to be;
or nothing is said of it. -/
inductive Corroboration where
  | ours (pgid : Int)
  | unproven (reason : Reason)
  | silent
  deriving DecidableEq

/-- The corroboration of a record with the process table. -/
def corroborate (name : List Char) (record : OwnedRecord) (table : ProcessTable) : Corroboration :=
  match record.pgid with
  | none => .silent
  | some pgid =>
      match record.nonce with
      | none => .unproven .noNonce
      | some nonce =>
          if nonce ≠ name then .unproven .nonceMismatch
          else match record.leaderStart with
            | none => .unproven .noStart
            | some recorded =>
                match leaderStartTime table pgid with
                | none => .silent
                | some live => if live ≠ recorded then .unproven .startMismatch else .ours pgid

def groupIsOurs (root : Root) (table : ProcessTable) : Except Raised Corroboration := do
  let record ← ownedRootRecord root
  pure (corroborate root.name record table)

/-- The group id in a root's file, if the file can be read as one. -/
def stampedGroup (root : Root) : Option Int :=
  match root.pgidFile with
  | .text content => Numerals.readInteger (strip content)
  | _ => none

/-- An entry under the owned roots: a directory, or a file of another kind. -/
inductive Entry where
  | directory (root : Root)
  | other

def Entry.root? : Entry → Option Root
  | .directory root => some root
  | .other => none

/-- Every owned root on disk with its group id, in the order of their names. -/
def ownedRoots (disk : List Entry) : List (Root × Option Int) :=
  ((disk.filterMap Entry.root?).insertionSort fun root other => root.name ≤ other.name).map
    fun root => (root, stampedGroup root)

/-! ## Recovery -/

/-- What recovery says of one root. -/
inductive Report where
  | recovered (pgid : Int)
  | stuck (pgid : Int)
  | unstamped (name : List Char)
  | uncorroborated (name : List Char) (pgid : Int) (reason : Reason)
  deriving DecidableEq

/-- What a verdict on a group puts it under. -/
def reportOf (pgid : Int) (verdict : Verdict) : Report :=
  if verdict = .refused then .stuck pgid else .recovered pgid

/-- What is done about a live group. -/
def settleRoot (polls : Nat) (root : Root) (pgid : Int) (table : ProcessTable) :
    Except Raised (Option Report) × ProcessTable :=
  match groupIsOurs root table with
  | .error raised => (.error raised, table)
  | .ok .silent => (.ok none, table)
  | .ok (.unproven reason) => (.ok (some (.uncorroborated root.name pgid reason)), table)
  | .ok (.ours held) =>
      let outcome := reapGroupByRecordedRoot polls held table
      (outcome.1.map fun verdict => some (reportOf held verdict), outcome.2)

/-- One turn of the recovery's loop. -/
def examineRoot (own : Int) (polls : Nat) (entry : Root × Option Int) (table : ProcessTable) :
    Except Raised (Option Report) × ProcessTable :=
  match entry.2 with
  | none => (.ok (some (.unstamped entry.1.name)), table)
  | some pgid =>
      if pgid ≤ 1 ∨ pgid = own then (.ok none, table)
      else match groupAlive table pgid with
        | .error raised => (.error raised, table)
        | .ok false => (.ok none, table)
        | .ok true => settleRoot polls entry.1 pgid table

/-- The four lists recovery returns. -/
structure Recovery where
  recovered : List Int
  stuck : List Int
  unstamped : List (List Char)
  uncorroborated : List (List Char × Int × Reason)
  deriving DecidableEq

def Recovery.empty : Recovery := ⟨[], [], [], []⟩

def Recovery.add (result : Recovery) (report : Option Report) : Recovery :=
  match report with
  | none => result
  | some (.recovered pgid) => { result with recovered := result.recovered ++ [pgid] }
  | some (.stuck pgid) => { result with stuck := result.stuck ++ [pgid] }
  | some (.unstamped name) => { result with unstamped := result.unstamped ++ [name] }
  | some (.uncorroborated name pgid reason) =>
      { result with uncorroborated := result.uncorroborated ++ [(name, pgid, reason)] }

/-- The loop over the roots; what is raised ends it without a result. -/
def recoverRoots (own : Int) (polls : Nat) :
    List (Root × Option Int) → Recovery → ProcessTable → Except Raised Recovery × ProcessTable
  | [], result, table => (.ok result, table)
  | entry :: rest, result, table =>
      let outcome := examineRoot own polls entry table
      match outcome.1 with
      | .error raised => (.error raised, outcome.2)
      | .ok report => recoverRoots own polls rest (result.add report) outcome.2

/-- Reap the live groups that the owned roots on disk record, for a caller whose
own group is `own`. -/
def recoverOrphans (own : Int) (polls : Nat) (disk : List Entry) (table : ProcessTable) :
    Except Raised Recovery × ProcessTable :=
  recoverRoots own polls (ownedRoots disk) .empty table

end DodgingInfinity.ProcessOwnership
