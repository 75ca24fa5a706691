import DodgingInfinity.Library.Transition
import DodgingInfinity.ProcessOwnership.Roots

/-!
# Owned spawns and the paths that reap them

A spawn records itself in steps: a pending record and a directory before the
process exists, a stamp by the child, an entry in the ledger and a second stamp by
the parent.  A caller may crash between any two of them, processes end at any time,
and a number that is free may be handed to anybody.  Three paths send signals: a
reap by the ledger, a sweep over the ledger, and the recovery from the directories.
-/

namespace DodgingInfinity.ProcessOwnership

open TargetBroker (strip)

/-- A start time as `leaderStartTime` gives it. -/
structure StartTime where
  text : List Char
  stripped : strip text = text
  nonempty : text ≠ []

inductive Leader where
  | running
  | zombie
  | gone
  deriving DecidableEq

/-- How far the child of a spawn has stamped itself. -/
inductive Stage where
  | fresh
  | started
  | stamped
  deriving DecidableEq

/-- A process group: when its leader started, the nonce of the owned spawn it was
started by, if it was one, and what its leader does. -/
structure Holder where
  start : StartTime
  spawn : Option (List Char)
  leader : Leader
  stage : Stage

/-- A number that was handed to a process group. -/
structure Handing where
  number : Int
  start : StartTime
  spawn : Option (List Char)

/-! ## The ledger -/

inductive LedgerRow where
  | pending (nonce : List Char)
  | group (pgid : Int) (nonce : List Char)
  deriving DecidableEq

/-- The rows of every ledger, each with the directory it is in. -/
abbrev Ledgers := List (String × LedgerRow)

def recordPending (nonce : List Char) (directory : Option String) (ledgers : Ledgers) : Ledgers :=
  match directory with
  | none => ledgers
  | some place => ledgers ++ [(place, .pending nonce)]

def recordOwnedGroup (pgid : Int) (nonce : List Char) (directory : Option String)
    (ledgers : Ledgers) : Ledgers :=
  match directory with
  | none => ledgers
  | some place => ledgers ++ [(place, .group pgid nonce)]

def groupOfRow (place : String) (row : String × LedgerRow) : Option Int :=
  match row.2 with
  | .pending _ => none
  | .group pgid _ => if row.1 = place then some pgid else none

/-- Every process group id the ledger of a directory names. -/
def ownedGroups (directory : Option String) (ledgers : Ledgers) : List Int :=
  match directory with
  | none => []
  | some place => (ledgers.filterMap (groupOfRow place)).dedup

/-- Reap a group the ledger names: neither group 0 nor 1, nor the caller's own. -/
def reapOwned (own : Int) (polls : Nat) (owned : List Int) (pgid : Int)
    (table : ProcessTable) : Except Raised Verdict × ProcessTable :=
  if pgid ≤ 1 ∨ pgid = own ∨ pgid ∉ owned then (.ok .refused, table)
  else if isGroupArgument pgid then
    (.ok (killAndWait polls true pgid table).1, (killAndWait polls true pgid table).2)
  else (.error .overflow, table)

/-- The groups of the ledger that have a live member. -/
def survivingOwnedGroups (owned : List Int) (table : ProcessTable) : List Int :=
  (owned.filter fun pgid => (table.groups pgid).isSome).insertionSort (· ≤ ·)

/-- What a sweep reports: the groups that were reaped and those that were not. -/
structure Swept where
  reaped : List Int
  stuck : List Int

def Swept.add (swept : Swept) (pgid : Int) (verdict : Verdict) : Swept :=
  if verdict = .refused then { swept with stuck := swept.stuck ++ [pgid] }
  else { swept with reaped := swept.reaped ++ [pgid] }

/-! ## The stamps -/

/-- Write the start time into the roots of a name, if it could be read. -/
def stampStart (name : List Char) (start : Option (List Char)) (roots : List Root) : List Root :=
  roots.map fun root =>
    match start with
    | none => root
    | some text => if root.name = name then { root with startFile := .text text } else root

/-- Write the group id into the roots of a name. -/
def stampGroup (name : List Char) (pgid : Int) (roots : List Root) : List Root :=
  roots.map fun root =>
    if root.name = name then { root with pgidFile := .text (Nat.toDigits 10 pgid.toNat) }
    else root

/-- Write the nonce into the roots of a name. -/
def writeNonce (name : List Char) (roots : List Root) : List Root :=
  roots.map fun root => if root.name = name then { root with nonceFile := .text name } else root

def bareRoot (name : List Char) : Root where
  name := name
  nonceFile := .absent
  startFile := .absent
  pgidFile := .absent

/-! ## Callers -/

/-- What a spawn is called with. -/
structure Spawn where
  nonce : List Char
  directory : Option String

/-- What a caller is about to do. -/
inductive Activity where
  | idle
  | recordsPending (spawn : Spawn)
  | createsRoot (spawn : Spawn)
  | writesNonce (spawn : Spawn)
  | starts (spawn : Spawn)
  | recordsGroup (spawn : Spawn) (pgid : Int)
  | stampsStart (spawn : Spawn) (pgid : Int)
  | stampsGroup (spawn : Spawn) (pgid : Int)
  | sweeps (directory : Option String) (left : List Int) (swept : Swept)
  | recovers (left : List (List Char × Option Int)) (result : Recovery)

/-- The spawn a caller is at. -/
def Activity.spawn? : Activity → Option Spawn
  | .recordsPending spawn => some spawn
  | .createsRoot spawn => some spawn
  | .writesNonce spawn => some spawn
  | .starts spawn => some spawn
  | .recordsGroup spawn _ => some spawn
  | .stampsStart spawn _ => some spawn
  | .stampsGroup spawn _ => some spawn
  | _ => none

/-- The process a caller has started and not finished recording. -/
def Activity.child? : Activity → Option (Spawn × Int)
  | .recordsGroup spawn pgid => some (spawn, pgid)
  | .stampsStart spawn pgid => some (spawn, pgid)
  | .stampsGroup spawn pgid => some (spawn, pgid)
  | _ => none

/-- The callers, the records on disk and the process groups; and, of the past, what
every number was handed to, the nonces that were drawn, and the numbers that were not
recorded since they were last handed out. -/
structure World (Caller : Type) where
  activity : Caller → Activity
  ledgers : Ledgers
  roots : List Root
  held : Int → Option Holder
  handed : List Handing
  nonces : List (List Char)
  unrecorded : List Int

variable {Caller : Type} [DecidableEq Caller]

def World.initial : World Caller where
  activity := fun _ => .idle
  ledgers := []
  roots := []
  held := fun _ => none
  handed := []
  nonces := []
  unrecorded := []

/-- What a process sees of the world: a group for each number that is held, and a start
only of a leader that is there. -/
structure Shows (world : World Caller) (table : ProcessTable) : Prop where
  groups : ∀ number, (table.groups number).isSome = (world.held number).isSome
  started : ∀ number printed, table.started number = some printed →
    ∃ holder, world.held number = some holder ∧ holder.leader ≠ .gone ∧
      strip printed = holder.start.text
  quiet : table.killed = []

/-- A number and a start time that no group has or had together. -/
structure Free (world : World Caller) (number : Int) (start : StartTime) : Prop where
  unheld : world.held number = none
  range : 1 < number ∧ number < 2 ^ 31
  apart : ∀ handing ∈ world.handed, handing.number = number → handing.start.text ≠ start.text

/-- No caller is still recording the process of a number, so that nothing keeps its
exit status from being collected. -/
def Collectable (world : World Caller) (number : Int) : Prop :=
  ∀ caller spawn, (world.activity caller).child? ≠ some (spawn, number)

def World.goOn (world : World Caller) (caller : Caller) (activity : Activity) : World Caller :=
  { world with activity := Function.update world.activity caller activity }

/-- A group begins under a free number. -/
def World.handOut (world : World Caller) (number : Int) (start : StartTime)
    (spawn : Option (List Char)) : World Caller :=
  { world with
    held := Function.update world.held number (some ⟨start, spawn, .running, .fresh⟩)
    handed := ⟨number, start, spawn⟩ :: world.handed
    unrecorded := number :: world.unrecorded }

/-- What becomes of the group of a number. -/
def World.turn (world : World Caller) (number : Int) (holder : Option Holder) : World Caller :=
  { world with held := Function.update world.held number holder }

/-- The number of a spawn has been recorded. -/
def World.noted (world : World Caller) (number : Int) : World Caller :=
  { world with unrecorded := world.unrecorded.filter (· ≠ number) }

/-- An entry in the ledger; without a directory there is none. -/
def World.enter (world : World Caller) (spawn : Spawn) (pgid : Int) : World Caller :=
  match spawn.directory with
  | none => world
  | some _ =>
      { world.noted pgid with
        ledgers := recordOwnedGroup pgid spawn.nonce spawn.directory world.ledgers }

/-- The start time written into a spawn's root. -/
def World.stampStart (world : World Caller) (nonce : List Char)
    (start : Option (List Char)) : World Caller :=
  { world with roots := ProcessOwnership.stampStart nonce start world.roots }

/-- The group id written into a spawn's root. -/
def World.stampGroup (world : World Caller) (nonce : List Char) (pgid : Int) : World Caller :=
  { world.noted pgid with roots := ProcessOwnership.stampGroup nonce pgid world.roots }

inductive Path where
  | ledger
  | root
  deriving DecidableEq

/-- A `SIGKILL` for a group, and the path it was sent on. -/
structure Signal where
  path : Path
  pgid : Int
  deriving DecidableEq

def signalsOf (path : Path) (table : ProcessTable) : List Signal :=
  table.killed.map fun pgid => ⟨path, pgid⟩

/-- What a sweep goes on with after a turn. -/
def afterSweep (directory : Option String) (pgid : Int) (left : List Int) (swept : Swept)
    (outcome : Except Raised Verdict) : Activity :=
  match outcome with
  | .error _ => .idle
  | .ok verdict => .sweeps directory left (swept.add pgid verdict)

/-- What a recovery goes on with after a turn. -/
def afterRecovery (left : List (List Char × Option Int)) (result : Recovery)
    (outcome : Except Raised (Option Report)) : Activity :=
  match outcome with
  | .error _ => .idle
  | .ok report => .recovers left (result.add report)

/-- One step, with the signals it sends.  A caller is one process, and does one thing
after another. -/
inductive Step (world : World Caller) : List Signal → World Caller → Prop where
  | begin (caller : Caller) (spawn : Spawn) (hidle : world.activity caller = .idle)
      (hfresh : spawn.nonce ∉ world.nonces) :
      Step world []
        { world.goOn caller (.recordsPending spawn) with nonces := spawn.nonce :: world.nonces }
  | recordPending (caller : Caller) (spawn : Spawn)
      (hat : world.activity caller = .recordsPending spawn) :
      Step world []
        { world.goOn caller (.createsRoot spawn) with
          ledgers := recordPending spawn.nonce spawn.directory world.ledgers }
  | createRoot (caller : Caller) (spawn : Spawn)
      (hat : world.activity caller = .createsRoot spawn) :
      Step world []
        { world.goOn caller (.writesNonce spawn) with
          roots := world.roots ++ [bareRoot spawn.nonce] }
  | writeNonce (caller : Caller) (spawn : Spawn)
      (hat : world.activity caller = .writesNonce spawn) :
      Step world []
        { world.goOn caller (.starts spawn) with roots := writeNonce spawn.nonce world.roots }
  | start (caller : Caller) (spawn : Spawn) (number : Int) (start : StartTime)
      (hat : world.activity caller = .starts spawn) (hfree : Free world number start) :
      Step world []
        ((world.handOut number start (some spawn.nonce)).goOn caller (.recordsGroup spawn number))
  | recordGroup (caller : Caller) (spawn : Spawn) (pgid : Int)
      (hat : world.activity caller = .recordsGroup spawn pgid) :
      Step world [] ((world.enter spawn pgid).goOn caller (.stampsStart spawn pgid))
  | parentStart (caller : Caller) (spawn : Spawn) (pgid : Int) (table : ProcessTable)
      (hat : world.activity caller = .stampsStart spawn pgid) (hshows : Shows world table) :
      Step world []
        ((world.stampStart spawn.nonce (leaderStartTime table pgid)).goOn caller
          (.stampsGroup spawn pgid))
  | parentGroup (caller : Caller) (spawn : Spawn) (pgid : Int)
      (hat : world.activity caller = .stampsGroup spawn pgid) :
      Step world [] ((world.stampGroup spawn.nonce pgid).goOn caller .idle)
  | childStart (number : Int) (holder : Holder) (nonce : List Char) (table : ProcessTable)
      (hheld : world.held number = some holder) (hspawn : holder.spawn = some nonce)
      (hrunning : holder.leader = .running) (hstage : holder.stage = .fresh)
      (hshows : Shows world table) :
      Step world []
        ((world.stampStart nonce (leaderStartTime table number)).turn number
          (some { holder with stage := .started }))
  | childGroup (number : Int) (holder : Holder) (nonce : List Char)
      (hheld : world.held number = some holder) (hspawn : holder.spawn = some nonce)
      (hrunning : holder.leader = .running) (hstage : holder.stage = .started) :
      Step world []
        ((world.stampGroup nonce number).turn number (some { holder with stage := .stamped }))
  | crash (caller : Caller) : Step world [] (world.goOn caller .idle)
  | leaderExits (number : Int) (holder : Holder) (hheld : world.held number = some holder)
      (hrunning : holder.leader = .running) :
      Step world [] (world.turn number (some { holder with leader := .zombie }))
  | leaderCollected (number : Int) (holder : Holder) (hheld : world.held number = some holder)
      (hcollectable : Collectable world number) :
      Step world [] (world.turn number (some { holder with leader := .gone }))
  | groupEnds (number : Int) (hcollectable : Collectable world number) :
      Step world [] (world.turn number none)
  | foreign (number : Int) (start : StartTime) (hfree : Free world number start) :
      Step world [] (world.handOut number start none)
  | reap (caller : Caller) (directory : Option String) (own pgid : Int) (polls : Nat)
      (table : ProcessTable) (hidle : world.activity caller = .idle)
      (hshows : Shows world table) :
      Step world (signalsOf .ledger
        (reapOwned own polls (ownedGroups directory world.ledgers) pgid table).2) world
  | sweepBegin (caller : Caller) (directory : Option String) (table : ProcessTable)
      (hidle : world.activity caller = .idle) (hshows : Shows world table) :
      Step world [] (world.goOn caller (.sweeps directory
        (survivingOwnedGroups (ownedGroups directory world.ledgers) table) ⟨[], []⟩))
  | sweepTurn (caller : Caller) (directory : Option String) (own pgid : Int) (polls : Nat)
      (left : List Int) (swept : Swept) (table : ProcessTable)
      (hat : world.activity caller = .sweeps directory (pgid :: left) swept)
      (hshows : Shows world table) :
      Step world
        (signalsOf .ledger
          (reapOwned own polls (ownedGroups directory world.ledgers) pgid table).2)
        (world.goOn caller (afterSweep directory pgid left swept
          (reapOwned own polls (ownedGroups directory world.ledgers) pgid table).1))
  | sweepEnd (caller : Caller) (directory : Option String) (swept : Swept)
      (hat : world.activity caller = .sweeps directory [] swept) :
      Step world [] (world.goOn caller .idle)
  | recoveryBegin (caller : Caller) (hidle : world.activity caller = .idle) :
      Step world [] (world.goOn caller (.recovers
        ((ownedRoots (world.roots.map .directory)).map fun entry => (entry.1.name, entry.2))
        .empty))
  | recoveryTurn (caller : Caller) (own : Int) (polls : Nat) (listed : Option Int)
      (left : List (List Char × Option Int)) (result : Recovery) (table : ProcessTable)
      (root : Root) (hroot : root ∈ world.roots)
      (hat : world.activity caller = .recovers ((root.name, listed) :: left) result)
      (hshows : Shows world table) :
      Step world (signalsOf .root (examineRoot own polls (root, listed) table).2)
        (world.goOn caller (afterRecovery left result
          (examineRoot own polls (root, listed) table).1))
  | recoveryEnd (caller : Caller) (result : Recovery)
      (hat : world.activity caller = .recovers [] result) :
      Step world [] (world.goOn caller .idle)

/-- A world that some run ends in. -/
def Reached (world : World Caller) : Prop :=
  Transition.Reachable (fun earlier later => ∃ signals, Step earlier signals later)
    World.initial world

end DodgingInfinity.ProcessOwnership
