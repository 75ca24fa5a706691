import DodgingInfinity.Json
import DodgingInfinity.Library.Checked
import DodgingInfinity.Library.Dict

/-!
# The retention coordinator store

One record per Mission whose local retention is tracked.  A record walks its
Mission through `observed`, `reclaiming`, `reclaimed` or `deleting`, `deleted`,
and keeps the summary of a reclaimed Mission.  Every load and every save
validates the whole document, and nothing in it is ever evicted.
-/

namespace DodgingInfinity.Retention

open Checked

def maxRetentionRecords : Nat := 4096
def maxSourceChars : Nat := 200
def maxDetailChars : Nat := 2000
def maxIdChars : Nat := 128
def maxRetainedFor : Nat := 64

inductive Family where
  | missionCore
  | workflowStore
  deriving DecidableEq

def Family.text : Family → String
  | .missionCore => "mission_core"
  | .workflowStore => "workflow_store"

inductive Phase where
  | observed
  | reclaiming
  | reclaimed
  | deleting
  | deleted
  deriving DecidableEq

/-- The phases whose payload is, or is being, removed. -/
def Phase.reduced : Phase → Bool
  | .observed => false
  | .reclaiming | .reclaimed | .deleting | .deleted => true

/-- What is known of a retained fact; only a recorded one carries a detail. -/
inductive FactState where
  | recorded
  | notRecorded
  | notRead
  | unreadable
  | notKnown
  deriving DecidableEq

structure Fact where
  state : FactState
  detail : Option String
  source : String
  deriving DecidableEq

structure Summary where
  finalState : String
  finalStateSource : String
  verdict : Fact
  ci : Fact
  comments : Fact
  deriving DecidableEq

structure RetentionRecord where
  key : String
  family : Family
  recordId : String
  firstEligibleObservedAt : Nat
  terminalAt : Option Nat
  terminalAtSource : Option String
  basis : String
  basisSource : String
  phase : Phase
  phaseAt : Nat
  summary : Option Summary
  /-- The Missions a reclaimed one's shared conversation is still kept for. -/
  retainedFor : List String
  deriving DecidableEq

abbrev RetentionDocument := Dict String RetentionRecord

def defaultDocument : RetentionDocument := .empty

/-- The one key a Mission's record is filed under. -/
def retentionKey (family : Family) (recordId : String) : String :=
  family.text ++ ":" ++ recordId

/-! ## Validation -/

inductive StoreProblem where
  | unreadable
  | full
  deriving DecidableEq

/-- The document is unreadable, invalid or full, and nothing was written. -/
structure StoreError where
  problem : StoreProblem
  location : String
  deriving DecidableEq

/-- Refuse the value at `location` when `bad` holds. -/
def badIf (bad : Prop) [Decidable bad] (location : String) : Except StoreError Unit :=
  failIf bad ⟨.unreadable, location⟩

def short (value : String) (limit : Nat) (location : String) : Except StoreError Unit :=
  badIf (value = "" ∨ limit < value.length) location

def shortOptional (value : Option String) (limit : Nat) (location : String) :
    Except StoreError Unit :=
  match value with
  | none => .ok ()
  | some text => short text limit location

def validateFact (fact : Fact) (location : String) : Except StoreError Unit := do
  shortOptional fact.detail maxDetailChars (location ++ ".detail")
  short fact.source maxDetailChars (location ++ ".source")
  badIf (fact.state = .recorded ∧ fact.detail = none) location
  badIf (fact.state ≠ .recorded ∧ fact.detail ≠ none) location

def validateSummary (summary : Summary) (location : String) :
    Except StoreError Unit := do
  short summary.finalState maxSourceChars (location ++ ".final_state")
  short summary.finalStateSource maxSourceChars (location ++ ".final_state_source")
  validateFact summary.verdict (location ++ ".verdict")
  validateFact summary.ci (location ++ ".ci")
  validateFact summary.comments (location ++ ".comments")

/-- A reclaimed Mission keeps its summary, an observed one may have captured it
already, and a tombstone is no hiding place for it. -/
def validateSummaryOf (record : RetentionRecord) (location : String) : Except StoreError Unit :=
  match record.phase, record.summary with
  | .reclaiming, none | .reclaimed, none => .error ⟨.unreadable, location⟩
  | .reclaiming, some summary | .reclaimed, some summary
  | .observed, some summary => validateSummary summary (location ++ ".summary")
  | .observed, none | .deleting, none | .deleted, none => .ok ()
  | .deleting, some _ | .deleted, some _ => .error ⟨.unreadable, location⟩

def validateRecord (key : String) (record : RetentionRecord)
    (location : String) : Except StoreError Unit := do
  short record.recordId maxIdChars (location ++ ".record_id")
  badIf (record.key ≠ key ∨ key ≠ retentionKey record.family record.recordId) location
  badIf (record.terminalAt.isNone ≠ record.terminalAtSource.isNone) location
  shortOptional record.terminalAtSource maxSourceChars (location ++ ".terminal_at_source")
  short record.basis maxSourceChars (location ++ ".basis")
  short record.basisSource maxSourceChars (location ++ ".basis_source")
  badIf (maxRetainedFor < record.retainedFor.length ∨ ¬ record.retainedFor.Nodup)
    (location ++ ".retained_for")
  checkAll (fun other => short other maxIdChars (location ++ ".retained_for[]")) record.retainedFor
  badIf (record.retainedFor ≠ [] ∧ record.phase ≠ .reclaimed) (location ++ ".retained_for")
  validateSummaryOf record location

def validateDocument (document : RetentionDocument) :
    Except StoreError Unit := do
  failIf (maxRetentionRecords < document.entries.length) ⟨.full, "records"⟩
  checkAll (fun entry => validateRecord entry.1 entry.2
    ("records[" ++ entry.1 ++ "]")) document.entries

/-- Add or replace one record, refused at the cap, never evicting. -/
def putRecord (document : RetentionDocument) (record : RetentionRecord) :
    Except StoreError RetentionDocument := do
  failIf (document.get? record.key = none ∧
    maxRetentionRecords ≤ document.entries.length) ⟨.full, "records"⟩
  validateRecord record.key record "record"
  pure (document.set record.key record)

/-! ## What a valid record says

A validation names the place it refuses, so whether it passes does not depend
on the place. -/

@[simp] theorem badIf_eq_ok (bad : Prop) [Decidable bad] (location : String)
    (passed : Unit) : badIf bad location = .ok passed ↔ ¬ bad := by
  simp [badIf]

@[simp] theorem short_eq_ok (value : String) (limit : Nat) (location : String)
    (passed : Unit) :
    short value limit location = .ok passed ↔
      value ≠ "" ∧ value.length ≤ limit := by
  simp [short]

@[simp] theorem shortOptional_eq_ok (value : Option String) (limit : Nat)
    (location : String) (passed : Unit) :
    shortOptional value limit location = .ok passed ↔
      ∀ text, value = some text → text ≠ "" ∧ text.length ≤ limit := by
  cases value <;> simp [shortOptional]

structure Fact.Valid (fact : Fact) : Prop where
  detail : ∀ text, fact.detail = some text → text ≠ "" ∧ text.length ≤ maxDetailChars
  source : fact.source ≠ "" ∧ fact.source.length ≤ maxDetailChars
  recorded : fact.state = .recorded ↔ fact.detail ≠ none

theorem validateFact_eq_ok (fact : Fact) (location : String) (passed : Unit) :
    validateFact fact location = .ok passed ↔ fact.Valid := by
  simp only [validateFact, bind_unit_eq_ok, shortOptional_eq_ok, short_eq_ok, badIf_eq_ok]
  constructor
  · rintro ⟨hdetail, hsource, hrecorded, hother⟩
    exact ⟨hdetail, hsource, by tauto⟩
  · rintro ⟨hdetail, hsource, hrecorded⟩
    exact ⟨hdetail, hsource, by tauto, by tauto⟩

structure Summary.Valid (summary : Summary) : Prop where
  finalState : summary.finalState ≠ "" ∧ summary.finalState.length ≤ maxSourceChars
  finalStateSource : summary.finalStateSource ≠ "" ∧
    summary.finalStateSource.length ≤ maxSourceChars
  verdict : summary.verdict.Valid
  ci : summary.ci.Valid
  comments : summary.comments.Valid

theorem validateSummary_eq_ok (summary : Summary) (location : String) (passed : Unit) :
    validateSummary summary location = .ok passed ↔ summary.Valid := by
  simp only [validateSummary, bind_unit_eq_ok, short_eq_ok, validateFact_eq_ok]
  constructor
  · rintro ⟨hfinal, hsource, hverdict, hci, hcomments⟩
    exact ⟨hfinal, hsource, hverdict, hci, hcomments⟩
  · rintro ⟨hfinal, hsource, hverdict, hci, hcomments⟩
    exact ⟨hfinal, hsource, hverdict, hci, hcomments⟩

structure RetentionRecord.Valid (record : RetentionRecord) : Prop where
  recordId : record.recordId ≠ "" ∧ record.recordId.length ≤ maxIdChars
  key : record.key = retentionKey record.family record.recordId
  terminalAt : record.terminalAt.isNone = record.terminalAtSource.isNone
  terminalAtSource : ∀ text, record.terminalAtSource = some text →
    text ≠ "" ∧ text.length ≤ maxSourceChars
  basis : record.basis ≠ "" ∧ record.basis.length ≤ maxSourceChars
  basisSource : record.basisSource ≠ "" ∧ record.basisSource.length ≤ maxSourceChars
  retainedFor : record.retainedFor.length ≤ maxRetainedFor ∧ record.retainedFor.Nodup
  retainedIds : ∀ other ∈ record.retainedFor, other ≠ "" ∧ other.length ≤ maxIdChars
  retaining : record.retainedFor ≠ [] → record.phase = .reclaimed
  summary : ∀ summary, record.summary = some summary → summary.Valid
  keepsSummary : record.phase = .reclaiming ∨ record.phase = .reclaimed → record.summary ≠ none
  dropsSummary : record.phase = .deleting ∨ record.phase = .deleted → record.summary = none

theorem validateSummaryOf_eq_ok (record : RetentionRecord) (location : String) (passed : Unit) :
    validateSummaryOf record location = .ok passed ↔
      (∀ summary, record.summary = some summary → summary.Valid) ∧
      (record.phase = .reclaiming ∨ record.phase = .reclaimed → record.summary ≠ none) ∧
      (record.phase = .deleting ∨ record.phase = .deleted →
        record.summary = none) := by
  unfold validateSummaryOf
  cases record.phase <;> cases record.summary <;> simp [validateSummary_eq_ok]

theorem validateRecord_eq_ok (key : String) (record : RetentionRecord)
    (location : String) (passed : Unit) : validateRecord key record location = .ok passed ↔
      record.key = key ∧ record.Valid := by
  simp only [validateRecord, bind_unit_eq_ok, badIf_eq_ok, short_eq_ok,
    shortOptional_eq_ok, checkAll_eq_ok, validateSummaryOf_eq_ok, not_or,
    not_and, not_not, ne_eq, not_lt]
  constructor
  · rintro ⟨hid, ⟨hkey, hfiled⟩, hat, hsource, hbasis, hbasisSource, hretained,
      hids, hretaining, hsummary, hkeeps, hdrops⟩
    exact ⟨hkey, hid, hkey.trans hfiled, hat, hsource, hbasis, hbasisSource,
      hretained, hids, hretaining, hsummary, hkeeps, hdrops⟩
  · rintro ⟨hkey, hid, hfiled, hat, hsource, hbasis, hbasisSource, hretained,
      hids, hretaining, hsummary, hkeeps, hdrops⟩
    exact ⟨hid, ⟨hkey, hkey.symm.trans hfiled⟩, hat, hsource, hbasis,
      hbasisSource, hretained, hids, hretaining, hsummary, hkeeps, hdrops⟩

/-- The document is within its cap and every record is valid under its key. -/
structure Valid (document : RetentionDocument) : Prop where
  bounded : document.entries.length ≤ maxRetentionRecords
  records : ∀ key record, document.get? key = some record → record.key = key ∧ record.Valid

theorem validateDocument_eq_ok (document : RetentionDocument) (passed : Unit) :
    validateDocument document = .ok passed ↔ Valid document := by
  simp only [validateDocument, bind_unit_eq_ok, failIf_eq_ok, checkAll_eq_ok,
    validateRecord_eq_ok, not_lt, Prod.forall, Dict.mem_entries_iff]
  constructor
  · rintro ⟨hbounded, hrecords⟩
    exact ⟨hbounded, hrecords⟩
  · rintro ⟨hbounded, hrecords⟩
    exact ⟨hbounded, hrecords⟩

theorem putRecord_eq_ok {document result : RetentionDocument}
    {record : RetentionRecord} : putRecord document record = .ok result ↔
      (document.get? record.key = none → document.entries.length < maxRetentionRecords) ∧
      record.Valid ∧ document.set record.key record = result := by
  simp only [putRecord, bind_unit_eq_ok, failIf_eq_ok, validateRecord_eq_ok,
    pure_eq_ok, not_and, not_le, true_and]

/-! ## The clock of a record -/

def retentionSeconds : Nat := 30 * 24 * 60 * 60

/-- The source-dated terminal time, or the first observation, plus the
retention period. -/
def deadline (record : RetentionRecord) : Nat :=
  record.terminalAt.getD record.firstEligibleObservedAt + retentionSeconds

/-- Exactly at the deadline is due. -/
def isDue (record : RetentionRecord) (now : Nat) : Bool :=
  deadline record ≤ now

end DodgingInfinity.Retention
