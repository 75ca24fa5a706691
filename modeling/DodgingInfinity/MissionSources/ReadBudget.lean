import DodgingInfinity.Library.Counting
import Mathlib.Data.List.Basic
import Mathlib.Tactic.Common

/-!
# Bounded reads of one private file

The file is checked before and after it is opened, and then read in chunks, at
most one byte past the bound.  A refusal that comes before the first chunk has
read nothing.
-/

namespace DodgingInfinity.MissionSources

inductive FileProblem where
  | absent
  | symlink
  | notRegular
  | tooLarge
  | permissionsOpen
  | unreadable
  deriving DecidableEq

/-- The refusals that come before any byte is read. -/
def fileZeroByteRefusals : List FileProblem := [.absent, .symlink, .notRegular, .permissionsOpen]

def FileProblem.zeroByte (problem : FileProblem) : Bool := problem ∈ fileZeroByteRefusals

end DodgingInfinity.MissionSources

/-!
## The shared read budget of a refresh

Every read of a refresh holds, before it is made, the most it can pull from disk,
against the shared budget and against its own stage.  It settles to what it
pulled, or keeps its hold.  Reads overlap in any order, and one that cannot be
held is counted and not made.
-/

namespace DodgingInfinity.MissionSources

open Weights

/-! ## Ledgers and holds -/

structure Ledger where
  total : Int
  charged : Int

def Ledger.remaining (ledger : Ledger) : Int := ledger.total - ledger.charged

def Ledger.charge (ledger : Ledger) (amount : Int) : Ledger :=
  { ledger with charged := ledger.charged + amount }

/-- One read's hold on its ledgers: the shared one, and that of its stage if it has
one. -/
structure ReadHold where
  stage : Option Nat
  allowance : Int
  held : Int
  closed : Bool

/-- What a reader does under its hold. -/
inductive HoldCall where
  | pull (bytes : Nat)
  | settle (pulled : Int)
  | failed (beforeAnyByte : Bool)
  | refused (problem : FileProblem)

/-- The reader pulls at most its allowance and the byte that detects an overrun, under
an open hold; it settles to exactly what it pulled, and says that it failed before any
byte only where it pulled none. -/
def Honest (allowance : Int) : Nat → Bool → List HoldCall → Prop
  | _, _, [] => True
  | pulled, closed, .pull bytes :: rest =>
      closed = false ∧ ((pulled + bytes : Nat) : Int) ≤ allowance + 1 ∧
        Honest allowance (pulled + bytes) closed rest
  | pulled, closed, .settle count :: rest =>
      (closed = false → count = pulled) ∧ Honest allowance pulled true rest
  | pulled, closed, .failed beforeAnyByte :: rest =>
      (closed = false → beforeAnyByte = true → pulled = 0) ∧ Honest allowance pulled true rest
  | pulled, closed, .refused problem :: rest =>
      (closed = false → problem.zeroByte = true → pulled = 0) ∧ Honest allowance pulled true rest

/-- A reader: what it does for every allowance it is given. -/
structure Read where
  calls : Int → List HoldCall
  honest : ∀ allowance, 0 ≤ allowance → Honest allowance 0 false (calls allowance)

/-- A read that was held: how much it has pulled, what its closing gave back, and what
its reader has still to do. -/
structure Reading where
  hold : ReadHold
  pulled : Nat
  returned : Int
  rest : List HoldCall

/-- What the read is charged. -/
def Reading.kept (reading : Reading) : Int := reading.hold.held - reading.returned

def Reading.close (reading : Reading) (returned : Int) : Reading where
  hold := { reading.hold with closed := true }
  pulled := reading.pulled
  returned := returned
  rest := reading.rest

def maxQueryInputBytes : Nat := 67108864

/-- The shared budget, its stages in the order they were opened, and its reads. -/
structure RefreshReadBudget where
  shared : Ledger
  stages : List Ledger
  readings : List Reading
  refusedReads : Nat

namespace RefreshReadBudget

def noteRefused (budget : RefreshReadBudget) : RefreshReadBudget :=
  { budget with refusedReads := budget.refusedReads + 1 }

def stage (budget : RefreshReadBudget) : RefreshReadBudget :=
  { budget with stages := budget.stages ++ [⟨maxQueryInputBytes, 0⟩] }

/-- The shared ledger, or that of a stage. -/
def ledger? (budget : RefreshReadBudget) : Option Nat → Option Ledger
  | none => some budget.shared
  | some index => budget.stages[index]?

/-- Change what the shared ledger and a stage's are charged. -/
def charge (budget : RefreshReadBudget) (stage : Option Nat) (amount : Int) :
    RefreshReadBudget where
  shared := budget.shared.charge amount
  stages := match stage with
    | none => budget.stages
    | some index => budget.stages.modify index fun ledger => ledger.charge amount
  readings := budget.readings
  refusedReads := budget.refusedReads

/-- What is left in the ledger of a hold that has the least. -/
def room (budget : RefreshReadBudget) (stage : Option Nat) : Int :=
  match stage.bind fun index => budget.stages[index]? with
  | none => budget.shared.remaining
  | some ledger => min budget.shared.remaining ledger.remaining

/-- The bound of a read, shrunk to what remains unless it is fixed. -/
def allowance (room bound : Int) (fixed : Bool) : Int :=
  if fixed then bound else min bound (room - 1)

/-- The hold of one read of at most so many bytes. -/
def hold (budget : RefreshReadBudget) (stage : Option Nat) (bound : Int) (fixed : Bool) :
    Option ReadHold :=
  let allowance := allowance (budget.room stage) bound fixed
  if allowance < 0 ∨ allowance + 1 > budget.room stage then none
  else some ⟨stage, allowance, allowance + 1, false⟩

/-- A stage that was opened. -/
def opened (budget : RefreshReadBudget) (stage : Option Nat) : Option Nat :=
  stage.filter fun index => index < budget.stages.length

/-- Take a hold and begin its read, or count the read as refused. -/
def read (budget : RefreshReadBudget) (stage : Option Nat) (bound : Int) (fixed : Bool)
    (reader : Read) : RefreshReadBudget :=
  match budget.hold (budget.opened stage) bound fixed with
  | none => budget.noteRefused
  | some hold =>
      let charged := budget.charge hold.stage hold.held
      { charged with readings := charged.readings ++ [⟨hold, 0, 0, reader.calls hold.allowance⟩] }

/-- Close an open hold and give back a part of it. -/
def close (budget : RefreshReadBudget) (index : Nat) (reading : Reading) (returned : Int) :
    RefreshReadBudget :=
  if reading.hold.closed then
    { budget with readings := budget.readings.set index reading }
  else
    let charged := budget.charge reading.hold.stage (-returned)
    { charged with readings := charged.readings.set index (reading.close returned) }

def settle (budget : RefreshReadBudget) (index : Nat) (reading : Reading) (pulled : Int) :
    RefreshReadBudget :=
  budget.close index reading (reading.hold.held - min (max pulled 0) reading.hold.held)

def failed (budget : RefreshReadBudget) (index : Nat) (reading : Reading)
    (beforeAnyByte : Bool) : RefreshReadBudget :=
  budget.close index reading (if beforeAnyByte then reading.hold.held else 0)

/-- The next thing a read's reader does. -/
def go (budget : RefreshReadBudget) (index : Nat) : RefreshReadBudget :=
  match budget.readings[index]? with
  | none => budget
  | some reading =>
      match reading.rest with
      | [] => budget
      | .pull bytes :: rest =>
          let pulled := { reading with pulled := reading.pulled + bytes, rest := rest }
          { budget with readings := budget.readings.set index pulled }
      | .settle pulled :: rest => budget.settle index { reading with rest := rest } pulled
      | .failed beforeAnyByte :: rest =>
          budget.failed index { reading with rest := rest } beforeAnyByte
      | .refused problem :: rest =>
          budget.failed index { reading with rest := rest } problem.zeroByte

end RefreshReadBudget

/-- What can happen to a budget: a stage is opened, a read is asked for, a reader goes
on with its read, a refusal is noted. -/
inductive BudgetEvent where
  | stage
  | read (stage : Option Nat) (bound : Int) (fixed : Bool) (reader : Read)
  | go (index : Nat)
  | noteRefused

def RefreshReadBudget.apply (budget : RefreshReadBudget) : BudgetEvent → RefreshReadBudget
  | .stage => budget.stage
  | .read stage bound fixed reader => budget.read stage bound fixed reader
  | .go index => budget.go index
  | .noteRefused => budget.noteRefused

def RefreshReadBudget.run (budget : RefreshReadBudget) (events : List BudgetEvent) :
    RefreshReadBudget :=
  events.foldl RefreshReadBudget.apply budget

/-! ## What every run keeps -/

/-- The reads that are charged to a ledger. -/
def onLedger : Option Nat → Reading → Bool
  | none, _ => true
  | some index, reading => reading.hold.stage = some index

/-- The total a ledger is opened with. -/
def ledgerTotal (total : Nat) : Option Nat → Int
  | none => total
  | some _ => maxQueryInputBytes

/-- A read that pulled no more than it is charged. -/
structure Reading.Sound (reading : Reading) : Prop where
  held_eq : reading.hold.held = reading.hold.allowance + 1
  allowed : 0 ≤ reading.hold.allowance
  pulled_le : (reading.pulled : Int) ≤ reading.kept
  returned_nonneg : 0 ≤ reading.returned
  unreturned : reading.hold.closed = false → reading.returned = 0
  honest : Honest reading.hold.allowance reading.pulled reading.hold.closed reading.rest

/-- Every ledger is charged what its reads are, within its total. -/
structure RefreshReadBudget.Sound (total : Nat) (budget : RefreshReadBudget) : Prop where
  readings : ∀ reading ∈ budget.readings, reading.Sound
  opened : ∀ reading ∈ budget.readings, ∀ index, reading.hold.stage = some index →
    index < budget.stages.length
  charged : ∀ id ledger, budget.ledger? id = some ledger →
    ledger.charged = weigh (onLedger id) Reading.kept budget.readings ∧
      ledger.charged ≤ ledger.total ∧ ledger.total = ledgerTotal total id

variable {budget : RefreshReadBudget} {total : Nat}

theorem ledger?_charge (stage id : Option Nat) (amount : Int) :
    (budget.charge stage amount).ledger? id =
      (budget.ledger? id).map fun ledger =>
        if id = none ∨ id = stage then ledger.charge amount else ledger := by
  cases id with
  | none => rfl
  | some index =>
      cases stage with
      | none => simp [RefreshReadBudget.ledger?, RefreshReadBudget.charge]
      | some other =>
          simp only [RefreshReadBudget.ledger?, RefreshReadBudget.charge,
            List.getElem?_modify, reduceCtorEq, false_or, Option.some.injEq]
          by_cases h : other = index
          · simp [h]
          · have hne : ¬ index = other := fun heq => h heq.symm
            simp [h, hne]

/-- What an open ledger has left bounds the room of its holds. -/
theorem room_le {stage id : Option Nat} {ledger : Ledger}
    (hledger : budget.ledger? id = some ledger) (hid : id = none ∨ id = stage) :
    budget.room stage ≤ ledger.remaining := by
  unfold RefreshReadBudget.room
  rcases hid with rfl | rfl
  · obtain rfl := Option.some.inj hledger
    split
    · exact le_refl _
    · exact min_le_left _ _
  · cases id with
    | none =>
        obtain rfl := Option.some.inj hledger
        exact le_refl _
    | some index =>
        simp only [RefreshReadBudget.ledger?] at hledger
        simp only [Option.bind_some, hledger]
        exact min_le_right _ _

theorem hold_eq_some {stage : Option Nat} {bound : Int} {fixed : Bool} {hold : ReadHold}
    (h : budget.hold stage bound fixed = some hold) :
    0 ≤ hold.allowance ∧ hold.allowance + 1 ≤ budget.room stage ∧
      hold = ⟨stage, hold.allowance, hold.allowance + 1, false⟩ := by
  unfold RefreshReadBudget.hold at h
  simp only at h
  split at h
  · cases h
  · rename_i hroom
    obtain rfl := Option.some.inj h
    simp only [not_or, not_lt] at hroom
    exact ⟨hroom.1, hroom.2, rfl⟩

/-! ## Steps -/

namespace RefreshReadBudget

/-- Charging a hold that has room keeps every ledger within its total, and what it is
charged in step with its reads. -/
theorem Sound.charge {stage : Option Nat} {amount : Int} {readings : List Reading}
    (h : budget.Sound total)
    (hroom : ∀ id ledger, budget.ledger? id = some ledger → id = none ∨ id = stage →
      amount ≤ ledger.remaining) (hreadings : ∀ reading ∈ readings, reading.Sound)
    (hopened : ∀ reading ∈ readings, ∀ index, reading.hold.stage = some index →
      index < budget.stages.length)
    (hkept : ∀ id, (id = none ∨ ∃ index, id = some index ∧ index < budget.stages.length) →
      weigh (onLedger id) Reading.kept readings = weigh (onLedger id) Reading.kept budget.readings +
        if id = none ∨ id = stage then amount else 0) :
    Sound total { budget.charge stage amount with readings := readings } where
  readings := hreadings
  opened := by
    intro reading hmem index hindex
    have hlength : (budget.charge stage amount).stages.length = budget.stages.length := by
      cases stage <;> simp [RefreshReadBudget.charge]
    exact hlength ▸ hopened reading hmem index hindex
  charged := by
    intro id ledger hledger
    change (budget.charge stage amount).ledger? id = some ledger at hledger
    rw [ledger?_charge] at hledger
    obtain ⟨before, hbefore, rfl⟩ := Option.map_eq_some_iff.mp hledger
    obtain ⟨hcharged, hle, htotal⟩ := h.charged id before hbefore
    have hid : id = none ∨ ∃ index, id = some index ∧ index < budget.stages.length := by
      cases id with
      | none => exact .inl rfl
      | some index => exact .inr ⟨index, rfl, (List.getElem?_eq_some_iff.mp hbefore).choose⟩
    rw [hkept id hid]
    split
    · rename_i hon
      have hamount := hroom id before hbefore hon
      unfold Ledger.remaining at hamount
      simp only [Ledger.charge]
      exact ⟨by omega, by omega, htotal⟩
    · exact ⟨by omega, hle, htotal⟩

theorem Sound.noteRefused (h : budget.Sound total) : budget.noteRefused.Sound total :=
  ⟨h.readings, h.opened, h.charged⟩

theorem Sound.stage (h : budget.Sound total) : budget.stage.Sound total where
  readings := h.readings
  opened := by
    intro reading hmem index hindex
    have hlt := h.opened reading hmem index hindex
    simp only [RefreshReadBudget.stage, List.length_append, List.length_singleton]
    omega
  charged := by
    intro id ledger hledger
    cases id with
    | none => exact h.charged none ledger hledger
    | some index =>
        simp only [ledger?, RefreshReadBudget.stage, List.getElem?_append] at hledger
        split at hledger
        · exact h.charged (some index) ledger hledger
        · rename_i hnew
          obtain ⟨hindex, rfl⟩ := List.getElem?_eq_some_iff.mp hledger
          rw [List.getElem_singleton]
          refine ⟨(weigh_eq_zero fun reading hmem => ?_).symm, by simp, rfl⟩
          have hopened := h.opened reading hmem index
          simp only [onLedger, decide_eq_false_iff_not]
          exact fun hstage => hnew (hopened hstage)

theorem opened_eq_some {stage : Option Nat} {index : Nat}
    (h : budget.opened stage = some index) : index < budget.stages.length := by
  obtain ⟨-, hlt⟩ := Option.filter_eq_some_iff.mp h
  simpa using hlt

/-- A read that was held is charged on each of its ledgers all that it can pull. -/
theorem Sound.read (h : budget.Sound total) (stage : Option Nat) (bound : Int) (fixed : Bool)
    (reader : Read) : (budget.read stage bound fixed reader).Sound total := by
  unfold RefreshReadBudget.read
  cases hhold : budget.hold (budget.opened stage) bound fixed with
  | none => exact h.noteRefused
  | some hold =>
      obtain ⟨hallowed, hroom, hshape⟩ := hold_eq_some hhold
      have hheld : hold.held = hold.allowance + 1 := by rw [hshape]
      have hstage : hold.stage = budget.opened stage := by rw [hshape]
      have hopen : hold.closed = false := by rw [hshape]
      apply h.charge
      · intro id ledger hledger hid
        have hleft := room_le hledger (hstage ▸ hid)
        omega
      · intro reading hmem
        rcases List.mem_append.mp hmem with hold' | hnew
        · exact h.readings reading hold'
        · obtain rfl := List.mem_singleton.mp hnew
          exact ⟨hheld, hallowed, by simp [Reading.kept, hheld]; omega, le_refl _, fun _ => rfl,
            by simpa only [hopen] using reader.honest hold.allowance hallowed⟩
      · intro reading hmem index hindex
        rcases List.mem_append.mp hmem with hold' | hnew
        · exact h.opened reading hold' index hindex
        · obtain rfl := List.mem_singleton.mp hnew
          exact opened_eq_some (hstage ▸ hindex)
      · intro id hid
        change weigh (onLedger id) Reading.kept (budget.readings ++ _) = _
        rw [weigh_append, weigh_cons, weigh_nil]
        have hon : onLedger id ⟨hold, 0, 0, reader.calls hold.allowance⟩ = true ↔
            id = none ∨ id = hold.stage := by
          cases id with
          | none => simp [onLedger]
          | some index => simp [onLedger, eq_comm]
        by_cases hcase : id = none ∨ id = hold.stage
        · rw [if_pos (hon.mpr hcase), if_pos hcase]
          simp [Reading.kept]
        · rw [if_neg (fun htrue => hcase (hon.mp htrue)), if_neg hcase]
          simp

theorem forall_mem_set {α : Type} {p : α → Prop} {items : List α} {index : Nat} {item : α}
    (h : ∀ held ∈ items, p held) (hitem : p item) : ∀ held ∈ items.set index item, p held := by
  intro held hmem
  rcases List.mem_or_eq_of_mem_set hmem with hold | rfl
  · exact h held hold
  · exact hitem

/-- A read that goes on under the same charge. -/
theorem Sound.replaced (h : budget.Sound total) {index : Nat} {reading next : Reading}
    (hreading : budget.readings[index]? = some reading) (hnext : next.Sound)
    (hhold : next.hold = reading.hold) (hkept : next.kept = reading.kept) :
    Sound total { budget with readings := budget.readings.set index next } where
  readings := forall_mem_set h.readings hnext
  opened := by
    apply forall_mem_set h.opened
    rw [hhold]
    exact h.opened reading (List.mem_of_getElem? hreading)
  charged := by
    intro id ledger hledger
    obtain ⟨hcharged, hle⟩ := h.charged id ledger hledger
    have hon : onLedger id next = onLedger id reading := by
      cases id <;> simp [onLedger, hhold]
    refine ⟨?_, hle⟩
    rw [weigh_set hreading hon, hkept, hcharged]
    simp

/-- Closing an open hold gives back a part of it, on each of its ledgers. -/
theorem Sound.closed (h : budget.Sound total) {index : Nat} {reading next : Reading}
    (hreading : budget.readings[index]? = some reading)
    (hhold : next.hold = reading.hold) (hreturned : next.returned = reading.returned)
    {returned : Int} (hnonneg : 0 ≤ returned) (hstays : reading.hold.closed = true → next.Sound)
    (hcloses : reading.hold.closed = false → (next.close returned).Sound) :
    (budget.close index next returned).Sound total := by
  unfold close
  have hkept : next.kept = reading.kept := by
    unfold Reading.kept
    rw [hhold, hreturned]
  rw [← hhold] at hstays hcloses
  split
  · rename_i hclosed
    exact h.replaced hreading (hstays hclosed) hhold hkept
  · rename_i hopen
    rw [Bool.not_eq_true] at hopen
    apply h.charge
    · intro id ledger hledger _
      have hle := (h.charged id ledger hledger).2.1
      unfold Ledger.remaining
      omega
    · exact forall_mem_set h.readings (hcloses hopen)
    · apply forall_mem_set h.opened
      change ∀ index, next.hold.stage = some index → index < budget.stages.length
      rw [hhold]
      exact h.opened reading (List.mem_of_getElem? hreading)
    · intro id _
      have hon : onLedger id (next.close returned) = onLedger id reading := by
        cases id <;> simp [onLedger, Reading.close, hhold]
      have hback : (next.close returned).kept - reading.kept = -returned := by
        have hbefore := (h.readings reading (List.mem_of_getElem? hreading)).unreturned
          (hhold ▸ hopen)
        have hheld : next.hold.held = reading.hold.held := by rw [hhold]
        simp only [Reading.kept, Reading.close]
        omega
      have hcase : onLedger id reading = true ↔ id = none ∨ id = next.hold.stage := by
        rw [hhold]
        cases id with
        | none => simp [onLedger]
        | some index => simp [onLedger, eq_comm]
      change weigh (onLedger id) Reading.kept (budget.readings.set index _) = _
      rw [weigh_set hreading hon, hback]
      by_cases hboth : id = none ∨ id = next.hold.stage
      · rw [if_pos (hcase.mpr hboth), if_pos hboth]
      · rw [if_neg (fun htrue => hboth (hcase.mp htrue)), if_neg hboth]

/-- A reader's last call, on a hold that is open or was closed before. -/
theorem Sound.ended (h : budget.Sound total) {index : Nat} {reading : Reading}
    (hreading : budget.readings[index]? = some reading) {rest : List HoldCall} {returned : Int}
    (hnonneg : 0 ≤ returned) (hleft : reading.hold.closed = false →
      (reading.pulled : Int) ≤ reading.hold.held - returned)
    (hlater : Honest reading.hold.allowance reading.pulled true rest) :
    (budget.close index { reading with rest := rest } returned).Sound total := by
  have hsound := h.readings reading (List.mem_of_getElem? hreading)
  refine @Sound.closed _ _ h _ _ { reading with rest := rest } hreading rfl rfl _ hnonneg ?_ ?_
  · intro hclosed
    exact ⟨hsound.held_eq, hsound.allowed, hsound.pulled_le, hsound.returned_nonneg,
      hsound.unreturned, by simpa only [hclosed] using hlater⟩
  · intro hopen
    exact ⟨hsound.held_eq, hsound.allowed, hleft hopen, hnonneg, by simp [Reading.close], hlater⟩

/-- A reader that goes on keeps every ledger in step. -/
theorem Sound.go (h : budget.Sound total) (index : Nat) : (budget.go index).Sound total := by
  cases hreading : budget.readings[index]? with
  | none =>
      simp only [RefreshReadBudget.go, hreading]
      exact h
  | some reading =>
      have hsound := h.readings reading (List.mem_of_getElem? hreading)
      have hhonest := hsound.honest
      have hheld := hsound.held_eq
      have hallowed := hsound.allowed
      have hpulled := hsound.pulled_le
      have hreturned := hsound.returned_nonneg
      unfold Reading.kept at hpulled
      have hfailed : ∀ beforeAnyByte rest,
          (reading.hold.closed = false → beforeAnyByte = true → reading.pulled = 0) →
          Honest reading.hold.allowance reading.pulled true rest →
          (budget.failed index { reading with rest := rest } beforeAnyByte).Sound total := by
        intro beforeAnyByte rest hunread hlater
        cases beforeAnyByte with
        | true =>
            refine h.ended hreading (by simp only [if_true]; omega) (fun hopen => ?_) hlater
            rw [hunread hopen rfl]
            simp
        | false =>
            refine h.ended hreading (by simp) (fun hopen => ?_) hlater
            have hzero := hsound.unreturned hopen
            simp only [Bool.false_eq_true, if_false]
            omega
      cases hrest : reading.rest with
      | nil =>
          simp only [RefreshReadBudget.go, hreading, hrest]
          exact h
      | cons call rest =>
          rw [hrest] at hhonest
          cases call with
          | pull bytes =>
              obtain ⟨hopen, hbound, hlater⟩ := hhonest
              have hzero := hsound.unreturned hopen
              simp only [RefreshReadBudget.go, hreading, hrest]
              refine h.replaced hreading ⟨hheld, hallowed, ?_, hreturned, fun _ => hzero, hlater⟩
                rfl rfl
              simp only [Reading.kept]
              omega
          | settle count =>
              obtain ⟨hexact, hlater⟩ := hhonest
              simp only [RefreshReadBudget.go, hreading, hrest]
              refine h.ended hreading (by simp only; omega) (fun hopen => ?_) hlater
              have hcount := hexact hopen
              have hzero := hsound.unreturned hopen
              simp only
              omega
          | failed beforeAnyByte =>
              simp only [RefreshReadBudget.go, hreading, hrest]
              exact hfailed beforeAnyByte rest hhonest.1 hhonest.2
          | refused problem =>
              simp only [RefreshReadBudget.go, hreading, hrest]
              exact hfailed problem.zeroByte rest hhonest.1 hhonest.2

theorem Sound.apply (h : budget.Sound total) (event : BudgetEvent) :
    (budget.apply event).Sound total := by
  cases event with
  | stage => exact h.stage
  | read stage bound fixed reader => exact h.read stage bound fixed reader
  | go index => exact h.go index
  | noteRefused => exact h.noteRefused

theorem Sound.run (h : budget.Sound total) (events : List BudgetEvent) :
    (budget.run events).Sound total := by
  induction events generalizing budget with
  | nil => exact h
  | cons event rest ih => exact ih (h.apply event)

/-! ## What a hold changes -/

/-- What every ledger is charged. -/
def charges (budget : RefreshReadBudget) : Int × List Int :=
  (budget.shared.charged, budget.stages.map Ledger.charged)

/-- How often a hold changed what its ledgers are charged, after it was taken. -/
def changes (index : Nat) : RefreshReadBudget → List BudgetEvent → Nat
  | _, [] => 0
  | budget, .go other :: rest =>
      (if other = index ∧ (budget.go other).charges ≠ budget.charges then 1 else 0) +
        changes index (budget.go other) rest
  | budget, .stage :: rest => changes index budget.stage rest
  | budget, .read stage bound fixed reader :: rest =>
      changes index (budget.read stage bound fixed reader) rest
  | budget, .noteRefused :: rest => changes index budget.noteRefused rest

/-- The read of the index was made and its hold is closed. -/
def ClosedAt (index : Nat) (budget : RefreshReadBudget) : Prop :=
  ∃ reading, budget.readings[index]? = some reading ∧ reading.hold.closed = true

/-- A read that is asked for adds one reading at most. -/
theorem readings_read (stage : Option Nat) (bound : Int) (fixed : Bool) (reader : Read) :
    (budget.read stage bound fixed reader).readings = budget.readings ∨
      ∃ reading, (budget.read stage bound fixed reader).readings =
        budget.readings ++ [reading] := by
  unfold RefreshReadBudget.read
  split
  · exact .inl rfl
  · exact .inr ⟨_, rfl⟩

/-- What closing a hold leaves of the readings. -/
theorem readings_close (index : Nat) (reading : Reading) (returned : Int) :
    (budget.close index reading returned).readings = budget.readings.set index
      (if reading.hold.closed then reading else reading.close returned) := by
  unfold close
  split <;> rfl

/-- The reading a reader goes on with, and whether it closes its hold. -/
theorem readings_go (index : Nat) {reading : Reading}
    (hreading : budget.readings[index]? = some reading) :
    ∃ next, (budget.go index).readings[index]? = some next ∧
      (reading.hold.closed = true → next.hold.closed = true ∧
        (budget.go index).charges = budget.charges) ∧
      (next.hold.closed = false → (budget.go index).charges = budget.charges) := by
  have hlt := (List.getElem?_eq_some_iff.mp hreading).choose
  have hclose : ∀ rest returned, ∃ next,
      (budget.close index { reading with rest := rest } returned).readings[index]? = some next ∧
      (reading.hold.closed = true → next.hold.closed = true ∧
        (budget.close index { reading with rest := rest } returned).charges = budget.charges) ∧
      (next.hold.closed = false →
        (budget.close index { reading with rest := rest } returned).charges =
          budget.charges) := by
    intro rest returned
    rw [readings_close, List.getElem?_set_self hlt]
    refine ⟨_, rfl, fun hclosed => ?_, fun hopen => ?_⟩
    · simp [hclosed, close, charges]
    · split at hopen
      · rename_i hclosed
        exact absurd (hclosed.symm.trans hopen) (by simp)
      · cases hopen
  cases hrest : reading.rest with
  | nil =>
      have hsame : budget.go index = budget := by
        simp only [RefreshReadBudget.go, hreading, hrest]
      rw [hsame]
      exact ⟨reading, hreading, fun hclosed => ⟨hclosed, rfl⟩, fun _ => rfl⟩
  | cons call rest =>
      cases call with
      | pull bytes =>
          simp only [RefreshReadBudget.go, hreading, hrest]
          rw [List.getElem?_set_self hlt]
          exact ⟨_, rfl, fun hclosed => ⟨hclosed, rfl⟩, fun _ => rfl⟩
      | settle count =>
          simp only [RefreshReadBudget.go, hreading, hrest]
          exact hclose _ _
      | failed beforeAnyByte =>
          simp only [RefreshReadBudget.go, hreading, hrest]
          exact hclose _ _
      | refused problem =>
          simp only [RefreshReadBudget.go, hreading, hrest]
          exact hclose _ _

/-- Another reader leaves this reading alone. -/
theorem readings_go_of_ne {index other : Nat} (h : other ≠ index) :
    (budget.go other).readings[index]? = budget.readings[index]? := by
  unfold RefreshReadBudget.go
  split
  · rfl
  · split
    · rfl
    · exact List.getElem?_set_ne h
    · rw [settle, readings_close, List.getElem?_set_ne h]
    · rw [failed, readings_close, List.getElem?_set_ne h]
    · rw [failed, readings_close, List.getElem?_set_ne h]

theorem ClosedAt.apply {index : Nat} (h : ClosedAt index budget) (event : BudgetEvent) :
    ClosedAt index (budget.apply event) := by
  obtain ⟨reading, hreading, hclosed⟩ := h
  cases event with
  | stage => exact ⟨reading, hreading, hclosed⟩
  | read stage bound fixed reader =>
      refine ⟨reading, ?_, hclosed⟩
      rcases readings_read stage bound fixed reader with hsame | ⟨added, hadded⟩
      · exact (congrArg (fun readings => readings[index]?) hsame).trans hreading
      · refine (congrArg (fun readings => readings[index]?) hadded).trans ?_
        rw [List.getElem?_append_left (List.getElem?_eq_some_iff.mp hreading).choose]
        exact hreading
  | go other =>
      by_cases hother : other = index
      · subst hother
        obtain ⟨next, hnext, hkept, -⟩ := readings_go other hreading
        exact ⟨next, hnext, (hkept hclosed).1⟩
      · exact ⟨reading, (readings_go_of_ne hother).trans hreading, hclosed⟩
  | noteRefused => exact ⟨reading, hreading, hclosed⟩

theorem ClosedAt.unchanged {index : Nat} (h : ClosedAt index budget)
    (events : List BudgetEvent) : changes index budget events = 0 := by
  induction events generalizing budget with
  | nil => rfl
  | cons event rest ih =>
      have hlater := ih (h.apply event)
      cases event with
      | stage => exact hlater
      | read stage bound fixed reader => exact hlater
      | noteRefused => exact hlater
      | go other =>
          obtain ⟨reading, hreading, hclosed⟩ := h
          simp only [changes]
          rw [if_neg, Nat.zero_add]
          · exact hlater
          · rintro ⟨rfl, hchanged⟩
            obtain ⟨next, -, hkept, -⟩ := readings_go other hreading
            exact hchanged (hkept hclosed).2

/-- A read that is asked for, or a refusal that is noted. -/
def asks : BudgetEvent → Bool
  | .read .. => true
  | .noteRefused => true
  | _ => false

end RefreshReadBudget

open RefreshReadBudget

end DodgingInfinity.MissionSources
