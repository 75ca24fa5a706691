import DodgingInfinity.PrDelivery.Transport

/-!
# The delivery machine: persistence and outcomes

A save puts the whole working copy over the stored record.  A refresh reads the
stored record again, and takes nothing from it but the revocation.
-/

namespace DodgingInfinity.PrDelivery

variable [JsonDigest]

def load (deliveryId : String) : Act Record := do
  let answer : Except Failure { record : Record // record.deliveryId = deliveryId }
    ← question (.load deliveryId)
  match answer with
  | .ok record => pure record.val
  | .error failure => stop (.store failure)

def save (record : Record) : Act Unit := do
  let answer : Except Failure Unit ← question (.save record)
  match answer with
  | .ok _ => pure ()
  | .error failure => stop (.store failure)

def persist : Act Unit := do
  let now ← clock
  change ({ · with updatedAt := now })
  let record ← read
  check (validateAuthorization record)
  save record

/-- Fold the durable revocation into the working copy; the answer is whether
it is revoked or expired. -/
def refresh : Act Bool := do
  let record ← read
  let fresh ← load record.deliveryId
  change ({ · with revocation := fresh.revocation })
  let record ← read
  if isRevoked record then pure true
  else do
    let now ← clock
    pure (isExpired record now)

/-- The step entry a block leaves: a step that succeeded stays so. -/
def blockedEntry (entry : StepEntry) : StepEntry :=
  if entry.state ≠ .succeeded then { entry with state := .blocked } else entry

def blockEntry : Option Step → Act Unit
  | none => pure ()
  | some step => modifyEntry step blockedEntry

/-- Stop durably with a named problem. -/
def block (problem : Problem) : Act Unit := do
  let now ← clock
  change ({ · with blocker := some ⟨problem, now⟩ })
  let record ← read
  blockEntry (stepForPhase record.mode record.phase)
  if record.phase ∉ terminalPhases then do
    let record ← read
    let after ← check (applyTransition record .blocked now)
    change fun _ => after
    persist
  else persist

/-- The step entry a retryable failure leaves. -/
def retriedEntry (entry : StepEntry) : StepEntry :=
  match entry.receipt with
  | some receipt =>
      if receipt.state = .executing then
        { entry with
          state := .failedRetryable
          receipt := some { receipt with
            state := .failedRetryable
            observed := some .error } }
      else if (receipt.state = .void ∨ receipt.state = .succeeded) ∧
          entry.state ∉ [.succeeded, .notNeeded] then
        { entry with state := .pending }
      else entry
  | none =>
      if entry.state ∉ [.succeeded, .notNeeded] then
        { entry with state := .pending }
      else entry

def retry : Option Step → Act Unit
  | none => do
      change ({ · with blocker := none })
      persist
  | some step => do
      modifyEntry step retriedEntry
      change ({ · with blocker := none })
      persist

/-- The step entry whose receipt is proven without effect. -/
def voidedEntry (entry : StepEntry) : StepEntry :=
  match entry.receipt with
  | some receipt => ⟨.pending, none, entry.voided ++ [receipt.receiptId]⟩
  | none => { entry with state := .pending }

def void (step : Step) : Act Unit := modifyEntry step voidedEntry

/-- Derive a receipt for a step, bound to exactly these live facts. -/
def derive (step : Step) (binding : Binding) : Act Receipt := do
  let now ← clock
  let record ← read
  match preconditionProblem record step now with
  | .error problem => stop (.receipt problem)
  | .ok _ => do
      let token ← tokenHex
      let receipt := receiptOf record step binding now token
      check (validateReceipt receipt step record.authority "receipt")
      pure receipt

/-- Derive, persist as executing, then check the revocation again. -/
def start (step : Step) (binding : Binding) : Act Unit := do
  let receipt ← derive step binding
  modifyEntry step fun entry =>
    { entry with
      state := .executing
      receipt := some { receipt with state := .executing } }
  persist
  let stopped ← refresh
  if stopped then do
    void step
    persist
    let record ← read
    stop (.receipt (if isRevoked record then .revoked else .expired))
  else pure ()

/-- The step's effect is proven: record what was observed of it. -/
def succeed (step : Step) (observed : Observed) (new : Phase) : Act Unit := do
  let record ← read
  match (record.steps.get step).receipt with
  | none => stop .typeError
  | some _ => do
      modifyEntry step fun entry =>
        { entry with
          state := .succeeded
          receipt := entry.receipt.map ({ · with
            state := .succeeded
            observed := some observed }) }
      transition new
      persist

end DodgingInfinity.PrDelivery

/-!
## The entries of the working copy

How the machine changes the entry of a step as it is started, taken up again
and proven.
-/

namespace DodgingInfinity.PrDelivery

/-- The working copy with the entry of a step changed. -/
def Record.withEntry (record : Record) (step : Step) (entry : StepEntry) : Record :=
  { record with steps := record.steps.set step entry }

/-- The entry of a started step. -/
def startedEntry (receipt : Receipt) (entry : StepEntry) : StepEntry :=
  { entry with
    state := .executing
    receipt := some { receipt with state := .executing } }

/-- The entry of a step whose effect is proven. -/
def succeededEntry (observed : Observed) (entry : StepEntry) : StepEntry :=
  { entry with
    state := .succeeded
    receipt := entry.receipt.map ({ · with
      state := .succeeded
      observed := some observed }) }

/-- The entry of a left receipt that is taken up again. -/
def reopenedEntry (entry : StepEntry) : StepEntry :=
  { entry with receipt := entry.receipt.map ({ · with state := .executing }) }

/-- The working copy after its step succeeded into a phase. -/
def Record.succeeded (record : Record) (step : Step) (observed : Observed) (new : Phase) : Record :=
  { record.withEntry step (succeededEntry observed (record.steps.get step)) with
    phase := new }

/-- The steps hold a receipt without a proven result. -/
def Left (steps : StepEntries) (step : Step) (receipt : Receipt) : Prop :=
  (steps.get step).receipt = some receipt ∧ receipt.state ∈ [.executing, .failedRetryable]

/-- The steps hold a receipt of the step with this binding. -/
def Bound (steps : StepEntries) (step : Step) (binding : Binding) : Prop :=
  ∃ receipt, (steps.get step).receipt = some receipt ∧ receipt.binding = binding

theorem Left.bound_reopened {record : Record} {step : Step} {receipt : Receipt}
    {binding : Binding} (h : Left record.steps step receipt)
    (hbinding : receipt.binding = binding) : Bound (record.withEntry step
      (reopenedEntry (record.steps.get step))).steps step binding := by
  refine ⟨{ receipt with state := .executing }, ?_, hbinding⟩
  simp [Record.withEntry, reopenedEntry, h.1]

theorem left_of_filter {steps : StepEntries} {step : Step} {receipt : Receipt}
    (h : some receipt = (steps.get step).receipt.filter fun receipt =>
      receipt.state = .executing ∨ receipt.state = .failedRetryable) :
    Left steps step receipt := by
  obtain ⟨hreceipt, hopen⟩ := Option.filter_eq_some_iff.mp h.symm
  exact ⟨hreceipt, by simpa using hopen⟩

theorem not_left_of_filter {steps : StepEntries} {step : Step}
    (h : none = (steps.get step).receipt.filter fun receipt =>
      receipt.state = .executing ∨ receipt.state = .failedRetryable)
    (receipt : Receipt) : ¬ Left steps step receipt := by
  rintro ⟨hreceipt, hopen⟩
  rw [hreceipt, Option.filter_some, if_pos (by simpa using hopen)] at h
  cases h

theorem goesOn_of_step {phase : Phase} {mode : Mode} {step : Step}
    (h : stepForPhase mode phase = some step) : phase ∉ terminalPhases := by
  cases mode <;> cases phase <;> simp_all [stepForPhase, terminalPhases]

end DodgingInfinity.PrDelivery
