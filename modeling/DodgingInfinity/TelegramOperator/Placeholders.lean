import DodgingInfinity.Json
import DodgingInfinity.TelegramOperator.Transport

/-!
# Placeholders and edited results

A workflow approved here gets one message of the bot, its placeholder, and the verified
result is shown by editing that message.  Each record goes through a durable claim, one
call outside the store's lock, and a durable outcome.
-/

namespace DodgingInfinity.TelegramOperator

open WorkflowAuthority

/-! ## Texts -/

def resultMessageHeader : String := "Mission COMPLETED and verified."

def placeholderMessageHeader : String := "Mission result placeholder"

def renderTargetLine (entry : WorkflowRecord) : String :=
  match entry.target.issueOrPr with
  | none => "target: " ++ entry.target.canonicalUrl ++ " (repository-only)"
  | some held => "target: " ++ entry.target.canonicalUrl ++ " (" ++ held.kind.text ++ " #" ++
      toString held.number ++ ")"

/-- The text of a placeholder, a function of the workflow id alone. -/
def renderPlaceholderText (workflowId : String) : String :=
  placeholderMessageHeader ++ "\nworkflow: " ++ workflowId ++
    "\n\nThe verified mission result will appear" ++
    " in THIS message when the mission completes. This message" ++
    " grants no commit, push, PR, tag, release, or deploy" ++ " authority."

/-- The text of a result, a function of the target and the verified summary alone. -/
def renderResultText (entry : WorkflowRecord) (verified : VerifiedResult) : String :=
  resultMessageHeader ++ "\n" ++ renderTargetLine entry ++ "\n\nVERIFIED RESULT:\n" ++
    verified.summary ++ "\n\nDelivery is separately human-gated; this message" ++
    " grants no commit, push, PR, tag, release, or deploy" ++ " authority."

/-! ## Cycles over the store -/

/-- What the body of a cycle comes to: the store to save, if any, and its value. -/
structure Cycled (β : Type) where
  saved : Option Workflows
  value : β

/-- One cycle under the store's lock; none when the store could not be read or refused
what was saved. -/
def cycle {β : Type} (task : CycleTask) (body : Nat → Workflows → Cycled β) :
    Act (Option β) := do
  let answer ← Procedure.put (ResultQuestion.cycle task fun now workflows =>
    (body now workflows).saved)
  pure (answer.map fun read => (body read.1 read.2).value)

/-- Change the record of one workflow, if the body does. -/
def changeOne {β : Type} (workflowId : String) (unchanged : β)
    (body : WorkflowRecord → Option (WorkflowRecord × β)) (workflows : Workflows) : Cycled β :=
  match (workflows.get? workflowId).bind body with
  | none => ⟨none, unchanged⟩
  | some (changed, value) => ⟨some (workflows.set workflowId changed), value⟩

theorem changeOne_cases {β : Type} {workflowId : String} {unchanged : β}
    (body : WorkflowRecord → Option (WorkflowRecord × β)) (workflows : Workflows) :
    ((workflows.get? workflowId).bind body = none ∧
      changeOne workflowId unchanged body workflows = ⟨none, unchanged⟩) ∨
    ∃ entry changed value, workflows.get? workflowId = some entry ∧
      body entry = some (changed, value) ∧ changeOne workflowId unchanged body workflows =
        ⟨some (workflows.set workflowId changed), value⟩ := by
  unfold changeOne
  cases hbody : (workflows.get? workflowId).bind body with
  | none => exact .inl ⟨rfl, rfl⟩
  | some result =>
      obtain ⟨entry, hheld, hentry⟩ := Option.bind_eq_some_iff.mp hbody
      exact .inr ⟨entry, result.1, result.2, hheld, hentry, rfl⟩

theorem changeOne_eq {β : Type} {workflowId : String} {unchanged value : β}
    {body : WorkflowRecord → Option (WorkflowRecord × β)} {workflows : Workflows}
    {entry changed : WorkflowRecord} (hheld : workflows.get? workflowId = some entry)
    (hbody : body entry = some (changed, value)) : changeOne workflowId unchanged body workflows =
      ⟨some (workflows.set workflowId changed), value⟩ := by
  unfold changeOne
  rw [hheld, Option.bind_some, hbody]

/-- The ids of the records chosen, in order. -/
def chosenIds (chosen : WorkflowRecord → Bool) (workflows : Workflows) : List String :=
  ((sortedBy Prod.fst workflows.entries).filter fun entry => chosen entry.2).map Prod.fst

/-- Do a body for each workflow until one stops it. -/
def forEachWorkflow (body : String → Act Bool) : List String → Act Unit
  | [] => pure ()
  | workflowId :: rest => do
      let continues ← body workflowId
      if continues then forEachWorkflow body rest else pure ()

/-! ## The request and the sweep -/

/-- The placeholder request of a record that is armed; a relay-origin record and one that
has a placeholder get none. -/
def requestResultPlaceholder (now : Nat) (entry : WorkflowRecord) : Except Raised WorkflowRecord :=
  if entry.origin ≠ none ∨ entry.resultPlaceholder ≠ none then .ok entry
  else
    match entry.telegram with
    | none => .error .noTelegram
    | some telegram => .ok { entry with
        resultPlaceholder := some {
          state := .required
          chatId := telegram.chatId
          messageId := none
          requestedAt := now
          sentAt := none
          boundAt := none
          textDigest := none } }

def isSending (entry : WorkflowRecord) : Bool :=
  entry.resultPlaceholder.any fun placeholder => placeholder.state = .sending

theorem isSending_iff {entry : WorkflowRecord} : isSending entry = true ↔
    ∃ placeholder, entry.resultPlaceholder = some placeholder ∧
      placeholder.state = .sending := by
  unfold isSending
  cases entry.resultPlaceholder <;> simp

/-- A placeholder left in flight by an earlier process fails closed. -/
def failSending (entry : WorkflowRecord) : WorkflowRecord :=
  if isSending entry then
    { entry with resultPlaceholder := entry.resultPlaceholder.map fun placeholder =>
        { placeholder with state := .indefinite } }
  else entry

def reconcileSendingPlaceholders : Act Unit := do
  let _ ← cycle .sweep fun _ workflows => {
    saved := if workflows.values.any isSending then
        some (workflows.mapValues fun _ => failSending)
      else none
    value := () }
  pure ()

/-! ## Placeholders -/

/-- Only a required or a failed one may be sent: an indefinite one is terminal. -/
def placeholderIsClaimable (entry : WorkflowRecord) : Bool :=
  entry.resultPlaceholder.any fun placeholder =>
    placeholder.state = .required || placeholder.state = .failedUnsent

theorem placeholderIsClaimable_iff {entry : WorkflowRecord} : placeholderIsClaimable entry = true ↔
      ∃ placeholder, entry.resultPlaceholder = some placeholder ∧
        (placeholder.state = .required ∨ placeholder.state = .failedUnsent) := by
  unfold placeholderIsClaimable
  cases entry.resultPlaceholder <;> simp

def eligiblePlaceholderWorkflowIds : Act (List String) := do
  let found ← cycle .listPlaceholders fun _ workflows =>
    ⟨none, chosenIds placeholderIsClaimable workflows⟩
  pure (found.getD [])

structure PlaceholderClaim where
  chatId : Nat
  text : String
  digest : String
  deriving DecidableEq

section

variable [TextDigest]

/-- The send intent of one record, with the digest of the text about to be sent. -/
def claimPlaceholder (workflowId : String) (now : Nat) (entry : WorkflowRecord) :
    Option (WorkflowRecord × Option PlaceholderClaim) :=
  match entry.resultPlaceholder with
  | none => none
  | some placeholder =>
      if placeholderIsClaimable entry = false then none
      else
        let text := renderPlaceholderText workflowId
        some ({ entry with
            resultPlaceholder := some { placeholder with
              state := .sending
              sentAt := some now
              textDigest := some (textDigest text)
              messageId := none
              boundAt := none } }, some ⟨placeholder.chatId, text, textDigest text⟩)

theorem claimPlaceholder_eq_some {workflowId : String} {time : Nat}
    {entry changed : WorkflowRecord} {claim : Option PlaceholderClaim} :
    claimPlaceholder workflowId time entry = some (changed, claim) ↔
      ∃ placeholder, entry.resultPlaceholder = some placeholder ∧
        (placeholder.state = .required ∨ placeholder.state = .failedUnsent) ∧
        changed = { entry with
          resultPlaceholder := some { placeholder with
            state := .sending
            sentAt := some time
            textDigest := some (textDigest (renderPlaceholderText workflowId))
            messageId := none
            boundAt := none } } ∧
        claim = some ⟨placeholder.chatId, renderPlaceholderText workflowId,
          textDigest (renderPlaceholderText workflowId)⟩ := by
  unfold claimPlaceholder
  cases hplaceholder : entry.resultPlaceholder with
  | none => simp
  | some placeholder =>
      have hclaimable := @placeholderIsClaimable_iff entry
      simp only [hplaceholder, Option.some.injEq, exists_eq_left'] at hclaimable
      dsimp only
      split
      · rename_i hrefused
        rw [hrefused] at hclaimable
        have hnot := fun h => Bool.false_ne_true (hclaimable.mpr h)
        constructor
        · intro h
          cases h
        · rintro ⟨held, hheld, hstate, -⟩
          obtain rfl := Option.some.inj hheld
          exact absurd hstate hnot
      · rename_i hclaims
        rw [Bool.not_eq_false] at hclaims
        have hstate := hclaimable.mp hclaims
        simp only [Option.some.injEq, Prod.mk.injEq]
        constructor
        · rintro ⟨rfl, rfl⟩
          exact ⟨placeholder, rfl, hstate, rfl, rfl⟩
        · rintro ⟨held, rfl, -, rfl, rfl⟩
          exact ⟨rfl, rfl⟩

def claimOnePlaceholder (workflowId : String) : Act (Option PlaceholderClaim) := do
  let claimed ← cycle (.claimPlaceholder workflowId) fun now =>
    changeOne workflowId none (claimPlaceholder workflowId now)
  pure claimed.join

/-- The placeholder after the outcome of its one send. -/
def placeholderAfter (now : Nat) (outcome : SendOnceOutcome)
    (placeholder : ResultPlaceholder) : ResultPlaceholder :=
  match outcome.classification, outcome.messageId with
  | .applied, some identifier =>
      if 1 ≤ identifier then
        { placeholder with
          state := .bound
          messageId := some identifier.toNat
          boundAt := some now }
      else { placeholder with state := .indefinite }
  | .definiteZero, _ => { placeholder with state := .failedUnsent }
  | .applied, none | .indefinite, _ => { placeholder with state := .indefinite }

/-- Only the intent this pass wrote is resolved. -/
def recordPlaceholder (digest : String) (outcome : SendOnceOutcome) (now : Nat)
    (entry : WorkflowRecord) : Option (WorkflowRecord × Bool) :=
  match entry.resultPlaceholder with
  | none => none
  | some placeholder =>
      if placeholder.state ≠ .sending then none
      else if placeholder.textDigest ≠ some digest then none
      else some ({ entry with
        resultPlaceholder := some (placeholderAfter now outcome placeholder) }, true)

omit [TextDigest] in
theorem recordPlaceholder_eq_some {digest : String} {outcome : SendOnceOutcome}
    {time : Nat} {entry changed : WorkflowRecord} {value : Bool} :
    recordPlaceholder digest outcome time entry = some (changed, value) ↔
      ∃ placeholder, entry.resultPlaceholder = some placeholder ∧
        placeholder.state = .sending ∧ placeholder.textDigest = some digest ∧
        changed = { entry with
          resultPlaceholder := some (placeholderAfter time outcome placeholder) } ∧
        value = true := by
  unfold recordPlaceholder
  cases entry.resultPlaceholder with
  | none => simp
  | some placeholder =>
      dsimp only
      split
      · rename_i hstate
        simp [hstate]
      · rename_i hstate
        rw [not_not] at hstate
        split
        · rename_i hdigest
          simp [hdigest]
        · rename_i hdigest
          rw [not_not] at hdigest
          constructor
          · rintro h
            simp only [Option.some.injEq, Prod.mk.injEq] at h
            exact ⟨placeholder, rfl, hstate, hdigest, h.1.symm, h.2.symm⟩
          · rintro ⟨held, hheld, -, -, rfl, rfl⟩
            obtain rfl := Option.some.inj hheld
            rfl

/-- Whether the claim of this pass is resolved. -/
def recordPlaceholderOutcome (workflowId digest : String) (outcome : SendOnceOutcome) :
    Act Bool := do
  let recorded ← cycle (.recordPlaceholder workflowId) fun now =>
    changeOne workflowId true (recordPlaceholder digest outcome now)
  pure (recorded.getD false)

/-- One record: claim, send, record; whether the pass goes on. -/
def ensurePlaceholder (token workflowId : String) : Act Bool := do
  let claim ← claimOnePlaceholder workflowId
  match claim with
  | none => pure true
  | some claim => do
      let outcome ← sendMessageOnce token (.placeholder workflowId) claim.chatId claim.text
      recordPlaceholderOutcome workflowId claim.digest outcome

def ensureResultPlaceholders (token : String) : Act Unit := do
  let eligible ← eligiblePlaceholderWorkflowIds
  forEachWorkflow (ensurePlaceholder token) eligible

end

end DodgingInfinity.TelegramOperator
