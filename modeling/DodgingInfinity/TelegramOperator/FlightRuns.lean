import DodgingInfinity.TelegramOperator.World

/-!
# Placeholders in flight

A record is in flight from the claim of its placeholder until the outcome of its one send
is recorded, or the next process sweeps it.  While every outcome and every sweep is
recorded before the next claim, one record is in flight at most.
-/

namespace DodgingInfinity.TelegramOperator

open WorkflowAuthority

/-! ## Records in flight -/

/-- The placeholder that the store holds for a workflow, if any. -/
def placeholderIn (workflows : Workflows) (workflowId : String) : Option ResultPlaceholder :=
  (workflows.get? workflowId).bind WorkflowRecord.resultPlaceholder

/-- The placeholder of a workflow is held in a state. -/
def HeldAs (state : PlaceholderState) (workflows : Workflows) (workflowId : String) : Prop :=
  ∃ placeholder, placeholderIn workflows workflowId = some placeholder ∧ placeholder.state = state

def AtMostOneSending (workflows : Workflows) : Prop :=
  ∀ first second, HeldAs .sending workflows first → HeldAs .sending workflows second →
    first = second

/-- A placeholder that may have been sent with its outcome unknown. -/
def InDoubt (workflows : Workflows) (workflowId : String) : Prop :=
  HeldAs .sending workflows workflowId ∨ HeldAs .indefinite workflows workflowId

/-! ## Claims and outcomes heard -/

/-- The workflow that a task claims for its placeholder. -/
def CycleTask.claims : CycleTask → Option String
  | .claimPlaceholder workflowId => some workflowId
  | .sweep | .listPlaceholders | .recordPlaceholder _ | .listEdits | .claimEdit _
  | .recordEdit _ | .reserveResults | .recordResult _ => none

/-- The workflow whose claim was saved. -/
def claimSaved : (question : ResultQuestion) → ResultAnswer question → Option String
  | .cycle task change, answer =>
      if Option.any (fun read : Nat × Workflows => (change read.1 read.2).isSome) answer then
        task.claims
      else none
  | .call _ _, _ => none

/-- Whether a claim may still be left in flight after an answer: a sweep settles all of
them, and an outcome that is not recorded leaves its own. -/
def leavesUnresolved : (question : ResultQuestion) → ResultAnswer question → Bool → Bool
  | .cycle .sweep _, answer, _ => Option.isNone (α := Nat × Workflows) answer
  | .cycle (.recordPlaceholder _) _, answer, before =>
      Option.isNone (α := Nat × Workflows) answer || before
  | .cycle .listPlaceholders _, _, before | .cycle (.claimPlaceholder _) _, _, before
  | .cycle .listEdits _, _, before | .cycle (.claimEdit _) _, _, before
  | .cycle (.recordEdit _) _, _, before | .cycle .reserveResults _, _, before
  | .cycle (.recordResult _) _, _, before | .call _ _, _, before => before

/-- Whether the sweep, or an outcome since, is not recorded. -/
def unresolved : List ResultHeard → Bool
  | [] => true
  | heard :: rest => leavesUnresolved heard.1 heard.2 (unresolved rest)

/-- Every claim saved came after a recorded sweep and the recorded outcomes since. -/
def Prompt : List ResultHeard → Prop
  | [] => True
  | heard :: rest =>
      Prompt rest ∧ ∀ named, claimSaved heard.1 heard.2 = some named → unresolved rest = false

/-- The workflow was claimed. -/
def ClaimedIn (history : List ResultHeard) (workflowId : String) : Prop :=
  ∃ heard ∈ history, claimSaved heard.1 heard.2 = some workflowId

/-! ## Assertions -/

/-- What holds of the records in flight wherever a process is. -/
structure Flight (origin : Workflows) (now : RememberedWorld) : Prop where
  one : Prompt now.2 → AtMostOneSending now.1.workflows
  doubted : ∀ workflowId, InDoubt now.1.workflows workflowId →
    InDoubt origin workflowId ∨ ClaimedIn now.2 workflowId

/-- Between two claims nothing is in flight, as far as all before was recorded. -/
structure Idle (origin : Workflows) (now : RememberedWorld) : Prop extends
    Flight origin now where
  idle : Prompt now.2 → unresolved now.2 = false →
    ∀ workflowId, ¬ HeldAs .sending now.1.workflows workflowId

/-- After a claim only its own record is in flight, with the digest it wrote. -/
structure Holds (origin : Workflows) (workflowId digest : String)
    (now : RememberedWorld) : Prop extends Flight origin now where
  only : Prompt now.2 → ∀ other placeholder,
    placeholderIn now.1.workflows other = some placeholder → placeholder.state = .sending →
      other = workflowId ∧ placeholder.textDigest = some digest

variable {token workflowId named digest : String} {origin : Workflows}
  {now next : RememberedWorld} {history : List ResultHeard}

/-! ## What others leave -/

variable {world after : ResultWorld}

/-- A placeholder that others leave was there, or is just required. -/
theorem Others.placeholderIn (h : Others world after)
    {placeholder : ResultPlaceholder}
    (hheld : placeholderIn after.workflows workflowId = some placeholder) :
    TelegramOperator.placeholderIn world.workflows workflowId = some placeholder ∨
      placeholder.state = .required := by
  have hrecord := h.record workflowId
  unfold TelegramOperator.placeholderIn at hheld ⊢
  obtain ⟨entry, hentry, hplaceholder⟩ := Option.bind_eq_some_iff.mp hheld
  rw [hentry] at hrecord
  cases hbefore : world.workflows.get? workflowId with
  | none =>
      rw [hbefore] at hrecord
      rw [hrecord.2.placeholder] at hplaceholder
      cases hplaceholder
  | some before =>
      rw [hbefore] at hrecord
      rcases hrecord with hchange | ⟨-, happroves⟩
      · left
        exact hchange.placeholder.symm.trans hplaceholder
      · rcases happroves.placeholder with hsame | ⟨-, asked, hasked, hrequired⟩
        · left
          exact hsame.symm.trans hplaceholder
        · right
          obtain rfl := Option.some.inj (hasked.symm.trans hplaceholder)
          exact hrequired

theorem Others.heldAs (h : Others world after)
    {state : PlaceholderState} (hstate : state ≠ .required)
    (hheld : HeldAs state after.workflows workflowId) :
    HeldAs state world.workflows workflowId := by
  obtain ⟨placeholder, hplaceholder, rfl⟩ := hheld
  rcases h.placeholderIn hplaceholder with hbefore | hrequired
  · exact ⟨placeholder, hbefore, rfl⟩
  · exact absurd hrequired hstate

theorem Others.inDoubt (h : Others world after)
    (hdoubt : InDoubt after.workflows workflowId) : InDoubt world.workflows workflowId :=
  hdoubt.imp (h.heldAs (by decide)) (h.heldAs (by decide))

variable [TextDigest]

theorem stable_flight : Stable token (Flight origin) := by
  intro now next h hdrift
  obtain ⟨hothers, hhistory⟩ := hdrift
  constructor
  · rw [hhistory]
    intro hprompt first second hfirst hsecond
    exact h.one hprompt first second (hothers.heldAs (by decide) hfirst)
      (hothers.heldAs (by decide) hsecond)
  · rw [hhistory]
    exact fun workflowId hdoubt => h.doubted workflowId (hothers.inDoubt hdoubt)

theorem stable_idle : Stable token (Idle origin) := by
  intro now next h hdrift
  refine ⟨stable_flight now next h.toFlight hdrift, ?_⟩
  rw [hdrift.2]
  intro hprompt hresolved workflowId hheld
  exact h.idle hprompt hresolved workflowId (hdrift.1.heldAs (by decide) hheld)

theorem stable_holds : Stable token (Holds origin workflowId digest) := by
  intro now next h hdrift
  refine ⟨stable_flight now next h.toFlight hdrift, ?_⟩
  rw [hdrift.2]
  intro hprompt other placeholder hheld hstate
  rcases hdrift.1.placeholderIn hheld with hbefore | hrequired
  · exact h.only hprompt other placeholder hbefore hstate
  · rw [hstate] at hrequired
    cases hrequired

end DodgingInfinity.TelegramOperator

/-!
## One placeholder in flight

What the sweep, a claim and an outcome make of the records in flight, and that every other
question leaves them: over any passes and restarts at most one record is in flight, as far
as each outcome was recorded before the next claim.
-/

namespace DodgingInfinity.TelegramOperator

open WorkflowAuthority

variable [TextDigest] {token workflowId named digest : String} {origin : Workflows}
  {now next : RememberedWorld} {history : List ResultHeard}

/-! ## Questions that leave the placeholders -/

def CycleTask.ofPlaceholders : CycleTask → Bool
  | .sweep | .claimPlaceholder _ | .recordPlaceholder _ => true
  | .listPlaceholders | .listEdits | .claimEdit _ | .recordEdit _ | .reserveResults
  | .recordResult _ => false

/-- A question that neither claims nor settles a placeholder, and changes none. -/
def Apart : ResultQuestion → Prop
  | .call _ _ => True
  | .cycle task change => task.ofPlaceholders = false ∧
      ∀ time workflows changed, change time workflows = some changed →
        ∀ workflowId, placeholderIn changed workflowId = placeholderIn workflows workflowId

/-- A question whose change leaves a placeholder in doubt only where it was. -/
def Doubts : ResultQuestion → Prop
  | .call _ _ => True
  | .cycle _ change => ∀ time workflows changed, change time workflows = some changed →
      ∀ workflowId, HeldAs .indefinite changed workflowId → InDoubt workflows workflowId

variable {question : ResultQuestion}

omit [TextDigest] in
theorem Apart.doubts (h : Apart question) : Doubts question := by
  cases question with
  | call purpose request => trivial
  | cycle task change =>
      intro time workflows changed hchange workflowId hheld
      unfold HeldAs at hheld
      rw [h.2 time workflows changed hchange workflowId] at hheld
      exact .inr hheld

/-- What was heard says nothing of claims. -/
structure Silent (heard : ResultHeard) : Prop where
  claims : claimSaved heard.1 heard.2 = none
  resolves : ∀ before, leavesUnresolved heard.1 heard.2 before = before

omit [TextDigest] in
theorem Apart.silent (h : Apart question)
    (answer : ResultAnswer question) : Silent ⟨question, answer⟩ := by
  cases question with
  | call purpose request => exact ⟨rfl, fun _ => rfl⟩
  | cycle task change =>
      obtain ⟨htask, -⟩ := h
      cases task <;> first | exact ⟨ite_self _, fun _ => rfl⟩ | cases htask

/-- The placeholders, with what was heard since of claims. -/
structure SamePlaceholders (now next : RememberedWorld) : Prop where
  placeholders : ∀ workflowId, placeholderIn next.1.workflows workflowId =
    placeholderIn now.1.workflows workflowId
  heard : ∃ heard, next.2 = heard :: now.2 ∧ Silent heard

theorem Apart.answered {answer : ResultAnswer question} (h : Apart question)
    (hanswer : (resultSurroundings token).remembering.answers now question answer next) :
    SamePlaceholders now next := by
  obtain ⟨hworld, hhistory⟩ := hanswer
  refine ⟨fun workflowId => ?_, _, hhistory, h.silent answer⟩
  cases question with
  | call purpose request =>
      rcases hworld with ⟨hnext, -⟩ | ⟨hnext, -⟩ <;> rw [hnext]
  | cycle task change =>
      rcases hworld with ⟨-, hnext⟩ | ⟨time, -, -, hchanged⟩
      · rw [hnext]
      · split at hchanged
        · rw [hchanged]
        · rename_i changed hsome
          rw [hchanged.2]
          exact h.2 time _ changed hsome workflowId

section

variable (h : SamePlaceholders now next)

include h

omit [TextDigest] in
theorem SamePlaceholders.heldAs {state : PlaceholderState}
    (hheld : HeldAs state next.1.workflows workflowId) :
    HeldAs state now.1.workflows workflowId := by
  unfold HeldAs at hheld ⊢
  rwa [h.placeholders] at hheld

omit [TextDigest] in
theorem SamePlaceholders.prompt (hprompt : Prompt next.2) : Prompt now.2 := by
  obtain ⟨heard, hhistory, -⟩ := h.heard
  rw [hhistory] at hprompt
  exact hprompt.1

omit [TextDigest] in
theorem SamePlaceholders.unresolved :
    TelegramOperator.unresolved next.2 = TelegramOperator.unresolved now.2 := by
  obtain ⟨heard, hhistory, hsilent⟩ := h.heard
  rw [hhistory]
  exact hsilent.resolves _

omit [TextDigest] in
theorem SamePlaceholders.flight (hflight : Flight origin now) : Flight origin next where
  one hprompt first second hfirst hsecond :=
    hflight.one (h.prompt hprompt) first second (h.heldAs hfirst) (h.heldAs hsecond)
  doubted workflowId hdoubt := by
    rcases hflight.doubted workflowId (hdoubt.imp h.heldAs h.heldAs) with hbegan | hclaimed
    · exact .inl hbegan
    · obtain ⟨heard, hhistory, -⟩ := h.heard
      obtain ⟨claim, hmem, hsaved⟩ := hclaimed
      refine .inr ⟨claim, ?_, hsaved⟩
      rw [hhistory]
      exact List.mem_cons_of_mem _ hmem

omit [TextDigest] in
theorem SamePlaceholders.idle (hidle : Idle origin now) : Idle origin next where
  toFlight := h.flight hidle.toFlight
  idle hprompt hresolved workflowId hheld := by
    rw [h.unresolved] at hresolved
    exact hidle.idle (h.prompt hprompt) hresolved workflowId (h.heldAs hheld)

omit [TextDigest] in
theorem SamePlaceholders.holds (hholds : Holds origin workflowId digest now) :
    Holds origin workflowId digest next where
  toFlight := h.flight hholds.toFlight
  only hprompt other placeholder hheld hstate := by
    rw [h.placeholders] at hheld
    exact hholds.only (h.prompt hprompt) other placeholder hheld hstate

end

/-! ## Steps -/

variable {α : Type} {pre : RememberedWorld → Prop}

/-- From every world the precondition holds of, the step keeps to what holds of the
records in flight and to such questions, and ends in its postcondition. -/
abbrev Flying (token : String) (origin : Workflows) (pre : RememberedWorld → Prop)
    (step : Act α) (post : α → RememberedWorld → Prop) : Prop :=
  Procedure.Triple (resultSurroundings token).remembering
    (fun now question => Flight origin now ∧ Doubts question) (fun _ => pre) step
    (fun value _ => post value)
    (fun _ _ => Idle origin)

/-- A step that asks only questions apart. -/
abbrev AsksApart (token : String) (step : Act α) : Prop :=
  Procedure.Triple (resultSurroundings token).remembering (fun _ => Apart)
    (fun _ _ => True) step (fun _ _ _ => True) (fun _ _ _ => True)

theorem AsksApart.idle {step : Act α} (h : AsksApart token step) :
    Flying token origin (Idle origin) step fun _ => Idle origin := by
  have hasked : ∀ now question answer next, Idle origin now → Apart question →
      (resultSurroundings token).remembering.answers now question answer next → Idle origin next :=
    fun _ _ _ _ hidle hapart hanswer => (hapart.answered hanswer).idle hidle
  intro working world hidle
  have hkept := Procedure.Triple.keeping h stable_idle hasked working world hidle
  exact hkept.allowing fun _ _ hallowed => ⟨hallowed.2.toFlight, hallowed.1.doubts⟩

theorem asksApart_pure (value : α) : AsksApart token (pure value) :=
  Procedure.triple_pure value fun _ _ _ => trivial

theorem asksApart_call (purpose : Purpose) (request : Request) :
    AsksApart token (call token purpose request) :=
  triple_call (fun _ _ _ _ => trivial) (fun _ _ => trivial) fun _ _ _ _ _ => trivial

variable {β : Type}

/-- A cycle of another task that leaves every placeholder. -/
theorem asksApart_cycle {task : CycleTask} {body : Nat → Workflows → Cycled β}
    (htask : task.ofPlaceholders = false)
    (hleaves : ∀ time workflows changed, (body time workflows).saved = some changed →
      ∀ workflowId, placeholderIn changed workflowId = placeholderIn workflows workflowId) :
    AsksApart token (cycle task body) :=
  triple_cycle (fun _ _ _ _ => trivial) (fun _ _ => ⟨htask, hleaves⟩)
    (fun _ _ _ => trivial) (fun _ _ _ _ _ _ => trivial) fun _ _ _ _ _ _ _ => trivial

theorem AsksApart.bind {first : Act α} {rest : α → Act β}
    (hfirst : AsksApart token first) (hrest : ∀ value, AsksApart token (rest value)) :
    AsksApart token (first >>= rest) :=
  Procedure.Triple.bind hfirst hrest

theorem asksApart_ite {c : Prop} [Decidable c] {first second : Act α}
    (hfirst : AsksApart token first) (hsecond : AsksApart token second) :
    AsksApart token (if c then first else second) :=
  Procedure.triple_ite c (fun _ => hfirst) fun _ => hsecond

theorem asksApart_changeOne {task : CycleTask} {unchanged : β}
    {body : Nat → WorkflowRecord → Option (WorkflowRecord × β)}
    (htask : task.ofPlaceholders = false)
    (hleaves : ∀ time entry changed value, body time entry = some (changed, value) →
      changed.resultPlaceholder = entry.resultPlaceholder) :
    AsksApart token (cycle task fun time => changeOne named unchanged (body time)) := by
  apply asksApart_cycle htask
  intro time workflows changed hsaved workflowId
  rcases @changeOne_cases β named unchanged (body time) workflows with
    ⟨-, hnone⟩ | ⟨entry, after, value, hheld, hbody, hsome⟩
  · rw [hnone] at hsaved
    cases hsaved
  · rw [hsome] at hsaved
    obtain rfl := Option.some.inj hsaved
    unfold placeholderIn
    rw [Dict.get?_set]
    split
    · rename_i hsame
      obtain rfl := hsame
      rw [hheld]
      exact hleaves time entry after value hbody
    · rfl

theorem asksApart_forEach {body : String → Act Bool}
    (hbody : ∀ named, AsksApart token (body named)) (workflowIds : List String) :
    AsksApart token (forEachWorkflow body workflowIds) := by
  induction workflowIds with
  | nil => exact asksApart_pure _
  | cons named rest ih =>
      exact (hbody named).bind fun continues => asksApart_ite ih (asksApart_pure _)

theorem asksApart_sendWithRetry (purpose : Purpose) (request : Request) (more : Nat) :
    AsksApart token (sendWithRetry token purpose request more) := by
  induction more with
  | zero => exact (asksApart_call purpose request).bind fun _ => asksApart_pure _
  | succ more ih =>
      exact (asksApart_call purpose request).bind fun _ =>
        asksApart_ite (asksApart_pure _) ih

/-! ## Deliveries -/

section

variable [Wording] [Casefolding]

omit [Casefolding] in
theorem claimEdit_placeholder {time : Nat} {entry changed : WorkflowRecord}
    {claim : Option EditClaim} (h : claimEdit time entry = some (changed, claim)) :
    changed.resultPlaceholder = entry.resultPlaceholder := by
  unfold claimEdit at h
  split at h
  · dsimp only at h
    split at h
    · cases h
    · split at h
      · simp only [Option.some.injEq, Prod.mk.injEq] at h
        rw [← h.1]
      · simp only [Option.some.injEq, Prod.mk.injEq] at h
        rw [← h.1]
  · cases h
  · cases h

omit [Casefolding] in
theorem recordEdit_placeholder {claim : EditClaim} {outcome : EditOutcome} {time : Nat}
    {entry changed : WorkflowRecord} {value : Unit}
    (h : recordEdit claim outcome time entry = some (changed, value)) :
    changed.resultPlaceholder = entry.resultPlaceholder := by
  unfold recordEdit at h
  split at h
  · cases h
  · split at h
    · cases h
    · split at h
      · cases h
      · simp only [Option.some.injEq, Prod.mk.injEq] at h
        rw [← h.1]

theorem asksApart_deliverEdit (named : String) :
    AsksApart token (deliverEdit token named) := by
  have hclaim : AsksApart token (claimOneEdit named) :=
    (asksApart_changeOne rfl fun _ _ _ _ => claimEdit_placeholder).bind
      fun _ => asksApart_pure _
  refine hclaim.bind fun claim => ?_
  cases claim with
  | none => exact asksApart_pure _
  | some claimed =>
      have hedit : AsksApart token (editMessageText token (.edit named) claimed.chatId
          claimed.messageId claimed.text) :=
        asksApart_ite (asksApart_pure _)
          ((asksApart_sendWithRetry _ _ _).bind fun _ => asksApart_pure _)
      have hperform : AsksApart token (performOneEdit token named claimed) :=
        hedit.bind fun outcome =>
          (asksApart_changeOne rfl fun _ _ _ _ => recordEdit_placeholder).bind
            fun _ => asksApart_pure _
      exact hperform.bind fun _ => asksApart_pure _

theorem asksApart_deliverResultEdits : AsksApart token (deliverResultEdits token) := by
  have hlist : AsksApart token editDeliveryWorkflowIds :=
    (asksApart_cycle rfl fun _ _ _ hsaved => by cases hsaved).bind fun _ => asksApart_pure _
  exact hlist.bind fun claimable => asksApart_forEach asksApart_deliverEdit claimable

end

theorem asksApart_reserveResults : AsksApart token reserveResults := by
  refine AsksApart.bind (asksApart_cycle rfl ?_) fun _ => asksApart_pure _
  intro time workflows changed hsaved workflowId
  dsimp only at hsaved
  split at hsaved
  · cases hsaved
  · obtain rfl := Option.some.inj hsaved
    unfold placeholderIn
    rw [Dict.get?_mapValues]
    cases workflows.get? workflowId with
    | none => rfl
    | some entry =>
        simp only [Option.map_some, Option.bind_some, reserveResult]
        split <;> rfl

theorem asksApart_sendChunks (chatId : Nat) (messageIds : List Int) (chunks : List (String × Nat)) :
    AsksApart token (sendChunks token named chatId messageIds chunks) := by
  induction chunks generalizing messageIds with
  | nil => exact asksApart_pure _
  | cons chunk rest ih =>
      refine (asksApart_sendWithRetry (.result named chunk.2) (.sendMessage chatId chunk.1)
        (maxSendAttempts - 1)).bind fun result => ?_
      split
      · exact asksApart_pure _
      · exact asksApart_pure _
      · exact ih _

theorem asksApart_deliverOneResult (entry : WorkflowRecord) :
    AsksApart token (deliverOneResult token named entry) := by
  unfold deliverOneResult
  split
  · refine (asksApart_sendChunks _ _ _).bind fun outcome => ?_
    refine AsksApart.bind (asksApart_changeOne rfl ?_) fun _ => asksApart_pure _
    intro time entry changed value hchanged
    simp only [recordResult, Option.some.injEq, Prod.mk.injEq] at hchanged
    rw [← hchanged.1]
  · exact Procedure.triple_stop _ fun _ _ _ => trivial
  · exact Procedure.triple_stop _ fun _ _ _ => trivial

theorem asksApart_deliverPendingResults :
    AsksApart token (deliverPendingResults token) := by
  refine asksApart_reserveResults.bind fun reserved => ?_
  induction reserved with
  | nil => exact asksApart_pure _
  | cons item rest ih => exact (asksApart_deliverOneResult item.2).bind fun _ => ih

end DodgingInfinity.TelegramOperator
